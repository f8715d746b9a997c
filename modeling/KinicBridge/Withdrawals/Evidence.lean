import KinicBridge.Withdrawals.World

/-! What true answers lead to. A finalized withdrawal is confirmed with exactly its fields, and
whatever is confirmed is a finalized withdrawal. -/
namespace KinicBridge

open Checked NotificationConfig

variable {RpcService : Type} [DecidableEq RpcService] {config : NotificationConfig}
  {params : BridgeParameters} {runtime : List UInt8} {chain : FinalChain MinedBlock}
  {head block : MinedBlock} {mined : MinedTransaction} {hash : Bytes32}
  {answers : WithdrawalAnswers RpcService} {receipt : TransactionReceipt}

theorem matchingLogs_shows (configured : Configured config params runtime)
    (shown : mined.Receipt config.keccak params block receipt) :
    List.Forall₂ (LogEntry.Shows mined.hash block.hash)
      ((mined.after config.keccak params block.timestamp).logs.filter
        (·.committed config.keccak params.bridge)) (config.matchingLogs mined.hash receipt) := by
  refine List.rel_filter ?_ shown.logs
  intro log entry shows
  have topic : withdrawalCommittedTopic = withdrawalCommittedEvent := rfl
  simp only [ContractLog.committed, shows.address, shows.topics, shows.transaction, shows.block,
    shows.kept, shown.blockHash, configured.bridge, topic, Bool.and_eq_true, decide_eq_true_eq,
    Bool.not_false, true_and, and_true]

theorem requester_bounded (requester : Bytes20) : ¬limit 160 < (requester.setWidth 256).toNat := by
  have bounded := requester.isLt
  rw [BitVec.toNat_setWidth, Nat.mod_eq_of_lt (bounded.trans (by norm_num)), limit]
  omega

section

variable (configured : Configured config params runtime)
  (shown : mined.Receipt config.keccak params block receipt)

include configured shown

theorem withdrawalLog_of_leaves (leaves : Leaves config.keccak params mined.before
      (mined.after config.keccak params block.timestamp) (some withdrawal)) :
    ∃ log, config.withdrawalLog mined.hash receipt = .ok log ∧
      log.Shows mined.hash block.hash (withdrawal.committedLog config.keccak params.bridge
        mined.before.nextWithdrawalId) := by
  have shows := matchingLogs_shows configured shown
  rw [leaves.logs] at shows
  obtain ⟨log, single, shows⟩ : ∃ log, config.matchingLogs mined.hash receipt = [log] ∧
      log.Shows mined.hash block.hash (withdrawal.committedLog config.keccak params.bridge
        mined.before.nextWithdrawalId) := by
    generalize config.matchingLogs mined.hash receipt = logs at shows
    cases shows with
    | cons first rest =>
      cases rest
      exact ⟨_, rfl, first⟩
  refine ⟨log, ?_, shows⟩
  have topics := shows.topics
  unfold withdrawalLog
  rw [single]
  dsimp only
  rw [topics]
  exact if_neg (requester_bounded withdrawal.requester)

theorem leaves_of_withdrawalLog (logged : config.withdrawalLog mined.hash receipt = .ok log) :
    ∃ stored, Leaves config.keccak params mined.before
      (mined.after config.keccak params block.timestamp) (some stored) := by
  obtain ⟨created, leaves⟩ := mined.leaves mined.before
  cases created with
  | some stored => exact ⟨stored, leaves⟩
  | none =>
    have shows := matchingLogs_shows configured shown
    rw [MinedTransaction.after, leaves.logs] at shows
    have empty : config.matchingLogs mined.hash receipt = [] := List.forall₂_nil_left_iff.mp shows
    rw [withdrawalLog, empty] at logged
    cases logged

end

def Readable (block : MinedBlock) : Prop :=
  block.timestamp ≤ limit 64 ∧ block.state.mintAuthorizationEpoch ≤ limit 64

structure CommittedBy (config : NotificationConfig) (params : BridgeParameters)
    (chain : FinalChain MinedBlock) (hash id : Bytes32) (stored : StoredWithdrawal)
    (block : MinedBlock) (mined : MinedTransaction) : Prop where
  final : chain.Final block
  listed : mined ∈ block.transactions
  hash : mined.hash = hash
  leaves : Leaves config.keccak params mined.before
    (mined.after config.keccak params block.timestamp) (some stored)
  id : id = BitVec.ofNat 256 mined.before.nextWithdrawalId

structure StableAt (config : NotificationConfig) (head : MinedBlock)
    (observation : FinalizedObservationRecord) : Prop where
  chain : observation.chainId = config.baseChainId
  number : observation.blockNumber = head.number
  hash : observation.blockHash = head.hash
  signer : observation.bridgeSigner = head.state.bridgeSigner
  runtime : observation.runtimeSha256 = config.expectedBridgeRuntimeSha256

section Honest

variable (configured : Configured config params runtime)
  (sound : MinedChain.Sound config.keccak params chain)
  (honest : HonestAt config params runtime chain head hash answers)
  (included : Includes chain head hash block mined)
  (shown : mined.Receipt config.keccak params block receipt)

include sound in
theorem decode_snapshot (final : chain.Final block) (numbered : block.number ≤ limit 64)
    (readable : Readable block) (quoted : Bool) : decodeBridgeSnapshot
        (hexAnswer quoted (block.state.bridgeSnapshot params block.number block.timestamp)) =
      .ok (block.state.snapshot params block.number block.timestamp) :=
  decodeBridgeSnapshot_snapshot quoted (sound.blocks block final.mem).state numbered readable.1
    readable.2

include configured sound honest in
theorem observeBridgeAt_honest (readable : Readable head) (attested : Bool) :
    config.observeBridgeAt attested answers =
      .ok (head.state.snapshot params head.number head.timestamp,
        ⟨head.state.bridgeSigner, config.expectedBridgeRuntimeSha256⟩) := by
  obtain ⟨quoted, answered⟩ := honest.snapshot
  obtain ⟨quoted', runtimeAnswered⟩ := honest.runtime
  obtain ⟨nonempty, hashed⟩ := configured.code
  have snapshot : observeBridgeSnapshotAt answers.finalized answers.snapshot =
      .ok (head.state.snapshot params head.number head.timestamp) := by
    rw [observeBridgeSnapshotAt, answered,
      decode_snapshot sound honest.final honest.fits readable, ok_bind, honest.observed.1]
    simp [BridgeState.snapshot, pure, Except.pure]
  rw [observeBridgeAt, snapshot, ok_bind]
  cases attested with
  | true => rfl
  | false =>
    rw [runtimeAnswered, decodeAnswer_hexAnswer]
    simp [ok_bind, nonempty, hashed, pure, Except.pure, BridgeState.snapshot]

include sound honest included shown in
theorem receipt_confirmed (readable : Readable block) (answered : answers.receipt = some receipt) :
    canonicalFinalizedReceiptWithHash hash answers.finalized answers.receipt answers.probe =
      .ok (.confirmed receipt answers.finalized
        ⟨block.number, block.hash, answers.finalized.observedAtNs⟩) := by
  have numbered : block.number ≤ limit 64 := included.older.trans honest.fits
  obtain ⟨quoted, probed⟩ := honest.probe block included.final answers.finalized.observedAtNs
  have decoded := decode_snapshot sound included.final numbered readable quoted
  rw [answered, canonicalFinalizedReceiptWithHash, shown.hash, included.hash, shown.number,
    shown.blockHash, honest.observed.1]
  simp only [ne_eq, not_true_eq_false, if_false, Nat.not_lt.mpr numbered,
    Nat.not_lt.mpr included.older, probed, ok_bind, validateCanonicalProbeResponse, decoded,
    BridgeState.snapshot]
  rfl

theorem CommittedBy.found {id : Bytes32} {stored : StoredWithdrawal}
    (sound : MinedChain.Sound config.keccak params chain)
    (committed : CommittedBy config params chain hash id stored block mined) :
    id.toNat = mined.before.nextWithdrawalId ∧ block.state.withdrawals id.toNat = some stored := by
  have blockSound := sound.blocks block committed.final.mem
  have counted := blockSound.counted mined committed.listed
  have same : id.toNat = mined.before.nextWithdrawalId := by
    rw [committed.id, BitVec.toNat_ofNat]
    exact Nat.mod_eq_of_lt (Nat.lt_of_le_pred (by norm_num) counted)
  rw [same]
  exact ⟨rfl, blockSound.created mined committed.listed stored committed.leaves⟩

include configured sound honest included shown in
theorem confirmedWithdrawal_honest {id : Bytes32} {stored : StoredWithdrawal}
    (committed : CommittedBy config params chain hash id stored block mined)
    (readable : Readable head) (attested : Bool) :
    decodeCurrentWithdrawal (answers.withdrawal id) = .ok stored.current ∧
    (∃ log, config.withdrawalLog hash receipt = .ok log ∧
      decodeWithdrawalCreatedLog log = .ok (stored.observed id.toNat)) ∧
    config.confirmedWithdrawal hash attested answers receipt =
      .ok (.confirmed (stored.observed id.toNat)
        (head.state.snapshot params head.number head.timestamp)
        (config.stableObservation answers.finalized
          ⟨head.state.bridgeSigner, config.expectedBridgeRuntimeSha256⟩)
        receipt.blockNumber answers.finalized.blockNumber) := by
  obtain ⟨same, found⟩ := committed.found sound
  have formed := ((sound.blocks block committed.final.mem).state.withdrawals _ _ found).2
  obtain ⟨log, logged, shows⟩ := withdrawalLog_of_leaves configured shown committed.leaves
  have decoded : decodeWithdrawalCreatedLog log = .ok (stored.observed id.toNat) := by
    rw [same]
    exact decodeWithdrawalCreatedLog_committed formed _ shows.topics shows.data
  have kept := sound.keeps committed.final.mem honest.final.mem included.older _ _ found
  have current : decodeCurrentWithdrawal (answers.withdrawal id) = .ok stored.current := by
    obtain ⟨quoted, answered⟩ := honest.withdrawal id
    rw [answered, BridgeState.getWithdrawal, kept]
    exact decodeCurrentWithdrawal_returned formed quoted
  have observedId : (stored.observed id.toNat).id = id := by
    simp [StoredWithdrawal.observed]
  rw [included.hash] at logged
  refine ⟨current, ⟨log, logged, decoded⟩, ?_⟩
  rw [confirmedWithdrawal, logged, ok_bind, decoded, ok_bind,
    observedId, current, ok_bind, observeBridgeAt_honest configured sound honest readable]
  simp [isSameCommittedWithdrawal, StoredWithdrawal.current,
    StoredWithdrawal.observed, ok_bind, pure, Except.pure]

include honest in
theorem observeBridgeAt_true {attested : Bool}
    (observed : config.observeBridgeAt attested answers = .ok (snapshot, identity)) :
    snapshot.bridgeSigner = head.state.bridgeSigner ∧
      StableAt config head (config.stableObservation answers.finalized identity) := by
  obtain ⟨quoted, answered⟩ := honest.snapshot
  obtain ⟨snapshot', read, rest⟩ := bind_ok.mp observed
  have signer : snapshot'.bridgeSigner = head.state.bridgeSigner := by
    rw [answered] at read
    obtain ⟨_, decoded, read⟩ := bind_ok.mp read
    obtain ⟨_, read⟩ := thrown_ok.mp read
    cases pure_ok.mp read
    exact decodeBridgeSnapshot_signer decoded
  have identified : snapshot = snapshot' ∧ identity.signer = snapshot'.bridgeSigner ∧
      identity.runtimeSha256 = config.expectedBridgeRuntimeSha256 := by
    split at rest
    · cases pure_ok.mp rest
      exact ⟨rfl, rfl, rfl⟩
    · obtain ⟨_, _, rest⟩ := bind_ok.mp rest
      obtain ⟨_, rest⟩ := thrown_ok.mp rest
      obtain ⟨hashed, rest⟩ := thrown_ok.mp rest
      cases pure_ok.mp rest
      exact ⟨rfl, rfl, not_not.mp hashed⟩
  obtain ⟨rfl, same, expected⟩ := identified
  exact ⟨signer, rfl, honest.observed.1, honest.observed.2, same.trans signer, expected⟩

include configured sound honest in
theorem confirmed_true {attested : Bool} {withdrawal : ObservedWithdrawal}
    (confirmed : config.notifiedWithdrawalOutcome hash attested answers =
      .ok (.confirmed withdrawal snapshot stable receiptBlockNumber checkpoint)) :
    ∃ block mined stored, CommittedBy config params chain hash withdrawal.id stored block mined ∧
      withdrawal = stored.observed withdrawal.id.toNat ∧
      snapshot.bridgeSigner = head.state.bridgeSigner ∧ StableAt config head stable ∧
      checkpoint = head.number := by
  obtain ⟨outcome, received, confirmed⟩ := bind_ok.mp confirmed
  cases outcome with
  | missing | pending => cases confirmed
  | confirmed receipt finalized observation =>
    obtain ⟨answered, _, older, _, _⟩ := confirmed_ok received
    rw [honest.observed.1] at older
    obtain ⟨block, mined, included, shown⟩ := honest.true_ receipt answered older
    dsimp only at confirmed
    split at confirmed
    · cases confirmed
    · obtain ⟨log, logged, confirmed⟩ := bind_ok.mp confirmed
      obtain ⟨decodedWithdrawal, decoded, confirmed⟩ := bind_ok.mp confirmed
      obtain ⟨_, _, confirmed⟩ := bind_ok.mp confirmed
      obtain ⟨_, confirmed⟩ := thrown_ok.mp confirmed
      obtain ⟨⟨read, identity⟩, observed, ⟨⟩⟩ := returned_ok.mp confirmed
      obtain ⟨signer, stable⟩ := observeBridgeAt_true honest observed
      rw [← included.hash] at logged
      obtain ⟨stored, leaves⟩ := leaves_of_withdrawalLog configured shown logged
      have committed : CommittedBy config params chain hash
          (BitVec.ofNat 256 mined.before.nextWithdrawalId) stored block mined :=
        ⟨included.final, included.listed, included.hash, leaves, rfl⟩
      obtain ⟨same, found⟩ := committed.found sound
      have formed := ((sound.blocks block included.final.mem).state.withdrawals _ _ found).2
      obtain ⟨log', logged', shows⟩ := withdrawalLog_of_leaves configured shown leaves
      cases logged.symm.trans logged'
      cases decoded.symm.trans
        (decodeWithdrawalCreatedLog_committed formed _ shows.topics shows.data)
      refine ⟨block, mined, stored, committed, ?_, signer, stable, honest.observed.1⟩
      rw [← same]
      simp [StoredWithdrawal.observed]
    · exact absurd confirmed throw_ne_ok

end Honest

def ContractLog.entry (hash blockHash : Bytes32) (log : ContractLog) : LogEntry where
  address := log.address
  topics := log.topics
  data := log.data
  blockNumber := none
  transactionHash := some hash
  transactionIndex := none
  blockHash := some blockHash
  logIndex := none
  removed := false

def MinedTransaction.trueReceipt (keccak : Keccak) (params : BridgeParameters)
    (block : MinedBlock) (mined : MinedTransaction) : TransactionReceipt where
  blockHash := block.hash
  blockNumber := block.number
  effectiveGasPrice := 0
  gasUsed := 0
  cumulativeGasUsed := 0
  status := some (if mined.reverted then 0 else 1)
  root := none
  transactionHash := mined.hash
  contractAddress := none
  sender := 0
  logs := (mined.after keccak params block.timestamp).logs.map (·.entry mined.hash block.hash)
  logsBloom := []
  receiver := none
  transactionIndex := 0
  txType := 2

theorem receipt_shown (keccak : Keccak) (params : BridgeParameters) (block : MinedBlock)
    (mined : MinedTransaction) :
    mined.Receipt keccak params block (mined.trueReceipt keccak params block) where
  hash := rfl
  blockHash := rfl
  number := rfl
  status := rfl
  logs := by
    rw [MinedTransaction.trueReceipt, List.forall₂_map_right_iff]
    exact List.forall₂_same.mpr fun log _ => ⟨rfl, rfl, rfl, rfl, rfl, rfl⟩

def answersAt (config : NotificationConfig) (params : BridgeParameters) (runtime : List UInt8)
    (chain : FinalChain MinedBlock) (head : MinedBlock) (hash : Bytes32) :
    WithdrawalAnswers Unit where
  finalized := ⟨head.number, head.hash, 0⟩
  receipt := (chain.blocks.take chain.finalized).findSome? fun block =>
    if block.number ≤ head.number then
      (block.transactions.find? (·.hash = hash)).map (·.trueReceipt config.keccak params block)
    else none
  probe observation := .consistent (.ok (hexAnswer true
    (((chain.blocks.take chain.finalized).find? (·.number = observation.blockNumber)).elim []
      fun block => block.state.bridgeSnapshot params block.number block.timestamp)))
  withdrawal id := hexAnswer true (head.state.getWithdrawal id.toNat)
  snapshot := hexAnswer true (head.state.bridgeSnapshot params head.number head.timestamp)
  runtime := hexAnswer true runtime

theorem answersAt_receipt
    (answered : (answersAt config params runtime chain head hash).receipt = some receipt) :
    ∃ block mined, Includes chain head hash block mined ∧
      receipt = mined.trueReceipt config.keccak params block := by
  obtain ⟨block, final, found⟩ := List.exists_of_findSome?_eq_some answered
  split at found
  next older =>
    obtain ⟨mined, listed, rfl⟩ := Option.map_eq_some_iff.mp found
    have named : mined.hash = hash := by simpa using List.find?_some listed
    exact ⟨block, mined, ⟨final, older, List.mem_of_find?_eq_some listed, named⟩, rfl⟩
  · contradiction

theorem answersAt_honest (sound : MinedChain.Sound config.keccak params chain)
    (final : chain.Final head) (fits : head.number ≤ limit 64) (runtime : List UInt8)
    (hash : Bytes32) : HonestAt config params runtime chain head hash
      (answersAt config params runtime chain head hash) where
  final := final
  observed := ⟨rfl, rfl⟩
  fits := fits
  found block mined included := by
    have present : (answersAt config params runtime chain head hash).receipt.isSome := by
      refine List.findSome?_isSome_iff.mpr ⟨block, included.final, ?_⟩
      rw [if_pos included.older, Option.isSome_map, List.find?_isSome]
      exact ⟨mined, included.listed, by simp [included.hash]⟩
    obtain ⟨receipt, answered⟩ := Option.isSome_iff_exists.mp present
    obtain ⟨block', mined', included', rfl⟩ := answersAt_receipt answered
    obtain ⟨rfl, rfl⟩ := sound.unique block included.final.mem block' included'.final.mem mined
      included.listed mined' included'.listed (included.hash.trans included'.hash.symm)
    exact ⟨_, answered, receipt_shown _ _ _ _⟩
  true_ receipt answered older := by
    obtain ⟨block, mined, included, rfl⟩ := answersAt_receipt answered
    exact ⟨block, mined, included, receipt_shown _ _ _ _⟩
  probe block listed now := by
    have same : (chain.blocks.take chain.finalized).find? (·.number = block.number) =
        some block := by
      have found : ((chain.blocks.take chain.finalized).find? (·.number = block.number)).isSome :=
        List.find?_isSome.mpr ⟨block, listed, by simp⟩
      obtain ⟨other, found⟩ := Option.isSome_iff_exists.mp found
      have number : other.number = block.number := by simpa using List.find?_some found
      rw [found, sound.number_inj (List.mem_of_mem_take (List.mem_of_find?_eq_some found))
        (FinalChain.Final.mem listed) number]
    refine ⟨true, ?_⟩
    simp only [answersAt, same, Option.elim]
    rfl
  withdrawal id := ⟨true, rfl⟩
  snapshot := ⟨true, rfl⟩
  runtime := ⟨true, rfl⟩

end KinicBridge
