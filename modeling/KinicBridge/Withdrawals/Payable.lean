import KinicBridge.Withdrawals.Ingestion

/-! Every burned withdrawal can be paid. Next to a truthful quorum, a notification of a finalized
withdrawal ends with its record, or is refused for a reason that is not the withdrawal's. -/
namespace KinicBridge

open ExternalProgress NotificationConfig NotificationStore TransactionState

variable {RpcService : Type} [DecidableEq RpcService] {config : NotificationConfig}
  {params : BridgeParameters} {runtime : List UInt8} {chain chain' : FinalChain MinedBlock}
  {world world' : WithdrawalWorld} {hash id : Bytes32} {stored stored' : StoredWithdrawal}
  {head block block' : MinedBlock} {mined mined' : MinedTransaction}

structure FlowTrue (config : NotificationConfig) (params : BridgeParameters)
    (chain : FinalChain MinedBlock) (hash : Bytes32) (withdrawal : ObservedWithdrawal)
    (snapshot : BridgeSnapshot) (stable : FinalizedObservationRecord) (checkpoint : Nat)
    (head : MinedBlock) : Prop where
  final : chain.Final head
  committed : ∃ block mined stored,
    CommittedBy config params chain hash withdrawal.id stored block mined ∧
    withdrawal = stored.observed withdrawal.id.toNat
  signer : snapshot.bridgeSigner = head.state.bridgeSigner
  stable : StableAt config head stable
  checkpoint : checkpoint = head.number

/-- The latest observation, if there is one, is true of a finalized block. -/
def ProgressTrue (config : NotificationConfig) (chain : FinalChain MinedBlock)
    (progress : ExternalProgress) : Prop :=
  progress.finalizedObservation = none ∧ progress.lastFinalizedBaseBlock = 0 ∨
    ∃ head observation, chain.Final head ∧ progress.finalizedObservation = some observation ∧
      StableAt config head observation ∧ progress.lastFinalizedBaseBlock = head.number

/-- The canister's tables and notifications show what Base shows. -/
structure Truthful (config : NotificationConfig) (params : BridgeParameters)
    (world : WithdrawalWorld) : Prop where
  chain : MinedChain.Sound config.keccak params world.chain
  flows : ∀ hash withdrawal snapshot stable checkpoint,
    .addressing hash withdrawal snapshot stable checkpoint ∈ world.flows →
    ∃ head, FlowTrue config params world.chain hash withdrawal snapshot stable checkpoint head
  records : ∀ id record, world.store.settlement.withdrawals.get id = some record →
    ∃ hash stored block mined,
      CommittedBy config params world.chain hash id stored block mined ∧
      record.Shows config stored id
  notifications : ∀ hash id, world.store.notifications hash = some id →
    (world.store.settlement.withdrawals.get id).isSome ∧
    ∃ stored block mined, CommittedBy config params world.chain hash id stored block mined
  progress : ProgressTrue config world.chain world.store.progress

section Facts

theorem CommittedBy.mono (committed : CommittedBy config params chain hash id stored block mined)
    (grows : ∀ block, chain.Final block → chain'.Final block) :
    CommittedBy config params chain' hash id stored block mined :=
  { committed with final := grows block committed.final }

variable {other : Bytes32} {progress : ExternalProgress} {stable : FinalizedObservationRecord}

section

variable (sound : MinedChain.Sound config.keccak params chain)

include sound

theorem CommittedBy.unique (first : CommittedBy config params chain hash id stored block mined)
    (second : CommittedBy config params chain hash other stored' block' mined') :
    id = other ∧ stored = stored' := by
  obtain ⟨rfl, rfl⟩ := sound.unique block first.final.mem block' second.final.mem mined
    first.listed mined' second.listed (first.hash.trans second.hash.symm)
  have same := (first.found sound).2
  have same' := (second.found sound).2
  have ids : id = other := first.id.trans second.id.symm
  rw [← ids, same] at same'
  exact ⟨ids, Option.some.inj same'⟩

theorem CommittedBy.unique_id (first : CommittedBy config params chain hash id stored block mined)
    (second : CommittedBy config params chain other id stored' block' mined') :
    stored = stored' := by
  have found := (first.found sound).2
  have found' := (second.found sound).2
  rcases Nat.le_total block.number block'.number with older | older
  · have kept := sound.keeps first.final.mem second.final.mem older _ _ found
    exact Option.some.inj (kept.symm.trans found')
  · have kept := sound.keeps second.final.mem first.final.mem older _ _ found'
    exact Option.some.inj (found.symm.trans kept)

/-- An observation at a finalized block is recorded unless a newer one was. -/
theorem ProgressTrue.observe
    (recorded : ProgressTrue config chain progress) (final : chain.Final head)
    (true_ : StableAt config head stable) : stable.blockNumber < progress.lastFinalizedBaseBlock ∨
      ∃ next, progress.observeFinalized stable = .ok next := by
  by_cases newer : stable.blockNumber < progress.lastFinalizedBaseBlock
  · exact .inl newer
  right
  rw [observeFinalized, if_neg newer]
  suffices passed : checkCandidate stable progress.finalizedObservation = .ok () by
    rw [passed]
    exact ⟨_, rfl⟩
  rcases recorded with ⟨none_, _⟩ | ⟨last, observation, lastFinal, some_, lastTrue, number⟩
  · rw [none_]
    rfl
  · have chainId : stable.chainId = observation.chainId := true_.chain.trans lastTrue.chain.symm
    have forward : ¬stable.blockNumber < observation.blockNumber := by
      rw [lastTrue.number, ← number]
      exact newer
    have agrees : ¬(stable.blockNumber = observation.blockNumber ∧
        (stable.blockHash ≠ observation.blockHash ∨ stable.bridgeSigner ≠ observation.bridgeSigner ∨
          stable.runtimeSha256 ≠ observation.runtimeSha256)) := by
      rintro ⟨same, differs⟩
      rw [true_.number, lastTrue.number] at same
      obtain rfl := sound.number_inj final.mem lastFinal.mem same
      rw [true_.hash, lastTrue.hash, true_.signer, lastTrue.signer, true_.runtime,
        lastTrue.runtime] at differs
      simp at differs
    rw [some_, checkCandidate, if_neg (not_not.mpr chainId), if_neg forward, if_neg agrees]

end

theorem ProgressTrue.observed {next : ExternalProgress} (final : chain.Final head)
    (true_ : StableAt config head stable)
    (accepted : progress.observeFinalized stable = .ok next) : ProgressTrue config chain next := by
  unfold observeFinalized at accepted
  obtain ⟨_, accepted⟩ := thrown_ok.mp accepted
  obtain ⟨_, _, rfl⟩ := returned_ok.mp accepted
  exact .inr ⟨head, _, final, rfl, { true_ with }, true_.number⟩

end Facts

theorem notifyWithdrawal_waiting {store : NotificationStore}
    (waits : config.notifyWithdrawal store caller hash = .waiting flow) :
    flow = .observing hash (config.runtimeAttested store) := by
  unfold notifyWithdrawal at waits
  split at waits
  · cases waits
  · split at waits
    · cases waits
    · exact (NotificationTurn.waiting.inj waits).symm

theorem outcomeArrived_waiting (waits : config.outcomeArrived hash outcome = .waiting flow) :
    ∃ withdrawal snapshot stable receiptBlockNumber checkpoint,
      outcome = .ok (.confirmed withdrawal snapshot stable receiptBlockNumber checkpoint) ∧
      config.withdrawalIdIsAdmissible withdrawal.id = true ∧
      flow = .addressing hash withdrawal snapshot stable checkpoint := by
  unfold outcomeArrived at waits
  split at waits <;> try contradiction
  split at waits
  next admissible =>
    exact ⟨_, _, _, _, _, rfl, admissible, (NotificationTurn.waiting.inj waits).symm⟩
  · contradiction

namespace Truthful

variable (truthful : Truthful config params world)

include truthful

theorem grow (sound : MinedChain.Sound config.keccak params chain)
    (grows : ∀ block, world.chain.Final block → chain.Final block) :
    Truthful config params { world with chain } where
  chain := sound
  flows hash withdrawal snapshot stable checkpoint waits := by
    obtain ⟨head, true_⟩ := truthful.flows _ _ _ _ _ waits
    obtain ⟨block, mined, stored, committed, shown⟩ := true_.committed
    exact ⟨head, { true_ with
      final := grows head true_.final
      committed := ⟨block, mined, stored, committed.mono grows, shown⟩ }⟩
  records id record found := by
    obtain ⟨hash, stored, block, mined, committed, shows⟩ := truthful.records id record found
    exact ⟨hash, stored, block, mined, committed.mono grows, shows⟩
  notifications hash id known := by
    obtain ⟨found, stored, block, mined, committed⟩ := truthful.notifications hash id known
    exact ⟨found, stored, block, mined, committed.mono grows⟩
  progress := truthful.progress.imp_right fun ⟨head, observation, final, rest⟩ =>
    ⟨head, observation, grows head final, rest⟩

theorem erase (flow : NotificationFlow) :
    Truthful config params { world with flows := world.flows.erase flow } :=
  { truthful with flows := fun _ _ _ _ _ waits =>
      truthful.flows _ _ _ _ _ (List.mem_of_mem_erase waits) }

theorem write {written : NotificationStore}
    (known : written.notifications = world.store.notifications)
    (payloads : ∀ id, (written.settlement.withdrawals.get id).map (·.payload) =
      (world.store.settlement.withdrawals.get id).map (·.payload))
    (progress : ProgressTrue config world.chain written.progress) :
    Truthful config params { world with store := written } where
  chain := truthful.chain
  flows := truthful.flows
  records id record found := by
    have same := payloads id
    rw [found, Option.map_some, eq_comm, Option.map_eq_some_iff] at same
    obtain ⟨before, stored, same⟩ := same
    obtain ⟨hash, withdrawal, block, mined, committed, shows⟩ := truthful.records id before stored
    exact ⟨hash, withdrawal, block, mined, committed, payload_shows same.symm shows⟩
  notifications hash id listed := by
    rw [known] at listed
    obtain ⟨found, rest⟩ := truthful.notifications hash id listed
    have same := congrArg Option.isSome (payloads id)
    rw [Option.isSome_map, Option.isSome_map] at same
    exact ⟨same.trans found, rest⟩
  progress := progress

theorem insert {record : WithdrawalRecord} {progress : ExternalProgress}
    {tripped : Option WithdrawalFeeGuard}
    (committed : CommittedBy config params world.chain hash record.id stored block mined)
    (shows : record.Shows config stored record.id)
    (recorded : ProgressTrue config world.chain progress) : Truthful config params { world with
      store := { world.store.withWithdrawal record progress hash events with
        withdrawalFeeGuard := tripped } } where
  chain := truthful.chain
  flows := truthful.flows
  records id row found := by
    rcases Table.get_put_cases found with ⟨rfl, rfl⟩ | ⟨_, old⟩
    · exact ⟨hash, stored, block, mined, committed, shows⟩
    · exact truthful.records id row old
  notifications name id listed := by
    by_cases own : name = hash
    · subst own
      simp only [withWithdrawal, Function.update_self, Option.some.injEq] at listed
      subst listed
      refine ⟨?_, stored, block, mined, committed⟩
      simp [withWithdrawal]
    · simp only [withWithdrawal, Function.update_of_ne own] at listed
      obtain ⟨found, rest⟩ := truthful.notifications name id listed
      refine ⟨?_, rest⟩
      by_cases same : id = record.id
      · subst same
        simp [withWithdrawal]
      · simpa [withWithdrawal, same] using found
  progress := recorded

theorem answered (waits : .addressing hash withdrawal snapshot stable checkpoint ∈ world.flows)
    (now : Nat) : ∃ head block mined stored, world.chain.Final head ∧
      CommittedBy config params world.chain hash withdrawal.id stored block mined ∧
      snapshot.bridgeSigner = head.state.bridgeSigner ∧ StableAt config head stable ∧
      withdrawal = stored.observed withdrawal.id.toNat ∧ checkpoint = stable.blockNumber ∧
      Answered config world.store hash withdrawal.id stored snapshot stable now
        (config.addressed now world.store hash withdrawal snapshot stable checkpoint).1
        (config.addressed now world.store hash withdrawal snapshot stable checkpoint).2 := by
  obtain ⟨head, true_⟩ := truthful.flows _ _ _ _ _ waits
  obtain ⟨block, mined, stored, committed, shown⟩ := true_.committed
  have numbered : checkpoint = stable.blockNumber := true_.checkpoint.trans true_.stable.number.symm
  refine ⟨head, block, mined, stored, true_.final, committed, true_.signer, true_.stable, shown,
    numbered, ?_⟩
  have found := (committed.found truthful.chain).2
  have formed := ((truthful.chain.blocks block committed.final.mem).state.withdrawals _ _ found).2
  have observed := truthful.progress.observe truthful.chain true_.final true_.stable
  have shows : ∀ record, world.store.settlement.withdrawals.get withdrawal.id = some record →
      record.Shows config stored withdrawal.id := by
    intro record listed
    obtain ⟨other, stored', _, _, committed', shows⟩ := truthful.records _ record listed
    rw [committed.unique_id truthful.chain committed']
    exact shows
  have unknown : world.store.settlement.withdrawals.get withdrawal.id = none →
      world.store.notifications hash = none := by
    intro absent
    by_contra listed
    obtain ⟨other, listed⟩ := Option.ne_none_iff_exists'.mp listed
    obtain ⟨present, _, _, _, committed'⟩ := truthful.notifications hash other listed
    obtain ⟨rfl, _⟩ := committed'.unique truthful.chain committed
    simp [absent] at present
  rw [numbered]
  have answered := addressed_answered formed shows unknown observed snapshot now
  rwa [← shown] at answered

theorem wait {flow : NotificationFlow} (true_ : ∀ hash withdrawal snapshot stable checkpoint,
      flow = .addressing hash withdrawal snapshot stable checkpoint →
      ∃ head, FlowTrue config params world.chain hash withdrawal snapshot stable checkpoint head) :
    Truthful config params { world with flows := flow :: world.flows } := by
  refine { truthful with flows := fun _ _ _ _ _ waits => ?_ }
  rcases List.mem_cons.mp waits with new | old
  · exact true_ _ _ _ _ _ new.symm
  · exact truthful.flows _ _ _ _ _ old

theorem addressed (waits : .addressing hash withdrawal snapshot stable checkpoint ∈ world.flows)
    (now : Nat) : Truthful config params { world with
      store := (config.addressed now world.store hash withdrawal snapshot stable checkpoint).1 } := by
  obtain ⟨head, block, mined, stored, final, committed, _, true_, _, _, answered⟩ :=
    truthful.answered waits now
  generalize config.addressed now world.store hash withdrawal snapshot stable checkpoint = ended
    at answered ⊢
  obtain ⟨written, result⟩ := ended
  dsimp only at answered ⊢
  cases answered with
  | released valid covered observed | guarded short observed =>
    exact truthful.insert committed rfl (.observed final true_ observed)
  | _ => exact truthful

theorem step (configured : Configured config params runtime) (next : world.Step config params
      (honestQuorum RpcService config params runtime) world') : Truthful config params world' := by
  cases next with
  | @mined block extension =>
    obtain ⟨parent, tip, _⟩ := extension.follows
    have grows : FinalChain.Step (fun _ _ => True) world.chain (world.chain.mine block) :=
      .mined tip trivial
    exact truthful.grow (truthful.chain.mine extension) fun block final => final.step grows
  | reorganized kept =>
    have grows : FinalChain.Step (fun _ _ => True) world.chain _ := .reorganized kept
    exact truthful.grow (truthful.chain.sublist (List.take_sublist _ _))
      fun block final => final.step grows
  | finalized grown bounded =>
    have grows : FinalChain.Step (fun _ _ => True) world.chain _ := .finalized grown bounded
    exact truthful.grow (truthful.chain.sublist (List.Sublist.refl _))
      fun block final => final.step grows
  | called waits =>
    refine truthful.wait fun _ _ _ _ _ same => ?_
    cases notifyWithdrawal_waiting waits ▸ same
  | answered waits trusted continues =>
    obtain ⟨head, honest⟩ := trusted
    obtain ⟨withdrawal, snapshot, stable, _, checkpoint, confirmed, _, rfl⟩ :=
      outcomeArrived_waiting continues
    refine (truthful.erase _).wait fun _ _ _ _ _ same => ?_
    cases same
    obtain ⟨block, mined, stored, committed, shown, signer, true_, numbered⟩ :=
      confirmed_true configured truthful.chain honest confirmed
    exact ⟨head, honest.final, ⟨block, mined, stored, committed, shown⟩, signer, true_, numbered⟩
  | addressed now waits =>
    exact (truthful.addressed waits now).erase _
  | dropped flow => exact truthful.erase flow
  | recorded trusted observed accepted =>
    obtain ⟨head, honest⟩ := trusted
    obtain ⟨_, true_⟩ := observeBridgeAt_true honest observed
    exact truthful.write rfl (fun _ => rfl) (.observed honest.final true_ accepted)
  | continued id now done =>
    obtain ⟨known, progress, payloads⟩ := continueWithdrawal_keeps done
    exact truthful.write known payloads (progress ▸ truthful.progress)
  | settled change settles =>
    refine truthful.write rfl (change.payloads ?_) truthful.progress
    rintro id rfl
    cases settles
  | audited events => exact truthful.write rfl (fun _ => rfl) truthful.progress

omit truthful in
theorem initial (fresh : WithdrawalWorld.Initial params world) : Truthful config params world := by
  obtain ⟨deployment, number, hash, chain⟩ := fresh.chain
  refine ⟨?_, ?_, ?_, ?_, ?_⟩
  · rw [chain]
    exact .start (MinedBlock.deployed_sound deployment number hash) rfl
  · rw [fresh.flows]
    nofun
  · rw [fresh.store]
    nofun
  · rw [fresh.store]
    nofun
  · rw [fresh.store]
    exact .inl ⟨rfl, rfl⟩

omit truthful in
theorem of_reaches (configured : Configured config params runtime)
    (reached : world.Reaches config params (honestQuorum RpcService config params runtime)) :
    Truthful config params world := by
  induction reached with
  | start fresh => exact .initial fresh
  | step _ next ih => exact ih.step configured next

theorem recorded_le (newest : ∀ block, world.chain.Final block → block.number ≤ head.number) :
    world.store.progress.lastFinalizedBaseBlock ≤ head.number := by
  rcases truthful.progress with ⟨_, zero⟩ | ⟨last, _, final, _, _, number⟩
  · rw [zero]
    exact Nat.zero_le _
  · rw [number]
    exact newest last final

theorem notify (committed : CommittedBy config params world.chain hash id stored block mined)
    (named : caller ≠ [4]) : config.notifyWithdrawal world.store caller hash =
      .waiting (.observing hash (config.runtimeAttested world.store)) ∨
    config.notifyWithdrawal world.store caller hash = .returned (.ok (.duplicate id)) ∧
    ∃ record, world.store.settlement.withdrawals.get id = some record ∧
      record.Shows config stored id := by
  unfold notifyWithdrawal existingNotifiedWithdrawalByHash
  rw [if_neg named]
  cases known : world.store.notifications hash with
  | none => exact .inl rfl
  | some other =>
    obtain ⟨present, stored', _, _, committed'⟩ := truthful.notifications hash other known
    obtain ⟨rfl, rfl⟩ := committed'.unique truthful.chain committed
    obtain ⟨record, found⟩ := Option.isSome_iff_exists.mp present
    obtain ⟨_, stored'', _, _, committed'', shows⟩ := truthful.records _ record found
    rw [committed''.unique_id truthful.chain committed'] at shows
    refine .inr ⟨?_, record, found, shows⟩
    simp [present]

end Truthful

section Payable

variable {answers : WithdrawalAnswers RpcService} {n : Nat}

section

variable (creates : mined.Creates config.keccak params block.timestamp mined.before n stored)

include creates

theorem BaseTransaction.Creates.committed
    (final : chain.Final block) (listed : mined ∈ block.transactions) :
    CommittedBy config params chain mined.hash (BitVec.ofNat 256 n) stored block mined := by
  obtain ⟨rfl, leaves⟩ := creates.leaves
  exact ⟨final, listed, rfl, leaves, rfl⟩

theorem BaseTransaction.Creates.toNat
    (sound : MinedChain.Sound config.keccak params chain) (final : chain.Final block)
    (listed : mined ∈ block.transactions) : (BitVec.ofNat 256 n).toNat = n :=
  ((creates.committed final listed).found sound).1.trans creates.leaves.1.symm

end

/-- True answers lead to the last turn. -/
theorem Truthful.confirms (truthful : Truthful config params world)
    (configured : Configured config params runtime)
    (creates : mined.Creates config.keccak params block.timestamp mined.before n stored)
    (admissible : config.withdrawalIdIsAdmissible (BitVec.ofNat 256 n) = true)
    (honest : HonestAt config params runtime world.chain head mined.hash answers)
    (included : Includes world.chain head mined.hash block mined) (readable : Readable block)
    (readableHead : Readable head) (attested : Bool) :
    ∃ receipt log, answers.receipt = some receipt ∧
      config.withdrawalLog mined.hash receipt = .ok log ∧
      decodeWithdrawalCreatedLog log = .ok (stored.observed n) ∧
      decodeCurrentWithdrawal (answers.withdrawal (BitVec.ofNat 256 n)) = .ok stored.current ∧
      isSameCommittedWithdrawal stored.current (stored.observed n) = true ∧
      config.outcomeArrived mined.hash
          (config.notifiedWithdrawalOutcome mined.hash attested answers) =
        .waiting (.addressing mined.hash (stored.observed n)
          (head.state.snapshot params head.number head.timestamp)
          (config.stableObservation answers.finalized
            ⟨head.state.bridgeSigner, config.expectedBridgeRuntimeSha256⟩) head.number) := by
  have committed := creates.committed included.final included.listed
  have same := creates.toNat truthful.chain included.final included.listed
  obtain ⟨receipt, answered, shown⟩ := honest.found block mined included
  obtain ⟨current, ⟨log, logged, decoded⟩, confirmed⟩ := confirmedWithdrawal_honest configured
    truthful.chain honest included shown committed readableHead attested
  have received := receipt_confirmed truthful.chain honest included shown readable answered
  have succeeded : receipt.status = some 1 := by
    rw [shown.status, creates.1]
    rfl
  have outcome : config.notifiedWithdrawalOutcome mined.hash attested answers =
      config.confirmedWithdrawal mined.hash attested answers receipt := by
    rw [notifiedWithdrawalOutcome, received, ok_bind]
    dsimp only
    rw [succeeded]
    rfl
  rw [same] at decoded confirmed
  refine ⟨receipt, log, answered, logged, decoded, current, by
    simp [isSameCommittedWithdrawal, StoredWithdrawal.current, StoredWithdrawal.observed], ?_⟩
  have allowed : config.withdrawalIdIsAdmissible (stored.observed n).id = true := admissible
  rw [outcome, confirmed, outcomeArrived, if_pos allowed, honest.observed.1]

/-- For every withdrawal that the contract accepts, once its block is finalized: the canister
waits for answers about the hash unless the record is stored; true answers of any finalized block
that is no older decode to the same fields in the log and in `getWithdrawal`, and lead to the last
turn; the last turn stores a release of these fields, stores them behind the fee guard, finds them
stored, or refuses because the guard is set, Base has another signer, a newer block was recorded or
a counter has no room; and nothing newer than the newest finalized block is recorded. -/
theorem burned_withdrawal_payable (configured : Configured config params runtime)
    (reached : world.Reaches config params (honestQuorum RpcService config params runtime))
    (final : world.chain.Final block) (listed : mined ∈ block.transactions)
    (creates : mined.Creates config.keccak params block.timestamp mined.before n stored)
    (admissible : config.withdrawalIdIsAdmissible (BitVec.ofNat 256 n) = true) :
    (∀ caller, caller ≠ [4] →
      config.notifyWithdrawal world.store caller mined.hash =
        .waiting (.observing mined.hash (config.runtimeAttested world.store)) ∨
      config.notifyWithdrawal world.store caller mined.hash =
        .returned (.ok (.duplicate (BitVec.ofNat 256 n))) ∧
      ∃ record, world.store.settlement.withdrawals.get (BitVec.ofNat 256 n) = some record ∧
        record.Shows config stored (BitVec.ofNat 256 n)) ∧
    (∀ head (answers : WithdrawalAnswers RpcService) attested,
      HonestAt config params runtime world.chain head mined.hash answers →
      block.number ≤ head.number → Readable block → Readable head →
      ∃ receipt log, answers.receipt = some receipt ∧
        config.withdrawalLog mined.hash receipt = .ok log ∧
        decodeWithdrawalCreatedLog log = .ok (stored.observed n) ∧
        decodeCurrentWithdrawal (answers.withdrawal (BitVec.ofNat 256 n)) = .ok stored.current ∧
        isSameCommittedWithdrawal stored.current (stored.observed n) = true ∧
        config.outcomeArrived mined.hash
            (config.notifiedWithdrawalOutcome mined.hash attested answers) =
          .waiting (.addressing mined.hash (stored.observed n)
            (head.state.snapshot params head.number head.timestamp)
            (config.stableObservation answers.finalized
              ⟨head.state.bridgeSigner, config.expectedBridgeRuntimeSha256⟩) head.number)) ∧
    (∀ withdrawal snapshot stable checkpoint now,
      .addressing mined.hash withdrawal snapshot stable checkpoint ∈ world.flows →
      withdrawal = stored.observed n ∧
      Answered config world.store mined.hash (BitVec.ofNat 256 n) stored snapshot stable now
        (config.addressed now world.store mined.hash withdrawal snapshot stable checkpoint).1
        (config.addressed now world.store mined.hash withdrawal snapshot stable checkpoint).2) ∧
    ∀ head : MinedBlock, (∀ other, world.chain.Final other → other.number ≤ head.number) →
      world.store.progress.lastFinalizedBaseBlock ≤ head.number := by
  have truthful := Truthful.of_reaches configured reached
  have committed := creates.committed final listed
  have same := creates.toNat truthful.chain final listed
  refine ⟨?_, ?_, ?_, fun head newest => truthful.recorded_le newest⟩
  · intro caller named
    exact truthful.notify committed named
  · intro head answers attested honest older readable readableHead
    exact truthful.confirms configured creates admissible honest ⟨final, older, listed, rfl⟩ readable
      readableHead attested
  · intro withdrawal snapshot stable checkpoint now waits
    obtain ⟨_, _, _, stored', _, committed', _, _, shown, _, answered⟩ :=
      truthful.answered waits now
    obtain ⟨sameId, rfl⟩ := committed.unique truthful.chain committed'
    rw [← sameId] at shown answered
    rw [same] at shown
    exact ⟨shown, answered⟩

theorem WithdrawalWorld.Reaches.notified (configured : Configured config params runtime)
    (reached : world.Reaches config params (honestQuorum Unit config params runtime))
    (creates : mined.Creates config.keccak params block.timestamp mined.before n stored)
    (admissible : config.withdrawalIdIsAdmissible (BitVec.ofNat 256 n) = true)
    (included : Includes world.chain head mined.hash block mined) (final : world.chain.Final head)
    (fits : head.number ≤ Checked.limit 64) (readable : Readable block)
    (readableHead : Readable head) (unknown : world.store.notifications mined.hash = none) :
    WithdrawalWorld.Reaches config params (honestQuorum Unit config params runtime) { world with
        flows := .addressing mined.hash (stored.observed n)
          (head.state.snapshot params head.number head.timestamp)
          (config.stableObservation ⟨head.number, head.hash, 0⟩
            ⟨head.state.bridgeSigner, config.expectedBridgeRuntimeSha256⟩) head.number ::
          world.flows } := by
  have truthful := Truthful.of_reaches configured reached
  have honest := answersAt_honest truthful.chain final fits runtime mined.hash
  have called : config.notifyWithdrawal world.store [1] mined.hash =
      .waiting (.observing mined.hash (config.runtimeAttested world.store)) := by
    simp [notifyWithdrawal, existingNotifiedWithdrawalByHash, unknown]
  obtain ⟨_, _, _, _, _, _, _, waits⟩ := truthful.confirms configured creates admissible honest
    included readable readableHead (config.runtimeAttested world.store)
  have answered := (reached.step (.called called)).step
    (.answered (List.mem_cons_self ..) ⟨head, honest⟩ waits)
  rw [List.erase_cons_head] at answered
  exact answered

end Payable

/-! A run on one block: the second withdrawal pays a fee that covers the ledger's, the first does
not. -/

open BridgeHistory (sampleBridge sampleDeployment)

def sampleNotification : NotificationConfig where
  self := ⟨[9], 0, owner_nine_valid⟩
  ledgerId := [7]
  ledgerFee := 50
  sha256 := fun _ => 0
  baseChainId := 8453
  keccak := fun _ => 0
  bridgeContract := 1
  expectedBridgeRuntimeSha256 := 0
  minimumWithdrawalId := 1
  signer := 10

def sampleGenesis : MinedBlock := .deployed sampleDeployment 7 0

def sampleMined : MinedBlock :=
  sampleGenesis.next sampleNotification.keccak sampleBridge 10 1
    [⟨100, [.call (.unpauseDepositMints 3), .call (.unpauseWithdrawals 3),
        .call (.mintDepositWithAuthorization ⟨1, 20, 510, 10, 10, 70, 2⟩ (some 10))], false⟩,
      ⟨101, [.call (.createWithdrawal 20 100 10 [1] 0)], false⟩,
      ⟨102, [.call (.setServiceFee 12 60)], false⟩,
      ⟨103, [.log ⟨5, [0], []⟩, .call (.createWithdrawal 20 200 60 [2] 0),
        .call (.createWithdrawal 20 100 60 [2] 0)], false⟩]

def sampleWorld : WithdrawalWorld :=
  ⟨⟨[sampleGenesis, sampleMined], 2, by decide⟩, ⟨.empty, fun _ => none, ⟨0, 0, none⟩, none, 0⟩, []⟩

theorem sample_configured : Configured sampleNotification sampleBridge [1] :=
  ⟨rfl, by decide, rfl⟩

theorem sample_reached : sampleWorld.Reaches sampleNotification sampleBridge
    (honestQuorum Unit sampleNotification sampleBridge [1]) := by
  have fresh : WithdrawalWorld.Initial sampleBridge
      ⟨.start sampleGenesis, ⟨.empty, fun _ => none, ⟨0, 0, none⟩, none, 0⟩, []⟩ :=
    ⟨⟨sampleDeployment, 7, 0, rfl⟩, rfl, rfl⟩
  have extension : MinedChain.Extends sampleNotification.keccak sampleBridge
      (.start sampleGenesis) sampleMined := by
    refine ⟨⟨sampleGenesis, rfl, MinedBlock.next_follows (by decide) _ _⟩, by decide +kernel, ?_⟩
    intro earlier listed old present
    cases List.mem_singleton.mp listed
    cases present
  exact ((WithdrawalWorld.Reaches.start fresh).step (.mined extension)).step
    (.finalized (by decide) (by decide))

def sampleFirst : MinedTransaction := sampleMined.transactions.get ⟨1, by decide +kernel⟩

def sampleSecond : MinedTransaction := sampleMined.transactions.get ⟨3, by decide +kernel⟩

def sampleSmall : StoredWithdrawal := ⟨20, 100, 10, 10, [1], 0⟩

def sampleLarge : StoredWithdrawal := ⟨20, 200, 60, 60, [2], 0⟩

theorem creates_of_accepted {tx : BaseTransaction} {before : BridgeState}
    (succeeded : tx.reverted = false) (earlier later : List TransactionStep)
    (steps : tx.steps = earlier ++ .call (.createWithdrawal stored.requester stored.amount
      stored.maxServiceFee stored.owner stored.subaccount) :: later)
    (accepted : (((start before).run config.keccak params timestamp
      earlier).createWithdrawal config.keccak params stored.requester stored.amount
      stored.maxServiceFee stored.owner stored.subaccount).isOk = true)
    (charged : stored.chargedServiceFee = ((start before).run config.keccak
      params timestamp earlier).bridge.serviceFee) :
    tx.Creates config.keccak params timestamp before ((start
      before).run config.keccak params timestamp earlier).bridge.nextWithdrawalId stored := by
  obtain ⟨next, accepted⟩ := isOk_iff.mp accepted
  exact ⟨succeeded, earlier, later, _, next, steps, rfl, accepted, rfl, charged⟩

theorem sampleFirst_creates : sampleFirst.Creates sampleNotification.keccak sampleBridge
    sampleMined.timestamp sampleFirst.before 1 sampleSmall :=
  creates_of_accepted rfl [] [] rfl (by decide +kernel) (by decide +kernel)

theorem sampleSecond_creates : sampleSecond.Creates sampleNotification.keccak sampleBridge
    sampleMined.timestamp sampleSecond.before 2 sampleLarge :=
  creates_of_accepted rfl [.log ⟨5, [0], []⟩] [.call (.createWithdrawal 20 100 60 [2] 0)] rfl
    (by decide +kernel) (by decide +kernel)

def sampleSnapshot : BridgeSnapshot := sampleMined.state.snapshot sampleBridge 8 10

def sampleStable : FinalizedObservationRecord :=
  sampleNotification.stableObservation ⟨8, 1, 0⟩ ⟨10, 0⟩

theorem sampleMined_final : sampleWorld.chain.Final sampleMined :=
  List.mem_cons_of_mem _ (List.mem_singleton_self _)

theorem sample_readable : Readable sampleMined := by
  constructor <;> decide +kernel

theorem sample_includes (mined : MinedTransaction) (listed : mined ∈ sampleMined.transactions) :
    Includes sampleWorld.chain sampleMined mined.hash sampleMined mined :=
  ⟨sampleMined_final, Nat.le_refl _, listed, rfl⟩

def sampleNotified : WithdrawalWorld :=
  { sampleWorld with
    flows := [.addressing 103 (sampleLarge.observed 2) sampleSnapshot sampleStable 8] }

theorem sampleNotified_reached : sampleNotified.Reaches sampleNotification sampleBridge
    (honestQuorum Unit sampleNotification sampleBridge [1]) :=
  sample_reached.notified sample_configured sampleSecond_creates (by decide +kernel)
    (sample_includes _ (List.get_mem _ _)) sampleMined_final (by decide +kernel) sample_readable
    sample_readable rfl

theorem burned_withdrawal_payable_sample :
    let ended := sampleNotification.addressed 0 sampleNotified.store 103 (sampleLarge.observed 2)
      sampleSnapshot sampleStable 8
    Answered sampleNotification sampleNotified.store 103 2 sampleLarge sampleSnapshot sampleStable
      0 ended.1 ended.2 ∧ ended.2 = .ok (.ingested 2 8) := by
  obtain ⟨_, _, answered, _⟩ := burned_withdrawal_payable sample_configured sampleNotified_reached
    sampleMined_final (List.get_mem _ _) sampleSecond_creates (by decide +kernel)
  exact ⟨(answered _ _ _ _ 0 (List.mem_singleton_self _)).2, by decide +kernel⟩

def sampleTripped : NotificationStore :=
  (sampleNotification.addressed 0 sampleWorld.store 101 (sampleSmall.observed 1) sampleSnapshot
    sampleStable 8).1

theorem sampleTripped_reached : WithdrawalWorld.Reaches sampleNotification sampleBridge
    (honestQuorum Unit sampleNotification sampleBridge [1])
    { sampleWorld with store := sampleTripped } := by
  have notified := sample_reached.notified sample_configured sampleFirst_creates
    (by decide +kernel) (sample_includes _ (List.get_mem _ _)) sampleMined_final
    (by decide +kernel) sample_readable sample_readable rfl
  have addressed := notified.step (.addressed 0 (List.mem_cons_self ..))
  rw [List.erase_cons_head] at addressed
  exact addressed

/-- While the guard is set, a finalized withdrawal whose fee covers the ledger's is refused and
not stored. -/
theorem guarded_withdrawal_refused : ∃ (world : WithdrawalWorld) (block : MinedBlock)
    (mined : MinedTransaction), world.Reaches sampleNotification sampleBridge
      (honestQuorum Unit sampleNotification sampleBridge [1]) ∧
    world.chain.Final block ∧ mined ∈ block.transactions ∧
    mined.Creates sampleNotification.keccak sampleBridge block.timestamp mined.before 2
      sampleLarge ∧
    sampleNotification.ledgerFee ≤ sampleLarge.chargedServiceFee ∧
    .addressing mined.hash (sampleLarge.observed 2) sampleSnapshot sampleStable 8 ∈ world.flows ∧
    (sampleNotification.addressed 0 world.store mined.hash (sampleLarge.observed 2) sampleSnapshot
      sampleStable 8).2 = .error (.ledgerFeeExceedsServiceFee 50 10) ∧
    (sampleNotification.addressed 0 world.store mined.hash (sampleLarge.observed 2) sampleSnapshot
      sampleStable 8).1.settlement.withdrawals.get 2 = none := by
  refine ⟨_, sampleMined, sampleSecond, sampleTripped_reached.notified sample_configured
    sampleSecond_creates (by decide +kernel) (sample_includes _ (List.get_mem _ _))
    sampleMined_final (by decide +kernel) sample_readable sample_readable (by decide +kernel),
    sampleMined_final, List.get_mem _ _, sampleSecond_creates, by decide,
    List.mem_cons_self .., ?_, ?_⟩
  · decide +kernel
  · decide +kernel

end KinicBridge
