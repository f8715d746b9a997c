import KinicBridge.Base.Supply
import KinicBridge.CrossChain.World

/-! No deposit is both refunded and minted. A refund of a signed deposit rests on a final block past
the authorization's deadline that has not processed the deposit, so no later block can mint it. An
unsigned deposit has nothing anyone could submit. -/
namespace KinicBridge

open BridgeConfig SettlementStore

def StoreChange.Permitted (chain : FinalChain BaseBlock) : StoreChange → Prop
  | .deposit _ (.startRefund _ _ (some evidence)) => ∃ block, chain.Final block ∧
      evidence.finalizedBlockTimestamp = block.timestamp ∧
      evidence.depositProcessed = block.processed evidence.depositId
  | _ => True

def DepositRecord.Expired (deposit : DepositRecord) (chain : FinalChain BaseBlock) : Prop :=
  ∀ record, deposit.signedAuthorization = some record → ∃ block, chain.Final block ∧
    record.authorization.deadline < block.timestamp ∧
    block.processed record.authorization.depositId = false

namespace CrossWorld

/-- What holds of the records: the published authorizations are the signed ones, and a
started refund rests on an expired authorization. -/
structure Sound (chain : FinalChain BaseBlock) (published : MintAuthorization → Prop)
    (store : SettlementStore) : Prop where
  coherent : ∀ id deposit, store.deposits.get id = some deposit → deposit.Coherent
  signed : ∀ authorization, published authorization → ∃ deposit record,
    store.deposits.get authorization.depositId = some deposit ∧
    deposit.signedAuthorization = some record ∧ record.authorization = authorization
  refunds : ∀ id deposit, store.deposits.get id = some deposit → deposit.refundStarted = true →
    deposit.Expired chain

variable {chain chain' : FinalChain BaseBlock} {published published' : MintAuthorization → Prop}
  {store written : SettlementStore} {id : Bytes32} {deposit r next : DepositRecord}

theorem Sound.own (sound : Sound chain published store)
    (found : store.deposits.get id = some deposit)
    (signed : deposit.signedAuthorization = some record) : record.authorization.depositId = id := by
  have authorization := (DepositRecord.signedAuthorization_eq_some.mp signed).1
  obtain ⟨quote, quotes⟩ := (sound.coherent id deposit found).quotes record authorization
  rw [quotes.depositId, store.deposits.keyed _ _ found]

theorem Sound.publish (sound : Sound chain published store) :
    Sound chain (fun a => published a ∨ store.Publishes a) store := by
  refine ⟨sound.coherent, ?_, sound.refunds⟩
  rintro authorization (known | ⟨id, deposit, record, found, signed, rfl⟩)
  · exact sound.signed _ known
  · exact ⟨deposit, record, by rw [sound.own found signed]; exact found, signed, rfl⟩

theorem Sound.final (sound : Sound chain published store)
    (grows : ∀ block, chain.Final block → chain'.Final block) : Sound chain' published store := by
  refine ⟨sound.coherent, sound.signed, ?_⟩
  intro id deposit found started record signed
  obtain ⟨block, final, rest⟩ := sound.refunds id deposit found started record signed
  exact ⟨block, grows block final, rest⟩

theorem signed_moves (moves : r.Moves operation next)
    (coherent : r.Coherent) (signed : r.signedAuthorization = some record) :
    next.signedAuthorization = some record := by
  rcases moves.signedAuthorization coherent with same | ⟨unsigned, _⟩
  · rw [same, signed]
  · cases unsigned.symm.trans signed

theorem expired_moves (moves : r.Moves operation next)
    (coherent : r.Coherent) (before : r.refundStarted = true → r.Expired chain)
    (permitted : ∀ reason attempt evidence,
      operation = .apply (.startRefund reason attempt (some evidence)) →
      (StoreChange.deposit r.id (.startRefund reason attempt (some evidence))).Permitted chain)
    (started : next.refundStarted = true) : next.Expired chain := by
  intro record signed
  rcases moves.refund_starts started with already | ⟨reason, attempt, evidence, rfl, same, proven⟩
  · have code : r.state.code ≠ 2 := by
      intro code
      simp [DepositRecord.refundStarted, code] at already
    rcases moves.signedAuthorization coherent with same | ⟨_, pending, _⟩
    · exact before already record (by rw [← same, signed])
    · exact absurd pending code
  · cases evidence with
    | none =>
      rw [same, show r.signedAuthorization = none from proven] at signed
      cases signed
    | some evidence =>
      obtain ⟨own, found, depositId, unprocessed, late⟩ := proven
      cases (found.symm.trans (same.symm.trans signed))
      obtain ⟨block, final, timestamp, processed⟩ := permitted reason attempt evidence rfl
      refine ⟨block, final, by rw [← timestamp]; exact late, ?_⟩
      rw [← depositId, ← processed, unprocessed]

theorem Sound.change (sound : Sound chain published store)
    (change : store.Change label written) (permitted : label.Permitted chain) :
    Sound chain published written := by
  have moves := change.deposit
  refine ⟨?_, ?_, ?_⟩
  · intro id deposit found
    cases moves id with
    | kept same => exact sound.coherent id deposit (by rw [← same, found])
    | created fresh accepted after =>
      cases found.symm.trans after
      exact DepositRecord.accept_coherent accepted
    | moved before moves after starts =>
      cases found.symm.trans after
      exact moves.coherent (sound.coherent id _ before)
  · intro authorization known
    obtain ⟨deposit, record, found, signed, same⟩ := sound.signed authorization known
    cases moves authorization.depositId with
    | kept kept => exact ⟨deposit, record, by rw [kept, found], signed, same⟩
    | created fresh => cases fresh.symm.trans found
    | moved before moves after starts =>
      cases before.symm.trans found
      exact ⟨_, record, after, signed_moves moves (sound.coherent _ _ before) signed, same⟩
  · intro id deposit found started
    cases moves id with
    | kept same => exact sound.refunds id deposit (by rw [← same, found]) started
    | created fresh accepted after =>
      cases found.symm.trans after
      obtain ⟨_, rest⟩ := guarded_ok.mp accepted
      obtain ⟨_, rest⟩ := guarded_ok.mp rest
      cases rest
      cases started
    | moved before moves after starts =>
      cases found.symm.trans after
      refine expired_moves moves (sound.coherent id _ before) (sound.refunds id _ before) ?_ started
      intro reason attempt evidence same
      have label := starts reason attempt (some evidence) same
      rw [label] at permitted
      exact permitted

inductive Edits (chain : FinalChain BaseBlock) (store : SettlementStore) :
    SettlementStore → Prop where
  | none : Edits chain store store
  | change {middle last : SettlementStore} (before : Edits chain store middle)
      (change : middle.Change label last) (permitted : label.Permitted chain) :
      Edits chain store last

theorem Sound.edits (sound : Sound chain published store) (edits : Edits chain store written) :
    Sound chain published written := by
  induction edits with
  | none => exact sound
  | change _ change permitted ih => exact ih.change change permitted

section Endpoints

variable {config : BridgeConfig} {now : Nat}

theorem prepareDepositRefund_edits
    (prepared : config.prepareDepositRefund now store id reason evidence = .ok written)
    (permitted : ∀ attempt, (StoreChange.deposit id (.startRefund reason attempt evidence)).Permitted
      chain) : Edits chain store written := by
  obtain ⟨deposit, _, rest⟩ := bind_ok.mp prepared
  obtain ⟨amount, _, applied⟩ := bind_ok.mp rest
  exact .change .none (applyDeposit_change applied) (permitted _)

theorem markExpired_edits (marked : markExpired store id waitsAt timestamp = .ok written) :
    Edits chain store written := by
  obtain ⟨deposit, _, rest⟩ := bind_ok.mp marked
  split at rest
  · exact .change .none (applyDeposit_change (orError_ok.mp rest)) trivial
  · cases pure_ok.mp rest
    exact .none

theorem Edits.trans {middle : SettlementStore} (first : Edits chain store middle)
    (second : Edits chain middle written) : Edits chain store written := by
  induction second with
  | none => exact first
  | change _ change permitted ih => exact .change ih change permitted

theorem offerAndStart_edits
    (done : config.offerAndStart now store id waitsAt timestamp evidence = (written, result))
    (permitted : ∀ attempt, (StoreChange.deposit id
      (.startRefund .authorizationExpired attempt evidence)).Permitted chain) :
    Edits chain store written := by
  unfold offerAndStart at done
  split at done
  · cases done
    exact .none
  next marked mark =>
    have offered : Edits chain store marked := markExpired_edits mark
    split at done
    · cases done
      exact offered
    next started prepared =>
      cases done
      exact offered.trans (prepareDepositRefund_edits prepared permitted)

def AsksOwn (store : SettlementStore) (query : Option BaseQuery) : Prop :=
  ∀ id record, query = some (.refundRecovery id record) →
    ∃ deposit, store.deposits.get id = some deposit ∧ deposit.signedAuthorization = some record

theorem claimOffered_edits (found : store.deposits.get id = some deposit)
    (done : config.claimOffered now store id deposit = .ok (written, query)) :
    Edits chain store written ∧ AsksOwn store query := by
  unfold claimOffered at done
  split at done
  next record signed =>
    cases pure_ok.mp done
    refine ⟨.none, ?_⟩
    rintro id record ⟨⟩
    exact ⟨deposit, found, signed⟩
  · obtain ⟨reason, _, rest⟩ := bind_ok.mp done
    obtain ⟨started, prepared, ⟨⟩⟩ := returned_ok.mp rest
    exact ⟨prepareDepositRefund_edits (orError_ok.mp prepared) (fun _ => trivial), nofun⟩

theorem requestDepositRefund_edits
    (done : config.requestDepositRefund now store id = .ok (written, query)) :
    Edits chain store written ∧ AsksOwn store query := by
  obtain ⟨deposit, found, rest⟩ := found_ok.mp done
  split at rest
  · obtain ⟨record, _, ⟨⟩⟩ := returned_ok.mp rest
    exact ⟨.none, nofun⟩
  · exact claimOffered_edits found rest
  · exact claimOffered_edits found rest
  · cases pure_ok.mp rest
    exact ⟨.none, nofun⟩
  · cases pure_ok.mp rest
    exact ⟨.none, nofun⟩
  · exact absurd rest throw_ne_ok

theorem refundOnSnapshot_edits
    (done : config.refundOnSnapshot now store id deadline timestamp = (written, result)) :
    Edits chain store written := by
  unfold refundOnSnapshot at done
  split at done
  · cases done
    exact .none
  · exact offerAndStart_edits done fun _ => trivial

theorem refundOnRecovery_edits
    (done : config.refundOnRecovery now store id record observation = (written, result))
    (truthful : observation.Truthful chain id block) (own : record.authorization.depositId = id) :
    Edits chain store written ∧ ∀ query, result = .ok (some query) →
      ∃ id', query = .refundMintEvidence id' := by
  unfold refundOnRecovery at done
  split at done
  · cases done
    exact ⟨.none, nofun⟩
  split at done
  · split at done
    · cases done
      exact ⟨.none, nofun⟩
    next marked mark =>
      cases done
      refine ⟨markExpired_edits mark, ?_⟩
      rintro query ⟨⟩
      exact ⟨id, rfl⟩
  next unprocessed =>
    dsimp only at done
    cases done
    refine ⟨offerAndStart_edits rfl fun attempt => ⟨block, truthful.final, truthful.timestamp, ?_⟩, ?_⟩
    · have seen := truthful.processed
      simp only [expiryEvidence, own]
      rw [← seen]
      exact (Bool.eq_false_iff.mpr unprocessed).symm
    · intro query same
      obtain ⟨_, _, impossible⟩ := map_ok.mp same
      cases impossible

theorem notifyDepositMint_asks :
    store.notifyDepositMint id transactionHash ≠ .ok (some (.refundRecovery id' record)) := by
  intro done
  unfold notifyDepositMint at done
  obtain ⟨_, done⟩ := thrown_ok.mp done
  obtain ⟨deposit, _, rest⟩ := bind_ok.mp done
  split at rest
  · split at rest
    · exact absurd rest throw_ne_ok
    · cases pure_ok.mp rest
  · split at rest
    · exact absurd rest throw_ne_ok
    · obtain ⟨record, _, ⟨⟩⟩ := returned_ok.mp rest

theorem notifyOnReceipt_edits
    (done : store.notifyOnReceipt id record evidence = .ok written) : Edits chain store written := by
  obtain ⟨deposit, _, rest⟩ := bind_ok.mp done
  split at rest
  · exact absurd rest throw_ne_ok
  · exact .change .none (applyDeposit_change (orError_ok.mp rest)) trivial

end Endpoints

structure Inv (world : CrossWorld) : Prop where
  sound : Sound world.chain world.published world.store
  ordered : world.chain.blocks.Pairwise (BaseBlock.Precedes world.published)
  accounted : ∀ block ∈ world.chain.blocks, ∀ id, block.processed id = true →
    ∃ authorization, world.published authorization ∧ authorization.depositId = id
  queries : ∀ id record, .refundRecovery id record ∈ world.queries →
    record.authorization.depositId = id

variable {world world' : CrossWorld} {params : BridgeParameters} {config : BridgeConfig}

theorem Initial.inv (initial : world.Initial) : world.Inv := by
  obtain ⟨timestamp, signer, administrator, fee, start⟩ := initial.deployed
  refine ⟨⟨?_, ?_, ?_⟩, ?_, ?_, ?_⟩
  · intro id deposit found
    rw [initial.store] at found
    cases found
  · intro authorization known
    exact absurd known (initial.published authorization)
  · intro id deposit found
    rw [initial.store] at found
    cases found
  · rw [start]
    exact List.pairwise_singleton _ _
  · intro block present id processed
    rw [start] at present
    cases List.mem_singleton.mp present
    cases processed
  · intro id record waiting
    rw [initial.queries] at waiting
    cases waiting

theorem Inv.withStore (inv : world.Inv)
    (sound : Sound world.chain world.published written) : (world.withStore written).Inv where
  sound := sound.publish
  ordered := inv.ordered.imp fun precedes => precedes.mono fun _ known => .inl known
  accounted block present id processed := by
    obtain ⟨authorization, known, same⟩ := inv.accounted block present id processed
    exact ⟨authorization, .inl known, same⟩
  queries := inv.queries

theorem Inv.answered (inv : world.Inv) (query : BaseQuery) : (world.answered query).Inv :=
  ⟨inv.sound, inv.ordered, inv.accounted,
    fun id record waiting => inv.queries id record (List.mem_of_mem_erase waiting)⟩

theorem Inv.ask (inv : world.Inv) {query : Option BaseQuery}
    (own : ∀ id record, query = some (.refundRecovery id record) →
      record.authorization.depositId = id) : (world.ask query).Inv := by
  refine ⟨inv.sound, inv.ordered, inv.accounted, ?_⟩
  intro id record waiting
  rcases List.mem_append.mp waiting with new | old
  · exact own id record (Option.mem_toList.mp new)
  · exact inv.queries id record old

theorem Inv.base (inv : world.Inv)
    (next : world.chain.Step (BaseBlock.Produces params world.published) chain) :
    Inv { world with chain } := by
  refine ⟨inv.sound.final fun block final => final.step next, ?_, ?_, inv.queries⟩
  · exact next.ordered inv.ordered (fun _ _ _ first second => first.trans second)
      fun _ _ produced => produced.precedes
  · intro block present id processed
    rcases next.block_cases present with before | ⟨parent, known, produced⟩
    · exact inv.accounted block before id processed
    · rcases produced.precedes.accounted id processed with earlier | ⟨authorization, open_, same, _⟩
      · exact inv.accounted parent known id earlier
      · exact ⟨authorization, open_, same⟩

theorem permitted_of_other {label : StoreChange} (other : label.startsRefund = false) : label.Permitted chain := by
  unfold StoreChange.Permitted
  split
  · cases other
  · trivial

theorem Step.inv (next : Step params config world world') (inv : world.Inv) : world'.Inv := by
  cases next with
  | tick later => exact ⟨inv.sound, inv.ordered, inv.accounted, inv.queries⟩
  | base next => exact inv.base next
  | settled change other => exact inv.withStore (inv.sound.change change (permitted_of_other other))
  | kept same =>
    refine inv.withStore ⟨?_, ?_, ?_⟩
    all_goals rw [same]
    · exact inv.sound.coherent
    · exact inv.sound.signed
    · exact inv.sound.refunds
  | refundRequested done =>
    obtain ⟨edits, asks⟩ := requestDepositRefund_edits done
    refine (inv.withStore (inv.sound.edits edits)).ask ?_
    intro id record same
    obtain ⟨deposit, found, signed⟩ := asks id record same
    exact inv.sound.own found signed
  | refundSnapshot waiting final done =>
    exact (inv.withStore (inv.sound.edits (refundOnSnapshot_edits done))).answered _
  | refundRecovery waiting truthful done =>
    obtain ⟨edits, asks⟩ := refundOnRecovery_edits done truthful (inv.queries _ _ waiting)
    refine ((inv.withStore (inv.sound.edits edits)).answered _).ask ?_
    intro id record same
    obtain ⟨query, arrived, rfl⟩ := Option.bind_eq_some_iff.mp same
    obtain ⟨id', impossible⟩ := asks _ (toOption_eq_some arrived)
    cases impossible
  | refundMinted waiting done =>
    have change := applyDeposit_change (orError_ok.mp done)
    exact (inv.withStore (inv.sound.change change trivial)).answered _
  | notifyRequested done =>
    refine inv.ask ?_
    intro id record same
    rw [same] at done
    exact absurd done notifyDepositMint_asks
  | notifyRecovery waiting truthful done =>
    refine (inv.answered _).ask ?_
    rintro id record ⟨⟩
    cases (guarded_ok.mp done).2
  | notifyReceipt waiting done =>
    exact (inv.withStore (inv.sound.edits (notifyOnReceipt_edits done))).answered _
  | lost query => exact inv.answered query

theorem Leads.inv (leads : world.Leads params config world') (inv : world.Inv) : world'.Inv := by
  induction leads with
  | stay => exact inv
  | step _ next ih => exact next.inv ih

theorem Inv.published_own (inv : world.Inv) (found : world.store.deposits.get id = some deposit)
    (known : world.published authorization) (same : authorization.depositId = id) :
    ∃ record, deposit.signedAuthorization = some record ∧ record.authorization = authorization := by
  obtain ⟨stored, record, foundSigned, signed, equal⟩ := inv.sound.signed authorization known
  rw [same] at foundSigned
  cases foundSigned.symm.trans found
  exact ⟨record, signed, equal⟩

theorem Inv.unprocessed (inv : world.Inv) (refund : world.RefundStarted id)
    (present : block ∈ world.chain.blocks) : block.processed id = false := by
  obtain ⟨deposit, found, started⟩ := refund
  rw [Bool.eq_false_iff]
  intro processed
  cases signed : deposit.signedAuthorization with
  | none =>
    obtain ⟨authorization, known, same⟩ := inv.accounted block present id processed
    obtain ⟨record, impossible, _⟩ := inv.published_own found known same
    cases impossible.symm.trans signed
  | some record =>
    obtain ⟨seen, final, late, unprocessed⟩ := inv.sound.refunds id deposit found started record signed
    rw [inv.sound.own found signed] at unprocessed
    -- the block lies before, at or after the one the refund rests on
    rcases FinalChain.compare_blocks inv.ordered present final.mem with rfl | earlier | later
    · cases unprocessed.symm.trans processed
    · cases unprocessed.symm.trans (earlier.kept id processed)
    · rcases later.accounted id processed with before | ⟨authorization, known, same, open_⟩
      · cases unprocessed.symm.trans before
      · obtain ⟨own, ownSigned, rfl⟩ := inv.published_own found known same
        cases ownSigned.symm.trans signed
        omega

theorem Edits.refundStarted (edits : Edits chain store written)
    (found : store.deposits.get id = some deposit) (started : deposit.refundStarted = true) :
    ∃ later, written.deposits.get id = some later ∧ later.refundStarted = true := by
  induction edits with
  | none => exact ⟨deposit, found, started⟩
  | change _ change _ ih =>
    obtain ⟨reached, foundReached, startedReached⟩ := ih
    cases change.deposit id with
    | kept same => exact ⟨reached, by rw [same, foundReached], startedReached⟩
    | created fresh => cases fresh.symm.trans foundReached
    | moved before moves after =>
      cases before.symm.trans foundReached
      exact ⟨_, after, moves.refundStarted startedReached⟩

theorem Step.edits (next : Step params config world world') (inv : world.Inv) :
    Edits world.chain world.store world'.store ∨ world'.store.deposits = world.store.deposits := by
  cases next with
  | settled change other => exact .inl (.change .none change (permitted_of_other other))
  | kept same => exact .inr same
  | refundRequested done => exact .inl (requestDepositRefund_edits done).1
  | refundSnapshot _ _ done => exact .inl (refundOnSnapshot_edits done)
  | refundRecovery waiting truthful done =>
    exact .inl (refundOnRecovery_edits done truthful (inv.queries _ _ waiting)).1
  | refundMinted _ done =>
    exact .inl (.change .none (applyDeposit_change (orError_ok.mp done)) trivial)
  | notifyReceipt _ done => exact .inl (notifyOnReceipt_edits done)
  | tick | base | notifyRequested | notifyRecovery | lost => exact .inr rfl

theorem Step.refundStarted (next : Step params config world world') (inv : world.Inv)
    (refund : world.RefundStarted id) : world'.RefundStarted id := by
  obtain ⟨deposit, found, started⟩ := refund
  rcases next.edits inv with edits | same
  · exact edits.refundStarted found started
  · exact ⟨deposit, by rw [same, found], started⟩

theorem Leads.refundStarted (leads : world.Leads params config world') (inv : world.Inv)
    (refund : world.RefundStarted id) : world'.RefundStarted id := by
  induction leads with
  | stay => exact refund
  | step before next ih => exact next.refundStarted (before.inv inv) ih

theorem Step.final (next : Step params config world world') (final : world.chain.Final block) :
    world'.chain.Final block := by
  cases next with
  | base moved => exact final.step moved
  | tick | settled | kept | refundRequested | refundSnapshot | refundRecovery | refundMinted
  | notifyRequested | notifyRecovery | notifyReceipt | lost => exact final

theorem Leads.final (leads : world.Leads params config world')
    (final : world.chain.Final block) : world'.chain.Final block := by
  induction leads with
  | stay => exact final
  | step _ next ih => exact next.final ih

/-- A deposit whose refund was started is minted in no block of the chain, now or at any later
time; one minted in a final block never has its refund started. -/
theorem refund_excludes_mint (reached : Reaches params config world)
    (leads : world.Leads params config world') (id : Bytes32) :
    (world.RefundStarted id → (∀ block ∈ world.chain.blocks, block.processed id = false) ∧
      ∀ block ∈ world'.chain.blocks, block.processed id = false) ∧
    ((∃ block, world.chain.Final block ∧ block.processed id = true) →
      ¬world'.RefundStarted id) := by
  obtain ⟨start, initial, before⟩ := reached
  have inv := before.inv initial.inv
  have later := leads.inv inv
  constructor
  · intro refund
    exact ⟨fun block present => inv.unprocessed refund present,
      fun block present => later.unprocessed (leads.refundStarted inv refund) present⟩
  · rintro ⟨block, final, processed⟩ refund
    have present := (leads.final final).mem
    cases processed.symm.trans (later.unprocessed refund present)

/-! A signed deposit that is never submitted, refunded after its deadline. -/

def sampleConfig : BridgeConfig := ⟨⟨[9], 0, owner_nine_valid⟩, [8], 100, fun _ => 6, 8453⟩

def sampleParameters : BridgeParameters where
  bridge := 3
  bsns := 4
  erc20 := .lenient
  baseAdminTimelock := 5
  minServiceFee := 1
  maxServiceFee := 1000
  perDepositLimit := 100000
  mintWindowLimit := 100000
  mintWindowDuration := 3600
  limits_nonzero := by decide
  fees_ordered := by decide
  fits := by decide +kernel
  duration_bounded := BridgeHistory.sampleBridge.duration_bounded

def sampleRequest : DepositRequest where
  id := 1
  payloadHash := 2
  grossAmount := 1000
  userMaxServiceFee := 100
  transfer := ⟨.pullDeposit, 0, 7, 1000, 100, ⟨[1], 0, owner_one_valid⟩, ⟨[9], 0, owner_nine_valid⟩,
    some ⟨[9], 0, owner_nine_valid⟩⟩

def sampleRecord : MintAuthorizationRecord where
  authorization := ⟨1, 2, 1000, 100, 100, 900, 2⟩
  domain := ⟨mintAuthorizationDomainName, mintAuthorizationDomainVersion, 8453, 3⟩
  digest := 4
  origin := ⟨0, 5, 0, 0⟩
  signatureDispatchAttempt := 0
  signatureDispatched := false
  signature := none

def acceptedStore : SettlementStore := stored (empty.createDeposit sampleRequest)
def fundedStore : SettlementStore := stored (acceptedStore.applyDeposit 1 (.fundingSucceeded 5))
def committedStore : SettlementStore :=
  stored (fundedStore.applyDeposit 1 (.commitAuthorization ⟨100, 900⟩ sampleRecord))
def dispatchedStore : SettlementStore := stored (committedStore.dispatchSignature 1)
def signedStore : SettlementStore :=
  stored (dispatchedStore.applyDeposit 1 (.authorizationSigned (List.replicate 65 0) 0))

def genesisBlock : BaseBlock := ⟨0, .deployed 0 7 8 10⟩
def lateBlock : BaseBlock := ⟨901, genesisBlock.state⟩

def sampleObservation : RecoveryObservation :=
  ⟨false, 1, 5, 901, 7, 1, 1, 1, 1⟩

def signedRecord : MintAuthorizationRecord :=
  { sampleRecord with
    signatureDispatchAttempt := 1
    signatureDispatched := true
    signature := some (List.replicate 65 0) }

def refundingStore : SettlementStore :=
  (sampleConfig.refundOnRecovery 0 signedStore 1 signedRecord sampleObservation).1

def sampleStart : CrossWorld := ⟨0, .start genesisBlock, .empty, [], fun _ => False⟩

theorem signed_reached : ∃ world, Reaches sampleParameters sampleConfig world ∧
    world.now = 0 ∧ world.store = signedStore ∧ world.queries = [] ∧
    world.chain = .start genesisBlock ∧ world.published sampleRecord.authorization := by
  have initial : sampleStart.Initial :=
    ⟨⟨0, 7, 8, 10, rfl⟩, rfl, rfl, fun _ known => known⟩
  obtain ⟨id, created⟩ := createDeposit_change
    (eq_ok_stored (by decide +kernel) : empty.createDeposit sampleRequest = .ok acceptedStore)
  have funded := applyDeposit_change
    (eq_ok_stored (by decide +kernel) :
      acceptedStore.applyDeposit 1 (.fundingSucceeded 5) = .ok fundedStore)
  have committed := applyDeposit_change
    (eq_ok_stored (by decide +kernel) :
      fundedStore.applyDeposit 1 (.commitAuthorization ⟨100, 900⟩ sampleRecord) =
        .ok committedStore)
  have dispatched := dispatchSignature_change
    (eq_ok_stored (by decide +kernel) : committedStore.dispatchSignature 1 = .ok dispatchedStore)
  have signed := applyDeposit_change
    (eq_ok_stored (by decide +kernel) :
      dispatchedStore.applyDeposit 1 (.authorizationSigned (List.replicate 65 0) 0) =
        .ok signedStore)
  have accepted : Leads sampleParameters sampleConfig sampleStart
      (sampleStart.withStore acceptedStore) := .step .stay (.settled created rfl)
  have leads := (((accepted.step (.settled funded rfl)).step (.settled committed rfl)).step
    (.settled dispatched rfl)).step (.settled signed rfl)
  exact ⟨_, ⟨sampleStart, initial, leads⟩, rfl, rfl, rfl, rfl, .inr ⟨1, _, signedRecord, rfl, rfl,
    rfl⟩⟩

theorem refund_excludes_mint_expired : ∃ world,
    Reaches sampleParameters sampleConfig world ∧ world.RefundStarted 1 ∧
    ∀ block ∈ world.chain.blocks, block.processed 1 = false := by
  obtain ⟨⟨_, _, _, _, published⟩, ⟨start, initial, leads⟩, rfl, rfl, rfl, rfl, _⟩ :=
    signed_reached
  have mined := leads.step (.base (.mined rfl ⟨Nat.zero_le _, [], .done⟩ :
    FinalChain.Step _ _ (FinalChain.mine (.start genesisBlock) lateBlock)))
  have past := mined.step (.base (.finalized (by decide : 1 ≤ 2) (by decide : 2 ≤ 2)))
  have final : FinalChain.Final ⟨[genesisBlock, lateBlock], 2, Nat.le_refl _⟩ lateBlock :=
    List.mem_cons_of_mem _ (List.mem_singleton_self _)
  have asked : sampleConfig.requestDepositRefund 0 signedStore 1 =
      .ok (signedStore, some (.refundRecovery 1 signedRecord)) := rfl
  have truthful : sampleObservation.Truthful ⟨_, _, _⟩ 1 lateBlock := ⟨final, rfl, rfl, rfl, rfl⟩
  have answered : sampleConfig.refundOnRecovery 0 signedStore 1 signedRecord sampleObservation =
    (refundingStore, _) := rfl
  have refunding := (past.step (.refundRequested asked)).step
    (.refundRecovery (List.mem_cons_self ..) truthful answered)
  have refund : (refundingStore.deposits.get 1).any (·.refundStarted) = true := by decide +kernel
  obtain ⟨deposit, found, started⟩ := (Option.any_eq_true _ _).mp refund
  have reached : Reaches sampleParameters sampleConfig _ := ⟨start, initial, refunding⟩
  have none := ((refund_excludes_mint reached .stay 1).1 ⟨deposit, found, started⟩).1
  exact ⟨_, reached, ⟨deposit, found, started⟩, none⟩

/-- Base mints only what is in escrow, also in blocks that are dropped later. -/
theorem minted_is_escrowed (reached : Reaches params config world) :
    (∀ first second, world.published first → world.published second →
      first.depositId = second.depositId → first = second) ∧
    ∀ block ∈ world.chain.blocks, ∀ id, block.processed id = true →
      ∃ deposit record quote, world.store.deposits.get id = some deposit ∧
        deposit.signedAuthorization = some record ∧ world.published record.authorization ∧
        deposit.Quotes record quote ∧ deposit.state.ledgerBlocks.1.isSome = true := by
  obtain ⟨start, initial, leads⟩ := reached
  have inv := leads.inv initial.inv
  constructor
  · intro first second known known' same
    obtain ⟨deposit, record, found, signed, rfl⟩ := inv.sound.signed first known
    obtain ⟨own, ownSigned, rfl⟩ := inv.published_own found known' same.symm
    cases ownSigned.symm.trans signed
    rfl
  · intro block present id processed
    obtain ⟨authorization, known, rfl⟩ := inv.accounted block present id processed
    obtain ⟨deposit, record, found, signed, rfl⟩ := inv.sound.signed authorization known
    have coherent := inv.sound.coherent _ deposit found
    have authorized := (DepositRecord.signedAuthorization_eq_some.mp signed).1
    obtain ⟨quote, quotes⟩ := coherent.quotes record authorized
    refine ⟨deposit, record, quote, found, signed, known, quotes, ?_⟩
    -- before the funding is settled there is no authorization
    cases phase : deposit.state with
    | fundingPending | fundingReconciliationHold | cancelled =>
      have blank := coherent.blank (by simp [phase, DepositState.code])
      cases blank.symm.trans authorized
    | _ => rfl

def mintingCalls : List BridgeCall :=
  [.unpauseDepositMints 5, .mintDepositWithAuthorization sampleRecord.authorization (some 7)]

def mintedBlock : BaseBlock :=
  ⟨10, mintingCalls.foldl (·.run sampleParameters 10) genesisBlock.state⟩

theorem minted_is_escrowed_minted : ∃ world deposit,
    Reaches sampleParameters sampleConfig world ∧ mintedBlock ∈ world.chain.blocks ∧
    mintedBlock.processed 1 = true ∧ mintedBlock.state.token.totalSupply = 900 ∧
    world.store.deposits.get 1 = some deposit ∧ deposit.state.ledgerBlocks.1.isSome = true ∧
    ∀ other, world.published other → other.depositId = 1 →
      other = sampleRecord.authorization := by
  obtain ⟨⟨_, _, _, _, published⟩, ⟨start, initial, leads⟩, rfl, rfl, rfl, rfl, known⟩ :=
    signed_reached
  have ran : genesisBlock.state.Executes sampleParameters published 10 mintingCalls
      mintedBlock.state := by
    refine .call (fun _ other => ?_) (.call (fun _ same => ?_) .done)
    · cases other
    · cases same
      exact known
  have mined := leads.step (.base (.mined rfl ⟨Nat.zero_le _, _, ran⟩ :
    FinalChain.Step _ _ (FinalChain.mine (.start genesisBlock) mintedBlock)))
  have reached : Reaches sampleParameters sampleConfig _ := ⟨start, initial, mined⟩
  have present : mintedBlock ∈ [genesisBlock, mintedBlock] :=
    List.mem_cons_of_mem _ (List.mem_singleton_self _)
  have processed : mintedBlock.processed 1 = true := by decide +kernel
  obtain ⟨single, escrowed⟩ := minted_is_escrowed reached
  obtain ⟨deposit, _, _, found, _, _, _, funded⟩ := escrowed mintedBlock present 1 processed
  exact ⟨_, deposit, reached, present, processed, by decide +kernel, found, funded,
    fun other open_ same => single _ _ open_ known same⟩

end CrossWorld

end KinicBridge
