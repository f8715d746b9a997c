import KinicBridge.Core.PayoutAttempts
import KinicBridge.Withdrawals.Payable

/-! One record for each withdrawal. Whatever the canister is told about Base, a hash is stored for
one withdrawal, a withdrawal is stored once, and what is stored of it is never replaced. -/
namespace KinicBridge

open NotificationConfig

variable {RpcService : Type} [DecidableEq RpcService] {config : NotificationConfig}
  {params : BridgeParameters} {world world' : WithdrawalWorld}
  {trusts : WithdrawalWorld → Bytes32 → WithdrawalAnswers RpcService → Prop}
  {store written : NotificationStore} {hash id : Bytes32}

/-- A transfer without its time and memo, which a retry changes. -/
def LedgerTransferIdentity.payment (identity : LedgerTransferIdentity) : LedgerTransferIdentity :=
  { identity with createdAtTimeNs := 0, memo := 0 }

theorem TransferAttempt.retry_payment {attempt next : TransferAttempt}
    {identity : LedgerTransferIdentity} (granted : attempt.retryAfterAbsence identity = .ok next) :
    next.identity.payment = attempt.identity.payment := by
  unfold retryAfterAbsence at granted
  obtain ⟨same, granted⟩ := guarded_ok.mp granted
  obtain ⟨number, _, rfl⟩ := map_ok.mp granted
  simp only [not_or, not_le, not_not] at same
  simp [LedgerTransferIdentity.payment, same]

/-- What a stored record may become: its fields stay, and so does what its release pays. -/
structure WithdrawalRecord.Continues (record later : WithdrawalRecord) : Prop where
  payload : later.payload = record.payload
  release : ∀ attempt, record.state.attempt = some attempt →
    ∃ next, later.state.attempt = some next ∧ next.identity.payment = attempt.identity.payment

namespace WithdrawalRecord

theorem Continues.refl (record : WithdrawalRecord) : record.Continues record :=
  ⟨rfl, fun attempt sent => ⟨attempt, sent, rfl⟩⟩

theorem Continues.trans {a b c : WithdrawalRecord} (first : a.Continues b)
    (second : b.Continues c) : a.Continues c := by
  refine ⟨second.payload.trans first.payload, ?_⟩
  intro attempt sent
  obtain ⟨next, sent, same⟩ := first.release attempt sent
  obtain ⟨last, sent, same'⟩ := second.release next sent
  exact ⟨last, sent, same'.trans same⟩

theorem Moves.continues {r next : WithdrawalRecord} (moves : Moves r operation next) :
    r.Continues next := by
  cases moves with
  | same => exact .refl r
  | applied applied =>
    refine ⟨rfl, ?_⟩
    intro attempt sent
    cases applied with
    | started phase =>
      rw [phase] at sent
      cases sent
    | released phase | held phase =>
      rw [phase] at sent
      exact ⟨attempt, sent, rfl⟩
  | resolved resolved =>
    refine ⟨rfl, ?_⟩
    intro attempt sent
    cases resolved with
    | releaseFound phase =>
      rw [phase] at sent
      exact ⟨attempt, sent, rfl⟩
    | releaseAbsent phase retry =>
      rw [phase] at sent
      cases sent
      exact ⟨_, rfl, TransferAttempt.retry_payment retry⟩

end WithdrawalRecord

def WithdrawalsMove (before after : Table WithdrawalRecord.id) : Prop :=
  ∀ id, Option.Rel (fun record later => ∃ operation, record.Moves operation later)
    (before.get id) (after.get id)

theorem WithdrawalsMove.refl (withdrawals : Table WithdrawalRecord.id) :
    WithdrawalsMove withdrawals withdrawals := by
  intro id
  cases withdrawals.get id with
  | none => exact .none
  | some record => exact .some ⟨.apply (.releaseSucceeded 0), .same⟩

theorem WithdrawalsMove.put {withdrawals : Table WithdrawalRecord.id} {record : WithdrawalRecord}
    {state : WithdrawalState} (found : withdrawals.get record.id = some record)
    (moves : record.Moves operation { record with state }) :
    WithdrawalsMove withdrawals (withdrawals.put { record with state }) := by
  intro id
  have self : (withdrawals.put { record with state }).get record.id =
      some { record with state } := Table.get_put_self
  by_cases own : id = record.id
  · rw [own, self, found]
    exact .some ⟨operation, moves⟩
  · have other : (withdrawals.put { record with state }).get id = withdrawals.get id :=
      Table.get_put_of_ne own
    rw [other]
    exact WithdrawalsMove.refl withdrawals id

theorem SettlementStore.Change.withdrawals_move {store written : SettlementStore}
    (change : store.Change label written) (old : ∀ id, label ≠ .withdrawalObserved id) :
    WithdrawalsMove store.withdrawals written.withdrawals := by
  cases change with
  | withdrawalObserved => exact absurd rfl (old _)
  | withdrawalApplied found applied => exact .put found (.applied applied)
  | withdrawalParked found phase => exact .put found (.applied (.held phase))
  | withdrawalResolved found _ _ _ resolved => exact .put found (.resolved resolved)
  | _ => exact .refl _

theorem continueWithdrawal_moves {now : Nat}
    (done : config.continueWithdrawal now store id = .ok written) :
    WithdrawalsMove store.settlement.withdrawals written.settlement.withdrawals := by
  obtain ⟨withdrawal, _, done⟩ := bind_ok.mp done
  obtain ⟨_, done⟩ := thrown_ok.mp done
  split at done
  · cases pure_ok.mp done
    exact .refl _
  · obtain ⟨settlement, started, rfl⟩ := returned_ok.mp done
    obtain ⟨_, _, _, _, applied⟩ := BridgeConfig.startRelease_ok started
    rcases SettlementStore.applyWithdrawal_change applied with rfl | change
    · exact .refl _
    · exact change.withdrawals_move nofun

/-- Nothing, or a record and a hash that were not there. -/
inductive Recorded (store : NotificationStore) (hash id : Bytes32) : NotificationStore → Prop where
  | unchanged : Recorded store hash id store
  | inserted {tripped : Option WithdrawalFeeGuard} (named : record.id = id)
      (unknown : store.notifications hash = none)
      (fresh : store.settlement.withdrawals.get id = none) (directed : record.Directed) :
      Recorded store hash id
        { store.withWithdrawal record progress hash events with withdrawalFeeGuard := tripped }

section LastTurn

variable {observed : ObservedWithdrawal} {record : WithdrawalRecord} {progress : ExternalProgress}
  {stable : FinalizedObservationRecord}

theorem observedRecord_ok
    (done : config.observedRecord store observed checkpoint stable = .ok (record, progress)) :
    record.id = observed.id ∧ record.state = .observed := by
  obtain ⟨built, accepted, done⟩ := bind_ok.mp done
  obtain ⟨_, done⟩ := thrown_ok.mp done
  obtain ⟨_, _, ⟨⟩⟩ := returned_ok.mp done
  have accepted := orError_ok.mp accepted
  unfold WithdrawalRecord.observed at accepted
  obtain ⟨_, accepted⟩ := guarded_ok.mp accepted
  obtain ⟨_, _, accepted⟩ := bind_ok.mp accepted
  obtain ⟨_, accepted⟩ := thrown_ok.mp accepted
  cases pure_ok.mp accepted
  exact ⟨rfl, rfl⟩

theorem insertWithdrawal_ok
    (done : store.insertWithdrawal record progress hash events = .ok written) (few : events ≤ 3) :
    written = store.withWithdrawal record progress hash events := by
  rcases insertWithdrawal_eq store record progress hash few with inserted | ⟨failed, _⟩
  · exact (Except.ok.inj (inserted.symm.trans done)).symm
  · cases failed.symm.trans done

theorem releasedRecord_ok {released : WithdrawalRecord} {now : Nat}
    (phase : record.state = .observed) (done : config.releasedRecord now record = .ok released) :
    released.id = record.id ∧ released.Directed := by
  unfold releasedRecord at done
  split at done
  · obtain ⟨⟨next, result⟩, accepted, rfl⟩ := map_ok.mp done
    have directed : record.Directed := by
      intro attempt sent
      rw [phase] at sent
      cases sent
    rcases WithdrawalRecord.apply_ok (orError_ok.mp accepted) with
      ⟨rfl, _⟩ | ⟨state, fee, applied, rfl, _⟩
    · exact ⟨rfl, directed⟩
    · exact ⟨rfl, (WithdrawalRecord.Moves.applied applied).directed directed⟩
  · cases done

theorem tripFeeGuard_recorded {now : Nat}
    (done : config.tripFeeGuard now store observed hash checkpoint stable = .ok written) :
    Recorded store hash observed.id written := by
  obtain ⟨⟨record, progress⟩, built, done⟩ := bind_ok.mp done
  obtain ⟨named, phase⟩ := observedRecord_ok built
  have done := mapError_ok.mp done
  unfold NotificationStore.commitWithdrawalFeeGuardTripBundle at done
  obtain ⟨absent, done⟩ := thrown_ok.mp done
  obtain ⟨_, done⟩ := thrown_ok.mp done
  obtain ⟨inserted, insertion, rfl⟩ := returned_ok.mp done
  cases insertWithdrawal_ok insertion (le_refl 3)
  simp only [not_or, Bool.not_eq_true, Option.isSome_eq_false_iff, Option.isNone_iff_eq_none]
    at absent
  refine .inserted named absent.1 (named ▸ absent.2.1) ?_
  intro attempt sent
  rw [phase] at sent
  cases sent

theorem ingestRelease_recorded {now : Nat}
    (done : config.ingestRelease now store observed hash checkpoint stable = .ok written) :
    Recorded store hash observed.id written := by
  obtain ⟨⟨record, progress⟩, built, done⟩ := bind_ok.mp done
  obtain ⟨named, phase⟩ := observedRecord_ok built
  obtain ⟨released, started, done⟩ := bind_ok.mp done
  obtain ⟨same, directed⟩ := releasedRecord_ok phase started
  have named : released.id = observed.id := same.trans named
  have done := mapError_ok.mp done
  unfold NotificationStore.commitNewWithdrawalReleaseBundle at done
  obtain ⟨unknown, done⟩ := guarded_ok.mp done
  have unknown : store.notifications hash = none := by simpa using unknown
  split at done
  · split at done
    · cases done
      exact .unchanged
    · cases done
  next fresh =>
    obtain ⟨_, _, done⟩ := bind_ok.mp done
    cases insertWithdrawal_ok done (Nat.le_succ 2)
    exact .inserted named unknown (named ▸ fresh) directed

theorem addressed_recorded (config : NotificationConfig) (now : Nat) (store : NotificationStore) (hash : Bytes32)
    (withdrawal : ObservedWithdrawal) (snapshot : BridgeSnapshot)
    (stable : FinalizedObservationRecord) (checkpoint : Nat) : Recorded store hash withdrawal.id
      (config.addressed now store hash withdrawal snapshot stable checkpoint).1 := by
  unfold addressed
  split
  · exact .unchanged
  unfold ingestNotifiedWithdrawal
  split
  · exact .unchanged
  split
  · exact .unchanged
  split
  · split
    next done =>
      exact tripFeeGuard_recorded done
    · exact .unchanged
  · split
    next done =>
      exact ingestRelease_recorded done
    · exact .unchanged

theorem addressed_stored (now : Nat) {existing : WithdrawalRecord} {withdrawal : ObservedWithdrawal}
    (found : store.settlement.withdrawals.get withdrawal.id = some existing) (hash : Bytes32)
    (snapshot : BridgeSnapshot) (stable : FinalizedObservationRecord) (checkpoint : Nat) :
    config.addressed now store hash withdrawal snapshot stable checkpoint = (store,
      if snapshot.bridgeSigner ≠ config.signer then .error .bridgeSignerMismatch
      else if existing.payloadHash = config.notifiedWithdrawalPayloadHash withdrawal then
        .ok (.duplicate withdrawal.id) else .error .withdrawalConflict) := by
  unfold addressed ingestNotifiedWithdrawal existingNotifiedWithdrawal
  rw [found]
  by_cases different : snapshot.bridgeSigner ≠ config.signer
  · rw [if_pos different, if_pos different]
  · rw [if_neg different, if_neg different]
    rfl

end LastTurn

/-- What the canister has stored about withdrawals is kept. -/
structure NotificationStore.Keeps (store later : NotificationStore) : Prop where
  hashes : ∀ hash id, store.notifications hash = some id → later.notifications hash = some id
  records : ∀ id record, store.settlement.withdrawals.get id = some record →
    ∃ next, later.settlement.withdrawals.get id = some next ∧ record.Continues next

/-- Every hash has its record, and every release pays its record. -/
structure NotificationStore.Matched (store : NotificationStore) : Prop where
  hashes : ∀ hash id, store.notifications hash = some id →
    ∃ record, store.settlement.withdrawals.get id = some record
  directed : ∀ id record, store.settlement.withdrawals.get id = some record → record.Directed

namespace NotificationStore

theorem Keeps.refl (store : NotificationStore) : store.Keeps store :=
  ⟨fun _ _ found => found, fun _ record found => ⟨record, found, .refl record⟩⟩

theorem Keeps.trans {a b c : NotificationStore} (first : a.Keeps b) (second : b.Keeps c) :
    a.Keeps c := by
  refine ⟨fun hash id found => second.hashes hash id (first.hashes hash id found), ?_⟩
  intro id record found
  obtain ⟨next, found, continues⟩ := first.records id record found
  obtain ⟨last, found, continues'⟩ := second.records id next found
  exact ⟨last, found, continues.trans continues'⟩

theorem Keeps.of_moves (same : written.notifications = store.notifications)
    (moves : WithdrawalsMove store.settlement.withdrawals written.settlement.withdrawals) :
    store.Keeps written := by
  refine ⟨fun hash id found => same ▸ found, ?_⟩
  intro id record found
  have moved := moves id
  rw [found] at moved
  generalize written.settlement.withdrawals.get id = seen at moved
  cases moved with
  | some moved =>
    obtain ⟨operation, moved⟩ := moved
    exact ⟨_, rfl, moved.continues⟩

theorem Matched.of_moves (matched : store.Matched)
    (same : written.notifications = store.notifications)
    (moves : WithdrawalsMove store.settlement.withdrawals written.settlement.withdrawals) :
    written.Matched := by
  refine ⟨?_, ?_⟩
  · intro hash id known
    rw [same] at known
    obtain ⟨record, found⟩ := matched.hashes hash id known
    obtain ⟨next, found, _⟩ := (Keeps.of_moves same moves).records id record found
    exact ⟨next, found⟩
  · intro id record found
    have moved := moves id
    rw [found] at moved
    cases before : store.settlement.withdrawals.get id with
    | none =>
      rw [before] at moved
      cases moved
    | some previous =>
      rw [before] at moved
      cases moved with
      | some moved =>
        obtain ⟨operation, moved⟩ := moved
        exact moved.directed (matched.directed id previous before)

end NotificationStore

theorem Recorded.keeps (recorded : Recorded store hash id written) : store.Keeps written := by
  cases recorded with
  | unchanged => exact .refl store
  | @inserted new _ _ _ named unknown fresh =>
    subst named
    refine ⟨?_, ?_⟩
    · intro other id known
      have apart : other ≠ hash := by
        rintro rfl
        simp [unknown] at known
      simpa [NotificationStore.withWithdrawal, apart] using known
    · intro id record found
      have apart : id ≠ new.id := by
        rintro rfl
        simp [fresh] at found
      exact ⟨record, by simpa [NotificationStore.withWithdrawal, apart] using found, .refl record⟩

theorem NotificationStore.Matched.recorded (matched : store.Matched) (recorded : Recorded store hash id written) :
    written.Matched := by
  have keeps := recorded.keeps
  cases recorded with
  | unchanged => exact matched
  | @inserted record progress _ _ named unknown fresh directed =>
    refine ⟨?_, ?_⟩
    · intro other id known
      by_cases own : other = hash
      · subst own
        simp only [NotificationStore.withWithdrawal, Function.update_self, Option.some.injEq] at known
        subst known
        exact ⟨record, Table.get_put_self⟩
      · simp only [NotificationStore.withWithdrawal, Function.update_of_ne own] at known
        obtain ⟨seen, found⟩ := matched.hashes other id known
        obtain ⟨next, found, _⟩ := keeps.records id seen found
        exact ⟨next, found⟩
    · intro id seen found
      rcases Table.get_put_cases found with ⟨_, rfl⟩ | ⟨_, found⟩
      · exact directed
      · exact matched.directed id seen found

namespace WithdrawalWorld

section

variable (next : world.Step config params trusts world')

include next

theorem Step.chain_sound (sound : MinedChain.Sound config.keccak params world.chain) :
    MinedChain.Sound config.keccak params world'.chain := by
  cases next with
  | mined extension => exact sound.mine extension
  | reorganized kept => exact sound.sublist (List.take_sublist _ _)
  | finalized grown bounded => exact sound.sublist (List.Sublist.refl _)
  | _ => exact sound

theorem Step.store_keeps : world.store.Keeps world'.store := by
  cases next with
  | addressed now waits => exact (addressed_recorded config now _ _ _ _ _ _).keeps
  | continued id now done =>
    exact .of_moves (continueWithdrawal_keeps done).1 (continueWithdrawal_moves done)
  | settled change settles =>
    refine .of_moves rfl (change.withdrawals_move ?_)
    rintro id rfl
    cases settles
  | recorded | audited =>
    exact ⟨fun _ _ found => found, fun _ record found => ⟨record, found, .refl record⟩⟩
  | _ => exact .refl _

theorem Step.matched (matched : world.store.Matched) : world'.store.Matched := by
  cases next with
  | addressed now waits => exact matched.recorded (addressed_recorded config now _ _ _ _ _ _)
  | continued id now done =>
    exact matched.of_moves (continueWithdrawal_keeps done).1 (continueWithdrawal_moves done)
  | settled change settles =>
    refine matched.of_moves rfl (change.withdrawals_move ?_)
    rintro id rfl
    cases settles
  | recorded | audited => exact ⟨matched.hashes, matched.directed⟩
  | _ => exact matched

end

theorem Reaches.sound (reached : world.Reaches config params trusts) :
    MinedChain.Sound config.keccak params world.chain ∧ world.store.Matched := by
  induction reached with
  | start fresh =>
    obtain ⟨deployment, number, hash, chain⟩ := fresh.chain
    rw [chain, fresh.store]
    exact ⟨.start (MinedBlock.deployed_sound deployment number hash) rfl, nofun, nofun⟩
  | step _ next ih => exact ⟨next.chain_sound ih.1, next.matched ih.2⟩

theorem store_keeps (run : Relation.ReflTransGen (Step config params trusts) world world') :
    world.store.Keeps world'.store := by
  induction run with
  | refl => exact .refl _
  | tail _ next ih => exact ih.trans next.store_keeps

end WithdrawalWorld

theorem MinedChain.Sound.creates_unique {chain : FinalChain MinedBlock} {a b : MinedBlock}
    {first second : MinedTransaction} {n m : Nat} {stored other : StoredWithdrawal}
    (sound : MinedChain.Sound config.keccak params chain) (left : a ∈ chain.blocks)
    (right : b ∈ chain.blocks) (listed : first ∈ a.transactions) (listed' : second ∈ b.transactions)
    (creates : first.Creates config.keccak params a.timestamp first.before n stored)
    (creates' : second.Creates config.keccak params b.timestamp second.before m other)
    (same : first.hash = second.hash) : n = m ∧ stored = other := by
  obtain ⟨rfl, rfl⟩ := sound.unique a left b right first listed second listed' same
  obtain ⟨rfl, leaves⟩ := creates.leaves
  obtain ⟨rfl, leaves'⟩ := creates'.leaves
  refine ⟨rfl, ?_⟩
  have found := leaves.found
  rw [leaves'.found] at found
  exact (Option.some.inj found).symm

/-- Over every run, whatever the canister is told about Base: a stored hash names one stored
withdrawal; the release of a stored withdrawal pays that withdrawal; what is stored is kept, the
release with it; a hash or a withdrawal that is stored changes nothing when it is notified again,
and another payload for a stored id is refused. A transaction creates at most one withdrawal, and
two withdrawals of the chain have two hashes. -/
theorem one_record_per_withdrawal (reached : world.Reaches config params trusts) :
    (∀ hash id, world.store.notifications hash = some id →
      ∃ record, world.store.settlement.withdrawals.get id = some record ∧ record.id = id) ∧
    (∀ id record, world.store.settlement.withdrawals.get id = some record → record.Directed) ∧
    (∀ later, Relation.ReflTransGen (WithdrawalWorld.Step config params trusts) world later →
      world.store.Keeps later.store) ∧
    (∀ caller hash id, caller ≠ [4] → world.store.notifications hash = some id →
      config.notifyWithdrawal world.store caller hash = .returned (.ok (.duplicate id))) ∧
    (∀ now hash id withdrawal snapshot stable checkpoint,
      world.store.notifications hash = some id →
      (config.addressed now world.store hash withdrawal snapshot stable checkpoint).1 =
        world.store) ∧
    (∀ now hash withdrawal snapshot stable checkpoint existing,
      world.store.settlement.withdrawals.get withdrawal.id = some existing →
      config.addressed now world.store hash withdrawal snapshot stable checkpoint =
        (world.store,
          if snapshot.bridgeSigner ≠ config.signer then .error .bridgeSignerMismatch
          else if existing.payloadHash = config.notifiedWithdrawalPayloadHash withdrawal then
            .ok (.duplicate withdrawal.id)
          else .error .withdrawalConflict)) ∧
    (∀ (transaction : BaseTransaction) before timestamp, ∃ created,
      Leaves config.keccak params before
        (transaction.run config.keccak params timestamp before) created) ∧
    ∀ a ∈ world.chain.blocks, ∀ b ∈ world.chain.blocks, ∀ first ∈ a.transactions,
      ∀ second ∈ b.transactions, ∀ n stored m other,
      first.Creates config.keccak params a.timestamp first.before n stored →
      second.Creates config.keccak params b.timestamp second.before m other →
      first.hash = second.hash → n = m ∧ stored = other := by
  obtain ⟨sound, matched⟩ := reached.sound
  refine ⟨?_, matched.directed, fun later run => WithdrawalWorld.store_keeps run, ?_, ?_, ?_, ?_, ?_⟩
  · intro hash id known
    obtain ⟨record, found⟩ := matched.hashes hash id known
    exact ⟨record, found, world.store.settlement.withdrawals.keyed id record found⟩
  · intro caller hash id named known
    obtain ⟨record, found⟩ := matched.hashes hash id known
    simp [notifyWithdrawal, named, known, found,
      existingNotifiedWithdrawalByHash]
  · intro now hash id withdrawal snapshot stable checkpoint known
    have recorded := addressed_recorded config now world.store hash withdrawal
      snapshot stable checkpoint
    generalize (config.addressed now world.store hash withdrawal snapshot stable checkpoint).1 =
      written at recorded ⊢
    cases recorded with
    | unchanged => rfl
    | inserted _ unknown =>
      rw [unknown] at known
      cases known
  · intro now hash withdrawal snapshot stable checkpoint existing found
    exact addressed_stored now found hash snapshot stable checkpoint
  · intro transaction before timestamp
    exact transaction.leaves before
  · intro a left b right first listed second listed' n stored m other creates creates' same
    exact sound.creates_unique left right listed listed' creates creates' same

def sampleIngested : WithdrawalWorld :=
  { sampleWorld with
    store := (sampleNotification.addressed 0 sampleWorld.store 103 (sampleLarge.observed 2)
      sampleSnapshot sampleStable 8).1 }

theorem sampleIngested_reached : sampleIngested.Reaches sampleNotification
    BridgeHistory.sampleBridge
    (honestQuorum Unit sampleNotification BridgeHistory.sampleBridge [1]) :=
  sampleNotified_reached.step (.addressed 0 (List.mem_singleton_self _))

theorem one_record_per_withdrawal_sample :
    sampleNotification.notifyWithdrawal sampleIngested.store [1] 103 =
      .returned (.ok (.duplicate 2)) ∧
    ∃ record, sampleIngested.store.settlement.withdrawals.get 2 = some record ∧ record.id = 2 := by
  obtain ⟨names, _, _, known, _⟩ := one_record_per_withdrawal sampleIngested_reached
  exact ⟨known [1] 103 2 (by decide) (by decide +kernel), names 103 2 (by decide +kernel)⟩

/-- Next to a truthful quorum nothing is released that was not burned. -/
theorem stored_withdrawals_committed (configured : Configured config params runtime)
    (reached : world.Reaches config params
      (honestQuorum RpcService config params runtime)) :
    (∀ id record, world.store.settlement.withdrawals.get id = some record → record.Directed ∧
      ∃ hash stored block mined,
        CommittedBy config params world.chain hash id stored block mined ∧
        record.Shows config stored id) ∧
    ∀ hash id, world.store.notifications hash = some id →
      (∃ stored block mined, CommittedBy config params world.chain hash id stored block mined) ∧
      ∀ other stored block mined,
        CommittedBy config params world.chain hash other stored block mined → other = id := by
  have truthful := Truthful.of_reaches configured reached
  have matched := reached.sound.2
  constructor
  · intro id record found
    exact ⟨matched.directed id record found, truthful.records id record found⟩
  · intro hash id known
    obtain ⟨_, stored, block, mined, committed⟩ := truthful.notifications hash id known
    refine ⟨⟨stored, block, mined, committed⟩, fun other stored block mined named => ?_⟩
    exact (named.unique truthful.chain committed).1

theorem stored_withdrawals_committed_sample :
    sampleIngested.store.notifications 103 = some 2 ∧ ∃ stored block mined,
      CommittedBy sampleNotification BridgeHistory.sampleBridge sampleIngested.chain 103 2 stored
        block mined := by
  have known : sampleIngested.store.notifications 103 = some 2 := by decide +kernel
  have committed := stored_withdrawals_committed sample_configured sampleIngested_reached
  exact ⟨known, (committed.2 103 2 known).1⟩

end KinicBridge
