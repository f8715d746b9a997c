import KinicBridge.Deposits.Advance
import KinicBridge.Jobs.Fairness
import KinicBridge.Settlement.System

/-! One message of a deposit's task keeps the rows that are needed. A row is deleted only in a
message that leaves the record without work, and what gives a record work while a run holds
its lease finds the row of that run. -/
namespace KinicBridge

open DepositEvent DepositTask JobStore SettlementStore Table

def DepositState.working : DepositState → Bool
  | .escrowedUnquoted _ | .authorizationPending _ | .fundingReconciliationHold _
  | .refundPending .. => true
  | _ => false

def StoreChange.opens : StoreChange → Option Bytes32
  | .deposit id (.fundingSucceeded _) | .deposit id (.fundingAmbiguous _)
  | .deposit id (.startRefund ..) | .depositParked id | .depositHold id _ (.refundAbsent ..) =>
    some id
  | _ => none

theorem DepositRecord.Applied.working {r next : DepositRecord} {event : DepositEvent}
    (applied : r.Applied event next fee) (works : next.state.working = true) :
    r.state.working = true ∨ (StoreChange.deposit next.id event).opens = some next.id := by
  cases applied with
  | committed phase | refundHeld phase | installed phase | refundPaid phase =>
    exact .inl (by rw [phase]; rfl)
  | funded | fundingHeld | refundStarted => exact .inr rfl
  | fundingCancelled | refundOffered | mintRecorded => cases works

def DepositEvent.rests : DepositEvent → Bool
  | .markRefundAvailable .. | .authorizationSigned .. | .refundAmbiguous _ => true
  | _ => false

theorem DepositRecord.Applied.rested {r next : DepositRecord} {event : DepositEvent}
    (applied : r.Applied event next fee) (rests : event.rests = true) :
    next.state.working = false := by
  cases applied <;> first | rfl | cases rests

theorem DepositHoldResolved.working {deposit : DepositRecord} {hold : ReconciliationHoldRecord}
    {state : DepositState} (resolved : DepositHoldResolved deposit hold resolution answer state)
    (works : state.working = true) : deposit.state.working = true ∨
      (StoreChange.depositHold deposit.id hold.id resolution).opens = some deposit.id := by
  cases resolved with
  | fundingFound phase => exact .inl (by rw [phase]; rfl)
  | refundAbsent => exact .inr rfl
  | fundingAbsent | refundFound => cases works

namespace SettlementStore

variable {written : SettlementStore}

section

variable {store : SettlementStore} {id : Bytes32} {deposit : DepositRecord}

theorem Change.working
    (change : store.Change label written) (found : written.deposits.get id = some deposit)
    (works : deposit.state.working = true) :
    (∃ previous, store.deposits.get id = some previous ∧ previous.state.working = true) ∨
      label.opens = some id := by
  cases change with
  | depositCreated accepted fresh =>
    rcases get_put_cases found with ⟨_, rfl⟩ | ⟨_, old⟩
    · rw [accept_state accepted] at works
      cases works
    · exact .inl ⟨deposit, old, works⟩
  | @signatureDispatched _ _ previous _ stored =>
    rcases get_put_cases found with ⟨rfl, rfl⟩ | ⟨_, old⟩
    · exact .inl ⟨previous, stored, works⟩
    · exact .inl ⟨deposit, old, works⟩
  | @depositApplied _ _ previous _ _ _ stored applied =>
    rcases get_put_cases found with ⟨rfl, rfl⟩ | ⟨_, old⟩
    · exact (applied.working works).imp (fun works => ⟨previous, stored, works⟩) fun opens => opens
    · exact .inl ⟨deposit, old, works⟩
  | depositParked =>
    rcases get_put_cases found with ⟨rfl, rfl⟩ | ⟨_, old⟩
    · exact .inr rfl
    · exact .inl ⟨deposit, old, works⟩
  | @depositResolved _ _ _ previous _ _ _ stored _ _ resolved =>
    rcases get_put_cases found with ⟨rfl, rfl⟩ | ⟨_, old⟩
    · exact (resolved.working works).imp (fun works => ⟨previous, stored, works⟩) fun opens => opens
    · exact .inl ⟨deposit, old, works⟩
  | withdrawalObserved | withdrawalApplied | withdrawalParked | withdrawalResolved =>
    exact .inl ⟨deposit, found, works⟩

theorem applyDeposit_rested (done : store.applyDeposit id event = .ok written)
    (rests : event.rests = true) (found : written.deposits.get id = some deposit) :
    deposit.state.working = false := by
  have change := applyDeposit_change done
  generalize named : StoreChange.deposit id event = label at change
  cases change with
  | depositApplied stored applied =>
    cases named
    rw [get_put_self] at found
    cases found
    exact applied.rested rests
  | _ => cases named

theorem parkRefund_rested
    (done : store.parkDeposit id .refundAmbiguous .depositRefund transfer = .ok written)
    (found : written.deposits.get id = some deposit) : deposit.state.working = false := by
  obtain ⟨current, stored, rest⟩ := found_ok.mp done
  obtain ⟨⟨next, result⟩, accepted, committed⟩ := bind_ok.mp rest
  have currentId := store.deposits.keyed _ _ stored
  obtain ⟨previous, again, rest⟩ := found_ok.mp committed
  obtain ⟨terms, held, rest⟩ := found_ok.mp rest
  obtain ⟨_, _, rest⟩ := bind_ok.mp rest
  obtain ⟨_, rest⟩ := thrown_ok.mp rest
  obtain ⟨opened, _, rfl⟩ := returned_ok.mp rest
  rcases DepositRecord.apply_ok (liftCore_ok.mp accepted) with ⟨rfl, _, _⟩ |
    ⟨fee, _, _, applied, _⟩
  · -- a replay moves nothing, so it has no terms for a hold
    cases again.symm.trans (currentId ▸ stored)
    unfold depositHoldTerms at held
    split at held <;> simp_all
  · have own : next.id = id := applied.accepted.1.trans currentId
    subst own
    rw [get_put_self] at found
    cases found
    exact applied.rested rfl

end

end SettlementStore

theorem lookup_insert_isSome {rows : AList fun _ : JobKey => JobRow} (target : JobKey)
    (row : JobRow) (present : (rows.lookup key).isSome = true) :
    ((rows.insert target row).lookup key).isSome = true := by
  by_cases same : key = target
  · subst same
    rw [AList.lookup_insert]
    rfl
  · rwa [AList.lookup_insert_ne same]

namespace SettlementCanister

def Tended (canister : SettlementCanister) : Prop :=
  ∀ id deposit, canister.settlement.deposits.get id = some deposit →
    deposit.state.working = true → (canister.jobs.jobs.lookup ⟨.deposit, id⟩).isSome = true

structure Sound (canister : SettlementCanister) : Prop where
  held : canister.settlement.Held
  tended : canister.Tended

/-- One message's changes, apart from the last one of a run. -/
structure Follows (before after : SettlementCanister) : Prop where
  sound : after.Sound
  holds : before.settlement.HoldsKept after.settlement
  rows : ∀ key, (before.jobs.jobs.lookup key).isSome = true → (after.jobs.jobs.lookup key).isSome = true

variable {canister before middle after : SettlementCanister}

theorem Follows.refl (sound : canister.Sound) : Follows canister canister :=
  ⟨sound, .refl _, fun _ present => present⟩

theorem Follows.trans (first : Follows before middle) (second : Follows middle after) :
    Follows before after := by
  refine ⟨second.sound, fun id hold found => ?_, fun key present =>
    second.rows key (first.rows key present)⟩
  obtain ⟨kept, found, request, transfer⟩ := first.holds id hold found
  obtain ⟨last, found, lastRequest, lastTransfer⟩ := second.holds id kept found
  exact ⟨last, found, lastRequest.trans request, lastTransfer.trans transfer⟩

theorem Follows.ofRows (sound : canister.Sound) {jobs : JobStore}
    (rows : ∀ key, (canister.jobs.jobs.lookup key).isSome = true → (jobs.jobs.lookup key).isSome = true) :
    Follows canister { canister with jobs } :=
  ⟨⟨sound.held, fun id deposit found works => rows _ (sound.tended id deposit found works)⟩,
    .refl _, rows⟩

theorem Follows.ofChange (sound : canister.Sound) {written : SettlementStore}
    (change : canister.settlement.Change label written)
    (sanctioned : canister.settlement.Sanctioned (fun _ => True) label)
    (opened : ∀ id, label.opens = some id →
      (canister.jobs.jobs.lookup ⟨.deposit, id⟩).isSome = true) :
    Follows canister (canister.withSettlement written) := by
  have respects := change.respects sound.held sanctioned
  refine ⟨⟨respects.held sound.held, fun id deposit found works => ?_⟩, respects.holds,
    fun _ present => present⟩
  rcases change.working found works with ⟨previous, stored, worked⟩ | opens
  · exact sound.tended id previous stored worked
  · exact opened id opens

theorem Follows.ofScans (sound : canister.Sound) (scans : Table ReconciliationScanProgress.target) :
    Follows canister (canister.withSettlement { canister.settlement with scans }) :=
  ⟨⟨⟨sound.held.deposits, sound.held.withdrawals⟩, sound.tended⟩, .refl _, fun _ present => present⟩

def Idle (canister : SettlementCanister) (id : Bytes32) : Prop :=
  ∀ deposit, canister.settlement.deposits.get id = some deposit → deposit.state.working = false

end SettlementCanister

open SettlementCanister

def DepositWait.hold : DepositWait → Option ReconciliationHoldRecord
  | .holdCall hold | .holdScan hold _ => some hold
  | _ => none

structure DepositTask.Linked (task : DepositTask) (canister : SettlementCanister) : Prop where
  kind : task.job.key.kind = .deposit
  hold : ∀ hold, task.wait.hold = some hold →
    (hold.request = .depositFunding task.job.key.settlementId ∨
      hold.request = .depositRefund task.job.key.settlementId) ∧
    ∃ stored, canister.settlement.holds.get hold.id = some stored ∧ stored.request = hold.request

theorem DepositTask.Linked.kept {task : DepositTask} (linked : task.Linked before)
    (kept : before.settlement.HoldsKept after.settlement) : task.Linked after := by
  refine ⟨linked.kind, fun hold waits => ?_⟩
  obtain ⟨own, stored, found, same⟩ := linked.hold hold waits
  obtain ⟨later, found, request, _⟩ := kept _ stored found
  exact ⟨own, later, found, request.trans same⟩

/-- A message of a task keeps the canister sound, and completes only a deposit without
work. -/
def Advance.Safe (before : SettlementCanister) : Advance → Prop
  | .waits after task => Follows before after ∧ task.Linked after
  | .returns after job result =>
    Follows before after ∧ job.key.kind = .deposit ∧
      ∀ state, result = .ok (.complete state) → after.Idle job.key.settlementId
  | .traps => True

namespace Advance

variable {reads : MessageReads} {canister before after : SettlementCanister}
  {job : SettlementJob}

theorem Safe.since {advance : Advance} (first : Follows before after)
    (safe : advance.Safe after) : advance.Safe before := by
  cases advance with
  | waits written task => exact ⟨first.trans safe.1, safe.2⟩
  | returns written job result => exact ⟨first.trans safe.1, safe.2⟩
  | traps => trivial

section Parts

variable (sound : canister.Sound) (kind : job.key.kind = .deposit)

include sound kind

theorem failed_safe (error : SettlementActionError) : (failed canister job error).Safe canister :=
  ⟨.refl sound, kind, nofun⟩

theorem stopped_safe (phase : DepositPhase) (reason : SettlementStopReason) :
    (stopped canister job phase reason).Safe canister :=
  ⟨.refl sound, kind, nofun⟩

theorem deferred_safe (phase : DepositPhase) : (deferred reads canister job phase).Safe canister :=
  ⟨.refl sound, kind, nofun⟩

theorem complete_safe (idle : canister.Idle job.key.settlementId) (phase : DepositPhase) :
    (complete canister job phase).Safe canister :=
  ⟨.refl sound, kind, fun _ _ => idle⟩

theorem whileCurrent_safe {next : Advance}
    (safe : (canister.jobs.jobs.lookup job.key).isSome = true → next.Safe canister) :
    (whileCurrent canister job next).Safe canister := by
  unfold whileCurrent
  split
  next current =>
    refine safe ?_
    unfold settlementLeaseIsCurrent at current
    cases found : canister.jobs.jobs.lookup job.key with
    | none => simp [found] at current
    | some row => rfl
  · exact failed_safe sound kind _

variable {phase : DepositPhase} {written : Except StorageError SettlementStore}

theorem store_safe {next : SettlementCanister → Advance}
    (safe : ∀ settlement, written = .ok settlement →
      Follows canister (canister.withSettlement settlement) ∧
      (next (canister.withSettlement settlement)).Safe (canister.withSettlement settlement)) :
    (store canister job written next).Safe canister := by
  cases written with
  | error error => exact failed_safe sound kind _
  | ok settlement =>
    obtain ⟨follows, rest⟩ := safe settlement rfl
    exact rest.since follows

theorem renewed_safe {next : SettlementCanister → SettlementJob → Advance}
    (safe : ∀ jobs handle, Follows canister { canister with jobs } → handle.key = job.key →
      (next { canister with jobs } handle).Safe { canister with jobs }) :
    (renewed reads canister job next).Safe canister := by
  unfold renewed
  split
  · exact failed_safe sound kind _
  unfold renewSettlementLease
  cases held : canister.jobs.heldRow job with
  | none => exact failed_safe sound kind _
  | some row =>
    have handled (jobs : JobStore) (handle : SettlementJob) (same : handle.key = job.key)
        (written : jobs.jobs = canister.jobs.jobs.insert job.key
          (extendLease row reads.now (Checked.saturatingAdd 64 reads.now Scheduler.leaseNs))) :
        (next { canister with jobs } handle).Safe canister := by
      have follows : Follows canister { canister with jobs } :=
        .ofRows sound fun key present => written ▸ lookup_insert_isSome _ _ present
      exact (safe jobs handle follows same).since follows
    exact handled _ _ rfl rfl

theorem await_safe {wait : DepositWait} (linked : ∀ handle : SettlementJob, handle.key = job.key →
      (mk handle phase wait).Linked canister) :
    (await reads canister job phase wait).Safe canister := by
  refine renewed_safe sound kind fun jobs handle follows same => ?_
  have own := linked handle same
  exact ⟨.refl follows.sound, own.kind, own.hold⟩

omit sound in
theorem linked_of_key (phase : DepositPhase) {wait : DepositWait} (free : wait.hold = none)
    (handle : SettlementJob) (same : handle.key = job.key) :
    (mk handle phase wait).Linked canister := by
  refine ⟨same ▸ kind, fun hold waits => ?_⟩
  rw [show (mk handle phase wait).wait.hold = none from free] at waits
  cases waits

theorem hold_safe {found : ReconciliationHoldRecord}
    (own : found.request = .depositFunding job.key.settlementId ∨
      found.request = .depositRefund job.key.settlementId)
    (stored : canister.settlement.holds.get found.id = some found) :
    (hold reads canister job phase found).Safe canister := by
  have linked (handle : SettlementJob) (same : handle.key = job.key) (wait : DepositWait)
      (waits : wait.hold = some found) : (mk handle phase wait).Linked canister := by
    refine ⟨same ▸ kind, fun hold asked => ?_⟩
    cases waits.symm.trans asked
    exact ⟨same ▸ own, found, stored, rfl⟩
  unfold hold
  split
  · refine renewed_safe sound kind fun jobs handle follows same => ?_
    split
    · exact stopped_safe follows.sound (same ▸ kind) _ _
    · have own := linked handle same (.holdCall found) rfl
      exact ⟨.refl follows.sound, own.kind, own.hold⟩
  · split
    next settlement progress scanned =>
      unfold holdScan at scanned
      split at scanned
      · cases scanned
        exact await_safe sound kind fun handle same => linked handle same _ rfl
      · obtain ⟨_, put, pair⟩ := map_ok.mp scanned
        cases pair
        rw [putReconciliationScan_ok put]
        have follows := Follows.ofScans sound
          (canister.settlement.scans.put (.new (.hold found.id) found.transfer))
        refine (await_safe follows.sound kind fun handle same => ?_).since follows
        have own := linked handle same (.holdScan found (.new (.hold found.id) found.transfer)) rfl
        exact ⟨own.kind, own.hold⟩
    · exact failed_safe sound kind _

omit kind in
theorem apply_follows {id : Bytes32} {written : SettlementStore}
    (done : canister.settlement.applyDeposit id event = .ok written)
    (parks : event.code ≠ 1 ∧ event.code ≠ 9)
    (opens : (StoreChange.deposit id event).opens = none) :
    Follows canister (canister.withSettlement written) := by
  refine .ofChange sound (applyDeposit_change done) parks fun id opened => ?_
  rw [opens] at opened
  cases opened

theorem rest_safe (rests : event.rests = true) (parks : event.code ≠ 1 ∧ event.code ≠ 9)
    (phase : DepositPhase) :
    (store canister job (canister.settlement.applyDeposit job.key.settlementId event)
      fun canister => complete canister job phase).Safe canister := by
  refine store_safe sound kind fun settlement done => ?_
  have follows := apply_follows sound done parks (by cases event <;> first | rfl | cases rests)
  refine ⟨follows, complete_safe follows.sound kind (fun deposit found => ?_) phase⟩
  exact applyDeposit_rested done rests found

theorem pending_safe {deposit : DepositRecord} (named : deposit.id = job.key.settlementId) :
    (pending reads canister job deposit).Safe canister := by
  unfold pending
  split
  · exact failed_safe sound kind _
  · exact failed_safe sound kind _
  · rw [named]
    exact rest_safe sound kind rfl (by simp [code]) _
  · split
    · exact await_safe sound kind (linked_of_key kind _ rfl)
    · exact stopped_safe sound kind _ _

theorem parked_safe {found : ReconciliationHoldRecord} {holdId : Nat} {request : RequestReference}
    (parked : canister.settlement.Parked (some (holdId, request, transfer)))
    (own : request = .depositFunding job.key.settlementId ∨
      request = .depositRefund job.key.settlementId)
    (stored : canister.settlement.holds.get holdId = some found) :
    (hold reads canister job phase found).Safe canister := by
  obtain ⟨held, agreed, named, _⟩ := parked
  cases stored.symm.trans agreed
  cases canister.settlement.holds.keyed _ _ stored
  exact hold_safe sound kind (named ▸ own) stored

theorem turn_safe : (turn reads canister job).Safe canister := by
  unfold turn
  split
  · exact failed_safe sound kind _
  rename_i deposit found
  have named := canister.settlement.deposits.keyed _ _ found
  have idle (rests : deposit.state.working = false) : canister.Idle job.key.settlementId := by
    intro other stored
    cases found.symm.trans stored
    exact rests
  have parked := sound.held.deposits _ _ found
  split
  · trivial
  · exact await_safe sound kind (linked_of_key kind _ rfl)
  · exact pending_safe sound kind named
  next state =>
    exact complete_safe sound kind (idle (by rw [state]; rfl)) _
  next state =>
    exact complete_safe sound kind (idle (by rw [state]; rfl)) _
  next holdId state =>
    split
    · exact failed_safe sound kind _
    next hold stored =>
      simp only [DepositRecord.holding, state] at parked
      exact parked_safe sound kind parked (.inl (by rw [named])) stored
  next holdId attempt state =>
    split
    · exact failed_safe sound kind _
    next hold stored =>
      simp only [DepositRecord.holding, state] at parked
      exact parked_safe sound kind parked (.inr (by rw [named])) stored
  · exact await_safe sound kind (linked_of_key kind _ rfl)
  all_goals
    rename_i state
    exact complete_safe sound kind (idle (by rw [state]; rfl)) _

theorem store_turn_safe (follows : ∀ settlement, written = .ok settlement →
      Follows canister (canister.withSettlement settlement)) :
    (store canister job written fun canister => turn reads canister job).Safe canister := by
  refine store_safe sound kind fun settlement done => ?_
  exact ⟨follows settlement done, turn_safe (follows settlement done).sound kind⟩

omit sound in
theorem resolve_turn_safe (follows : ∀ settlement, written = .ok settlement →
      Follows canister (canister.withSettlement settlement)) :
    (resolve canister written fun canister => turn reads canister job).Safe canister := by
  cases written with
  | error error => trivial
  | ok settlement =>
    have follows := follows settlement rfl
    exact (turn_safe follows.sound kind).since follows

theorem commit_safe (quote : DepositQuote) (record : MintAuthorizationRecord)
    (refusal : Option CommitRefusal) :
    (commit reads canister job quote record refusal).Safe canister := by
  unfold commit
  split
  · exact stopped_safe sound kind _ _
  · exact deferred_safe sound kind _
  · exact failed_safe sound kind _
  · refine store_turn_safe sound kind fun settlement done => ?_
    exact apply_follows sound done (by simp [code]) rfl

theorem dispatch_safe : (dispatch reads canister job).Safe canister := by
  unfold dispatch
  split
  · exact failed_safe sound kind _
  · exact failed_safe sound kind _
  · split
    · refine store_safe sound kind fun settlement done => ?_
      have follows : Follows canister (canister.withSettlement settlement) :=
        .ofChange sound (dispatchSignature_change done) trivial nofun
      exact ⟨follows, await_safe follows.sound kind (linked_of_key kind _ rfl)⟩
    · exact stopped_safe sound kind _ _

theorem install_safe (signature : List UInt8) :
    (install reads canister job signature).Safe canister := by
  unfold install
  split
  · exact failed_safe sound kind _
  · exact failed_safe sound kind _
  · split
    · split
      · exact failed_safe sound kind _
      · exact failed_safe sound kind _
      · exact rest_safe sound kind rfl (by simp [code]) _
    · exact stopped_safe sound kind _ _

theorem revalidated_safe {next : Advance} (safe : next.Safe canister)
    (result : Except SettlementStopReason AuthorizationRevalidation) :
    (revalidated reads canister job result next).Safe canister := by
  unfold revalidated
  split
  · exact whileCurrent_safe sound kind fun _ => safe
  · exact deferred_safe sound kind _
  · exact stopped_safe sound kind _ _
  · exact stopped_safe sound kind _ _

omit kind in
theorem resolveFound_follows {hold : ReconciliationHoldRecord} {written : SettlementStore}
    (done : canister.settlement.resolveFound hold block target = .ok written) :
    Follows canister (canister.withSettlement written) := by
  have same : Follows canister (canister.withSettlement canister.settlement) := .refl sound
  unfold resolveFound at done
  split at done
  · rcases resolveDepositHoldAndScan_change done with rfl | change
    · exact same
    · exact .ofChange sound change trivial nofun
  · rcases resolveDepositHoldAndScan_change done with rfl | change
    · exact same
    · exact .ofChange sound change trivial nofun
  · rcases resolveWithdrawalHoldAndScan_change done with rfl | change
    · exact same
    · exact .ofChange sound change trivial nofun

omit kind in
theorem resolveAbsent_follows {config : BridgeConfig} {hold : ReconciliationHoldRecord}
    {written : SettlementStore} {id : Bytes32}
    (row : (canister.jobs.jobs.lookup ⟨.deposit, id⟩).isSome = true)
    (own : hold.request = .depositFunding id ∨ hold.request = .depositRefund id)
    (done : canister.settlement.resolveAbsent config now hold transfer watermark = .ok written) :
    Follows canister (canister.withSettlement written) := by
  have same : Follows canister (canister.withSettlement canister.settlement) := .refl sound
  unfold resolveAbsent at done
  rcases own with own | own <;> simp only [own] at done <;>
    rcases resolveDepositHoldAndScan_change done with rfl | change
  · exact same
  · exact .ofChange sound change trivial nofun
  · exact same
  · refine .ofChange sound change (fun _ _ => trivial) fun other opened => ?_
    cases opened
    exact row

theorem scanned_safe {config : BridgeConfig} {hold : ReconciliationHoldRecord}
    (row : (canister.jobs.jobs.lookup ⟨.deposit, job.key.settlementId⟩).isSome = true)
    (own : ∀ current, canister.settlement.holds.get hold.id = some current →
      current.request = .depositFunding job.key.settlementId ∨
        current.request = .depositRefund job.key.settlementId) (outcome : ReconciliationOutcome) :
    (scanned reads canister job config phase hold outcome).Safe canister := by
  unfold scanned
  split
  · exact stopped_safe sound kind _ _
  next saved =>
    refine store_safe sound kind fun settlement done => ?_
    rw [putReconciliationScan_ok done]
    have follows := Follows.ofScans sound (canister.settlement.scans.put saved)
    exact ⟨follows, .refl follows.sound, kind, nofun⟩
  · split
    · trivial
    · exact resolve_turn_safe kind fun _ done => resolveFound_follows sound done
  · split
    · exact ⟨.refl sound, kind, nofun⟩
    · split
      · trivial
      next current stored =>
        exact resolve_turn_safe kind fun _ done =>
          resolveAbsent_follows sound row (own current stored) done

theorem refunded_safe (row : (canister.jobs.jobs.lookup job.key).isSome = true)
    (attempt : TransferAttempt) (outcome : LedgerCallOutcome) :
    (refunded reads canister job attempt outcome).Safe canister := by
  have paid (block : Nat) : (store canister job (canister.settlement.applyDeposit
      job.key.settlementId (.refundSucceeded block))
      fun canister => turn reads canister job).Safe canister :=
    store_turn_safe sound kind fun _ done =>
      apply_follows sound done (by simp [code]) rfl
  unfold refunded
  split
  · exact paid _
  · exact paid _
  · refine store_safe sound kind fun settlement done => ?_
    have follows : Follows canister (canister.withSettlement settlement) := by
      refine .ofChange sound (parkDeposit_change done) trivial fun id opened => ?_
      cases opened
      rwa [show (⟨.deposit, job.key.settlementId⟩ : JobKey) = job.key by rw [← kind]]
    refine ⟨follows, complete_safe follows.sound kind (fun deposit found => ?_) _⟩
    exact parkRefund_rested done found
  · exact stopped_safe sound kind _ _
  · exact stopped_safe sound kind _ _

end Parts

theorem resume_safe {config : BridgeConfig} {task : DepositTask} (sound : canister.Sound)
    (linked : task.Linked canister) (answer : DepositAnswer) :
    (resume reads canister config task answer).Safe canister := by
  have kind := linked.kind
  have key : (⟨.deposit, task.job.key.settlementId⟩ : JobKey) = task.job.key := by rw [← kind]
  unfold resume
  split
  · exact failed_safe sound kind _
  · refine whileCurrent_safe sound kind fun _ => ?_
    split
    · exact commit_safe sound kind _ _ _
    · exact rest_safe sound kind rfl (by simp [code]) _
    · exact stopped_safe sound kind _ _
  · exact revalidated_safe sound kind (dispatch_safe sound kind) _
  · exact failed_safe sound kind _
  · exact stopped_safe sound kind _ _
  · refine whileCurrent_safe sound kind fun _ => ?_
    split
    · exact stopped_safe sound kind _ _
    split
    · exact failed_safe sound kind _
    · exact await_safe sound kind (linked_of_key kind _ rfl)
  · exact revalidated_safe sound kind (install_safe sound kind _) _
  · refine whileCurrent_safe sound kind fun _ => ?_
    split
    · exact resolve_turn_safe kind fun _ done => resolveFound_follows sound done
    · exact stopped_safe sound kind _ _
  next found _ _ waits =>
    refine whileCurrent_safe sound kind fun row => ?_
    refine scanned_safe sound kind (key ▸ row) (fun current stored => ?_) _
    obtain ⟨own, held, agreed, request⟩ := linked.hold found (by rw [waits]; rfl)
    cases agreed.symm.trans stored
    exact request ▸ own
  · exact whileCurrent_safe sound kind fun row => refunded_safe sound kind row _ _
  · trivial

end Advance

theorem Scheduler.retryOrPark_stays (now : Nat) (job : SettlementJob) (interval : Nat)
    (detail : String) (reason : Option String) (row : JobRow) :
    finishedRow row (retryOrPark now job interval detail reason) ≠ none := by
  intro deleted
  obtain ⟨noError, noTime⟩ := finishedRow_eq_none.mp deleted
  simp only [retryOrPark] at noError noTime
  split at noError
  next retried =>
    rw [if_pos retried] at noTime
    cases noTime
  · cases noError

theorem Scheduler.depositBusy_stays (now : Nat) (store : JobStore) (job : SettlementJob)
    (row : JobRow) : finishedRow row (depositBusy now store job) ≠ none := by
  unfold depositBusy
  split <;> exact nofun

theorem Scheduler.depositOutcome_deletes {store : JobStore} {job : SettlementJob}
    (deleted : finishedRow row (depositOutcome now interval store job result) = none) :
    ∃ state, result = .ok (.complete state) := by
  unfold depositOutcome at deleted
  split at deleted
  · split at deleted
    · exact absurd deleted (retryOrPark_stays _ _ _ _ _ _)
    · cases deleted
  · cases deleted
  · cases deleted
  · exact ⟨_, rfl⟩
  · exact absurd deleted (depositBusy_stays _ _ _ _)
  · exact absurd deleted (retryOrPark_stays _ _ _ _ _ _)
  · cases deleted

theorem JobStore.finish_rows (store : JobStore) (job : SettlementJob) (outcome : JobOutcome)
    (key : JobKey) (present : (store.jobs.lookup key).isSome = true) :
    ((store.finish job outcome).jobs.lookup key).isSome = true ∨
      key = job.key ∧ ∃ row, finishedRow row outcome = none := by
  rcases store.finish_cases job outcome with same | ⟨row, stopReasons, _, settled⟩
  · rw [same]
    exact .inl present
  rw [settled]
  cases left : finishedRow row outcome with
  | some parked => exact .inl (lookup_insert_isSome _ _ present)
  | none =>
    by_cases named : key = job.key
    · exact .inr ⟨named, row, left⟩
    · refine .inl ?_
      simp only [withoutJob]
      rwa [AList.lookup_erase_ne named]

namespace SettlementCanister

variable {canister before : SettlementCanister}

theorem settle_sound {advance : Advance} (sound : before.Sound) (safe : advance.Safe before) :
    (before.settle interval now advance).1.Sound ∧
      before.settlement.HoldsKept (before.settle interval now advance).1.settlement ∧
      ∀ task, (before.settle interval now advance).2 = some task →
        task.Linked (before.settle interval now advance).1 := by
  cases advance with
  | traps =>
    refine ⟨sound, .refl _, fun task same => ?_⟩
    cases same
  | waits written task =>
    refine ⟨safe.1.sound, safe.1.holds, fun other same => ?_⟩
    cases same
    exact safe.2
  | returns written job result =>
    obtain ⟨follows, kind, completes⟩ := safe
    refine ⟨⟨follows.sound.held, fun id deposit found works => ?_⟩, follows.holds,
      fun task same => by cases same⟩
    have row := follows.sound.tended id deposit found works
    rcases written.jobs.finish_rows job _ _ row with kept | ⟨named, finished, deleted⟩
    · exact kept
    · obtain ⟨state, complete⟩ := Scheduler.depositOutcome_deletes deleted
      have idle := completes state complete
      rw [← named] at idle
      rw [idle deposit found] at works
      cases works

end SettlementCanister

end KinicBridge
