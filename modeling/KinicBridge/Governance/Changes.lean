import KinicBridge.Governance.Flows

/-! What a successful transaction of the governance store has checked and written. Later
arguments split on these lemmas and never unfold the store's functions. -/
namespace KinicBridge

open GovernanceAdmission GovernanceTransaction

namespace GovernanceAdmission

variable {admission next : GovernanceAdmission} {tx : GovernanceTransaction}

section

variable (admission : GovernanceAdmission)

@[simp] theorem lane_setLane (lane other : GovernanceNonceLane) (state : LaneState) :
    (admission.setLane lane state).lane other =
      if other = lane then state else admission.lane other := by
  simp [setLane, GovernanceAdmission.lane, Function.update_apply]

/-- The part of the admission that nonces and lanes have nothing to do with. -/
structure Schedule where
  timelock : Option PendingTimelockOperation
  rotation : Option ControlPlaneRotation
  cancel : Bool
  deriving DecidableEq

def schedule : Schedule :=
  ⟨admission.pendingTimelockOperation, admission.pendingControlPlaneRotation,
    admission.emergencyCancelRequired⟩

/-- The part that only a finished rotation or activation changes, and an emergency. -/
structure Standing where
  pauseDeposit : Bool
  pauseWithdrawal : Bool
  generation : Nat
  operators : GovernanceNonceLane → Option Bytes20
  configured : Bool
  bootstrap : Option Principal

def standing : Standing :=
  ⟨admission.emergencyPauseDepositRequired, admission.emergencyPauseWithdrawalRequired,
    admission.controlPlaneKeyGeneration, admission.operatorAddress,
    admission.operationalConfigSealed, admission.bootstrapActivationController⟩

def Schedule.prepared (schedule : Schedule) : GovernanceTransactionKind → Schedule
  | .scheduleActivation operation => { schedule with timelock := some operation }
  | .scheduleControlPlaneRotation operation rotation =>
    { schedule with timelock := some operation, rotation := some rotation }
  | _ => schedule

theorem recordScheduled_eq (kind : GovernanceTransactionKind) :
    (admission.recordScheduled kind).lanes = admission.lanes ∧
      (admission.recordScheduled kind).schedule = admission.schedule.prepared kind ∧
      (admission.recordScheduled kind).standing = admission.standing := by
  cases kind <;> exact ⟨rfl, rfl, rfl⟩

end

structure Prepared (admission : GovernanceAdmission) (transaction : GovernanceTransaction)
    (next : GovernanceAdmission) : Prop where
  initialized : (admission.lane transaction.kind.nonceLane).initialized = true
  free : (admission.lane transaction.kind.nonceLane).pending = none
  id : transaction.id = admission.nextGovernanceOperationId
  nonce : transaction.envelope.nonce = (admission.lane transaction.kind.nonceLane).nextNonce
  allowed : admission.prepareAllowed transaction.kind = true
  lanes : ∀ lane, next.lane lane = if lane = transaction.kind.nonceLane then
    ⟨true, transaction.envelope.nonce + 1, some transaction,
      (admission.lane transaction.kind.nonceLane).completed⟩ else admission.lane lane
  ids : next.nextGovernanceOperationId = transaction.id + 1
  schedule : next.schedule = admission.schedule.prepared transaction.kind
  standing : next.standing = admission.standing

variable {lane : GovernanceNonceLane} {after : GovernanceTransaction}

theorem Prepared.pending_cases (prepares : admission.Prepared tx next)
    (pending : (next.lane lane).pending = some after) : (lane = tx.kind.nonceLane ∧ after = tx) ∨
      (lane ≠ tx.kind.nonceLane ∧ (admission.lane lane).pending = some after) := by
  rw [prepares.lanes] at pending
  split at pending
  · exact .inl ⟨‹_›, (Option.some.inj pending).symm⟩
  · exact .inr ⟨‹_›, pending⟩

theorem prepareGovernanceTransaction_ok
    (stored : admission.prepareGovernanceTransaction tx = .ok next) :
    Prepared admission tx next := by
  unfold prepareGovernanceTransaction at stored
  obtain ⟨checks, rest⟩ := thrown_ok.mp stored
  obtain ⟨allowed, rest⟩ := thrown_ok.mp rest
  obtain ⟨nextId, idStep, rest⟩ := found_ok.mp rest
  obtain ⟨nextNonce, nonceStep, rest⟩ := found_ok.mp rest
  cases pure_ok.mp rest
  simp only [not_or, Bool.not_eq_false, Option.not_isSome_iff_eq_none, not_not] at checks
  obtain ⟨initialized, free, id, nonce⟩ := checks
  obtain ⟨rfl, _⟩ := Checked.add_eq_some.mp idStep
  obtain ⟨rfl, _⟩ := Checked.add_eq_some.mp nonceStep
  obtain ⟨lanes, schedule, standing⟩ := recordScheduled_eq admission tx.kind
  refine ⟨initialized, free, id, nonce, Bool.of_not_eq_false allowed, fun lane => ?_, ?_,
    schedule, standing⟩
  · have others := lane_setLane (admission.recordScheduled tx.kind) tx.kind.nonceLane lane
    simp only [GovernanceAdmission.lane, lanes] at others
    rw [nonce]
    exact others _
  · rw [id]

structure Opened (admission : GovernanceAdmission) (lane : GovernanceNonceLane)
    (nonce : Nat) (next : GovernanceAdmission) : Prop where
  lanes : ∀ other, next.lane other =
    if other = lane ∧ (admission.lane lane).initialized = false then
      { admission.lane other with initialized := true, nextNonce := nonce }
    else admission.lane other
  ids : next.nextGovernanceOperationId = admission.nextGovernanceOperationId
  schedule : next.schedule = admission.schedule
  standing : next.standing = admission.standing

theorem Opened.pending {other : GovernanceNonceLane} (opens : admission.Opened lane nonce next) :
    (next.lane other).pending = (admission.lane other).pending := by
  rw [opens.lanes]
  split <;> rfl

theorem initializeGovernanceNonceFor_ok
    (opened : admission.initializeGovernanceNonceFor lane nonce = .ok next) :
    Opened admission lane nonce next := by
  unfold initializeGovernanceNonceFor at opened
  by_cases fresh : (admission.lane lane).initialized = false
  · simp only [fresh, if_true] at opened
    cases opened
    refine ⟨fun other => ?_, rfl, rfl, rfl⟩
    rw [lane_setLane]
    by_cases own : other = lane
    · simp [own, fresh]
    · simp [own]
  · simp only [fresh] at opened
    cases (guarded_ok.mp opened).2
    exact ⟨fun other => by simp [fresh], rfl, rfl, rfl⟩

theorem Opened.skipped (initialized : (admission.lane lane).initialized = true) :
    Opened admission lane nonce admission :=
  ⟨fun other => by simp [initialized], rfl, rfl, rfl⟩

/-- The pending transaction of a lane is replaced by one with the same id and nonce. -/
structure Updated (admission : GovernanceAdmission) (transaction : GovernanceTransaction)
    (next : GovernanceAdmission) : Prop where
  lanes : ∀ lane, next.lane lane = if lane = transaction.kind.nonceLane then
    { admission.lane lane with pending := some transaction } else admission.lane lane
  ids : next.nextGovernanceOperationId = admission.nextGovernanceOperationId
  schedule : next.schedule = admission.schedule
  standing : next.standing = admission.standing

theorem Updated.pending_cases
    (updates : admission.Updated tx next) (pending : (next.lane lane).pending = some after) :
    (lane = tx.kind.nonceLane ∧ after = tx) ∨
      (lane ≠ tx.kind.nonceLane ∧ (admission.lane lane).pending = some after) := by
  rw [updates.lanes] at pending
  split at pending
  · exact .inl ⟨‹_›, (Option.some.inj pending).symm⟩
  · exact .inr ⟨‹_›, pending⟩

theorem updateGovernanceTransaction_ok
    (updated : admission.updateGovernanceTransaction tx = .ok next) :
    Updated admission tx next := by
  unfold updateGovernanceTransaction at updated
  dsimp only at updated
  split at updated
  · cases updated
    refine ⟨fun lane => ?_, rfl, rfl, rfl⟩
    rw [lane_setLane]
    by_cases own : lane = tx.kind.nonceLane
    · simp [own]
    · simp [own]
  · contradiction

def Schedule.withdrawn (schedule : Schedule) : GovernanceTransactionKind → Schedule
  | .scheduleActivation _ => { schedule with timelock := none, cancel := false }
  | .scheduleControlPlaneRotation .. => ⟨none, none, false⟩
  | _ => schedule

theorem withdrawScheduled_ok {kind : GovernanceTransactionKind}
    (withdrawn : admission.withdrawScheduled kind = .ok next) :
    next.lanes = admission.lanes ∧ next.schedule = admission.schedule.withdrawn kind ∧
      next.standing = admission.standing ∧
      next.nextGovernanceOperationId = admission.nextGovernanceOperationId := by
  cases kind with
  | scheduleActivation =>
    cases (guarded_ok.mp withdrawn).2
    exact ⟨rfl, rfl, rfl, rfl⟩
  | scheduleControlPlaneRotation =>
    cases (guarded_ok.mp withdrawn).2
    exact ⟨rfl, rfl, rfl, rfl⟩
  | _ =>
    cases withdrawn
    exact ⟨rfl, rfl, rfl, rfl⟩

structure Aborted (admission : GovernanceAdmission) (transaction : GovernanceTransaction)
    (next : GovernanceAdmission) : Prop where
  pending : (admission.lane transaction.kind.nonceLane).pending = some transaction
  unsigned : transaction.state = .prepared
  dangerous : transaction.kind.dangerous = true
  emergency : admission.emergencyBaseActionsPending = true
  nonce : (admission.lane transaction.kind.nonceLane).nextNonce = transaction.envelope.nonce + 1
  lanes : ∀ lane, next.lane lane = if lane = transaction.kind.nonceLane then
    ⟨true, transaction.envelope.nonce, none, some transaction⟩ else admission.lane lane
  ids : next.nextGovernanceOperationId = admission.nextGovernanceOperationId
  schedule : next.schedule = admission.schedule.withdrawn transaction.kind
  standing : next.standing = admission.standing

theorem Aborted.still_pending
    (aborts : admission.Aborted tx next) (pending : (next.lane lane).pending = some after) :
    lane ≠ tx.kind.nonceLane ∧ (admission.lane lane).pending = some after := by
  rw [aborts.lanes] at pending
  split at pending
  · contradiction
  · exact ⟨‹_›, pending⟩

theorem abortPreparedGovernanceTransactionForEmergency_ok
    (aborted : admission.abortPreparedGovernanceTransactionForEmergency tx = .ok next) :
    Aborted admission tx next := by
  unfold abortPreparedGovernanceTransactionForEmergency at aborted
  obtain ⟨emergency, rest⟩ := thrown_ok.mp aborted
  obtain ⟨nextNonce, nonceStep, rest⟩ := found_ok.mp rest
  obtain ⟨checks, rest⟩ := thrown_ok.mp rest
  obtain ⟨withdrawn, withdraws, rfl⟩ := returned_ok.mp rest
  simp only [not_or, Bool.not_eq_false, not_not] at checks
  obtain ⟨pending, unsigned, dangerous, nonce⟩ := checks
  obtain ⟨rfl, _⟩ := Checked.add_eq_some.mp nonceStep
  obtain ⟨lanes, schedule, standing, ids⟩ := withdrawScheduled_ok withdraws
  refine ⟨pending, unsigned, dangerous, Bool.of_not_eq_false emergency, nonce, fun lane => ?_,
    ids, schedule, standing⟩
  have others := lane_setLane withdrawn tx.kind.nonceLane lane
  simp only [GovernanceAdmission.lane, lanes] at others
  exact others _

end GovernanceAdmission

section

variable (transaction : GovernanceTransaction)

def GovernanceTransaction.rotates : Option ControlPlaneRotation :=
  match transaction.kind, transaction.isConfirmed with
  | .executeControlPlaneRotation _ rotation, true => some rotation
  | _, _ => none

def GovernanceTransaction.activates : Bool :=
  match transaction.kind, transaction.isConfirmed with
  | .executeActivation _, true => true
  | _, _ => false

end

namespace GovernanceAdmission

variable {admission next : GovernanceAdmission} {tx : GovernanceTransaction}

def Schedule.completed (schedule : Schedule) (kind : GovernanceTransactionKind)
    (confirmed : Bool) : Schedule :=
  match kind, confirmed with
  | .cancelTimelock _, true | .scheduleControlPlaneRotation .., false
  | .executeControlPlaneRotation .., true => ⟨none, none, false⟩
  | .scheduleActivation _, false | .executeActivation _, true =>
    { schedule with timelock := none, cancel := false }
  | _, _ => schedule

def Standing.completed (standing : Standing) (kind : GovernanceTransactionKind)
    (confirmed : Bool) : Standing :=
  match kind, confirmed with
  | .pauseDepositMints, true => { standing with pauseDeposit := false }
  | .pauseWithdrawals, true => { standing with pauseWithdrawal := false }
  | .executeActivation _, true => { standing with bootstrap := none }
  | .executeControlPlaneRotation _ rotation, true =>
    { standing with
      generation := rotation.generation
      operators := fun
        | .governance => some rotation.governanceOperator
        | .runtimeAdministrator => some rotation.runtimeAdministrator
        | .independentCanceller => some rotation.independentCanceller }
  | _, _ => standing

section

variable (admission : GovernanceAdmission)

theorem recordOutcome_eq (tx : GovernanceTransaction) : (admission.recordOutcome tx).lanes =
        (if tx.rotates.isSome then fun lane => resetNonce (admission.lanes lane)
          else admission.lanes) ∧
      (admission.recordOutcome tx).schedule = admission.schedule.completed tx.kind tx.isConfirmed ∧
      { (admission.recordOutcome tx).standing with
        bootstrap := if tx.activates then none
          else admission.bootstrapActivationController } =
        admission.standing.completed tx.kind tx.isConfirmed ∧
      (admission.recordOutcome tx).bootstrapActivationController =
        admission.bootstrapActivationController ∧
      (admission.recordOutcome tx).nextGovernanceOperationId =
        admission.nextGovernanceOperationId := by
  refine ⟨?_, ?_, ?_, ?_, ?_⟩ <;>
    cases kind : tx.kind <;> cases confirmed : tx.isConfirmed <;>
    simp only [recordOutcome, rotates, activates, kind, confirmed] <;> rfl

def completedLane (transaction : GovernanceTransaction) (lane : GovernanceNonceLane) : LaneState :=
  let freed := if lane = transaction.kind.nonceLane then
    { admission.lane lane with pending := none, completed := some transaction }
    else admission.lane lane
  if transaction.rotates.isSome then resetNonce freed else freed

end

@[simp] theorem completedLane_pending (lane : GovernanceNonceLane) :
    (admission.completedLane tx lane).pending =
      if lane = tx.kind.nonceLane then none else (admission.lane lane).pending := by
  unfold completedLane
  by_cases own : lane = tx.kind.nonceLane <;>
    cases tx.rotates <;> simp [own, resetNonce]

@[simp] theorem completedLane_completed (lane : GovernanceNonceLane) :
    (admission.completedLane tx lane).completed = if lane = tx.kind.nonceLane then some tx
        else (admission.lane lane).completed := by
  unfold completedLane
  by_cases own : lane = tx.kind.nonceLane <;>
    cases tx.rotates <;> simp [own, resetNonce]

structure Completed (admission : GovernanceAdmission) (transaction : GovernanceTransaction)
    (next : GovernanceAdmission) : Prop where
  pending : ∃ held, (admission.lane transaction.kind.nonceLane).pending = some held ∧
    held.id = transaction.id ∧ held.kind = transaction.kind ∧
    held.envelope = transaction.envelope
  agrees : admission.completionMismatch transaction = false
  lanes : ∀ lane, next.lane lane = admission.completedLane transaction lane
  ids : next.nextGovernanceOperationId = admission.nextGovernanceOperationId
  schedule : next.schedule = admission.schedule.completed transaction.kind transaction.isConfirmed
  standing : { next.standing with
    bootstrap := if transaction.activates then none else admission.bootstrapActivationController } =
      admission.standing.completed transaction.kind transaction.isConfirmed
  bootstrap : next.bootstrapActivationController = admission.bootstrapActivationController

theorem applyGovernanceCompletion_ok (applied : admission.applyGovernanceCompletion tx = .ok next) :
    Completed admission tx next := by
  unfold applyGovernanceCompletion at applied
  obtain ⟨pending, rest⟩ := thrown_ok.mp applied
  obtain ⟨_, rest⟩ := thrown_ok.mp rest
  obtain ⟨agrees, rest⟩ := thrown_ok.mp rest
  obtain ⟨activation, _, rfl⟩ := returned_ok.mp rest
  obtain ⟨lanes, schedule, standing, bootstrap, ids⟩ := recordOutcome_eq
    { admission.setLane tx.kind.nonceLane
      { admission.lane tx.kind.nonceLane with
        pending := none, completed := some tx } with
      lastConfirmedActivation := activation.orElse fun _ => admission.lastConfirmedActivation }
    tx
  refine ⟨?_, Bool.of_not_eq_true agrees, fun lane => ?_, ids, schedule, standing, bootstrap⟩
  · have pending := not_not.mp pending
    cases present : (admission.lane tx.kind.nonceLane).pending with
    | none =>
      rw [present] at pending
      contradiction
    | some held =>
      rw [present] at pending
      exact ⟨held, rfl, of_decide_eq_true pending⟩
  · refine (congrFun lanes lane).trans ?_
    by_cases own : lane = tx.kind.nonceLane
    · subst own
      cases rotated : tx.rotates <;> simp [completedLane, setLane, rotated]
    · cases rotated : tx.rotates <;>
        simp [completedLane, setLane, own, GovernanceAdmission.lane, rotated]

end GovernanceAdmission

namespace GovernanceStore

@[simp] theorem withReceipt_isConfirmed (tx : GovernanceTransaction) (hash : Bytes32)
    (succeeded : Bool) (block : Nat) :
    (withReceipt tx hash succeeded block).isConfirmed = succeeded := by
  cases succeeded <;> rfl

variable {store next : GovernanceStore} {tx : GovernanceTransaction}

/-- A confirmed activation also ends the bootstrap and may resume deposits; nothing else
touches the administrator's state. -/
structure Completes (store : GovernanceStore) (transaction : GovernanceTransaction)
    (next : GovernanceStore) : Prop where
  pending : ∃ held, (store.admission.lane transaction.kind.nonceLane).pending = some held ∧
    held.id = transaction.id ∧ held.kind = transaction.kind ∧
    held.envelope = transaction.envelope
  agrees : store.admission.completionMismatch transaction = false
  lanes : ∀ lane, next.admission.lane lane = store.admission.completedLane transaction lane
  ids : next.admission.nextGovernanceOperationId = store.admission.nextGovernanceOperationId
  schedule : next.admission.schedule =
    store.admission.schedule.completed transaction.kind transaction.isConfirmed
  standing : next.admission.standing =
    store.admission.standing.completed transaction.kind transaction.isConfirmed
  admin : next.admin = if transaction.activates then
    { store.admin with depositsPaused := next.admission.emergencyBaseActionsPending }
    else store.admin

theorem Completes.still_pending {lane : GovernanceNonceLane} {after : GovernanceTransaction}
    (completes : store.Completes tx next)
    (pending : (next.admission.lane lane).pending = some after) :
    lane ≠ tx.kind.nonceLane ∧ (store.admission.lane lane).pending = some after := by
  rw [completes.lanes, completedLane_pending] at pending
  split at pending
  · contradiction
  · exact ⟨‹_›, pending⟩

theorem completeWithReceipt_ok (completed : store.completeWithReceipt tx = .ok next) :
    Completes store tx next := by
  unfold completeWithReceipt at completed
  split at completed
  next operation kind confirmed =>
    have activates : tx.activates = true := by
      simp [activates, kind, confirmed]
    unfold completeConfirmedActivationAndResumeIfClear at completed
    simp only [kind, confirmed] at completed
    obtain ⟨admission, applied, rest⟩ := bind_ok.mp completed
    obtain ⟨_, rest⟩ := thrown_ok.mp rest
    cases pure_ok.mp rest
    have done := applyGovernanceCompletion_ok applied
    have standing := done.standing
    rw [activates] at standing
    exact ⟨done.pending, done.agrees, done.lanes, done.ids, done.schedule, standing,
      by rw [activates]; rfl⟩
  next other =>
    have activates : tx.activates = false := by
      unfold activates
      split
      next operation kind confirmed =>
        exact absurd confirmed (other operation kind)
      · rfl
    obtain ⟨admission, applied, rfl⟩ := map_ok.mp completed
    have done := applyGovernanceCompletion_ok applied
    have standing := done.standing
    rw [activates, ← done.bootstrap] at standing
    exact ⟨done.pending, done.agrees, done.lanes, done.ids, done.schedule, standing,
      by rw [activates]; rfl⟩

end GovernanceStore

end KinicBridge
