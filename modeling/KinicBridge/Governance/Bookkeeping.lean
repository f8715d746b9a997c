import KinicBridge.Base.Supply
import KinicBridge.Governance.Moves

/-! The pending timelock operation, the pending rotation and the cancellation an emergency asks
for. Eight kinds of transactions write them when they are prepared, given up or completed. -/
namespace KinicBridge

open BridgeHistory GovernanceAdmission

namespace GovernanceAdmission

/-- A rotation and a cancellation are always of a pending operation. -/
structure Schedule.Kept (schedule : Schedule) : Prop where
  cancel : schedule.cancel = true → schedule.timelock.isSome = true
  rotation : schedule.rotation.isSome = true → schedule.timelock.isSome = true

namespace Schedule

variable {schedule : Schedule} {kind : GovernanceTransactionKind}

theorem Kept.prepared (kept : schedule.Kept) : (schedule.prepared kind).Kept := by
  cases kind with
  | scheduleActivation | scheduleControlPlaneRotation => exact ⟨fun _ => rfl, fun _ => rfl⟩
  | _ => exact kept

theorem Kept.withdrawn (kept : schedule.Kept)
    (exclusive : kind.isActivation = true → schedule.rotation = none) :
    (schedule.withdrawn kind).Kept := by
  cases kind with
  | scheduleActivation =>
    refine ⟨fun cancel => by contradiction, fun rotation => ?_⟩
    rw [Schedule.withdrawn, exclusive rfl] at rotation
    contradiction
  | scheduleControlPlaneRotation =>
    exact ⟨fun cancel => by contradiction, fun rotation => by contradiction⟩
  | _ => exact kept

theorem Kept.completed (kept : schedule.Kept)
    (exclusive : kind.isActivation = true → schedule.rotation = none) :
    (schedule.completed kind confirmed).Kept := by
  have cleared : kind.isActivation = true →
      Schedule.Kept { schedule with timelock := none, cancel := false } := by
    intro activation
    refine ⟨fun cancel => by contradiction, fun rotation => ?_⟩
    rw [exclusive activation] at rotation
    contradiction
  have empty : Schedule.Kept ⟨none, none, false⟩ :=
    ⟨fun cancel => by contradiction, fun rotation => by contradiction⟩
  cases kind <;> cases confirmed <;> first | exact kept | exact empty | exact cleared rfl

theorem withdrawn_keeps {planned : ControlPlaneRotation}
    (pending : (schedule.withdrawn kind).rotation = some planned) :
    schedule.rotation = some planned := by
  cases kind <;> first | exact pending | contradiction

theorem completed_keeps {planned : ControlPlaneRotation}
    (pending : (schedule.completed kind confirmed).rotation = some planned) :
    schedule.rotation = some planned := by
  cases kind <;> cases confirmed <;> first | exact pending | contradiction

end Schedule

structure Scheduled (admission : GovernanceAdmission) : Prop where
  kept : admission.schedule.Kept
  exclusive : ∀ transaction, (admission.lane .governance).pending = some transaction →
    transaction.kind.isActivation = true → admission.schedule.rotation = none

variable {admission next : GovernanceAdmission} {tx : GovernanceTransaction}

theorem activation_lane {kind : GovernanceTransactionKind} (activation : kind.isActivation = true) :
    kind.nonceLane = .governance := by
  cases kind <;> first | rfl | contradiction

theorem Scheduled.excludes (scheduled : admission.Scheduled)
    (pending : (admission.lane tx.kind.nonceLane).pending = some held)
    (same : held.kind = tx.kind) (activation : tx.kind.isActivation = true) :
    admission.schedule.rotation = none := by
  rw [activation_lane activation] at pending
  exact scheduled.exclusive held pending (by rw [same]; exact activation)

theorem Scheduled.of_fewer (scheduled : admission.Scheduled) (kept : next.schedule.Kept)
    (fewer : ∀ held, (next.lane .governance).pending = some held →
      ∃ before, (admission.lane .governance).pending = some before ∧ before.kind = held.kind)
    (kept_rotation : ∀ planned, next.schedule.rotation = some planned →
      admission.schedule.rotation = some planned) : next.Scheduled := by
  refine ⟨kept, fun held pending activation => ?_⟩
  obtain ⟨before, pending, same⟩ := fewer held pending
  have unrotated := scheduled.exclusive before pending (by rw [same]; exact activation)
  refine Option.eq_none_iff_forall_ne_some.mpr fun planned present => ?_
  rw [kept_rotation planned present] at unrotated
  contradiction

theorem Opened.scheduled {lane : GovernanceNonceLane} (opens : admission.Opened lane nonce next)
    (scheduled : admission.Scheduled) : next.Scheduled := by
  refine scheduled.of_fewer (opens.schedule ▸ scheduled.kept) (fun held pending => ?_)
    (fun _ planned => opens.schedule ▸ planned)
  exact ⟨held, opens.pending.symm.trans pending, rfl⟩

/-- A scheduled activation finds no rotation because the store checks it, an execution because
it was checked when it was encoded. -/
theorem Prepared.scheduled (prepares : admission.Prepared tx next)
    (encoded : ∀ operation, tx.kind = .executeActivation operation →
      admission.schedule.rotation = none) (scheduled : admission.Scheduled) : next.Scheduled := by
  refine ⟨prepares.schedule ▸ scheduled.kept.prepared, fun held pending activation => ?_⟩
  rw [prepares.schedule]
  rcases prepares.pending_cases pending with ⟨_, rfl⟩ | ⟨other, pending⟩
  · have allowed := prepares.allowed
    cases kind : held.kind with
    | scheduleActivation operation =>
      rw [kind, prepareAllowed, Bool.and_eq_true, Option.isNone_iff_eq_none,
        Option.isNone_iff_eq_none] at allowed
      exact allowed.2
    | executeActivation operation => exact encoded operation kind
    | _ =>
      rw [kind] at activation
      contradiction
  · have unrotated := scheduled.exclusive held pending activation
    cases kind : tx.kind with
    | scheduleControlPlaneRotation => exact absurd (kind ▸ rfl) other
    | _ => exact unrotated

theorem Updated.scheduled (updates : admission.Updated tx next)
    (held : (admission.lane tx.kind.nonceLane).pending = some before)
    (same : before.kind = tx.kind) (scheduled : admission.Scheduled) : next.Scheduled := by
  refine scheduled.of_fewer (updates.schedule ▸ scheduled.kept) (fun after pending => ?_)
    (fun _ planned => updates.schedule ▸ planned)
  rcases updates.pending_cases pending with ⟨own, rfl⟩ | ⟨_, pending⟩
  · exact ⟨before, own ▸ held, same⟩
  · exact ⟨after, pending, rfl⟩

theorem Aborted.scheduled (aborts : admission.Aborted tx next)
    (scheduled : admission.Scheduled) : next.Scheduled := by
  have excludes := scheduled.excludes aborts.pending rfl
  refine scheduled.of_fewer (aborts.schedule ▸ scheduled.kept.withdrawn excludes)
    (fun held pending => ⟨held, (aborts.still_pending pending).2, rfl⟩) (fun _ planned => ?_)
  rw [aborts.schedule] at planned
  exact Schedule.withdrawn_keeps planned

end GovernanceAdmission

theorem GovernanceStore.Completes.scheduled {store next : GovernanceStore}
    {tx : GovernanceTransaction} (completes : store.Completes tx next)
    (scheduled : store.admission.Scheduled) : next.admission.Scheduled := by
  obtain ⟨held, pending, _, same, _⟩ := completes.pending
  have excludes := scheduled.excludes pending same
  refine scheduled.of_fewer (completes.schedule ▸ scheduled.kept.completed excludes)
    (fun after pending => ⟨after, (completes.still_pending pending).2, rfl⟩) (fun _ planned => ?_)
  rw [completes.schedule] at planned
  exact Schedule.completed_keeps planned

namespace GovernanceWorld

variable {params : GovernanceParameters} {config : GovernanceConfig}
  {world next : GovernanceWorld} {command : GovernanceCommand}

theorem Moves.scheduled (moves : Moves params config world command next)
    (consistent : Consistent config world) (scheduled : world.store.admission.Scheduled) :
    next.store.admission.Scheduled := by
  cases moves with
  | opened inFlight opens => exact opens.scheduled scheduled
  | prepared inFlight opens prepares =>
    refine prepares.scheduled (fun operation kind => ?_) (opens.scheduled scheduled)
    have encodes := (consistent.fits _ inFlight).2.2.2.1
    rw [kind] at encodes
    rw [opens.schedule]
    exact encodes
  | generated held safe fresh updates => exact updates.scheduled held rfl scheduled
  | aborted aborts => exact aborts.scheduled scheduled
  | completed inFlight observed receipt postcondition authority completes =>
    exact completes.scheduled scheduled
  | emergency tip paused =>
    exact ⟨⟨fun cancel => cancel, scheduled.kept.rotation⟩, scheduled.exclusive⟩
  | _ => exact scheduled

theorem Initial.scheduled (initial : Initial config world) : world.store.admission.Scheduled := by
  have calm := initial.calm.1
  rw [emergencyBaseActionsPending, Bool.or_eq_false_iff] at calm
  refine ⟨⟨fun cancel => ?_, fun rotation => ?_⟩, fun tx pending => ?_⟩
  · exact absurd cancel (Bool.eq_false_iff.mp calm.2)
  · rw [schedule, initial.unscheduled.2] at rotation
    contradiction
  · rw [initial.unused] at pending
    contradiction

/-- In every reachable world a cancellation and a rotation are of a pending operation, and the
next emergency action can be named. -/
theorem pending_operations_consistent
    (reached : Reachable params config allowed world) :
    (world.store.admission.emergencyCancelRequired = true →
      world.store.admission.pendingTimelockOperation.isSome = true) ∧
    (world.store.admission.pendingControlPlaneRotation.isSome = true →
      world.store.admission.pendingTimelockOperation.isSome = true) ∧
    ∃ action, world.store.admission.nextEmergencyBaseAction = .ok action := by
  obtain ⟨_, kept, _⟩ := reached.invariant (fun _ => Initial.scheduled)
    fun _ _ _ consistent _ moves => moves.scheduled consistent
  refine ⟨kept.cancel, kept.rotation, ?_⟩
  unfold GovernanceAdmission.nextEmergencyBaseAction
  split
  · exact ⟨_, rfl⟩
  split
  · exact ⟨_, rfl⟩
  split
  next cancel =>
    obtain ⟨operation, pending⟩ := Option.isSome_iff_exists.mp (kept.cancel cancel)
    simp only [GovernanceAdmission.schedule] at pending
    rw [pending]
    exact ⟨_, rfl⟩
  · exact ⟨_, rfl⟩

/-! A canister with its keys next to its contracts, for runs that show what can happen. -/

def sampleParameters : GovernanceParameters where
  bridge := 1
  bsns := 2
  erc20 := .lenient
  baseAdminTimelock := 3
  minServiceFee := 1
  maxServiceFee := 100
  perDepositLimit := 1000
  mintWindowLimit := 1000
  mintWindowDuration := 3600
  limits_nonzero := sampleBridge.limits_nonzero
  fees_ordered := sampleBridge.fees_ordered
  fits := sampleBridge.fits
  duration_bounded := sampleBridge.duration_bounded
  controller := .lenient
  minimumDelay := 0
  activationDelay := 0

def sampleLane : GovernanceNonceLane → Nat
  | .governance => 11
  | .runtimeAdministrator => 12
  | .independentCanceller => 13

def sampleConfig : GovernanceConfig where
  baseChainId := 8453
  bridgeContract := 1
  timelockContract := 3
  confirmationRelayerPrincipal := [3]
  expectedMinimumServiceFee := 1
  maxFeePerGasCeiling := 1000
  maxPriorityFeePerGasCeiling := 1000
  gasLimitCeiling := 1000
  feeBumpBps := 1000
  maxReplacements := 2
  activationOperation := fun id => ⟨BitVec.ofNat 256 (100 + id), 0⟩
  rotationOperation := fun rotation => ⟨BitVec.ofNat 256 (1000 + rotation.generation), 0⟩
  calldata := fun
    | .pauseDepositMints => [0]
    | .pauseWithdrawals => [1]
    | .setServiceFee _ => [2]
    | .cancelTimelock _ => [3]
    | .scheduleActivation _ => [4]
    | .executeActivation _ => [5]
    | .scheduleControlPlaneRotation .. => [6]
    | .executeControlPlaneRotation .. => [7]
  sha256 := fun _ => 0
  bridgeSigner := fun generation => BitVec.ofNat 160 (10 + 10 * generation)
  operator := fun generation lane => BitVec.ofNat 160 (10 * generation + sampleLane lane)

def sampleBase : GovernanceBase where
  bridge := .deployed 0 10 12 10
  timelock := ⟨fun _ => .unset, 11, 11, 13⟩
  counts := fun _ => 0
  receipts := fun _ => none

def sampleStart : GovernanceWorld where
  store := {
    admission := {
      lanes := fun _ => ⟨false, 0, none, none⟩
      nextGovernanceOperationId := 0
      pendingTimelockOperation := none
      pendingControlPlaneRotation := none
      emergencyPauseDepositRequired := false
      emergencyPauseWithdrawalRequired := false
      emergencyCancelRequired := false
      controlPlaneKeyGeneration := 0
      operatorAddress := fun lane => some (sampleConfig.operator 0 lane)
      operationalConfigSealed := true
      bootstrapActivationController := none
      lastConfirmedActivation := none }
    admin := ⟨true, [2], [1], ⟨[5], []⟩⟩ }
  flow := none
  reading := none
  controllers := []
  now := 0
  chain := .start ⟨0, sampleBase⟩
  signed := []
  prepared := []
  emergency := none

theorem sampleStart_initial : Initial sampleConfig sampleStart where
  idle := ⟨rfl, rfl⟩
  unused := fun _ => rfl
  unscheduled := ⟨rfl, rfl⟩
  calm := ⟨rfl, rfl⟩
  generation := rfl
  keys := fun _ _ known => (Option.some.inj known).symm
  paused := rfl
  unsigned := ⟨rfl, rfl⟩
  deployed := ⟨⟨0, sampleBase⟩, rfl, rfl, rfl, fun _ => rfl, fun _ => rfl⟩

theorem sampleStart_reaches
    (ran : (sampleStart.run sampleParameters sampleConfig allowed commands).any facts = true) :
    ∃ world, Reachable sampleParameters sampleConfig allowed world ∧ facts world = true := by
  obtain ⟨world, ran, holds⟩ := (Option.any_eq_true _ _).mp ran
  exact ⟨world, .run (.initial sampleStart_initial) ran, holds⟩

def prepareCommands (caller : Principal) (action : GovernanceAction) : List GovernanceCommand :=
  [.call caller (.prepare action), .read, .answer .observed, .read, .answer .observed,
    .answer .done, .answer .done]

/-- A rotation is scheduled and an emergency is declared before it is signed. -/
theorem pending_operations_consistent_rotation :
    ∃ world, Reachable sampleParameters sampleConfig anyCommand world ∧
      world.store.admission.pendingControlPlaneRotation.isSome = true ∧
      world.store.admission.emergencyCancelRequired = true ∧
      world.store.admission.pendingTimelockOperation.isSome = true := by
  have ran : (sampleStart.run sampleParameters sampleConfig anyCommand
      (prepareCommands [1] .scheduleControlPlaneRotation ++ [.emergencyPause [2]])).any
      (fun world => world.store.admission.pendingControlPlaneRotation.isSome &&
        world.store.admission.emergencyCancelRequired) = true := by decide +kernel
  obtain ⟨world, reached, facts⟩ := sampleStart_reaches ran
  rw [Bool.and_eq_true] at facts
  exact ⟨world, reached, facts.1, facts.2, (pending_operations_consistent reached).1 facts.2⟩

end GovernanceWorld

end KinicBridge
