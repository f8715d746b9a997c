import KinicBridge.Governance.FeeLadder
import KinicBridge.Settlement.FeeReserve

/-! Who is who. The relayer is fixed at installation; governance, pause principal and fee
recipient live in the administrators' state, where rotations and one migration write them. -/
namespace KinicBridge

open BridgeInitArgs Kernel Principal SettlementStore

namespace Kernel

inductive FeeRecipientRotationDecision where
  | allow
  | unauthorized
  | invalidInput
  | busy
  deriving DecidableEq

def feeRecipientRotationDecision (authorized anonymous roleCollision : Bool)
    (subaccountLength pendingPayoutDebit : Nat) : FeeRecipientRotationDecision :=
  if anonymous || !(subaccountLength == 0 || subaccountLength == 32) then .invalidInput
  else if !authorized then .unauthorized
  else if roleCollision then .invalidInput
  else if pendingPayoutDebit != 0 then .busy
  else .allow

inductive BootstrapPausePrincipalMigrationDecision where
  | apply
  | alreadyApplied
  | postBootstrapNoop
  | freshInstallNoop
  | reject
  deriving DecidableEq

def bootstrapPausePrincipalMigrationDecision (operationalConfigSealed depositsPaused pauseIsOld
    pauseIsNew markerUnbound markerIsNew rolesDistinct : Bool) :
    BootstrapPausePrincipalMigrationDecision :=
  if operationalConfigSealed then .postBootstrapNoop
  else if pauseIsNew && markerIsNew then .alreadyApplied
  else if depositsPaused && pauseIsNew && markerUnbound && rolesDistinct then .freshInstallNoop
  else if depositsPaused && pauseIsOld && markerUnbound && rolesDistinct then .apply
  else .reject

end Kernel

/-- lb5i5-ziaaa-aaaar-qcgwq-cai -/
def productionBridgeCanister : Principal := [0, 0, 0, 0, 2, 48, 17, 173, 1, 1]

/-- 7jkta-eyaaa-aaaaq-aaarq-cai -/
def legacyPausePrincipal : Principal := [0, 0, 0, 0, 2, 0, 0, 35, 1, 1]

/-- lqfvd-m7ihy-e5dvc-gngvr-blzbt-pupeq-6t7ua-r7v4p-bvqjw-ea7gl-4qe -/
def productionPausePrincipal : Principal :=
  [232, 62, 9, 209, 212, 70, 105, 171, 16, 175, 33, 155, 232, 242, 67, 211, 253, 1, 31, 215, 143,
    13, 96, 155, 16, 31, 50, 249, 2]

/-- The canister with what it was installed with. Of the installed roles only the relayer is
read again; the others are copied to the administrators' state. -/
structure RoleWorld where
  canister : Principal
  installed : BridgeInitArgs
  governance : GovernanceStore
  settlement : SettlementStore

namespace RoleWorld

variable (world : RoleWorld)

def admin : AdminState := world.governance.admin

def withAdmin (admin : AdminState) : RoleWorld :=
  { world with governance := { world.governance with admin } }

def config : BridgeInitArgs :=
  { world.installed with
    governancePrincipal := world.admin.governancePrincipal
    pausePrincipal := world.admin.pausePrincipal
    feeRecipient := world.admin.feeRecipient }

def initializeAdmin (args : BridgeInitArgs) : AdminState where
  depositsPaused := true
  pausePrincipal := args.pausePrincipal
  governancePrincipal := args.governancePrincipal
  feeRecipient := args.feeRecipient

def rotateFeeRecipient (caller : Principal) (next : FeeRecipientConfig) :
    Except AdminError RoleWorld :=
  if next.owner = anonymous ∨ ¬(next.subaccount.length = 0 ∨ next.subaccount.length = 32) then
    .error (.invalidArgument "invalid fee recipient")
  else match feeRecipientRotationDecision (world.admin.authorized caller .rotate)
      (next.owner == anonymous)
      (next.owner == world.admin.governancePrincipal || next.owner == world.admin.pausePrincipal ||
        next.owner == world.config.confirmationRelayerPrincipal)
      next.subaccount.length world.settlement.counters.pendingFeePayoutDebit with
  | .unauthorized => .error .unauthorized
  | .invalidInput => .error (.invalidArgument
      "fee recipient must not overlap governance, pause principal, or confirmation relayer")
  | .busy => .error .busy
  | .allow => .ok (world.withAdmin { world.admin with feeRecipient := next })

def migrateBootstrapPausePrincipal (oldPause newPause : Principal) :
    Except StorageError (RoleWorld × BootstrapPausePrincipalMigrationDecision) :=
  let marker := world.governance.admission.bootstrapActivationController
  let decision := bootstrapPausePrincipalMigrationDecision
    world.governance.admission.operationalConfigSealed world.admin.depositsPaused
    (world.admin.pausePrincipal == oldPause && world.config.pausePrincipal == oldPause)
    (world.admin.pausePrincipal == newPause)
    (marker.isNone || marker == some anonymous)
    (marker == some newPause)
    (newPause != world.admin.governancePrincipal && newPause != world.admin.feeRecipient.owner &&
      newPause != world.config.confirmationRelayerPrincipal)
  match decision with
  | .alreadyApplied | .freshInstallNoop | .postBootstrapNoop => .ok (world, decision)
  | .reject => .error (.core .conflictingReplay)
  | .apply => .ok ({ world with governance := {
      admission := { world.governance.admission with
        bootstrapActivationController := some newPause }
      admin := { world.admin with pausePrincipal := newPause } } }, .apply)

end RoleWorld

def GovernanceAdmission.migrateConfirmedActivationHistory (admission : GovernanceAdmission) :
    Except GovernanceStorageError GovernanceAdmission := do
  if admission.lastConfirmedActivation.isSome then return admission
  let record ← match (admission.lane .governance).completed with
    | none => pure none
    | some transaction => Checked.okOr .decodeFailed transaction.confirmedActivationRecord
  match record with
  | some record => return { admission with lastConfirmedActivation := some record }
  | none =>
    if admission.operationalConfigSealed ∧ admission.bootstrapActivationController = none then
      throw .decodeFailed
    return admission

namespace RoleWorld

/-- Only the production canister is migrated. -/
def applyProductionBootstrapPausePrincipalMigration (world : RoleWorld) : Except String RoleWorld :=
  if world.canister ≠ productionBridgeCanister then .ok world
  else match world.migrateBootstrapPausePrincipal legacyPausePrincipal productionPausePrincipal with
  | .ok (migrated, _) => .ok migrated
  | .error _ => .error "production bootstrap pause principal migration failed"

/-- An error is a trap, which undoes the whole upgrade. -/
def postUpgrade (world : RoleWorld) : Except String RoleWorld := do
  let migrated ← world.applyProductionBootstrapPausePrincipalMigration
  let admission ← migrated.governance.admission.migrateConfirmedActivationHistory.mapError
    (fun _ => "confirmed activation history migration failed")
  let upgraded := { migrated with governance := { migrated.governance with admission } }
  upgraded.config.validate.mapError ("invalid stable configuration: " ++ ·)
  return upgraded

structure Installs (args : BridgeInitArgs) (world : RoleWorld) : Prop where
  installed : world.installed = args
  admin : world.admin = initializeAdmin args
  settlement : world.settlement = .empty

/-- Everything that writes the administrators' state, the configuration or a fee payout. All
other governance work is any change of `GovernanceAdmission`. -/
inductive Step (bridge : BridgeConfig) (governance : GovernanceConfig) (world : RoleWorld) :
    RoleWorld → Prop where
  | pauseRotated (caller next : Principal)
      (relayer : governance.confirmationRelayerPrincipal =
        world.config.confirmationRelayerPrincipal)
      (done : world.governance.rotatePausePrincipal governance caller next = .ok written) :
      Step bridge governance world { world with governance := written }
  | recipientRotated (caller : Principal) (next : FeeRecipientConfig)
      (done : world.rotateFeeRecipient caller next = .ok written) :
      Step bridge governance world written
  | migrated (done : world.migrateBootstrapPausePrincipal legacyPausePrincipal
        productionPausePrincipal = .ok (written, decision)) :
      Step bridge governance world written
  | upgraded (done : world.postUpgrade = .ok written) : Step bridge governance world written
  | paused (caller : Principal) (done : world.admin.pause caller = .ok changed) :
      Step bridge governance world (world.withAdmin changed)
  | activated (transaction : GovernanceTransaction) (caller : Principal)
      (done : world.governance.completeConfirmedActivationAndResumeIfClear transaction caller =
        .ok written) :
      Step bridge governance world { world with governance := written }
  | governed (admission : GovernanceAdmission) :
      Step bridge governance world
        { world with governance := { world.governance with admission } }
  | configured (operational : OperationalConfigArgs) :
      Step bridge governance world
        { world with installed := { world.installed with
            governanceEvmFee := operational.governanceEvmFee
            cyclesFloor := operational.cyclesFloor
            settlementCycleCeiling := operational.settlementCycleCeiling } }
  | settled (done : SettlementStore.FeeStep bridge world.settlement written) :
      Step bridge governance world { world with settlement := written }

inductive Reaches (bridge : BridgeConfig) (governance : GovernanceConfig) (start : RoleWorld) :
    RoleWorld → Prop where
  | start : Reaches bridge governance start start
  | step (reached : Reaches bridge governance start world)
      (next : Step bridge governance world world') : Reaches bridge governance start world'

structure Separate (world : RoleWorld) : Prop where
  distinct : [world.admin.governancePrincipal, world.admin.pausePrincipal,
    world.installed.confirmationRelayerPrincipal, world.admin.feeRecipient.owner].Nodup
  known : anonymous ∉ [world.admin.governancePrincipal, world.admin.pausePrincipal,
    world.installed.confirmationRelayerPrincipal, world.admin.feeRecipient.owner]

theorem validateRoles_iff {args : BridgeInitArgs} : args.validateRoles = .ok () ↔
    [args.governancePrincipal, args.pausePrincipal, args.confirmationRelayerPrincipal,
      args.feeRecipient.owner].Nodup ∧ anonymous ∉ [args.governancePrincipal, args.pausePrincipal,
      args.confirmationRelayerPrincipal, args.feeRecipient.owner] ∧
    (args.feeRecipient.subaccount.length = 0 ∨ args.feeRecipient.subaccount.length = 32) := by
  simp only [validateRoles, confirmationRolesDistinct]
  constructor
  · intro valid
    obtain ⟨checked, _⟩ := guarded_ok.mp valid
    simp only [not_or, Bool.false_or, Bool.and_eq_false_iff, Bool.not_eq_false',
      beq_iff_eq, List.nodup_cons, List.mem_cons, List.not_mem_nil, or_false] at checked ⊢
    grind
  · rintro ⟨distinct, known, subaccount⟩
    refine guarded_ok.mpr ⟨?_, rfl⟩
    simp only [not_or, Bool.false_or, Bool.and_eq_false_iff, Bool.not_eq_false',
      beq_iff_eq, List.nodup_cons, List.mem_cons, List.not_mem_nil, or_false] at distinct known ⊢
    grind

end RoleWorld

namespace SettlementStore

def PayoutsPositive (store : SettlementStore) : Prop :=
  ∀ id payout, store.feePayouts.get id = some payout → payout.amount ≠ 0

variable {store written : SettlementStore} {id : Nat}

theorem PayoutsPositive.advanced (positive : store.PayoutsPositive)
    (done : store.transitionFeePayout id transition target = .ok written) :
    written.PayoutsPositive := by
  have dropped : (store.dropScan target).feePayouts = store.feePayouts := by
    cases target <;> rfl
  obtain ⟨previous, found, ⟨_, rfl⟩ | ⟨state, _, _, _, _, rfl⟩⟩ := transitionFeePayout_ok done
  · intro other payout seen
    rw [dropped] at seen
    exact positive other payout seen
  · intro other payout seen
    rcases Table.get_put_cases seen with ⟨_, rfl⟩ | ⟨_, before⟩
    · exact positive id previous found
    · exact positive other payout before

theorem PayoutsPositive.kept (positive : store.PayoutsPositive)
    (kept : store.FeesKept written) : written.PayoutsPositive := by
  intro id payout seen
  rw [kept.payouts] at seen
  exact positive id payout seen

theorem PayoutsPositive.step {bridge : BridgeConfig}
    (positive : store.PayoutsPositive) (step : FeeStep bridge store written) :
    written.PayoutsPositive := by
  cases step with
  | request admin caller amount done =>
    obtain ⟨value, committed, nonzero, _⟩ := requestFeePayout_ok done
    obtain ⟨_, _, _, rfl⟩ := commitFeePayoutRequest_ok committed
    intro id payout seen
    rcases Table.get_put_cases seen with ⟨_, rfl⟩ | ⟨_, before⟩
    · exact nonzero
    · exact positive id payout before
  | begun payout done => exact positive.kept (beginFeePayout_feesKept done)
  | answered id origin outcome done =>
    unfold resumeFeePayoutTransfer at done
    split at done
    · exact positive.advanced done
    · exact positive.advanced done
    · exact positive.advanced done
    · exact positive.advanced done
    · cases done
      exact positive
  | scanned id input outcome done =>
    cases outcome with
    | noProgress =>
      cases done
      exact positive
    | progress saved =>
      rw [updateFeePayoutScan_ok done]
      exact positive
    | succeeded block => exact positive.advanced done
    | absent ledgerWatermark indexWatermark =>
      simp only [resumeFeePayoutScan] at done
      split at done
      · cases done
        exact positive
      · exact positive.advanced done
  | turn turn performed => exact positive.kept (perform_feesKept performed)
  | reply task outcome resumed => exact positive.kept (resumeCall_moved resumed).feesKept
  | holdScanned hold outcome resumed => exact positive.kept (resumeScan_feesKept resumed)

theorem FeesCovered.promise (covered : store.FeesCovered)
    (positive : store.PayoutsPositive) (found : store.feePayouts.get id = some payout)
    (isPending : payout.isPending = true) : store.counters.pendingFeePayoutDebit ≠ 0 := by
  have share := Table.le_total found (·.promised)
  have nonzero := positive id payout found
  rw [← covered.promised] at share
  simp only [FeePayoutRecord.promised, isPending, if_true, FeePayoutRecord.debit] at share
  omega

end SettlementStore

namespace RoleWorld

variable {world written start : RoleWorld} {next : FeeRecipientConfig}

theorem rotateFeeRecipient_ok (done : world.rotateFeeRecipient caller next = .ok written) :
    next.owner ≠ anonymous ∧ (next.subaccount.length = 0 ∨ next.subaccount.length = 32) ∧
      next.owner ≠ world.admin.governancePrincipal ∧ next.owner ≠ world.admin.pausePrincipal ∧
      next.owner ≠ world.installed.confirmationRelayerPrincipal ∧
      world.settlement.counters.pendingFeePayoutDebit = 0 ∧
      written = world.withAdmin { world.admin with feeRecipient := next } := by
  obtain ⟨valid, rest⟩ := guarded_ok.mp done
  obtain ⟨known, subaccount⟩ := not_or.mp valid
  split at rest
  · contradiction
  · contradiction
  · contradiction
  rename_i allowed
  cases rest
  simp only [feeRecipientRotationDecision] at allowed
  split_ifs at allowed with _ _ collision idle
  simp only [config, Bool.or_eq_true, beq_iff_eq, not_or] at collision
  exact ⟨known, not_not.mp subaccount, collision.1.1, collision.1.2, collision.2,
    by simpa using idle, rfl⟩

theorem migrate_ok
    (done : world.migrateBootstrapPausePrincipal oldPause newPause = .ok (written, decision)) :
    written = world ∨ newPause ≠ world.admin.governancePrincipal ∧
      newPause ≠ world.admin.feeRecipient.owner ∧
      newPause ≠ world.installed.confirmationRelayerPrincipal ∧
      ∃ admission, written = { world with governance :=
        ⟨admission, { world.admin with pausePrincipal := newPause }⟩ } := by
  simp only [migrateBootstrapPausePrincipal] at done
  split at done
  · cases done
    exact .inl rfl
  · cases done
    exact .inl rfl
  · cases done
    exact .inl rfl
  · contradiction
  next applies =>
    cases done
    simp only [bootstrapPausePrincipalMigrationDecision] at applies
    split_ifs at applies with _ _ _ checked
    simp only [config, Bool.and_eq_true, bne_iff_ne, ne_eq] at checked
    exact .inr ⟨checked.2.1.1, checked.2.1.2, checked.2.2, _, rfl⟩

structure Inv (world : RoleWorld) : Prop where
  roles : world.config.validateRoles = .ok ()
  covered : world.settlement.FeesCovered
  positive : world.settlement.PayoutsPositive

theorem Inv.installs (installs : Installs args world)
    (valid : args.validate = .ok ()) : world.Inv := by
  obtain ⟨installed, admin, settlement⟩ := installs
  have roles := (validate_ok valid).2.2
  refine ⟨?_, ?_, ?_⟩
  · have same : world.config = args := by
      rw [config, installed, admin, initializeAdmin]
    rwa [same]
  · rw [settlement]
    exact empty_feesCovered
  · rw [settlement]
    nofun

theorem roles_of_pause {next : Principal}
    (roles : world.config.validateRoles = .ok ()) (known : next ≠ anonymous)
    (governance : next ≠ world.admin.governancePrincipal)
    (recipient : next ≠ world.admin.feeRecipient.owner)
    (relayer : next ≠ world.installed.confirmationRelayerPrincipal) :
    validateRoles { world.config with pausePrincipal := next } = .ok () := by
  rw [validateRoles_iff] at roles ⊢
  simp only [config, List.nodup_cons, List.mem_cons, List.not_mem_nil, or_false] at roles ⊢
  grind

theorem roles_of_recipient
    (roles : world.config.validateRoles = .ok ()) (known : next.owner ≠ anonymous)
    (subaccount : next.subaccount.length = 0 ∨ next.subaccount.length = 32)
    (governance : next.owner ≠ world.admin.governancePrincipal)
    (pause : next.owner ≠ world.admin.pausePrincipal)
    (relayer : next.owner ≠ world.installed.confirmationRelayerPrincipal) :
    validateRoles { world.config with feeRecipient := next } = .ok () := by
  rw [validateRoles_iff] at roles ⊢
  simp only [config, List.nodup_cons, List.mem_cons, List.not_mem_nil, or_false] at roles ⊢
  grind

theorem postUpgrade_ok (done : world.postUpgrade = .ok written) :
    written.settlement = world.settlement ∧ written.admin.feeRecipient = world.admin.feeRecipient ∧
      written.config.validateRoles = .ok () := by
  obtain ⟨migrated, migration, rest⟩ := bind_ok.mp done
  obtain ⟨admission, _, rest⟩ := bind_ok.mp rest
  obtain ⟨_, valid, rfl⟩ := returned_ok.mp rest
  have roles := (validate_ok (mapError_ok.mp valid)).2.2
  suffices kept : migrated.settlement = world.settlement ∧
      migrated.admin.feeRecipient = world.admin.feeRecipient from ⟨kept.1, kept.2, roles⟩
  unfold applyProductionBootstrapPausePrincipalMigration at migration
  split at migration
  · cases migration
    exact ⟨rfl, rfl⟩
  split at migration
  next moved decision applied =>
    cases migration
    rcases migrate_ok applied with rfl | ⟨_, _, _, admission, rfl⟩ <;> exact ⟨rfl, rfl⟩
  · contradiction

variable {bridge : BridgeConfig} {governance : GovernanceConfig}

theorem Inv.step {next : RoleWorld} (inv : world.Inv)
    (step : Step bridge governance world next) : next.Inv := by
  obtain ⟨roles, covered, positive⟩ := inv
  cases step with
  | pauseRotated caller principal relayer done =>
    obtain ⟨known, rest⟩ := guarded_ok.mp done
    obtain ⟨_, rest⟩ := guarded_ok.mp rest
    obtain ⟨apart, rest⟩ := guarded_ok.mp rest
    simp only [not_or] at apart
    cases rest
    have kept := roles_of_pause roles known apart.1 apart.2.1 (relayer ▸ apart.2.2)
    exact ⟨kept, covered, positive⟩
  | recipientRotated caller recipient done =>
    obtain ⟨known, subaccount, separate, pause, relayer, _, rfl⟩ := rotateFeeRecipient_ok done
    have kept := roles_of_recipient roles known subaccount separate pause relayer
    exact ⟨kept, covered, positive⟩
  | migrated done =>
    rcases migrate_ok done with rfl | ⟨separate, recipient, relayer, admission, rfl⟩
    · exact ⟨roles, covered, positive⟩
    · have kept := roles_of_pause roles (by decide) separate recipient relayer
      exact ⟨kept, covered, positive⟩
  | upgraded done =>
    obtain ⟨settlement, _, valid⟩ := postUpgrade_ok done
    exact ⟨valid, settlement ▸ covered, settlement ▸ positive⟩
  | paused caller done =>
    unfold AdminState.pause at done
    split at done <;> cases done
    exact ⟨roles, covered, positive⟩
  | activated transaction caller done =>
    refine ⟨?_, covered, positive⟩
    unfold GovernanceStore.completeConfirmedActivationAndResumeIfClear at done
    split at done
    · obtain ⟨_, _, rest⟩ := bind_ok.mp done
      dsimp only at rest
      split at rest
      · exact absurd rest throw_ne_ok
      · cases pure_ok.mp rest
        exact roles
    · exact absurd done throw_ne_ok
  | governed admission => exact ⟨roles, covered, positive⟩
  | configured operational => exact ⟨roles, covered, positive⟩
  | settled done => exact ⟨roles, covered.step done, positive.step done⟩

theorem Inv.of_reaches (inv : start.Inv)
    (reached : Reaches bridge governance start world) : world.Inv := by
  induction reached with
  | start => exact inv
  | step _ next ih => exact ih.step next

theorem Reaches.settled {store : SettlementStore}
    (empty : start.settlement = .empty) (reached : SettlementStore.FeeReaches bridge store) :
    Reaches bridge governance start { start with settlement := store } := by
  induction reached with
  | start =>
    rw [← empty]
    exact .start
  | step _ next ih => exact ih.step (.settled next)

theorem Inv.separate (inv : world.Inv) : world.Separate := by
  obtain ⟨distinct, known, _⟩ := validateRoles_iff.mp inv.roles
  exact ⟨distinct, known⟩

theorem Inv.recipient_fixed {next : RoleWorld} {payout : FeePayoutRecord} {id : Nat}
    (inv : world.Inv) (found : world.settlement.feePayouts.get id = some payout)
    (isPending : payout.isPending = true) (step : Step bridge governance world next) :
    next.admin.feeRecipient = world.admin.feeRecipient := by
  cases step with
  | recipientRotated caller recipient done =>
    obtain ⟨_, _, _, _, _, idle, _⟩ := rotateFeeRecipient_ok done
    exact absurd idle (inv.covered.promise inv.positive found isPending)
  | pauseRotated caller principal relayer done =>
    obtain ⟨_, rest⟩ := guarded_ok.mp done
    obtain ⟨_, rest⟩ := guarded_ok.mp rest
    obtain ⟨_, rest⟩ := guarded_ok.mp rest
    cases rest
    rfl
  | migrated done =>
    rcases migrate_ok done with rfl | ⟨_, _, _, admission, rfl⟩ <;> rfl
  | upgraded done => exact (postUpgrade_ok done).2.1
  | paused caller done =>
    unfold AdminState.pause at done
    split at done <;> cases done
    rfl
  | activated transaction caller done =>
    unfold GovernanceStore.completeConfirmedActivationAndResumeIfClear at done
    split at done
    · obtain ⟨_, _, rest⟩ := bind_ok.mp done
      dsimp only at rest
      split at rest
      · exact absurd rest throw_ne_ok
      · cases pure_ok.mp rest
        rfl
    · exact absurd done throw_ne_ok
  | governed | configured | settled => rfl

end RoleWorld

/-- From a validated installation on, whatever is rotated, migrated or upgraded, the four roles
stay with four principals, and no step changes the fee recipient while a payout is open. -/
theorem roles_stay_separate {args : BridgeInitArgs} {start world : RoleWorld}
    {bridge : BridgeConfig} {governance : GovernanceConfig} (valid : args.validate = .ok ())
    (installs : RoleWorld.Installs args start)
    (reached : RoleWorld.Reaches bridge governance start world) :
    world.Separate ∧
    ∀ next id payout, RoleWorld.Step bridge governance world next →
      world.settlement.feePayouts.get id = some payout → payout.isPending = true →
      next.admin.feeRecipient = world.admin.feeRecipient := by
  have inv := (RoleWorld.Inv.installs installs valid).of_reaches reached
  exact ⟨inv.separate, fun next id payout step found isPending =>
    inv.recipient_fixed found isPending step⟩

def sampleRoles : RoleWorld where
  canister := [9]
  installed := sampleInitArgs 1000
  governance := {
    admission := {
      lanes := fun _ => ⟨false, 0, none, none⟩
      nextGovernanceOperationId := 0
      pendingTimelockOperation := none
      pendingControlPlaneRotation := none
      emergencyPauseDepositRequired := false
      emergencyPauseWithdrawalRequired := false
      emergencyCancelRequired := false
      controlPlaneKeyGeneration := 0
      operatorAddress := fun _ => none
      operationalConfigSealed := false
      bootstrapActivationController := none
      lastConfirmedActivation := none }
    admin := RoleWorld.initializeAdmin (sampleInitArgs 1000) }
  settlement := .empty

def payingRoles : RoleWorld := { sampleRoles with settlement := feeRequested }

def rotatedRoles : RoleWorld :=
  payingRoles.withAdmin { payingRoles.admin with pausePrincipal := [7] }

/-- While a payout is open, governance replaces the pause principal. -/
theorem roles_stay_separate_sample :
    payingRoles.Separate ∧
    ((feeRequested.feePayouts.get 0).any (·.isPending) = true) ∧
    rotatedRoles.admin.feeRecipient = payingRoles.admin.feeRecipient := by
  have valid : (sampleInitArgs 1000).validate = .ok () := by decide +kernel
  have reached : RoleWorld.Reaches feeConfig (sampleGovernance 1000) sampleRoles
      payingRoles := .settled rfl feeRequested_reached
  have opened : (feeRequested.feePayouts.get 0).any (·.isPending) = true := by
    decide +kernel
  obtain ⟨payout, found, isPending⟩ := (Option.any_eq_true _ _).mp opened
  have rotated : RoleWorld.Step feeConfig (sampleGovernance 1000) payingRoles
      rotatedRoles := .pauseRotated [1] [7] rfl rfl
  obtain ⟨separate, fixed⟩ := roles_stay_separate valid ⟨rfl, rfl, rfl⟩ reached
  exact ⟨separate, opened, fixed rotatedRoles 0 payout rotated found isPending⟩

end KinicBridge
