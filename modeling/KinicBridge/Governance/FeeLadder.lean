import KinicBridge.Governance.InitArgs

/-! The fees of a governance transaction: the ceilings taken down once for every replacement, and up
again by at least the bump. Where the way down ends at the floor of one, the way up can pass the
ceiling. -/
namespace KinicBridge

open Checked Function GovernanceStore

/-- The least fee that replaces `current`. -/
def minimumBump (bumpBps current : Nat) : Nat :=
  max (saturatingAdd 128 (min (current * (10000 + bumpBps)) (limit 128)) 9999 /
    10000) (saturatingAdd 128 current 1)

def loweredFee (bumpBps fee : Nat) : Nat :=
  max (min (fee * 10000) (limit 128) / (10000 + bumpBps)) 1

theorem minimumFeeBump_iff : minimumFeeBump current proposed bumpBps = true ↔
    minimumBump bumpBps current ≤ proposed := by
  simp only [minimumFeeBump, minimumBump, decide_eq_true_eq]

theorem initialFee_eq (ceiling bumpBps generations : Nat) :
    initialFee ceiling bumpBps generations = (loweredFee bumpBps)^[generations] ceiling := by
  have folded := List.foldl_const (loweredFee bumpBps) ceiling (List.range generations)
  rwa [List.length_range] at folded

theorem minimumBump_mono (bumpBps : Nat) : Monotone (minimumBump bumpBps) := by
  intro smaller larger le
  have product := Nat.mul_le_mul_right (10000 + bumpBps) le
  simp only [minimumBump, saturatingAdd]
  generalize limit 128 = limit
  omega

theorem loweredFee_mono (bumpBps : Nat) : Monotone (loweredFee bumpBps) := by
  intro smaller larger le
  have capped : min (smaller * 10000) (limit 128) ≤ min (larger * 10000) (limit 128) := by omega
  have quotient := Nat.div_le_div_right (c := 10000 + bumpBps) capped
  simp only [loweredFee]
  omega

theorem le_minimumBump (fits : fee ≤ limit 128) : fee ≤ minimumBump bumpBps fee := by
  simp only [minimumBump, saturatingAdd]
  omega

theorem minimumBump_le_limit (bumpBps fee : Nat) : minimumBump bumpBps fee ≤ limit 128 := by
  simp only [minimumBump, saturatingAdd]
  omega

theorem one_le_loweredFee (bumpBps fee : Nat) : 1 ≤ loweredFee bumpBps fee :=
  le_max_right _ _

theorem minimumBump_loweredFee (bump : 0 < bumpBps) (fee : Nat) :
    loweredFee bumpBps fee = 1 ∨ minimumBump bumpBps (loweredFee bumpBps fee) ≤ fee := by
  by_cases floor : loweredFee bumpBps fee = 1
  · exact .inl floor
  right
  have above : min (fee * 10000) (limit 128) / (10000 + bumpBps) = loweredFee bumpBps fee := by
    simp only [loweredFee] at floor ⊢
    omega
  have product : loweredFee bumpBps fee * (10000 + bumpBps) ≤ fee * 10000 := by
    rw [← above]
    exact (Nat.div_mul_le_self _ _).trans (Nat.min_le_left _ _)
  -- the bump makes the product exceed the fee itself
  have positive : loweredFee bumpBps fee ≤ loweredFee bumpBps fee * bumpBps :=
    Nat.le_mul_of_pos_right _ bump
  have atLeast := one_le_loweredFee bumpBps fee
  have expand : loweredFee bumpBps fee * (10000 + bumpBps) =
      loweredFee bumpBps fee * 10000 + loweredFee bumpBps fee * bumpBps := Nat.mul_add ..
  simp only [minimumBump, saturatingAdd]
  omega

theorem loweredFee_one (bump : 0 < bumpBps) : loweredFee bumpBps 1 = 1 := by
  have small : min (1 * 10000) (limit 128) / (10000 + bumpBps) = 0 :=
    Nat.div_eq_of_lt (by omega)
  simp [loweredFee, small]

theorem initialFee_one (bump : 0 < bumpBps) (n : Nat) : (loweredFee bumpBps)^[n] 1 = 1 :=
  iterate_fixed (loweredFee_one bump) n

theorem ladder_le (bump : 0 < bumpBps) (n fee : Nat) : (loweredFee bumpBps)^[n] fee = 1 ∨
    (minimumBump bumpBps)^[n] ((loweredFee bumpBps)^[n] fee) ≤ fee := by
  induction n generalizing fee with
  | zero => exact .inr le_rfl
  | succ n ih =>
    rw [iterate_succ_apply]
    rcases minimumBump_loweredFee bump fee with floor | back
    · exact .inl (by rw [floor, initialFee_one bump])
    rcases ih (loweredFee bumpBps fee) with floor | below
    · exact .inl floor
    · refine .inr ?_
      rw [iterate_succ_apply']
      exact (minimumBump_mono bumpBps below).trans back

theorem ladder_le_iff (ceiling : Nat) (bump : 0 < bumpBps) (some : 0 < n) :
    (minimumBump bumpBps)^[n] (initialFee ceiling bumpBps n) ≤ ceiling ↔
      (minimumBump bumpBps)^[n] 1 ≤ ceiling := by
  have mono : Monotone (minimumBump bumpBps)^[n] := (minimumBump_mono bumpBps).iterate n
  rw [initialFee_eq]
  constructor
  · intro below
    have atLeast : 1 ≤ (loweredFee bumpBps)^[n] ceiling := by
      obtain ⟨m, rfl⟩ := Nat.exists_eq_add_of_lt some
      rw [Nat.zero_add, iterate_succ_apply']
      exact one_le_loweredFee _ _
    exact (mono atLeast).trans below
  · intro below
    rcases ladder_le bump n ceiling with floor | back
    · rwa [floor]
    · exact back

/-- The endpoints read their fee policy from what the canister was installed with. -/
structure GovernanceConfig.Installed (config : GovernanceConfig) (args : BridgeInitArgs) :
    Prop where
  maxFee : config.maxFeePerGasCeiling = args.governanceEvmFee.maxFeePerGasCeiling
  priorityFee : config.maxPriorityFeePerGasCeiling =
    args.governanceEvmFee.maxPriorityFeePerGasCeiling
  bump : config.feeBumpBps = args.governanceReplacement.feeBumpBps
  replacements : config.maxReplacements = args.governanceReplacement.maxReplacements

/-- The caller may replace a transaction that is pending, signed and not yet relayed. -/
structure GovernanceStore.Replaceable (store : GovernanceStore) (controllers : List Principal)
    (caller : Principal) (transaction : GovernanceTransaction)
    (current : SignedGovernanceTransaction) : Prop where
  sealed : store.requireOperationalConfigSealed = .ok ()
  pending : store.pendingTransaction transaction.id = .ok transaction
  operator : ∃ address, store.operatorAddressForRole transaction.kind.nonceLane = .ok address
  authorized : store.requireTransactionAuthorization controllers caller transaction = .ok ()
  controlled : store.requireTransactionControllerAuthority controllers transaction = .ok ()
  signed : transaction.envelope.signedTransactions.getLast? = some current
  awaiting : awaitsRelay transaction = true

namespace GovernanceConfig

/-- The fees after `n` replacements that each bump as little as they may. -/
def ladderFees (config : GovernanceConfig) (plan : PreparePlan) (kind : GovernanceTransactionKind)
    (n : Nat) : Nat × Nat :=
  let envelope := (transactionOf config plan kind).envelope
  ((minimumBump config.feeBumpBps)^[n] envelope.maxFeePerGas,
    (minimumBump config.feeBumpBps)^[n] envelope.maxPriorityFeePerGas)

def nextRung (config : GovernanceConfig) (plan : PreparePlan) (kind : GovernanceTransactionKind)
    (operationId : Nat) (current : SignedGovernanceTransaction) : ReplacementArgs :=
  let fees := config.ladderFees plan kind (current.generation + 1)
  ⟨operationId, current.transactionHash, fees.1, fees.2⟩

/-- The first fees keep to the ceilings and to each other, and every replacement by the
smallest bump is accepted until all of them are used: `fees` by the checks of the fees, and
`accepted` by the endpoint, for each pending transaction that its caller may replace. -/
structure LadderWorks (config : GovernanceConfig) (plan : PreparePlan)
    (kind : GovernanceTransactionKind) : Prop where
  maxFee : (config.ladderFees plan kind 0).1 ≤ config.maxFeePerGasCeiling
  priorityFee : (config.ladderFees plan kind 0).2 ≤ config.maxPriorityFeePerGasCeiling
  ordered : (config.ladderFees plan kind 0).2 ≤ (config.ladderFees plan kind 0).1
  fees : ∀ n, n < config.maxReplacements →
    ∀ (current : SignedGovernanceTransaction) (args : GovernanceStore.ReplacementArgs),
      (current.maxFeePerGas, current.maxPriorityFeePerGas) = config.ladderFees plan kind n →
      (args.maxFeePerGas, args.maxPriorityFeePerGas) = config.ladderFees plan kind (n + 1) →
      args.maxFeePerGas ≤ limit 128 ∧ args.maxPriorityFeePerGas ≤ limit 128 ∧
        replacementFeesAllowed config args current = true
  accepted : ∀ store controllers caller transaction (current : SignedGovernanceTransaction),
    store.Replaceable controllers caller transaction current →
    current.generation < config.maxReplacements →
    (current.maxFeePerGas, current.maxPriorityFeePerGas) =
      config.ladderFees plan kind current.generation →
    ∃ replaced, prepareReplacement config store controllers caller
        (config.nextRung plan kind transaction.id current) =
          .ok (.waiting (.replacing caller replaced current)) ∧
      (replaced.envelope.maxFeePerGas, replaced.envelope.maxPriorityFeePerGas) =
        config.ladderFees plan kind (current.generation + 1)

variable {config : GovernanceConfig} {plan : PreparePlan} {kind : GovernanceTransactionKind}

theorem ladderFees_eq (policy : config.maxPriorityFeePerGasCeiling ≤ config.maxFeePerGasCeiling)
    (n : Nat) : config.ladderFees plan kind n = ((minimumBump config.feeBumpBps)^[n]
          (initialFee config.maxFeePerGasCeiling config.feeBumpBps config.maxReplacements),
        (minimumBump config.feeBumpBps)^[n]
          (initialFee config.maxPriorityFeePerGasCeiling config.feeBumpBps
            config.maxReplacements)) := by
  have lower : initialFee config.maxPriorityFeePerGasCeiling config.feeBumpBps
      config.maxReplacements ≤
      initialFee config.maxFeePerGasCeiling config.feeBumpBps config.maxReplacements := by
    rw [initialFee_eq, initialFee_eq]
    exact (loweredFee_mono _).iterate _ policy
  simp only [ladderFees, transactionOf, Nat.min_eq_left lower]

theorem replacementFeesAllowed_iff {args : GovernanceStore.ReplacementArgs}
    {current : SignedGovernanceTransaction} : replacementFeesAllowed config args current = true ↔
      args.maxFeePerGas ≤ config.maxFeePerGasCeiling ∧
      args.maxPriorityFeePerGas ≤ config.maxPriorityFeePerGasCeiling ∧
      args.maxPriorityFeePerGas ≤ args.maxFeePerGas ∧
      minimumBump config.feeBumpBps current.maxFeePerGas ≤ args.maxFeePerGas ∧
      minimumBump config.feeBumpBps current.maxPriorityFeePerGas ≤ args.maxPriorityFeePerGas := by
  simp only [replacementFeesAllowed, Bool.and_eq_true, decide_eq_true_eq,
    minimumFeeBump_iff, and_assoc]

theorem prepareReplacement_of_allowed {store : GovernanceStore} {args : ReplacementArgs}
    {transaction : GovernanceTransaction} {current : SignedGovernanceTransaction}
    (replaceable : store.Replaceable controllers caller transaction current)
    (named : args.operationId = transaction.id ∧
      current.transactionHash = args.expectedTransactionHash)
    (left : current.generation < config.maxReplacements)
    (words : args.maxFeePerGas ≤ limit 128 ∧ args.maxPriorityFeePerGas ≤ limit 128)
    (allowed : replacementFeesAllowed config args current = true) :
    prepareReplacement config store controllers caller args = .ok (.waiting (.replacing caller
        { transaction with envelope := { transaction.envelope with
            maxFeePerGas := args.maxFeePerGas
            maxPriorityFeePerGas := args.maxPriorityFeePerGas } } current)) := by
  obtain ⟨configured, pending, ⟨operator, known⟩, authorized, controlled, signed, awaiting⟩ :=
    replaceable
  have small := not_or.mpr ⟨Nat.not_lt.mpr words.1, Nat.not_lt.mpr words.2⟩
  simp [prepareReplacement, configured, small, named, pending, known, authorized, controlled,
    signed, awaiting, Nat.not_le.mpr left, allowed, ok_bind]

theorem ladder_grows (bumpBps : Nat) (fits : fee ≤ limit 128) (later : n ≤ m) :
    (minimumBump bumpBps)^[n] fee ≤ (minimumBump bumpBps)^[m] fee := by
  induction m, later using Nat.le_induction with
  | base => exact le_rfl
  | succ m _ ih =>
    rw [iterate_succ_apply']
    refine ih.trans (le_minimumBump ?_)
    cases m with
    | zero => exact fits
    | succ m =>
      rw [iterate_succ_apply']
      exact minimumBump_le_limit _ _

theorem initialFee_le_limit (some : 0 < generations) :
    initialFee ceiling bumpBps generations ≤ limit 128 := by
  obtain ⟨m, rfl⟩ := Nat.exists_eq_add_of_lt some
  rw [initialFee_eq, Nat.zero_add, iterate_succ_apply']
  have quotient := Nat.div_le_self (min ((loweredFee bumpBps)^[m] ceiling * 10000)
    (limit 128)) (10000 + bumpBps)
  have positive : 1 ≤ limit 128 := by decide
  simp only [loweredFee] at quotient ⊢
  generalize limit 128 = limit at quotient positive ⊢
  omega

theorem rung_le (some : 0 < generations)
    (below : (minimumBump bumpBps)^[generations] (initialFee ceiling bumpBps generations) ≤ ceiling)
    (step : n ≤ generations) :
    (minimumBump bumpBps)^[n] (initialFee ceiling bumpBps generations) ≤ ceiling :=
  (ladder_grows bumpBps (initialFee_le_limit some) step).trans below

theorem ladderFees_ordered (n : Nat) :
    (config.ladderFees plan kind n).2 ≤ (config.ladderFees plan kind n).1 :=
  (minimumBump_mono config.feeBumpBps).iterate n (Nat.min_le_right _ _)

variable (policy : config.maxPriorityFeePerGasCeiling ≤ config.maxFeePerGasCeiling)
  (bump : 0 < config.feeBumpBps) (some : 0 < config.maxReplacements)

include policy bump some

/-- Where the ladder of the lower ceiling ends below it, so does the other one, and neighbouring
rungs pass the checks of the fees. -/
theorem rung_allowed
    (below : (minimumBump config.feeBumpBps)^[config.maxReplacements] (initialFee
      config.maxPriorityFeePerGasCeiling config.feeBumpBps config.maxReplacements) ≤
        config.maxPriorityFeePerGasCeiling)
    {current : SignedGovernanceTransaction} (args : ReplacementArgs)
    (step : n < config.maxReplacements)
    (signed : (current.maxFeePerGas, current.maxPriorityFeePerGas) =
      config.ladderFees plan kind n)
    (asked : (args.maxFeePerGas, args.maxPriorityFeePerGas) =
      config.ladderFees plan kind (n + 1)) :
    args.maxFeePerGas ≤ limit 128 ∧ args.maxPriorityFeePerGas ≤ limit 128 ∧
      replacementFeesAllowed config args current = true := by
  have maxBelow := (ladder_le_iff config.maxFeePerGasCeiling bump some).mpr
    (((ladder_le_iff _ bump some).mp below).trans policy)
  have order : (config.ladderFees plan kind (n + 1)).2 ≤ (config.ladderFees plan kind (n + 1)).1 :=
    ladderFees_ordered _
  rw [ladderFees_eq policy] at signed asked order
  obtain ⟨maxSigned, prioritySigned⟩ := Prod.mk.inj signed
  obtain ⟨maxAsked, priorityAsked⟩ := Prod.mk.inj asked
  rw [replacementFeesAllowed_iff, maxAsked, priorityAsked, maxSigned, prioritySigned]
  refine ⟨?_, ?_, rung_le some maxBelow step, rung_le some below step, order, ?_, ?_⟩
  · rw [iterate_succ_apply']
    exact minimumBump_le_limit _ _
  · rw [iterate_succ_apply']
    exact minimumBump_le_limit _ _
  · rw [iterate_succ_apply']
  · rw [iterate_succ_apply']

theorem ladderWorks_iff : config.LadderWorks plan kind ↔
    (minimumBump config.feeBumpBps)^[config.maxReplacements] 1 ≤
      config.maxPriorityFeePerGasCeiling := by
  rw [← ladder_le_iff _ bump some]
  constructor
  · intro works
    obtain ⟨last, count⟩ := Nat.exists_eq_add_of_lt some
    rw [Nat.zero_add] at count
    obtain ⟨_, _, allowed⟩ := works.fees last (by omega)
      ⟨0, (config.ladderFees plan kind last).1, (config.ladderFees plan kind last).2, last, 0⟩
      ⟨0, 0, (config.ladderFees plan kind (last + 1)).1,
        (config.ladderFees plan kind (last + 1)).2⟩ rfl rfl
    have below := (replacementFeesAllowed_iff.mp allowed).2.1
    rw [ladderFees_eq policy, ← count] at below
    exact below
  · intro below
    have maxBelow := (ladder_le_iff config.maxFeePerGasCeiling bump some).mpr
      (((ladder_le_iff _ bump some).mp below).trans policy)
    refine ⟨?_, ?_, ladderFees_ordered 0,
      fun n step current args => rung_allowed policy bump some below args step, ?_⟩
    · rw [ladderFees_eq policy]
      exact rung_le some maxBelow (Nat.zero_le _)
    · rw [ladderFees_eq policy]
      exact rung_le some below (Nat.zero_le _)
    · intro store controllers caller transaction current replaceable left signed
      obtain ⟨max, priority, checked⟩ := rung_allowed policy bump some below
        (config.nextRung plan kind transaction.id current) left signed rfl
      exact ⟨_, prepareReplacement_of_allowed replaceable ⟨rfl, rfl⟩ left ⟨max, priority⟩ checked,
        rfl⟩

end GovernanceConfig

/-- Under a validated policy the ladder works exactly when a fee of one, bumped as often as
replacements are allowed, stays within the ceiling of the priority fee. -/
theorem replacement_ladder_iff {args : BridgeInitArgs} {config : GovernanceConfig}
    (plan : PreparePlan) (kind : GovernanceTransactionKind) (installed : config.Installed args)
    (valid : args.validate = .ok ()) :
    config.LadderWorks plan kind ↔
      (minimumBump args.governanceReplacement.feeBumpBps)^[
          args.governanceReplacement.maxReplacements] 1 ≤
        args.governanceEvmFee.maxPriorityFeePerGasCeiling := by
  obtain ⟨operational, replacement, _⟩ := BridgeInitArgs.validate_ok valid
  obtain ⟨fees, _⟩ := guarded_ok.mp operational
  obtain ⟨bounds, _⟩ := guarded_ok.mp replacement
  simp only [BridgeInitArgs.operational] at fees
  rw [← installed.bump, ← installed.replacements, ← installed.priorityFee]
  apply GovernanceConfig.ladderWorks_iff
  · rw [installed.priorityFee, installed.maxFee]
    omega
  · rw [installed.bump]
    omega
  · rw [installed.replacements]
    omega

variable (priorityCeiling : Nat)

def sampleInitArgs : BridgeInitArgs where
  ledgerCanisterId := kinicLedgerCanisterId
  indexCanisterId := kinicIndexCanisterId
  evmRpcCanisterId := officialEvmRpcCanisterId
  customEvmRpcUrls := []
  baseChainId := 8453
  bridgeContract := List.replicate 20 1
  expectedBridgeRuntimeSha256 := List.replicate 32 1
  timelockContract := List.replicate 20 2
  expectedTimelockMinimumDelaySeconds := 1
  expectedBsnsRuntimeSha256 := List.replicate 32 1
  expectedMinimumServiceFee := 1
  deploymentInstanceId := List.replicate 32 1
  minimumWithdrawalId := List.replicate 32 1
  ecdsaKeyName := "key_1"
  ecdsaDerivationPath := []
  governanceEcdsaDerivationPath := [[1]]
  depositRateLimitWindowSeconds := 60
  depositRateLimitGlobal := 1
  depositRateLimitPerPrincipal := 1
  notificationRateLimitWindowSeconds := 60
  notificationRateLimitGlobal := 1
  notificationIngestionRateLimitGlobal := 1
  settlementRateLimitWindowSeconds := 60
  settlementRateLimitGlobal := 1
  settlementRateLimitPerPrincipal := 1
  settlementRateLimitPerRecord := 1
  settlementRetryIntervalSeconds := 1
  governanceEvmFee := ⟨1, 2000, priorityCeiling, 1, 30, 10000, 10000, 10000⟩
  governanceReplacement := ⟨3, 1250⟩
  cyclesFloor := 1
  settlementCycleCeiling := 1
  governancePrincipal := [1]
  pausePrincipal := [2]
  confirmationRelayerPrincipal := [3]
  feeRecipient := ⟨[5], []⟩

def sampleGovernance : GovernanceConfig where
  baseChainId := 8453
  bridgeContract := 1
  timelockContract := 2
  confirmationRelayerPrincipal := [3]
  expectedMinimumServiceFee := 1
  maxFeePerGasCeiling := 2000
  maxPriorityFeePerGasCeiling := priorityCeiling
  gasLimitCeiling := 1
  feeBumpBps := 1250
  maxReplacements := 3
  activationOperation := fun _ => ⟨0, 0⟩
  rotationOperation := fun _ => ⟨0, 0⟩
  calldata := fun _ => []
  sha256 := fun _ => 0
  bridgeSigner := fun _ => 0
  operator := fun _ _ => 0

def samplePlan : PreparePlan := ⟨[1], .pauseDepositMints, none, true, 0, 0⟩

def sampleSigned : GovernanceTransaction :=
  withGeneration (transactionOf (sampleGovernance 1000) samplePlan .pauseDepositMints) 9 0 0

def sampleSignedStore : GovernanceStore where
  admission := {
    lanes := fun lane =>
      ⟨true, 0, if lane = sampleSigned.kind.nonceLane then some sampleSigned else none, none⟩
    nextGovernanceOperationId := 1
    pendingTimelockOperation := none
    pendingControlPlaneRotation := none
    emergencyPauseDepositRequired := false
    emergencyPauseWithdrawalRequired := false
    emergencyCancelRequired := false
    controlPlaneKeyGeneration := 0
    operatorAddress := fun _ => some 1
    operationalConfigSealed := true
    bootstrapActivationController := none
    lastConfirmedActivation := none }
  admin := ⟨true, [2], [1], ⟨[5], []⟩⟩

theorem replacement_ladder_iff_sample : (sampleInitArgs 1000).validate = .ok () ∧
    (sampleGovernance 1000).LadderWorks samplePlan .pauseDepositMints ∧
    ∃ current replaced, sampleSignedStore.Replaceable [] [1] sampleSigned current ∧
      prepareReplacement (sampleGovernance 1000) sampleSignedStore [] [1]
          ((sampleGovernance 1000).nextRung samplePlan .pauseDepositMints 0 current) =
        .ok (.waiting (.replacing [1] replaced current)) := by
  have valid : (sampleInitArgs 1000).validate = .ok () := by decide +kernel
  have works : (sampleGovernance 1000).LadderWorks samplePlan .pauseDepositMints :=
    (replacement_ladder_iff samplePlan .pauseDepositMints ⟨rfl, rfl, rfl, rfl⟩ valid).mpr
      (by decide +kernel)
  have replaceable : sampleSignedStore.Replaceable [] [1] sampleSigned
      ⟨9, sampleSigned.envelope.maxFeePerGas, sampleSigned.envelope.maxPriorityFeePerGas, 0, 0⟩ :=
    ⟨rfl, rfl, ⟨1, rfl⟩, rfl, rfl, rfl, rfl⟩
  obtain ⟨replaced, accepted, _⟩ := works.accepted _ _ _ _ _ replaceable (by decide) rfl
  exact ⟨valid, works, _, replaced, replaceable, accepted⟩

/-- A priority ceiling of zero passes the checks, and the first priority fee is one. Under a
ceiling of three the first fees are fine, and the third replacement would have to pay four. -/
theorem zero_priority_ceiling_exceeded :
    (sampleInitArgs 0).validate = .ok () ∧
    ((sampleGovernance 0).ladderFees samplePlan .pauseDepositMints 0).2 = 1 ∧
    ¬(sampleGovernance 0).LadderWorks samplePlan .pauseDepositMints ∧
    (sampleInitArgs 3).validate = .ok () ∧
    ((sampleGovernance 3).ladderFees samplePlan .pauseDepositMints 3).2 = 4 := by
  refine ⟨by decide +kernel, by decide +kernel, fun works => ?_, by decide +kernel,
    by decide +kernel⟩
  have first := works.priorityFee
  exact absurd first (by decide +kernel)

end KinicBridge
