import KinicBridge.Governance.Endpoints

/-! What the canister is installed with, and the checks a production build makes of it. -/
namespace KinicBridge

structure EvmFeePolicy where
  gasLimitCeiling : Nat
  maxFeePerGasCeiling : Nat
  maxPriorityFeePerGasCeiling : Nat
  l1FeePerTransactionCeilingWei : Nat
  quoteValiditySeconds : Nat
  gasLimitMultiplierBps : Nat
  baseFeeMultiplierBps : Nat
  l1FeeMultiplierBps : Nat
  deriving DecidableEq

structure GovernanceReplacementPolicy where
  maxReplacements : Nat
  feeBumpBps : Nat
  deriving DecidableEq

structure OperationalConfigArgs where
  governanceEvmFee : EvmFeePolicy
  cyclesFloor : Nat
  settlementCycleCeiling : Nat
  deriving DecidableEq

namespace OperationalConfigArgs

def validateOperational (args : OperationalConfigArgs) : Except String Unit :=
  let fee := args.governanceEvmFee
  if fee.gasLimitCeiling = 0 ∨ fee.maxFeePerGasCeiling = 0 ∨
      fee.maxFeePerGasCeiling < fee.maxPriorityFeePerGasCeiling ∨
      fee.l1FeePerTransactionCeilingWei = 0 ∨
      ¬(30 ≤ fee.quoteValiditySeconds ∧ fee.quoteValiditySeconds ≤ 300) ∨
      ¬(10000 ≤ fee.gasLimitMultiplierBps ∧ fee.gasLimitMultiplierBps ≤ 20000) ∨
      ¬(10000 ≤ fee.baseFeeMultiplierBps ∧ fee.baseFeeMultiplierBps ≤ 100000) ∨
      ¬(10000 ≤ fee.l1FeeMultiplierBps ∧ fee.l1FeeMultiplierBps ≤ 30000) then
    .error "EVM fee policy is outside the supported safety bounds"
  else if args.cyclesFloor = 0 ∨ args.settlementCycleCeiling = 0 then
    .error "cycles limits must be non-zero"
  else .ok ()

end OperationalConfigArgs

structure BridgeInitArgs where
  ledgerCanisterId : Principal
  indexCanisterId : Principal
  evmRpcCanisterId : Principal
  customEvmRpcUrls : List String
  baseChainId : Nat
  bridgeContract : List UInt8
  expectedBridgeRuntimeSha256 : List UInt8
  timelockContract : List UInt8
  expectedTimelockMinimumDelaySeconds : Nat
  expectedBsnsRuntimeSha256 : List UInt8
  expectedMinimumServiceFee : Nat
  deploymentInstanceId : List UInt8
  minimumWithdrawalId : List UInt8
  ecdsaKeyName : String
  ecdsaDerivationPath : List (List UInt8)
  governanceEcdsaDerivationPath : List (List UInt8)
  depositRateLimitWindowSeconds : Nat
  depositRateLimitGlobal : Nat
  depositRateLimitPerPrincipal : Nat
  notificationRateLimitWindowSeconds : Nat
  notificationRateLimitGlobal : Nat
  notificationIngestionRateLimitGlobal : Nat
  settlementRateLimitWindowSeconds : Nat
  settlementRateLimitGlobal : Nat
  settlementRateLimitPerPrincipal : Nat
  settlementRateLimitPerRecord : Nat
  settlementRetryIntervalSeconds : Nat
  governanceEvmFee : EvmFeePolicy
  governanceReplacement : GovernanceReplacementPolicy
  cyclesFloor : Nat
  settlementCycleCeiling : Nat
  governancePrincipal : Principal
  pausePrincipal : Principal
  confirmationRelayerPrincipal : Principal
  feeRecipient : FeeRecipientConfig
  deriving DecidableEq

/-! The fixed canisters of a production build. -/

/-- Principal 73mez-iiaaa-aaaaq-aaasq-cai -/
def kinicLedgerCanisterId : Principal := [0, 0, 0, 0, 2, 0, 0, 37, 1, 1]

/-- Principal 7vojr-tyaaa-aaaaq-aaatq-cai -/
def kinicIndexCanisterId : Principal := [0, 0, 0, 0, 2, 0, 0, 39, 1, 1]

/-- Principal 7hfb6-caaaa-aaaar-qadga-cai -/
def officialEvmRpcCanisterId : Principal := [0, 0, 0, 0, 2, 48, 0, 204, 1, 1]

/-- Production builds leave no two of the three roles to one principal. -/
def Kernel.confirmationRolesDistinct (relayerIsGovernance relayerIsPause governanceIsPause
    allowStaging : Bool) : Bool :=
  !governanceIsPause && !relayerIsPause && (allowStaging || !relayerIsGovernance)

def Principal.anonymous : Principal := [4]

namespace BridgeInitArgs

variable (args : BridgeInitArgs)

def operational : OperationalConfigArgs :=
  ⟨args.governanceEvmFee, args.cyclesFloor, args.settlementCycleCeiling⟩

def validateContracts : Except String Unit :=
  if args.bridgeContract.length ≠ 20 ∨ args.expectedBridgeRuntimeSha256.length ≠ 32 ∨
      args.expectedBsnsRuntimeSha256.length ≠ 32 ∨ args.timelockContract.length ≠ 20 ∨
      args.deploymentInstanceId.length ≠ 32 ∨ args.minimumWithdrawalId.length ≠ 32 then
    .error ("bridge and Timelock contracts must be 20 bytes; deployment instance ID and " ++
      "minimum withdrawal ID must be 32 bytes")
  else if args.bridgeContract.all (· == 0) ∨ args.timelockContract.all (· == 0) ∨
      args.deploymentInstanceId.all (· == 0) ∨ args.minimumWithdrawalId.all (· == 0) ∨
      args.expectedBridgeRuntimeSha256.all (· == 0) ∨
      args.expectedBsnsRuntimeSha256.all (· == 0) ∨
      args.expectedTimelockMinimumDelaySeconds = 0 ∨ args.expectedMinimumServiceFee = 0 ∨
      args.bridgeContract = args.timelockContract then
    .error ("bridge, Timelock, deployment instance ID, minimum withdrawal ID, and runtime hash " ++
      "must be nonzero, with distinct contracts")
  else if args.baseChainId = 0 ∨ args.ecdsaKeyName = "" ∨ args.governanceEcdsaDerivationPath = [] ∨
      args.ecdsaDerivationPath = args.governanceEcdsaDerivationPath then
    .error "chain id and ECDSA key name must be configured"
  else .ok ()

def validateProduction : Except String Unit :=
  if args.baseChainId ≠ 8453 ∨ args.ledgerCanisterId ≠ kinicLedgerCanisterId ∨
      args.indexCanisterId ≠ kinicIndexCanisterId ∨
      args.evmRpcCanisterId ≠ officialEvmRpcCanisterId then
    .error "production builds require Base mainnet and the fixed KINIC and EVM RPC canisters"
  else if args.customEvmRpcUrls ≠ [] then
    .error "production builds use the built-in Base mainnet EVM RPC providers"
  else .ok ()

def validateRateLimits : Except String Unit :=
  if ¬(60 ≤ args.depositRateLimitWindowSeconds ∧ args.depositRateLimitWindowSeconds ≤ 300) ∨
      args.depositRateLimitPerPrincipal = 0 ∨
      args.depositRateLimitGlobal < args.depositRateLimitPerPrincipal ∨
      100 < args.depositRateLimitGlobal then
    .error ("deposit rate limit must satisfy 60 <= window <= 300 and " ++
      "1 <= per-principal <= global <= 100")
  else if ¬(60 ≤ args.notificationRateLimitWindowSeconds ∧
        args.notificationRateLimitWindowSeconds ≤ 3600) ∨
      ¬(1 ≤ args.notificationRateLimitGlobal ∧ args.notificationRateLimitGlobal ≤ 100) ∨
      ¬(1 ≤ args.notificationIngestionRateLimitGlobal ∧
        args.notificationIngestionRateLimitGlobal ≤ 100) then
    .error "notification rate limit must satisfy 60 <= window <= 3600 and 1 <= global <= 100"
  else if ¬(60 ≤ args.settlementRateLimitWindowSeconds ∧
        args.settlementRateLimitWindowSeconds ≤ 3600) ∨
      args.settlementRateLimitPerRecord = 0 ∨
      args.settlementRateLimitPerPrincipal < args.settlementRateLimitPerRecord ∨
      args.settlementRateLimitGlobal < args.settlementRateLimitPerPrincipal ∨
      100 < args.settlementRateLimitGlobal ∨
      ¬(1 ≤ args.settlementRetryIntervalSeconds ∧ args.settlementRetryIntervalSeconds ≤ 900) then
    .error ("settlement policy must satisfy 60 <= rate window <= 3600, " ++
      "1 <= per-record <= per-principal <= global <= 100, and 1 <= retry interval <= 900")
  else .ok ()

def validateReplacement : Except String Unit :=
  let policy := args.governanceReplacement
  if ¬(1 ≤ policy.maxReplacements ∧ policy.maxReplacements ≤ 8) ∨
      ¬(1000 ≤ policy.feeBumpBps ∧ policy.feeBumpBps ≤ 5000) then
    .error "governance replacement policy is outside the supported safety bounds"
  else .ok ()

def validateRoles : Except String Unit :=
  if args.governancePrincipal = Principal.anonymous ∨ args.pausePrincipal = Principal.anonymous ∨
      args.confirmationRelayerPrincipal = Principal.anonymous ∨
      Kernel.confirmationRolesDistinct
        (args.confirmationRelayerPrincipal == args.governancePrincipal)
        (args.confirmationRelayerPrincipal == args.pausePrincipal)
        (args.governancePrincipal == args.pausePrincipal) false = false ∨
      args.feeRecipient.owner = Principal.anonymous ∨
      args.feeRecipient.owner = args.pausePrincipal ∨
      args.feeRecipient.owner = args.governancePrincipal ∨
      args.feeRecipient.owner = args.confirmationRelayerPrincipal ∨
      ¬(args.feeRecipient.subaccount.length = 0 ∨ args.feeRecipient.subaccount.length = 32) then
    .error "administrator principals and fee recipient must be valid"
  else .ok ()

/-- The checks in the order of the source, which stops at the first that fails. -/
def validate : Except String Unit := do
  args.validateContracts
  args.validateProduction
  args.validateRateLimits
  args.operational.validateOperational
  args.validateReplacement
  args.validateRoles

theorem validate_ok {args : BridgeInitArgs} (valid : args.validate = .ok ()) :
    args.operational.validateOperational = .ok () ∧ args.validateReplacement = .ok () ∧
      args.validateRoles = .ok () := by
  obtain ⟨_, _, rest⟩ := bind_ok.mp valid
  obtain ⟨_, _, rest⟩ := bind_ok.mp rest
  obtain ⟨_, _, rest⟩ := bind_ok.mp rest
  obtain ⟨_, operational, rest⟩ := bind_ok.mp rest
  obtain ⟨_, replacement, roles⟩ := bind_ok.mp rest
  exact ⟨operational, replacement, roles⟩

end BridgeInitArgs

end KinicBridge
