import KinicBridge.Governance.Store

/-! The governance endpoints, cut at their inter-canister calls: prepare, sign, sign again at a
higher fee, confirm; an emergency can come in between. The code before a call, or after its answer,
is one function from the store to the store and what comes next. -/
namespace KinicBridge

open Checked

/-- What the canister is installed with. The timelock's ids, the calldata and the addresses of
the threshold keys are functions of third parties. -/
structure GovernanceConfig where
  baseChainId : Nat
  bridgeContract : Bytes20
  timelockContract : Bytes20
  confirmationRelayerPrincipal : Principal
  expectedMinimumServiceFee : Nat
  maxFeePerGasCeiling : Nat
  maxPriorityFeePerGasCeiling : Nat
  gasLimitCeiling : Nat
  feeBumpBps : Nat
  maxReplacements : Nat
  activationOperation : Nat → PendingTimelockOperation
  rotationOperation : ControlPlaneRotation → PendingTimelockOperation
  calldata : GovernanceTransactionKind → List UInt8
  sha256 : List UInt8 → Bytes32
  bridgeSigner : Nat → Bytes20
  operator : Nat → GovernanceNonceLane → Bytes20

inductive GovernanceAction where
  | pauseDepositMints
  | pauseWithdrawals
  | setServiceFee (value : Nat)
  | cancelPendingTimelock
  | scheduleActivation
  | executeActivation
  | scheduleControlPlaneRotation
  | executeControlPlaneRotation
  deriving DecidableEq

namespace GovernanceAction

def nonceLane : GovernanceAction → GovernanceNonceLane
  | .pauseDepositMints | .pauseWithdrawals | .setServiceFee _ => .runtimeAdministrator
  | .cancelPendingTimelock => .independentCanceller
  | .scheduleActivation | .executeActivation | .scheduleControlPlaneRotation
  | .executeControlPlaneRotation => .governance

def isActivation : GovernanceAction → Bool
  | .scheduleActivation | .executeActivation => true
  | _ => false

def isEmergency : GovernanceAction → Bool
  | .pauseDepositMints | .pauseWithdrawals | .cancelPendingTimelock => true
  | _ => false

def needsPreflight (action : GovernanceAction) : Bool := action.nonceLane == .governance

def matchesPending : GovernanceAction → GovernanceTransactionKind → Bool
  | .pauseDepositMints, .pauseDepositMints | .pauseWithdrawals, .pauseWithdrawals
  | .cancelPendingTimelock, .cancelTimelock _ | .scheduleActivation, .scheduleActivation _
  | .executeActivation, .executeActivation _
  | .scheduleControlPlaneRotation, .scheduleControlPlaneRotation ..
  | .executeControlPlaneRotation, .executeControlPlaneRotation .. => true
  | .setServiceFee value, .setServiceFee pending =>
    decide (value ≤ limit 128) && value == pending
  | _, _ => false

end GovernanceAction

inductive GovernanceError where
  | busy (operationId : Nat)
  | unauthorized
  | invalidArgument
  | storageFailure
  | observationUnavailable
  | transactionNotFinalized (operationId : Nat)
  | transactionReverted (operationId : Nat)
  | replacementLimitReached (operationId : Nat)
  | insufficientGovernanceBalance
  | signingUnavailable
  deriving DecidableEq

/-! Who may do what. The anonymous principal is the single byte 4. -/

namespace GovernanceStore

variable (store : GovernanceStore) (controllers : List Principal) (caller : Principal)

def isGovernance : Bool := caller != [4] && store.admin.governancePrincipal == caller

def isPause : Bool := caller != [4] && store.admin.pausePrincipal == caller

def activationAdmissionOpen : Bool :=
  store.admission.operationalConfigSealed && store.admin.depositsPaused

/-- The bootstrap controller activates once; afterwards governance does. -/
def activationCallerAuthorized : Bool :=
  match store.admission.bootstrapActivationController with
  | some controller =>
    controller == caller && controllers.contains controller && store.activationAdmissionOpen
  | none => store.isGovernance caller && store.activationAdmissionOpen

def requireOperationalConfigSealed : Except GovernanceError Unit :=
  if store.admission.operationalConfigSealed then .ok () else .error .invalidArgument

def requireGovernanceOrPause : Except GovernanceError Unit :=
  if store.isGovernance caller || store.isPause caller then .ok () else .error .unauthorized

variable (action : GovernanceAction)

def actionAuthorized : Bool :=
  if action.isActivation then store.activationCallerAuthorized controllers caller
  else store.isGovernance caller || (store.isPause caller && action.isEmergency)

def requireActionAuthorization : Except GovernanceError (Option Principal) :=
  if store.actionAuthorized controllers caller action = false then .error .unauthorized
  else .ok (if action.isActivation &&
      store.admission.bootstrapActivationController == some caller && controllers.contains caller
    then some caller else none)

/-- The authority is still the one the call started with, and the canister's only controller. -/
def revalidateActionAuthorization (expected : Option Principal) : Except GovernanceError Unit := do
  let current ← store.requireActionAuthorization controllers caller action
  if current ≠ expected ∨ expected.any (fun controller => controllers ≠ [controller]) then
    throw .unauthorized

variable (transaction : GovernanceTransaction)

def transactionAuthorized : Bool :=
  if transaction.kind.isActivation then
    store.activationCallerAuthorized controllers caller &&
      match transaction.activationControllerAuthority with
      | some controller => controller == caller
      | none => store.isGovernance caller
  else transaction.activationControllerAuthority.isNone &&
    (store.isGovernance caller || (store.isPause caller && transaction.kind.isEmergency))

def requireTransactionAuthorization : Except GovernanceError Unit :=
  if store.transactionAuthorized controllers caller transaction then .ok ()
  else .error .unauthorized

/-- The controller an activation was prepared under still is the bootstrap controller and the
canister's only controller. -/
def controllerAuthorityHolds : Bool :=
  if transaction.kind.isActivation then
    store.activationAdmissionOpen &&
      match transaction.activationControllerAuthority with
      | some controller =>
        store.admission.bootstrapActivationController == some controller &&
          controllers == [controller]
      | none => store.admission.bootstrapActivationController.isNone
  else transaction.activationControllerAuthority.isNone

def requireTransactionControllerAuthority : Except GovernanceError Unit :=
  if store.controllerAuthorityHolds controllers transaction then .ok () else .error .unauthorized

def requireConfirmationCaller (config : GovernanceConfig) : Except GovernanceError Unit :=
  if caller != [4] && (caller == config.confirmationRelayerPrincipal ||
      store.isGovernance caller || store.isPause caller) then .ok ()
  else .error .unauthorized

end GovernanceStore

structure BaseObservation where
  depositsPaused : Bool
  withdrawalsPaused : Bool
  bridgeSigner : Bytes20
  runtimeAdministrator : Bytes20
  timelockProposer : Bytes20
  timelockExecutor : Bytes20
  timelockCanceller : Bytes20
  deriving DecidableEq

namespace Kernel

def activationBasePreflightMatches (signerMatches depositsPaused withdrawalsPaused expectedPaused :
    Bool) : Bool :=
  signerMatches && depositsPaused == expectedPaused && withdrawalsPaused == expectedPaused

def activationPostconditionMatches (depositsPaused withdrawalsPaused : Bool) : Bool :=
  !depositsPaused && !withdrawalsPaused

def serviceFeeChangeAllowed (serviceFee minimum maximum : Nat) : Bool :=
  decide (minimum ≤ serviceFee) && decide (serviceFee ≤ maximum)

end Kernel

def activationPreflight (config : GovernanceConfig) (store : GovernanceStore)
    (observed : BaseObservation) : Bool :=
  let generation := store.admission.controlPlaneKeyGeneration
  let governance := config.operator generation .governance
  let administrator := config.operator generation .runtimeAdministrator
  let canceller := config.operator generation .independentCanceller
  Kernel.activationBasePreflightMatches (observed.bridgeSigner == config.bridgeSigner generation)
      observed.depositsPaused observed.withdrawalsPaused true &&
    observed.runtimeAdministrator == administrator && observed.timelockProposer == governance &&
    observed.timelockCanceller == canceller && observed.timelockExecutor == governance &&
    administrator != governance && administrator != canceller && governance != canceller &&
    store.admin.depositsPaused

def controlPlaneRotationPostconditionMatches (observed : BaseObservation)
    (expected : ControlPlaneRotation) : Bool :=
  observed.depositsPaused && observed.bridgeSigner == expected.bridgeSigner &&
    observed.runtimeAdministrator == expected.runtimeAdministrator &&
    observed.timelockProposer == expected.governanceOperator &&
    observed.timelockExecutor == expected.governanceOperator &&
    observed.timelockCanceller == expected.independentCanceller

/-- The finalized state a successful transaction must have left behind to be confirmed. -/
def postconditionMatches (kind : GovernanceTransactionKind) (observed : BaseObservation) : Bool :=
  match kind with
  | .executeActivation _ =>
    Kernel.activationPostconditionMatches observed.depositsPaused observed.withdrawalsPaused
  | .executeControlPlaneRotation _ rotation =>
    controlPlaneRotationPostconditionMatches observed rotation
  | _ => true

inductive ReceiptOutcome where
  | missing
  | pending
  | found (succeeded : Bool) (receiptBlockNumber : Nat) (observed : BaseObservation)
  deriving DecidableEq

structure SignedBaseGovernanceTransaction where
  operationId : Nat
  kind : GovernanceTransactionKind
  sender : Bytes20
  envelope : GovernanceTransactionEnvelope
  signed : SignedGovernanceTransaction
  deriving DecidableEq

structure BaseGovernanceConfirmation where
  operationId : Nat
  transactionHash : Bytes32
  receiptBlockNumber : Nat
  succeeded : Bool
  deriving DecidableEq

structure PreparePlan where
  caller : Principal
  action : GovernanceAction
  authority : Option Principal
  initialized : Bool
  nonce : Nat
  id : Nat
  deriving DecidableEq

inductive GovernanceFlow where
  | observingFee (caller : Principal) (value : Nat) (authority : Option Principal)
  | counting (caller : Principal) (action : GovernanceAction) (authority : Option Principal)
  | preflight (plan : PreparePlan)
  | addressing (plan : PreparePlan) (generation : Nat)
  | affording (plan : PreparePlan) (transaction : GovernanceTransaction)
  | resuming (caller : Principal) (transaction : GovernanceTransaction)
  | signing (caller : Principal) (transaction : GovernanceTransaction)
  | replacing (caller : Principal) (transaction : GovernanceTransaction)
      (current : SignedGovernanceTransaction)
  | replacementSigning (caller : Principal) (transaction : GovernanceTransaction)
      (current : SignedGovernanceTransaction)
  | confirming (caller : Principal) (transaction : GovernanceTransaction) (hash : Bytes32)
  deriving DecidableEq

inductive GovernanceProgress where
  | waiting (flow : GovernanceFlow)
  | returned (view : SignedBaseGovernanceTransaction)
  | confirmed (confirmation : BaseGovernanceConfirmation)
  deriving DecidableEq

def minimumFeeBump (current proposed bumpBps : Nat) : Bool :=
  let minimum := saturatingAdd 128 (min (current * (10000 + bumpBps)) (limit 128))
    9999 / 10000
  decide (max minimum (saturatingAdd 128 current 1) ≤ proposed)

def initialFee (ceiling bumpBps generations : Nat) : Nat :=
  (List.range generations).foldl (fun fee _ =>
    max (min (fee * 10000) (limit 128) / (10000 + bumpBps)) 1) ceiling

namespace GovernanceStore

variable (config : GovernanceConfig) (store : GovernanceStore) (controllers : List Principal)

/-! Preparing. Nothing is written before the transaction is affordable. -/

def operatorAddressForRole (lane : GovernanceNonceLane) : Except GovernanceError Bytes20 :=
  okOr .observationUnavailable (store.admission.operatorAddress lane)

section

variable (transaction : GovernanceTransaction)

def signedView (operator : Bytes20) : Except GovernanceError SignedBaseGovernanceTransaction :=
  (okOr .storageFailure transaction.envelope.signedTransactions.getLast?).map fun signed =>
    ⟨transaction.id, transaction.kind, operator, transaction.envelope, signed⟩

inductive PendingSignatureAction where
  | sign
  | returnSigned
  deriving DecidableEq

def pendingSignatureAction : Except GovernanceError PendingSignatureAction :=
  match transaction.state with
  | .prepared =>
    if transaction.envelope.signedTransactions = [] then .ok .sign else .error .storageFailure
  | .signedAwaitingRelay hash generation signedAtNs => do
    let current ← okOr .storageFailure transaction.envelope.signedTransactions.getLast?
    if current.transactionHash ≠ hash ∨ current.generation ≠ generation ∨
        current.signedAtNs ≠ signedAtNs then throw .storageFailure
    return .returnSigned
  | .confirmed .. | .reverted .. => .error .storageFailure

end

variable (caller : Principal)

def resumePending (transaction : GovernanceTransaction) (operator : Bytes20) :
    Except GovernanceError GovernanceProgress := do
  store.requireTransactionAuthorization controllers caller transaction
  match ← pendingSignatureAction transaction with
  | .sign => return .waiting (.resuming caller transaction)
  | .returnSigned => return .returned (← signedView transaction operator)

section

variable (plan : PreparePlan) (kind : GovernanceTransactionKind)

def transactionOf : GovernanceTransaction where
  id := plan.id
  kind
  envelope := {
    payloadHash := config.sha256 (config.calldata kind)
    nonce := plan.nonce
    chainId := config.baseChainId
    contract := if kind.nonceLane = .runtimeAdministrator then config.bridgeContract
      else config.timelockContract
    calldata := config.calldata kind
    gasLimit := config.gasLimitCeiling
    maxFeePerGas := initialFee config.maxFeePerGasCeiling config.feeBumpBps config.maxReplacements
    maxPriorityFeePerGas := min
      (initialFee config.maxPriorityFeePerGasCeiling config.feeBumpBps config.maxReplacements)
      (initialFee config.maxFeePerGasCeiling config.feeBumpBps config.maxReplacements)
    signedTransactions := [] }
  state := .prepared
  activationControllerAuthority := plan.authority

def assemble : GovernanceProgress :=
  .waiting (.affording plan (transactionOf config plan kind))

def encodeAction : Except GovernanceError GovernanceProgress :=
  let admission := store.admission
  match plan.action with
  | .pauseDepositMints => .ok (assemble config plan .pauseDepositMints)
  | .pauseWithdrawals => .ok (assemble config plan .pauseWithdrawals)
  | .setServiceFee value => .ok (assemble config plan (.setServiceFee value))
  | .cancelPendingTimelock => do
    let pending ← okOr .invalidArgument admission.pendingTimelockOperation
    return assemble config plan (.cancelTimelock pending.operationId)
  | .scheduleActivation =>
    .ok (assemble config plan (.scheduleActivation (config.activationOperation plan.id)))
  | .executeActivation => do
    if admission.pendingControlPlaneRotation.isSome then throw .invalidArgument
    let pending ← okOr .invalidArgument admission.pendingTimelockOperation
    return assemble config plan (.executeActivation pending)
  | .scheduleControlPlaneRotation => do
    let generation ← okOr .invalidArgument
      (add 32 admission.controlPlaneKeyGeneration 1)
    return .waiting (.addressing plan generation)
  | .executeControlPlaneRotation => do
    let rotation ← okOr .invalidArgument admission.pendingControlPlaneRotation
    let pending ← okOr .invalidArgument admission.pendingTimelockOperation
    return assemble config plan (.executeControlPlaneRotation pending rotation)

end

def plannedNonce (lane : LaneState) (observed : Option Nat) : Option Nat :=
  if lane.initialized then some lane.nextNonce else observed

variable (action : GovernanceAction)

def prepareWithNonce (authority : Option Principal) (observed : Option Nat) :
    Except GovernanceError GovernanceProgress := do
  store.revalidateActionAuthorization controllers caller action authority
  let lane := store.admission.lane action.nonceLane
  match lane.pending with
  | some pending =>
    store.requireTransactionAuthorization controllers caller pending
    throw (.busy pending.id)
  | none =>
    let nonce ← okOr .storageFailure (plannedNonce lane observed)
    let plan : PreparePlan := ⟨caller, action, authority, lane.initialized, nonce,
      store.admission.nextGovernanceOperationId⟩
    if action.needsPreflight then return .waiting (.preflight plan)
    else store.encodeAction config plan

def prepareLane (authority : Option Principal) : Except GovernanceError GovernanceProgress := do
  let operator ← store.operatorAddressForRole action.nonceLane
  store.revalidateActionAuthorization controllers caller action authority
  let lane := store.admission.lane action.nonceLane
  match lane.pending with
  | some pending =>
    store.requireTransactionAuthorization controllers caller pending
    if action.matchesPending pending.kind = false then throw (.busy pending.id)
    store.resumePending controllers caller pending operator
  | none =>
    if lane.initialized then store.prepareWithNonce config controllers caller action authority none
    else return .waiting (.counting caller action authority)

def prepare : Except GovernanceError GovernanceProgress := do
  store.requireOperationalConfigSealed
  let authority ← store.requireActionAuthorization controllers caller action
  store.revalidateActionAuthorization controllers caller action authority
  match action with
  | .setServiceFee value =>
    if limit 128 < value then throw .invalidArgument
    return .waiting (.observingFee caller value authority)
  | _ => store.prepareLane config controllers caller action authority

end GovernanceStore

/-- The store a message leaves, also when it ends in an error, and what happens next. -/
abbrev GovernanceMessage := GovernanceStore × Except GovernanceError GovernanceProgress

namespace GovernanceStore

variable (config : GovernanceConfig) (store : GovernanceStore) (controllers : List Principal)

def withAdmission (admission : GovernanceAdmission) : GovernanceStore := { store with admission }

/-! Answers to the calls of `prepare`. -/

variable (caller : Principal)

def feeObserved (value : Nat) (authority : Option Principal)
    (maxServiceFee : Nat) : Except GovernanceError GovernanceProgress := do
  store.revalidateActionAuthorization controllers caller (.setServiceFee value) authority
  if Kernel.serviceFeeChangeAllowed value config.expectedMinimumServiceFee maxServiceFee = false then
    throw .invalidArgument
  store.prepareLane config controllers caller (.setServiceFee value) authority

section

variable (plan : PreparePlan)

def preflighted (observed : BaseObservation) : Except GovernanceError GovernanceProgress := do
  if activationPreflight config store observed = false then throw .observationUnavailable
  store.revalidateActionAuthorization controllers plan.caller plan.action plan.authority
  store.encodeAction config plan

variable (generation : Nat)

def addressesFor : ControlPlaneRotation :=
  ⟨generation, config.bridgeSigner generation, config.operator generation .governance,
    config.operator generation .runtimeAdministrator,
    config.operator generation .independentCanceller⟩

def addressed : GovernanceProgress :=
  let rotation := addressesFor config generation
  assemble config plan (.scheduleControlPlaneRotation (config.rotationOperation rotation) rotation)

def afforded (transaction : GovernanceTransaction) : GovernanceMessage :=
  match (do store.requireTransactionAuthorization controllers plan.caller transaction
            store.requireTransactionControllerAuthority controllers transaction :
      Except GovernanceError Unit) with
  | .error error => (store, .error error)
  | .ok () =>
    let first := if plan.initialized then .ok store.admission
      else store.admission.initializeGovernanceNonceFor transaction.kind.nonceLane plan.nonce
    match first with
    | .error _ => (store, .error .storageFailure)
    | .ok admission =>
      match admission.prepareGovernanceTransaction transaction with
      | .error _ => (store.withAdmission admission, .error .storageFailure)
      | .ok prepared =>
        (store.withAdmission prepared, .ok (.waiting (.signing plan.caller transaction)))

end

section

variable (transaction : GovernanceTransaction)

def resumed : Except GovernanceError GovernanceProgress := do
  store.requireTransactionAuthorization controllers caller transaction
  store.requireTransactionControllerAuthority controllers transaction
  if (← pendingSignatureAction transaction) ≠ .sign then throw .storageFailure
  return .waiting (.signing caller transaction)

def withGeneration (hash : Bytes32) (generation now : Nat) : GovernanceTransaction :=
  { transaction with
    envelope := { transaction.envelope with
      signedTransactions := transaction.envelope.signedTransactions ++
        [⟨hash, transaction.envelope.maxFeePerGas, transaction.envelope.maxPriorityFeePerGas,
          generation, now⟩] }
    state := .signedAwaitingRelay hash generation now }

def persist (operator : Bytes20) : GovernanceMessage :=
  match store.admission.updateGovernanceTransaction transaction with
  | .error _ => (store, .error .storageFailure)
  | .ok updated =>
    (store.withAdmission updated, (signedView transaction operator).map .returned)

def pendingTransaction (operationId : Nat) : Except GovernanceError GovernanceTransaction :=
  okOr .invalidArgument
    (([.governance, .runtimeAdministrator, .independentCanceller].filterMap fun lane =>
      (store.admission.lane lane).pending).find? (·.id == operationId))

def completedTransaction (operationId : Nat) : Option GovernanceTransaction :=
  ([.governance, .runtimeAdministrator, .independentCanceller].filterMap fun lane =>
    (store.admission.lane lane).completed).find? (·.id == operationId)

def dangerousInEmergency (kind : GovernanceTransactionKind) : Bool :=
  kind.dangerous && store.admission.emergencyBaseActionsPending

def stillPending (unchanged : GovernanceTransaction → Bool) (changed : GovernanceError) :
    Except GovernanceError Bytes20 := do
  store.requireTransactionAuthorization controllers caller transaction
  store.requireTransactionControllerAuthority controllers transaction
  let pending ← store.pendingTransaction transaction.id
  if unchanged pending = false then throw changed
  store.operatorAddressForRole transaction.kind.nonceLane

/-- `sign_prepared` after the signature. A dangerous transaction is aborted if an emergency was
declared in the meantime; the check and the write are one message. -/
def signed (hash : Bytes32) (now : Nat) : GovernanceMessage :=
  match store.stillPending controllers caller transaction (· == transaction) .storageFailure with
  | .error error => (store, .error error)
  | .ok operator =>
    if store.dangerousInEmergency transaction.kind then
      match store.admission.abortPreparedGovernanceTransactionForEmergency transaction with
      | .error _ => (store, .error .storageFailure)
      | .ok aborted => (store.withAdmission aborted, .error (.busy transaction.id))
    else store.persist (withGeneration transaction hash 0 now) operator

/-! Replacing: the same transaction at a higher fee. -/

structure ReplacementArgs where
  operationId : Nat
  expectedTransactionHash : Bytes32
  maxFeePerGas : Nat
  maxPriorityFeePerGas : Nat
  deriving DecidableEq

def awaitsRelay : Bool :=
  match transaction.state with
  | .signedAwaitingRelay .. => true
  | _ => false

end

def replacementFeesAllowed (args : ReplacementArgs) (current : SignedGovernanceTransaction) :
    Bool :=
  decide (args.maxFeePerGas ≤ config.maxFeePerGasCeiling) &&
    decide (args.maxPriorityFeePerGas ≤ config.maxPriorityFeePerGasCeiling) &&
    decide (args.maxPriorityFeePerGas ≤ args.maxFeePerGas) &&
    minimumFeeBump current.maxFeePerGas args.maxFeePerGas config.feeBumpBps &&
    minimumFeeBump current.maxPriorityFeePerGas args.maxPriorityFeePerGas config.feeBumpBps

def prepareReplacement (args : ReplacementArgs) : Except GovernanceError GovernanceProgress := do
  store.requireOperationalConfigSealed
  if limit 128 < args.maxFeePerGas ∨ limit 128 < args.maxPriorityFeePerGas then
    throw .invalidArgument
  let transaction ← store.pendingTransaction args.operationId
  let _ ← store.operatorAddressForRole transaction.kind.nonceLane
  store.requireTransactionAuthorization controllers caller transaction
  store.requireTransactionControllerAuthority controllers transaction
  let current ← okOr .storageFailure transaction.envelope.signedTransactions.getLast?
  if current.transactionHash ≠ args.expectedTransactionHash ∨ awaitsRelay transaction = false then
    throw .invalidArgument
  if config.maxReplacements ≤ current.generation then
    throw (.replacementLimitReached transaction.id)
  if replacementFeesAllowed config args current = false then throw .invalidArgument
  return .waiting (.replacing caller
    { transaction with envelope := { transaction.envelope with
        maxFeePerGas := args.maxFeePerGas
        maxPriorityFeePerGas := args.maxPriorityFeePerGas } } current)

section

variable (transaction : GovernanceTransaction) (current : SignedGovernanceTransaction)

def replacementAfforded : Except GovernanceError GovernanceProgress := do
  store.requireTransactionAuthorization controllers caller transaction
  store.requireTransactionControllerAuthority controllers transaction
  return .waiting (.replacementSigning caller transaction current)

def replacementSigned (hash : Bytes32) (now : Nat) : GovernanceMessage :=
  match store.stillPending controllers caller transaction (fun pending =>
      pending.envelope.signedTransactions.getLast? == some current && awaitsRelay pending)
      .invalidArgument with
  | .error error => (store, .error error)
  | .ok operator =>
    if store.dangerousInEmergency transaction.kind then (store, .error (.busy transaction.id))
    else
      match add 8 current.generation 1 with
      | none => (store, .error .storageFailure)
      | some generation => store.persist (withGeneration transaction hash generation now) operator

end

/-! Confirming: the receipt of a signed generation completes its transaction. -/

structure ConfirmArgs where
  operationId : Nat
  transactionHash : Bytes32
  deriving DecidableEq

def confirmedAgain (args : ConfirmArgs) : Except GovernanceError GovernanceProgress :=
  match store.completedTransaction args.operationId with
  | none => .error .invalidArgument
  | some completed =>
    match completed.state with
    | .confirmed hash block =>
      if hash = args.transactionHash then .ok (.confirmed ⟨completed.id, hash, block, true⟩)
      else .error .invalidArgument
    | .reverted hash block =>
      if hash = args.transactionHash then .ok (.confirmed ⟨completed.id, hash, block, false⟩)
      else .error .invalidArgument
    | .prepared | .signedAwaitingRelay .. => .error .invalidArgument

def confirm (args : ConfirmArgs) : Except GovernanceError GovernanceProgress := do
  store.requireOperationalConfigSealed
  store.requireConfirmationCaller caller config
  match store.pendingTransaction args.operationId with
  | .error _ => store.confirmedAgain args
  | .ok transaction =>
    store.requireTransactionControllerAuthority controllers transaction
    if (transaction.envelope.signedTransactions.any
        (·.transactionHash == args.transactionHash)) = false then throw .invalidArgument
    return .waiting (.confirming caller transaction args.transactionHash)

variable (transaction : GovernanceTransaction)

def withReceipt (hash : Bytes32) (succeeded : Bool) (block : Nat) : GovernanceTransaction :=
  { transaction with state := if succeeded then .confirmed hash block else .reverted hash block }

/-- A confirmed activation may resume deposits as the governance principal. -/
def completeWithReceipt : Except GovernanceStorageError GovernanceStore :=
  match transaction.kind, transaction.isConfirmed with
  | .executeActivation _, true =>
    store.completeConfirmedActivationAndResumeIfClear transaction store.admin.governancePrincipal
  | _, _ => store.completeGovernanceTransaction transaction

def receiptArrived (hash : Bytes32) (outcome : ReceiptOutcome) : GovernanceMessage :=
  match (do store.requireConfirmationCaller caller config
            store.requireTransactionControllerAuthority controllers transaction :
      Except GovernanceError Unit) with
  | .error error => (store, .error error)
  | .ok () =>
    match outcome with
    | .missing | .pending => (store, .error (.transactionNotFinalized transaction.id))
    | .found succeeded block observed =>
      if succeeded && !postconditionMatches transaction.kind observed then
        (store, .error .observationUnavailable)
      else
        match store.completeWithReceipt (withReceipt transaction hash succeeded block) with
        | .error _ => (store, .error .storageFailure)
        | .ok completed =>
          (completed, if succeeded then .ok (.confirmed ⟨transaction.id, hash, block, true⟩)
            else .error (.transactionReverted transaction.id))

def emergencyPause : Except GovernanceError GovernanceStore :=
  match store.admin.pause caller with
  | .error _ => .error .unauthorized
  | .ok admin => .ok ⟨store.admission.enqueueEmergencyBaseActions, admin⟩

def emergencyAction : Option GovernanceTransactionKind → Except GovernanceError GovernanceAction
  | some .pauseDepositMints => .ok .pauseDepositMints
  | some .pauseWithdrawals => .ok .pauseWithdrawals
  | some (.cancelTimelock _) => .ok .cancelPendingTimelock
  | _ => .error .invalidArgument

/-- An emergency action in its lane is resumed, a dangerous one that is not signed yet makes
room for it. -/
def prepareNextEmergency : GovernanceMessage :=
  match (do store.requireOperationalConfigSealed
            store.requireGovernanceOrPause caller
            (store.admission.nextEmergencyBaseAction).mapError fun _ => .storageFailure :
      Except GovernanceError (Option GovernanceTransactionKind)) with
  | .error error => (store, .error error)
  | .ok next =>
    let prepared := fun store : GovernanceStore => do
      let action ← emergencyAction next
      store.prepare config controllers caller action
    match next.bind fun kind => (store.admission.lane kind.nonceLane).pending with
    | none => (store, prepared store)
    | some pending =>
      if pending.kind.isEmergency then
        (store, do
          store.requireTransactionAuthorization controllers caller pending
          let operator ← store.operatorAddressForRole pending.kind.nonceLane
          store.resumePending controllers caller pending operator)
      else if pending.kind.dangerous && pending.state == .prepared then
        match store.admission.abortPreparedGovernanceTransactionForEmergency pending with
        | .error _ => (store, .error .storageFailure)
        | .ok aborted =>
          (store.withAdmission aborted, prepared (store.withAdmission aborted))
      else (store, .error (.busy pending.id))

def rotatePausePrincipal (caller next : Principal) : Except AdminError GovernanceStore :=
  if next = [4] then .error (.invalidArgument "invalid pause principal")
  else if store.admin.authorized caller .rotate = false then .error .unauthorized
  else if next = store.admin.governancePrincipal ∨ next = store.admin.feeRecipient.owner ∨
      next = config.confirmationRelayerPrincipal then
    .error (.invalidArgument
      "pause principal must not overlap governance, fee recipient, or confirmation relayer")
  else .ok { store with admin := { store.admin with pausePrincipal := next } }

end GovernanceStore

end KinicBridge
