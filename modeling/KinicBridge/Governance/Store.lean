import KinicBridge.Core.Admin

/-! The governance part of the canister's store: three nonce lanes, the pending timelock operation
and rotation, and the Base actions an emergency asks for. Each function is one transaction. -/
namespace KinicBridge

open Checked

inductive GovernanceNonceLane where
  | governance
  | runtimeAdministrator
  | independentCanceller
  deriving DecidableEq

structure PendingTimelockOperation where
  operationId : Bytes32
  salt : Bytes32
  deriving DecidableEq

structure ControlPlaneRotation where
  generation : Nat
  bridgeSigner : Bytes20
  governanceOperator : Bytes20
  runtimeAdministrator : Bytes20
  independentCanceller : Bytes20
  deriving DecidableEq

inductive GovernanceTransactionKind where
  | pauseDepositMints
  | pauseWithdrawals
  | setServiceFee (value : Nat)
  | cancelTimelock (operationId : Bytes32)
  | scheduleActivation (operation : PendingTimelockOperation)
  | executeActivation (operation : PendingTimelockOperation)
  | scheduleControlPlaneRotation (operation : PendingTimelockOperation)
      (rotation : ControlPlaneRotation)
  | executeControlPlaneRotation (operation : PendingTimelockOperation)
      (rotation : ControlPlaneRotation)
  deriving DecidableEq

namespace GovernanceTransactionKind

def nonceLane : GovernanceTransactionKind → GovernanceNonceLane
  | .pauseDepositMints | .pauseWithdrawals | .setServiceFee _ => .runtimeAdministrator
  | .cancelTimelock _ => .independentCanceller
  | .scheduleActivation _ | .executeActivation _ | .scheduleControlPlaneRotation ..
  | .executeControlPlaneRotation .. => .governance

def dangerous : GovernanceTransactionKind → Bool
  | .setServiceFee _ | .scheduleActivation _ | .executeActivation _
  | .scheduleControlPlaneRotation .. | .executeControlPlaneRotation .. => true
  | .pauseDepositMints | .pauseWithdrawals | .cancelTimelock _ => false

def isEmergency : GovernanceTransactionKind → Bool
  | .pauseDepositMints | .pauseWithdrawals | .cancelTimelock _ => true
  | _ => false

def isActivation : GovernanceTransactionKind → Bool
  | .scheduleActivation _ | .executeActivation _ => true
  | _ => false

end GovernanceTransactionKind

structure SignedGovernanceTransaction where
  transactionHash : Bytes32
  maxFeePerGas : Nat
  maxPriorityFeePerGas : Nat
  generation : Nat
  signedAtNs : Nat
  deriving DecidableEq

structure GovernanceTransactionEnvelope where
  payloadHash : Bytes32
  nonce : Nat
  chainId : Nat
  contract : Bytes20
  calldata : List UInt8
  gasLimit : Nat
  maxFeePerGas : Nat
  maxPriorityFeePerGas : Nat
  signedTransactions : List SignedGovernanceTransaction
  deriving DecidableEq

inductive GovernanceTransactionState where
  | prepared
  | signedAwaitingRelay (transactionHash : Bytes32) (generation signedAtNs : Nat)
  | confirmed (transactionHash : Bytes32) (receiptBlockNumber : Nat)
  | reverted (transactionHash : Bytes32) (receiptBlockNumber : Nat)
  deriving DecidableEq

structure GovernanceTransaction where
  id : Nat
  kind : GovernanceTransactionKind
  envelope : GovernanceTransactionEnvelope
  state : GovernanceTransactionState
  activationControllerAuthority : Option Principal
  deriving DecidableEq

structure ConfirmedActivationRecord where
  executed : Bool
  governanceOperationId : Nat
  timelockOperationId : Bytes32
  transactionHash : Bytes32
  receiptBlockNumber : Nat
  generation : Nat
  signedAtNs : Nat
  deriving DecidableEq

namespace GovernanceTransaction

variable (transaction : GovernanceTransaction)

def isConfirmed : Bool :=
  match transaction.state with
  | .confirmed .. => true
  | _ => false

def isReverted : Bool :=
  match transaction.state with
  | .reverted .. => true
  | _ => false

def confirmedAttempt (hash : Bytes32) : Option SignedGovernanceTransaction :=
  match transaction.envelope.signedTransactions.filter (·.transactionHash == hash) with
  | [signed] => some signed
  | _ => none

def activationRecord (executed : Bool)
    (operation : PendingTimelockOperation) : Option (Option ConfirmedActivationRecord) :=
  match transaction.state with
  | .confirmed hash block =>
    (transaction.confirmedAttempt hash).map fun signed => some
      ⟨executed, transaction.id, operation.operationId, hash, block, signed.generation,
        signed.signedAtNs⟩
  | _ => some none

/-- What is remembered of a confirmed activation. The outer option is absent if no signed
generation, or more than one, has the hash. -/
def confirmedActivationRecord : Option (Option ConfirmedActivationRecord) :=
  match transaction.kind with
  | .scheduleActivation operation => transaction.activationRecord false operation
  | .executeActivation operation => transaction.activationRecord true operation
  | _ => some none

end GovernanceTransaction

inductive GovernanceStorageError where
  | decodeFailed
  | encodeFailed
  deriving DecidableEq

structure LaneState where
  initialized : Bool
  nextNonce : Nat
  pending : Option GovernanceTransaction
  completed : Option GovernanceTransaction
  deriving DecidableEq

structure GovernanceAdmission where
  lanes : GovernanceNonceLane → LaneState
  nextGovernanceOperationId : Nat
  pendingTimelockOperation : Option PendingTimelockOperation
  pendingControlPlaneRotation : Option ControlPlaneRotation
  emergencyPauseDepositRequired : Bool
  emergencyPauseWithdrawalRequired : Bool
  emergencyCancelRequired : Bool
  controlPlaneKeyGeneration : Nat
  operatorAddress : GovernanceNonceLane → Option Bytes20
  operationalConfigSealed : Bool
  bootstrapActivationController : Option Principal
  lastConfirmedActivation : Option ConfirmedActivationRecord

namespace GovernanceAdmission

variable (admission : GovernanceAdmission)

def lane (admission : GovernanceAdmission) (lane : GovernanceNonceLane) : LaneState :=
  admission.lanes lane

def setLane (lane : GovernanceNonceLane) (state : LaneState) : GovernanceAdmission :=
  { admission with lanes := Function.update admission.lanes lane state }

def enqueueEmergencyBaseActions : GovernanceAdmission :=
  { admission with
    emergencyPauseDepositRequired := true
    emergencyPauseWithdrawalRequired := true
    emergencyCancelRequired := admission.pendingTimelockOperation.isSome }

def nextEmergencyBaseAction : Except GovernanceStorageError (Option GovernanceTransactionKind) :=
  if admission.emergencyPauseDepositRequired then .ok (some .pauseDepositMints)
  else if admission.emergencyPauseWithdrawalRequired then .ok (some .pauseWithdrawals)
  else if admission.emergencyCancelRequired then
    match admission.pendingTimelockOperation with
    | some pending => .ok (some (.cancelTimelock pending.operationId))
    | none => .error .decodeFailed
  else .ok none

def emergencyBaseActionsPending : Bool :=
  admission.emergencyPauseDepositRequired || admission.emergencyPauseWithdrawalRequired ||
    admission.emergencyCancelRequired

def initializeGovernanceNonceFor (lane : GovernanceNonceLane)
    (nonce : Nat) : Except GovernanceStorageError GovernanceAdmission :=
  let state := admission.lane lane
  if state.initialized = false then
    .ok (admission.setLane lane { state with initialized := true, nextNonce := nonce })
  else if state.nextNonce < nonce then .error .decodeFailed
  else .ok admission

def controlPlaneAddressesAreDistinct (rotation : ControlPlaneRotation) : Bool :=
  let addresses := [rotation.bridgeSigner, rotation.governanceOperator,
    rotation.runtimeAdministrator, rotation.independentCanceller]
  addresses.zipIdx.all fun (address, index) =>
    address != 0 && !(addresses.take index).contains address

def otherLanesFree : Bool :=
  (admission.lane .runtimeAdministrator).pending.isNone &&
    (admission.lane .independentCanceller).pending.isNone

def prepareAllowed : GovernanceTransactionKind → Bool
  | .scheduleActivation _ =>
    admission.pendingTimelockOperation.isNone && admission.pendingControlPlaneRotation.isNone
  | .executeActivation operation => admission.pendingTimelockOperation == some operation
  | .scheduleControlPlaneRotation _ rotation =>
    admission.pendingTimelockOperation.isNone && admission.pendingControlPlaneRotation.isNone &&
      admission.otherLanesFree &&
      rotation.generation == saturatingAdd 32 admission.controlPlaneKeyGeneration 1 &&
      controlPlaneAddressesAreDistinct rotation
  | .executeControlPlaneRotation operation rotation =>
    admission.pendingTimelockOperation == some operation &&
      admission.pendingControlPlaneRotation == some rotation && admission.otherLanesFree
  | .cancelTimelock operationId =>
    admission.pendingTimelockOperation.any (·.operationId == operationId)
  | .pauseDepositMints | .pauseWithdrawals | .setServiceFee _ => true

def recordScheduled : GovernanceTransactionKind → GovernanceAdmission
  | .scheduleActivation operation =>
    { admission with pendingTimelockOperation := some operation }
  | .scheduleControlPlaneRotation operation rotation =>
    { admission with
      pendingTimelockOperation := some operation
      pendingControlPlaneRotation := some rotation }
  | _ => admission

variable (transaction : GovernanceTransaction)

def prepareGovernanceTransaction : Except GovernanceStorageError GovernanceAdmission := do
  let lane := transaction.kind.nonceLane
  let state := admission.lane lane
  if state.initialized = false ∨ state.pending.isSome ∨
      transaction.id ≠ admission.nextGovernanceOperationId ∨
      transaction.envelope.nonce ≠ state.nextNonce then throw .decodeFailed
  if admission.prepareAllowed transaction.kind = false then throw .decodeFailed
  let nextId ← okOr .encodeFailed
    (add 64 admission.nextGovernanceOperationId 1)
  let nextNonce ← okOr .encodeFailed (add 64 state.nextNonce 1)
  return { (admission.recordScheduled transaction.kind).setLane lane
      { state with initialized := true, nextNonce, pending := some transaction } with
    nextGovernanceOperationId := nextId }

def updateGovernanceTransaction : Except GovernanceStorageError GovernanceAdmission :=
  let lane := transaction.kind.nonceLane
  let state := admission.lane lane
  if state.pending.any fun pending =>
      pending.id = transaction.id ∧ pending.envelope.nonce = transaction.envelope.nonce then
    .ok (admission.setLane lane { state with pending := some transaction })
  else .error .decodeFailed

def withdrawScheduled :
    GovernanceTransactionKind → Except GovernanceStorageError GovernanceAdmission
  | .scheduleActivation operation =>
    if admission.pendingTimelockOperation ≠ some operation then .error .decodeFailed
    else .ok { admission with
      pendingTimelockOperation := none
      emergencyCancelRequired := false }
  | .scheduleControlPlaneRotation _ rotation =>
    if admission.pendingControlPlaneRotation ≠ some rotation then .error .decodeFailed
    else .ok { admission with
      pendingTimelockOperation := none
      pendingControlPlaneRotation := none
      emergencyCancelRequired := false }
  | _ => .ok admission

def abortPreparedGovernanceTransactionForEmergency :
    Except GovernanceStorageError GovernanceAdmission := do
  let lane := transaction.kind.nonceLane
  let state := admission.lane lane
  if admission.emergencyBaseActionsPending = false then throw .decodeFailed
  let nextNonce ← okOr .decodeFailed (add 64 transaction.envelope.nonce 1)
  if state.pending ≠ some transaction ∨ transaction.state ≠ .prepared ∨
      transaction.kind.dangerous = false ∨ state.nextNonce ≠ nextNonce then throw .decodeFailed
  let withdrawn ← admission.withdrawScheduled transaction.kind
  return withdrawn.setLane lane
    ⟨true, transaction.envelope.nonce, none, some transaction⟩

/-- A receipt that contradicts the pending operation is not recorded. -/
def completionMismatch : Bool :=
  match transaction.kind with
  | .cancelTimelock operationId =>
    transaction.isConfirmed &&
      !admission.pendingTimelockOperation.any (·.operationId == operationId)
  | .scheduleActivation operation =>
    transaction.isReverted && admission.pendingTimelockOperation != some operation
  | .executeActivation operation =>
    transaction.isConfirmed && admission.pendingTimelockOperation != some operation
  | .scheduleControlPlaneRotation operation rotation =>
    transaction.isReverted && (admission.pendingTimelockOperation != some operation ||
      admission.pendingControlPlaneRotation != some rotation)
  | .executeControlPlaneRotation operation rotation =>
    transaction.isConfirmed && (admission.pendingTimelockOperation != some operation ||
      admission.pendingControlPlaneRotation != some rotation)
  | .pauseDepositMints | .pauseWithdrawals | .setServiceFee _ => false

def clearTimelock : GovernanceAdmission :=
  { admission with pendingTimelockOperation := none, emergencyCancelRequired := false }

def resetNonce (state : LaneState) : LaneState := { state with initialized := false, nextNonce := 0 }

def rotateControlPlane (rotation : ControlPlaneRotation) : GovernanceAdmission :=
  { admission.clearTimelock with
    controlPlaneKeyGeneration := rotation.generation
    operatorAddress := fun
      | .governance => some rotation.governanceOperator
      | .runtimeAdministrator => some rotation.runtimeAdministrator
      | .independentCanceller => some rotation.independentCanceller
    lanes := fun lane => resetNonce (admission.lanes lane)
    pendingControlPlaneRotation := none }

/-- What the receipt of a transaction says about the emergency and the pending operation. -/
def recordOutcome : GovernanceAdmission :=
  match transaction.kind, transaction.isConfirmed with
  | .pauseDepositMints, true => { admission with emergencyPauseDepositRequired := false }
  | .pauseWithdrawals, true => { admission with emergencyPauseWithdrawalRequired := false }
  | .cancelTimelock _, true | .scheduleControlPlaneRotation .., false =>
    { admission.clearTimelock with pendingControlPlaneRotation := none }
  | .scheduleActivation _, false | .executeActivation _, true => admission.clearTimelock
  | .executeControlPlaneRotation _ rotation, true => admission.rotateControlPlane rotation
  | _, _ => admission

def applyGovernanceCompletion : Except GovernanceStorageError GovernanceAdmission := do
  let lane := transaction.kind.nonceLane
  let state := admission.lane lane
  if ¬state.pending.any (fun pending => pending.id = transaction.id ∧
      pending.kind = transaction.kind ∧ pending.envelope = transaction.envelope) then
    throw .decodeFailed
  if transaction.isConfirmed = false ∧ transaction.isReverted = false then throw .decodeFailed
  if admission.completionMismatch transaction then throw .decodeFailed
  let activation ← okOr .decodeFailed transaction.confirmedActivationRecord
  let freed := admission.setLane lane { state with pending := none, completed := some transaction }
  let remembered := { freed with
    lastConfirmedActivation := activation.orElse fun _ => freed.lastConfirmedActivation }
  return remembered.recordOutcome transaction

end GovernanceAdmission

structure GovernanceStore where
  admission : GovernanceAdmission
  admin : AdminState

namespace GovernanceStore

variable (store : GovernanceStore) (transaction : GovernanceTransaction)

def completeGovernanceTransaction : Except GovernanceStorageError GovernanceStore :=
  (store.admission.applyGovernanceCompletion transaction).map fun admission =>
    { store with admission }

/-- A confirmed activation resumes deposits, unless an emergency still asks for Base actions. -/
def completeConfirmedActivationAndResumeIfClear (caller : Principal) :
    Except GovernanceStorageError GovernanceStore := do
  match transaction.kind, transaction.isConfirmed with
  | .executeActivation _, true =>
    let completed ← store.admission.applyGovernanceCompletion transaction
    let admission := { completed with bootstrapActivationController := none }
    if store.admin.depositsPaused = false ∨ store.admin.authorized caller .resume = false then
      throw .decodeFailed
    return ⟨admission, { store.admin with depositsPaused := admission.emergencyBaseActionsPending }⟩
  | _, _ => throw .decodeFailed

end GovernanceStore

end KinicBridge
