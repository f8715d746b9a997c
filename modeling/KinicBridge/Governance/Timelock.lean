import KinicBridge.Base.Bridge
import KinicBridge.Governance.Endpoints

/-! The Base side of governance: the timelock contract with its three roles, the calls the
canister's transactions make to it and to the bridge, and the accounts that pay for them. -/
namespace KinicBridge

inductive OperationState where
  | unset
  | pending (readyAt : Nat)
  | done
  deriving DecidableEq

structure TimelockState where
  operations : Bytes32 → OperationState
  proposer : Bytes20
  executor : Bytes20
  canceller : Bytes20

inductive GovernanceRevert where
  | bridge (error : BridgeError)
  | accessControlUnauthorizedAccount
  | timelockUnexpectedOperationState
  | timelockInsufficientDelay
  | invalidOperationalRoleRotation
  deriving DecidableEq

namespace TimelockState

variable (timelock : TimelockState)

def setOperation (id : Bytes32) (state : OperationState) : TimelockState :=
  { timelock with operations := Function.update timelock.operations id state }

def rotateOperationalMembers (self governance canceller : Bytes20) :
    Except GovernanceRevert TimelockState :=
  if governance = 0 ∨ canceller = 0 ∨ governance = canceller ∨ governance = self ∨
      canceller = self then .error .invalidOperationalRoleRotation
  else .ok { timelock with proposer := governance, executor := governance, canceller }

end TimelockState

/-- OpenZeppelin's `TimelockController`, which the contract inherits: any functions that keep
the documented rules. `beginBatch` has the checks before a batch runs. -/
structure TimelockController where
  scheduleBatch : TimelockState → Bytes20 → Bytes32 → (timestamp minimumDelay delay : Nat) →
    Except GovernanceRevert TimelockState
  cancel : TimelockState → Bytes20 → Bytes32 → Except GovernanceRevert TimelockState
  beginBatch : TimelockState → Bytes20 → Bytes32 → Nat → Except GovernanceRevert TimelockState
  scheduled : ∀ {timelock sender id timestamp minimumDelay delay next},
    scheduleBatch timelock sender id timestamp minimumDelay delay = .ok next →
      (sender = timelock.proposer ∧ timelock.operations id = .unset ∧ minimumDelay ≤ delay) ∧
      next = timelock.setOperation id (.pending (timestamp + delay))
  cancelled : ∀ {timelock sender id next}, cancel timelock sender id = .ok next →
    (sender = timelock.canceller ∧ ∃ readyAt, timelock.operations id = .pending readyAt) ∧
      next = timelock.setOperation id .unset
  begun : ∀ {timelock sender id timestamp next}, beginBatch timelock sender id timestamp = .ok next →
    (sender = timelock.executor ∧
      ∃ readyAt ≤ timestamp, timelock.operations id = .pending readyAt) ∧
      next = timelock.setOperation id .done

def TimelockController.lenient : TimelockController where
  scheduleBatch timelock sender id timestamp minimumDelay delay :=
    if sender ≠ timelock.proposer then .error .accessControlUnauthorizedAccount
    else if timelock.operations id ≠ .unset then .error .timelockUnexpectedOperationState
    else if delay < minimumDelay then .error .timelockInsufficientDelay
    else .ok (timelock.setOperation id (.pending (timestamp + delay)))
  cancel timelock sender id :=
    if sender ≠ timelock.canceller then .error .accessControlUnauthorizedAccount
    else match timelock.operations id with
      | .pending _ => .ok (timelock.setOperation id .unset)
      | .unset | .done => .error .timelockUnexpectedOperationState
  beginBatch timelock sender id timestamp :=
    if sender ≠ timelock.executor then .error .accessControlUnauthorizedAccount
    else match timelock.operations id with
      | .pending readyAt =>
        if timestamp < readyAt then .error .timelockUnexpectedOperationState
        else .ok (timelock.setOperation id .done)
      | .unset | .done => .error .timelockUnexpectedOperationState
  scheduled done := by
    obtain ⟨proposer, done⟩ := guarded_ok.mp done
    obtain ⟨unset, done⟩ := guarded_ok.mp done
    obtain ⟨delayed, done⟩ := guarded_ok.mp done
    exact ⟨⟨not_not.mp proposer, not_not.mp unset, Nat.not_lt.mp delayed⟩,
      (Except.ok.inj done).symm⟩
  cancelled done := by
    obtain ⟨canceller, done⟩ := guarded_ok.mp done
    split at done
    next readyAt pending =>
      exact ⟨⟨not_not.mp canceller, readyAt, pending⟩, (Except.ok.inj done).symm⟩
    all_goals cases done
  begun done := by
    obtain ⟨executor, done⟩ := guarded_ok.mp done
    split at done
    next readyAt pending =>
      obtain ⟨ready, done⟩ := guarded_ok.mp done
      exact ⟨⟨not_not.mp executor, readyAt, Nat.not_lt.mp ready, pending⟩,
        (Except.ok.inj done).symm⟩
    all_goals cases done

/-- Everything on Base that governance reads or writes. `counts` is the number of transactions
an account has sent, `receipts` the outcome of each transaction that is included. -/
structure GovernanceBase where
  bridge : BridgeState
  timelock : TimelockState
  counts : Bytes20 → Nat
  receipts : Bytes32 → Option Bool

/-- A signed transaction of the canister as Base sees it, under the operation it belongs to. -/
structure GovernanceCall where
  hash : Bytes32
  sender : Bytes20
  nonce : Nat
  id : Nat
  kind : GovernanceTransactionKind
  deriving DecidableEq

structure GovernanceParameters extends BridgeParameters where
  controller : TimelockController
  minimumDelay : Nat
  activationDelay : Nat

namespace GovernanceBase

variable (params : GovernanceParameters) (timestamp : Nat) (base : GovernanceBase)

def onBridge (call : BridgeCall) : Except GovernanceRevert GovernanceBase :=
  match base.bridge.execute params.toBridgeParameters timestamp call with
  | .ok bridge => .ok { base with bridge }
  | .error error => .error (.bridge error)

def activate : Except GovernanceRevert GovernanceBase := do
  let minting ← base.onBridge params timestamp
    (.unpauseDepositMints params.baseAdminTimelock)
  minting.onBridge params timestamp (.unpauseWithdrawals params.baseAdminTimelock)

def rotate (rotation : ControlPlaneRotation) : Except GovernanceRevert GovernanceBase := do
  let signing ← base.onBridge params timestamp
    (.rotateBridgeSigner params.baseAdminTimelock rotation.bridgeSigner)
  let administered ← signing.onBridge params timestamp
    (.rotateRuntimeAdministrator params.baseAdminTimelock rotation.runtimeAdministrator)
  let timelock ← administered.timelock.rotateOperationalMembers params.baseAdminTimelock
    rotation.governanceOperator rotation.independentCanceller
  return { administered with timelock }

/-- What the calldata of each kind does when `sender` sends it. -/
def execute (sender : Bytes20) : GovernanceTransactionKind → Except GovernanceRevert GovernanceBase
  | .pauseDepositMints => base.onBridge params timestamp (.pauseDepositMints sender)
  | .pauseWithdrawals => base.onBridge params timestamp (.pauseWithdrawals sender)
  | .setServiceFee value => base.onBridge params timestamp (.setServiceFee sender value)
  | .cancelTimelock id =>
    (params.controller.cancel base.timelock sender id).map fun timelock =>
      { base with timelock }
  | .scheduleActivation operation | .scheduleControlPlaneRotation operation _ =>
    (params.controller.scheduleBatch base.timelock sender operation.operationId timestamp
      params.minimumDelay params.activationDelay).map fun timelock =>
        { base with timelock }
  | .executeActivation operation => do
    let timelock ←
      params.controller.beginBatch base.timelock sender operation.operationId timestamp
    activate params timestamp { base with timelock }
  | .executeControlPlaneRotation operation rotation => do
    let timelock ←
      params.controller.beginBatch base.timelock sender operation.operationId timestamp
    rotate params timestamp { base with timelock } rotation

def include_ (call : GovernanceCall) (outOfGas : Bool) : Option GovernanceBase :=
  if call.nonce ≠ base.counts call.sender then none
  else
    let sent := { base with counts := Function.update base.counts call.sender (call.nonce + 1) }
    match sent.execute params timestamp call.sender call.kind, outOfGas with
    | .ok done, false => some { done with receipts := Function.update base.receipts call.hash (some true) }
    | _, _ => some { sent with receipts := Function.update base.receipts call.hash (some false) }

/-- The calls anyone may make. Calls that ask for a role revert for everyone else. -/
def unprivileged : BridgeCall → Bool
  | .mintDepositWithAuthorization .. | .createWithdrawal .. | .transfer .. => true
  | _ => false

inductive Inclusion where
  | governance (call : GovernanceCall) (outOfGas : Bool)
  | other (call : BridgeCall)
  deriving DecidableEq

def includeOne : Inclusion → Option GovernanceBase
  | .governance call outOfGas => base.include_ params timestamp call outOfGas
  | .other call =>
    if unprivileged call then
      some { base with bridge := base.bridge.run params.toBridgeParameters timestamp call }
    else none

def includeAll (inclusions : List Inclusion) : Option GovernanceBase :=
  inclusions.foldlM (includeOne params timestamp) base

def observe : BaseObservation where
  depositsPaused := base.bridge.depositMintsPaused
  withdrawalsPaused := base.bridge.withdrawalsPaused
  bridgeSigner := base.bridge.bridgeSigner
  runtimeAdministrator := base.bridge.runtimeAdministrator
  timelockProposer := base.timelock.proposer
  timelockExecutor := base.timelock.executor
  timelockCanceller := base.timelock.canceller

end GovernanceBase

end KinicBridge
