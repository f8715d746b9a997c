import KinicBridge.Core.Types

/-! The administrators of the canister: who may pause, resume, pay out and rotate, and where
collected fees go. -/
namespace KinicBridge

abbrev Principal := List UInt8

inductive AdminError where
  | busy
  | unauthorized
  | invalidArgument (message : String)
  | storageFailure
  | insufficientFeeReserve
  deriving DecidableEq

inductive AdminAction where
  | pause
  | resume
  | payout
  | rotate
  deriving DecidableEq

def Kernel.administratorAuthorized (action : AdminAction) (isPause isGovernance : Bool) : Bool :=
  match action with
  | .pause => isPause
  | .payout | .resume | .rotate => isGovernance

structure FeeRecipientConfig where
  owner : Principal
  subaccount : List UInt8
  deriving DecidableEq

structure AdminState where
  depositsPaused : Bool
  pausePrincipal : Principal
  governancePrincipal : Principal
  feeRecipient : FeeRecipientConfig
  deriving DecidableEq

namespace AdminState

variable (admin : AdminState)

def authorized (caller : Principal) (action : AdminAction) : Bool :=
  Kernel.administratorAuthorized action (admin.pausePrincipal == caller)
    (admin.governancePrincipal == caller)

def pause (caller : Principal) : Except AdminError AdminState :=
  if admin.authorized caller .pause then .ok { admin with depositsPaused := true }
  else .error .unauthorized

end AdminState

def Account.new (owner : Principal) (subaccount : Bytes32) : Option Account :=
  if valid : owner ≠ [] ∧ owner.length ≤ 29 ∧ owner ≠ [4] then some ⟨owner, subaccount, valid⟩
  else none

def Bytes32.ofBytes (bytes : List UInt8) : Bytes32 :=
  BitVec.ofNat 256 (bytes.foldl (fun value byte => value * 256 + byte.toNat) 0)

end KinicBridge
