import KinicBridge.Settlement.Store

/-! The rate limits of new deposits, and the reservations that let funding attempts through: a
caller has one live attempt at a time, and there are at most sixteen of them. -/
namespace KinicBridge

open Checked

def constraint (result : Option α) : Except StorageError α := okOr .stale result

def refuseIf (refused : Prop) [Decidable refused] (error : StorageError) :
    Except StorageError Unit :=
  if refused then .error error else .ok ()

theorem refuseIf_ok {refused : Prop} [Decidable refused] :
    refuseIf refused error = .ok value ↔ ¬refused := by
  by_cases holds : refused <;> simp [refuseIf, holds]

structure DepositFundingReservation where
  depositId : Bytes32
  caller : List UInt8
  mintAmount : Nat
  quotaWindowId : Nat
  releasesQuotaOnFailure : Bool
  deriving DecidableEq

structure DepositCallerQuota where
  caller : List UInt8
  count : Nat
  deriving DecidableEq

structure DepositQuotaAdmission where
  nowNs : Nat
  windowSeconds : Nat
  globalLimit : Nat
  perPrincipalLimit : Nat
  deriving DecidableEq

structure DepositAdmissionControl where
  windowId : Nat
  globalCount : Nat
  callerCounts : List DepositCallerQuota
  fundingReservations : List DepositFundingReservation
  deriving DecidableEq

namespace DepositAdmissionControl

def empty : DepositAdmissionControl := ⟨0, 0, [], []⟩

variable (control : DepositAdmissionControl)

def callerCount (owner : List UInt8) : Nat :=
  ((control.callerCounts.find? fun entry => entry.caller = owner).map (·.count)).getD 0

def setCallerCount (owner : List UInt8) (count : Nat) :
    List DepositCallerQuota → List DepositCallerQuota
  | [] => []
  | entry :: entries =>
    if entry.caller = owner then { entry with count } :: entries
    else entry :: setCallerCount owner count entries

def enterWindow (windowId : Nat) : DepositAdmissionControl :=
  if control.windowId = windowId then control
  else { control with windowId, globalCount := 0, callerCounts := [] }

def retryAfterSeconds (windowNs windowId nowNs : Nat) : Nat :=
  max 1 (saturatingAdd 64
    (min ((windowId + 1) * windowNs) (limit 64) - nowNs) 999999999 / 1000000000)

def consumeDepositQuota (owner : List UInt8)
    (quota : DepositQuotaAdmission) : Except StorageError DepositAdmissionControl := do
  let windowNs := min (quota.windowSeconds * 1000000000) (limit 64)
  -- a window without a length stops the call
  refuseIf (windowNs = 0) .stale
  let windowId := quota.nowNs / windowNs
  let entered := control.enterWindow windowId
  refuseIf (quota.globalLimit ≤ entered.globalCount ∨
      quota.perPrincipalLimit ≤ entered.callerCount owner)
    (.depositRateLimited (retryAfterSeconds windowNs windowId quota.nowNs))
  let globalCount ← okOr .counterOverflow (add 16 entered.globalCount 1)
  let count ← okOr .counterOverflow (add 16 (entered.callerCount owner) 1)
  return { entered with
    globalCount
    callerCounts :=
      if entered.callerCounts.any fun entry => entry.caller = owner then
        setCallerCount owner count entered.callerCounts
      else entered.callerCounts ++ [⟨owner, 1⟩] }

/-- One live attempt for each caller, sixteen in all. -/
def consumeDepositQuotaAndReserveFunding
    (owner : List UInt8) (depositId : Bytes32) (mintAmount : Nat)
    (quota : DepositQuotaAdmission) : Except StorageError DepositAdmissionControl :=
  if control.fundingReservations.any fun reservation => reservation.depositId = depositId then
    .ok control
  else do
    let activeCaller :=
      (control.fundingReservations.filter fun entry => entry.caller = owner).length
    refuseIf (limit 16 < control.fundingReservations.length) .counterOverflow
    refuseIf (16 ≤ control.fundingReservations.length ∨ 1 ≤ activeCaller) (.depositRateLimited 1)
    let consumed ← control.consumeDepositQuota owner quota
    return { consumed with
      fundingReservations := consumed.fundingReservations ++
        [⟨depositId, owner, mintAmount, consumed.windowId, true⟩] }

def isReservation (owner : List UInt8) (depositId : Bytes32)
    (reservation : DepositFundingReservation) : Bool :=
  reservation.depositId = depositId && reservation.caller = owner

def releaseDepositFundingReservation (owner : List UInt8)
    (depositId : Bytes32) : Except StorageError DepositAdmissionControl := do
  refuseIf ((control.fundingReservations.find? (isReservation owner depositId)).isNone)
    .recordNotFound
  return { control with
    fundingReservations := control.fundingReservations.eraseP (isReservation owner depositId) }

def returnQuota (owner : List UInt8) : Except StorageError DepositAdmissionControl := do
  let globalCount ← constraint (sub control.globalCount 1)
  refuseIf (control.callerCounts.all fun entry => entry.caller ≠ owner) .stale
  let count ← constraint (sub (control.callerCount owner) 1)
  return { control with
    globalCount
    callerCounts :=
      if count = 0 then control.callerCounts.eraseP fun entry => entry.caller = owner
      else setCallerCount owner count control.callerCounts }

def rollbackFailedDepositAdmission (owner : List UInt8)
    (depositId : Bytes32) : Except StorageError DepositAdmissionControl := do
  let reservation ← okOr .recordNotFound
    (control.fundingReservations.find? (isReservation owner depositId))
  let released := { control with
    fundingReservations := control.fundingReservations.eraseP (isReservation owner depositId) }
  if !reservation.releasesQuotaOnFailure || reservation.quotaWindowId != control.windowId then
    return released
  else released.returnQuota owner

end DepositAdmissionControl

end KinicBridge
