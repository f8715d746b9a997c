import KinicBridge.Settlement.Store

/-! The transactions that park a settlement in a hold and those that resolve one. Each moves
the parent record, its hold and the scan behind the answer together or not at all. -/
namespace KinicBridge.SettlementStore

open Checked

variable (store : SettlementStore)

section

variable (hold : ReconciliationHoldRecord)

def commitHoldBundle : Except StorageError SettlementStore := do
  if hold.state ≠ .open_ ∨ (store.holds.get hold.id).isSome then
    throw (.core .conflictingReplay)
  if store.counters.nextHoldId ≠ hold.id then throw (.core .conflictingReplay)
  let nextHoldId ← okOr .counterOverflow (add 64 store.counters.nextHoldId 1)
  return { store with
    holds := store.holds.put hold
    counters := { store.counters with nextHoldId } }

def depositHoldTerms (previous deposit : DepositRecord) :
    Option (DepositEvent × Nat × RequestReference × LedgerTransferIdentity) :=
  match previous.state, deposit.state with
  | .fundingPending, .fundingReconciliationHold holdId =>
    some (.fundingAmbiguous holdId, holdId, .depositFunding deposit.id, previous.transfer)
  | .refundPending _ _ attempt, .refundReconciliationHold _ _ holdId _ =>
    some (.refundAmbiguous holdId, holdId, .depositRefund deposit.id, attempt.identity)
  | _, _ => none

def commitDepositHoldBundle (deposit : DepositRecord)
    (hold : ReconciliationHoldRecord) : Except StorageError SettlementStore := do
  let previous ← okOr .recordNotFound (store.deposits.get deposit.id)
  let (event, holdId, request, transfer) ←
    okOr (.core .holdMismatch) (depositHoldTerms previous deposit)
  let (expected, _) ← liftCore (previous.apply event)
  if expected ≠ deposit ∨ hold ≠ .opened holdId request transfer then
    throw (.core .holdMismatch)
  let opened ← store.commitHoldBundle hold
  return { opened with deposits := opened.deposits.put deposit }

def withdrawalHoldTerms (previous withdrawal : WithdrawalRecord) :
    Option (Nat × LedgerTransferIdentity) :=
  match previous.state, withdrawal.state with
  | .releasePending attempt _, .reconciliationHold holdId _ _ => some (holdId, attempt.identity)
  | _, _ => none

def commitWithdrawalHoldBundle (withdrawal : WithdrawalRecord)
    (hold : ReconciliationHoldRecord) : Except StorageError SettlementStore := do
  let previous ← okOr .recordNotFound (store.withdrawals.get withdrawal.id)
  let (holdId, transfer) ←
    okOr (.core .holdMismatch) (withdrawalHoldTerms previous withdrawal)
  let (expected, _) ← liftCore (previous.apply (.releaseAmbiguous holdId))
  if expected ≠ withdrawal ∨ hold ≠ .opened holdId (.withdrawal withdrawal.id) transfer then
    throw (.core .holdMismatch)
  let opened ← store.commitHoldBundle hold
  return { opened with withdrawals := opened.withdrawals.put withdrawal }

def removeScan : Option ReconciliationTarget → Except StorageError SettlementStore
  | none => .ok store
  | some target =>
    if (store.scans.get target).isNone then .error .recordNotFound
    else .ok { store with scans := store.scans.remove target }

def persistResolvedHoldBundle (parentIsReplay : Bool) (scanTarget : Option ReconciliationTarget)
    (writeParent : SettlementStore → Except StorageError SettlementStore) :
    Except StorageError SettlementStore := do
  let previousHold ← okOr .recordNotFound (store.holds.get hold.id)
  if previousHold = hold ∧ parentIsReplay ∧ scanTarget.isNone then return store
  if previousHold.state ≠ .open_ ∨ hold.state = .open_ then throw (.core .holdMismatch)
  let written ← writeParent { store with holds := store.holds.put hold }
  written.removeScan scanTarget

end

def writeResolvedDeposit (previous next : DepositRecord) (store : SettlementStore) :
    Except StorageError SettlementStore := do
  let counters ← adjustReserved store.counters (some previous) next
  return { store with deposits := store.deposits.put next, counters }

def writeResolvedWithdrawal (previous next : WithdrawalRecord) (store : SettlementStore) :
    Except StorageError SettlementStore := do
  let feeDelta ← withdrawalFeeDelta (·.phaseCode == 3) (some previous) next
  let accounting ← liftCore (store.accounting.credit .withdrawal feeDelta)
  return { store with withdrawals := store.withdrawals.put next, accounting }

def resolveDepositHoldAndScan (depositId : Bytes32) (holdId : Nat)
    (resolution : DepositHoldResolution) (scanTarget : Option ReconciliationTarget) :
    Except StorageError SettlementStore := do
  let deposit ← okOr .recordNotFound (store.deposits.get depositId)
  let hold ← okOr .recordNotFound (store.holds.get holdId)
  let (next, closed, _) ← liftCore (resolveDepositHold deposit hold resolution)
  store.persistResolvedHoldBundle closed (decide (deposit = next)) scanTarget
    (writeResolvedDeposit deposit next)

def resolveWithdrawalHoldAndScan (withdrawalId : Bytes32)
    (holdId : Nat) (resolution : WithdrawalHoldResolution)
    (scanTarget : Option ReconciliationTarget) : Except StorageError SettlementStore := do
  let withdrawal ← okOr .recordNotFound (store.withdrawals.get withdrawalId)
  let hold ← okOr .recordNotFound (store.holds.get holdId)
  let (next, closed, _) ← liftCore (resolveWithdrawalHold withdrawal hold resolution)
  store.persistResolvedHoldBundle closed (decide (withdrawal = next)) scanTarget
    (writeResolvedWithdrawal withdrawal next)

end KinicBridge.SettlementStore
