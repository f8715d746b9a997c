import KinicBridge.Storage.Stable

/-! The public operations of the stable store. Each one writes its records and moves every
derived value by what it changed, in one transaction. -/
namespace KinicBridge

open Checked

namespace StableStore

/-! Deposits. -/

section

variable (store : StableStore)

/-- What a write of a deposit computes before its transaction opens. -/
structure PreparedDeposit where
  previous : DepositRecord
  ownerSequence : Nat
  next : StableStore

/-- `result` is what the transition behind the write announced. -/
def prepareDeposit (value : DepositRecord)
    (result : Option ApplyResult) : Except StorageError PreparedDeposit := do
  let previous ← okOr .recordNotFound (store.settlement.deposits.get value.id)
  let origin ← okOr .recordNotFound (store.origins value.id)
  let pendingLedgerOperations ← adjustActiveCount store.pendingLedgerOperations
    previous.isPendingLedger value.isPendingLedger
  let settlement ← store.settlement.putDepositWithAudit value result
  return ⟨previous, origin.1, { store with settlement, pendingLedgerOperations }⟩

def PreparedDeposit.commit (prepared : PreparedDeposit) (value : DepositRecord) :
    Except StorageError StableStore := do
  let depositIndexes ←
    prepared.next.depositIndexes.writeDeposit prepared.previous value prepared.ownerSequence
  return { prepared.next with depositIndexes }

def putDepositWithAudit (value : DepositRecord)
    (result : Option ApplyResult) : Except StorageError StableStore := do
  let prepared ← store.prepareDeposit value result
  prepared.commit value

def maxLifetimeDepositRecords : Nat := 100000

def lifetimeDepositRecordCount : Option Nat :=
  add 64 store.depositIndexes.deposits store.depositIndexes.fundingAttempts

def isNewAttempt (id : Bytes32) : Bool :=
  (store.settlement.deposits.get id).isNone && (store.attempts.get id).isNone

/-- `cyclesSuffice` is whether the balance covers the reserve with one more attempt. -/
def prepareDepositFundingAttempt (owner : List UInt8)
    (attempt : DepositFundingAttempt) (quota : DepositQuotaAdmission) (cyclesSuffice : Bool) :
    Except StorageError (StableStore × FundingStore.AdmissionOutcome) := do
  refuseIf (store.isNewAttempt attempt.id = true ∧
      store.lifetimeDepositRecordCount.all (maxLifetimeDepositRecords ≤ ·))
    .lifetimeDepositCapacityExceeded
  let (funding, outcome) ← store.funding.prepareDepositFundingAttempt owner attempt
  match outcome with
  | .existing => return (store, .existing)
  | .inserted =>
    let admission ← store.admission.consumeDepositQuotaAndReserveFunding owner attempt.id
      attempt.grossAmount quota
    refuseIf (cyclesSuffice = false) .reserveUnavailable
    let fundingAttempts ← constraint (add 64 store.depositIndexes.fundingAttempts 1)
    let nonterminalOwner ← constraint (store.depositIndexes.nonterminalOwner.insert
      (owner, attempt.intent.ownerSequence) attempt.id)
    return ({ store with
      attempts := funding.attempts
      admission
      depositIndexes := { store.depositIndexes with fundingAttempts, nonterminalOwner } },
      .inserted)

def updateDepositFundingAttempt (previous next : DepositFundingAttempt) :
    Except StorageError StableStore := do
  let funding ← store.funding.updateDepositFundingAttempt previous next
  return { store with attempts := funding.attempts }

def removeDepositFundingAttempt (owner : List UInt8)
    (attempt : DepositFundingAttempt) : Except StorageError StableStore := do
  let admission ← store.admission.rollbackFailedDepositAdmission owner attempt.id
  let funding ← store.funding.removeDepositFundingAttempt attempt
  let fundingAttempts ← constraint (sub store.depositIndexes.fundingAttempts 1)
  let nonterminalOwner ← constraint (store.depositIndexes.nonterminalOwner.delete
    (owner, attempt.intent.ownerSequence))
  return { store with
    attempts := funding.attempts
    admission
    depositIndexes := { store.depositIndexes with fundingAttempts, nonterminalOwner } }

def admitQuota (owner : List UInt8) : Option DepositQuotaAdmission → Option DepositFundingAttempt →
      Except StorageError DepositAdmissionControl
  | some _, some attempt => store.admission.releaseDepositFundingReservation owner attempt.id
  | some quota, none =>
    if store.admin.depositsPaused then .error .depositsPaused
    else store.admission.consumeDepositQuota owner quota
  | none, some _ => .error .recordNotFound
  | none, none => .ok store.admission

def writeUnfunded (funding : FundingStore) (record : DepositRecord) (intent : DepositIntent) :
    Except StorageError FundingStore := do
  let nextOwnerSequence ← okOr .counterOverflow
    (succ 64 (funding.ownerSequences intent.caller))
  let counters ← adjustReserved funding.settlement.counters none record
  refuseIf (counters.reservedDepositMintAmount ≠
    funding.settlement.counters.reservedDepositMintAmount) .counterOverflow
  return { funding with
    settlement := { funding.settlement with
      deposits := funding.settlement.deposits.put record
      counters }
    origins := Function.update funding.origins record.id
      (some (intent.ownerSequence, intent.baseRecipient))
    ownerSequences := Function.update funding.ownerSequences intent.caller nextOwnerSequence }

abbrev Promotion := DepositFundingAttempt × Option ReconciliationHoldRecord

def writeAdmitted (funding : FundingStore) (record : DepositRecord) (intent : DepositIntent) :
    Option Promotion → Except StorageError FundingStore
  | some (attempt, hold) => funding.writePromotion record attempt hold
  | none => writeUnfunded funding record intent

def grown (grows : Bool) (count : Nat) : Option Nat :=
  if grows then add 64 count 1 else some count

def shrunk (shrinks : Bool) (count : Nat) : Option Nat :=
  if shrinks then sub count 1 else some count

def writeAdmission (intent : DepositIntent) (record : DepositRecord)
    (promotion : Option Promotion) (admission : DepositAdmissionControl) :
    Except StorageError StableStore := do
  let funding ← writeAdmitted store.funding record intent promotion
  let pendingLedgerOperations ← adjustActiveCount store.pendingLedgerOperations false
    record.isPendingLedger
  let fundingAttempts ← constraint
    (shrunk promotion.isSome store.depositIndexes.fundingAttempts)
  let depositIndexes ← { store.depositIndexes with fundingAttempts }.admitted intent record
  let hold := promotion.bind (·.2)
  let reconciliationHolds ← constraint (grown hold.isSome store.reconciliationHolds)
  let openHold ← constraint
    (store.openHold.exchange none (hold.map fun hold => (hold.id, ())))
  return { store with
    settlement := funding.settlement
    attempts := funding.attempts
    origins := funding.origins
    admission, pendingLedgerOperations, depositIndexes, reconciliationHolds, openHold }

def admitDeposit (owner : List UInt8) (intent : DepositIntent)
    (record : DepositRecord) (quota : Option DepositQuotaAdmission) (promotion : Option Promotion) :
    Except StorageError (StableStore × FundingStore.AdmissionOutcome) :=
  match store.settlement.deposits.get record.id with
  | some existing =>
    if existing.payloadHash = record.payloadHash ∧
        (store.origins record.id).map (FundingStore.storedIntent existing) = some intent then
      .ok (store, .existing)
    else .error (.core .conflictingReplay)
  | none => do
    refuseIf (intent.depositId ≠ record.id ∨ intent.payloadHash ≠ record.payloadHash ∨
      intent.caller ≠ owner ∨ intent.caller ≠ record.owner ∨
      intent.fromSubaccount ≠ record.transfer.from_.subaccount) (.core .conflictingReplay)
    refuseIf (promotion.any fun promotion => promotion.1.intent ≠ intent ||
      promotion.1.transfer ≠ record.transfer || promotion.1.state = .prepared ||
      !FundingStore.promotionFits record promotion.2) (.core .conflictingReplay)
    let admission ← store.admitQuota owner quota (promotion.map (·.1))
    refuseIf (intent.ownerSequence ≠ store.depositIndexes.nextOwnerSequence intent.caller)
      (.sequenceMismatch (store.depositIndexes.nextOwnerSequence intent.caller))
    let store ← store.writeAdmission intent record promotion admission
    return (store, .inserted)

def putWithdrawal (value : WithdrawalRecord) (reason : Option String) :
    Except StorageError StableStore := do
  let previous := store.storedWithdrawal value.id
  let settlement ← store.settlement.putWithdrawal value
  let pendingLedgerOperations ← adjustActiveCount store.pendingLedgerOperations
    (previous.any (·.1.isPendingLedger)) value.isPendingLedger
  let releasePending ← constraint (store.withdrawalIndexes.releasePending.replace
    ((previous.bind (·.1.releaseEntry)).map Prod.fst) value.releaseEntry)
  let withdrawalIndexes ← { store.withdrawalIndexes with releasePending }.replaceWithdrawalRow
    previous value reason
  return { store with
    settlement, pendingLedgerOperations, withdrawalIndexes
    stopReasons := Function.update store.stopReasons value.id reason }

variable (record : WithdrawalRecord)

section

variable (reason : Option String) (progress : ExternalProgress)

/-- A new withdrawal, with its release index entry if it has a release. -/
def insertWithdrawal (hash : Option Bytes32) : Except StorageError StableStore := do
  let pendingLedgerOperations ← adjustActiveCount store.pendingLedgerOperations false
    record.isPendingLedger
  let inserted ← store.withdrawalIndexes.replaceWithdrawalRow none record reason
  let notified ← hash.elim (.ok inserted) (inserted.notify record.id)
  let releasePending ← constraint (notified.releasePending.exchange none record.releaseEntry)
  return { store with
    settlement := { store.settlement with withdrawals := store.settlement.withdrawals.put record }
    stopReasons := Function.update store.stopReasons record.id reason
    pendingLedgerOperations
    withdrawalIndexes := { notified with releasePending }
    progress }

def isNotified (hash : Bytes32) : Bool :=
  (store.withdrawalIndexes.notification.get hash).isSome

/-- `audit` is the size of the batch of audit events that goes with the write, if one does. -/
def commitNewWithdrawalReleaseBundle (hash : Option Bytes32)
    (audit : Option Nat) : Except StorageError StableStore := do
  refuseIf (hash.any store.isNotified) (.core .conflictingReplay)
  match store.storedWithdrawal record.id with
  | some previous =>
    if previous = (record, reason) then .ok store else .error (.core .conflictingReplay)
  | none =>
    NotificationStore.checkReleaseStarted record
    let audit ← audit.elim (.ok store.audit) store.audit.commitAuditBatch
    let store ← store.insertWithdrawal record reason progress hash
    return { store with audit }

def feeGuardStopReason : String := "LedgerFeeExceedsServiceFee"

def checkFeeGuard (admin : StoredAdmin) : Except StorageError Unit :=
  match admin.withdrawalFeeGuard with
  | none => .error (.core .payloadConflict)
  | some guard =>
    refuseIf (guard.ledgerFee ≤ guard.chargedServiceFee ∨
      guard.chargedServiceFee ≠ record.chargedServiceFee) (.core .payloadConflict)

def commitWithdrawalFeeGuardTripBundle (admin : StoredAdmin)
    (hash : Bytes32) (audit : Nat) : Except StorageError StableStore := do
  refuseIf (store.isNotified hash = true ∨ (store.storedWithdrawal record.id).isSome ∨
    record.state ≠ .observed ∨ reason ≠ some feeGuardStopReason) (.core .payloadConflict)
  checkFeeGuard record admin
  let audit ← store.audit.commitAuditBatch audit
  let store ← store.insertWithdrawal record reason progress (some hash)
  return { store with audit, admin }

def commitWithdrawalFeeGuardUpdate
    (previous : WithdrawalRecord × Option String) (record : WithdrawalRecord)
    (reason : Option String) (admin : StoredAdmin) (audit : Nat) :
    Except StorageError StableStore := do
  let pendingLedgerOperations ← adjustActiveCount store.pendingLedgerOperations
    previous.1.isPendingLedger record.isPendingLedger
  let audit ← store.audit.commitAuditBatch audit
  let replaced ← store.withdrawalIndexes.replaceWithdrawalRow (some previous) record reason
  let releasePending ← constraint (replaced.releasePending.exchange none record.releaseEntry)
  return { store with
    settlement := { store.settlement with withdrawals := store.settlement.withdrawals.put record }
    stopReasons := Function.update store.stopReasons record.id reason
    pendingLedgerOperations
    withdrawalIndexes := { replaced with releasePending }
    audit, admin }

variable (admin : StoredAdmin)

def commitWithdrawalFeeGuardContinueBundle (audit : Nat) : Except StorageError StableStore := do
  let previous ← okOr .recordNotFound (store.storedWithdrawal record.id)
  refuseIf (previous.1.state ≠ .observed ∨ record.state ≠ .observed ∨
    reason ≠ some feeGuardStopReason ∨ previous.1 ≠ record) (.core .payloadConflict)
  checkFeeGuard record admin
  store.commitWithdrawalFeeGuardUpdate previous record reason admin audit

def startedRelease : Option WithdrawalEvent :=
  match record.state with
  | .releasePending attempt settlement => some (.startRelease attempt settlement)
  | _ => none

def commitWithdrawalFeeGuardClearBundle (audit : Nat) : Except StorageError StableStore := do
  let previous ← okOr .recordNotFound (store.storedWithdrawal record.id)
  let event ← okOr (.core .payloadConflict) (startedRelease record)
  let (expected, _) ← liftCore (previous.1.apply event)
  refuseIf (previous.1.state ≠ .observed ∨ expected ≠ record ∨ reason ≠ none ∨
    admin.withdrawalFeeGuard.isSome) (.core .payloadConflict)
  store.commitWithdrawalFeeGuardUpdate previous record reason admin audit

end

def finishWithdrawalJob (id : Bytes32) (reason : Option String) :
    Except StorageError StableStore := do
  let previous ← okOr .recordNotFound (store.storedWithdrawal id)
  let withdrawalIndexes ← store.withdrawalIndexes.replaceWithdrawalRow (some previous) previous.1
    reason
  return { store with
    withdrawalIndexes
    stopReasons := Function.update store.stopReasons id reason }

section

variable (hold : ReconciliationHoldRecord)

def openHoldEntry : Except StorageError (Nat × Tracked Nat Unit) := do
  refuseIf ((store.openHold.get hold.id).isSome) (.core .conflictingReplay)
  let reconciliationHolds ← constraint (grown true store.reconciliationHolds)
  let openHold ← constraint (store.openHold.transition none (some (hold.id, ())))
  return (reconciliationHolds, openHold)

def commitDepositHoldBundle (deposit : DepositRecord)
    (hold : ReconciliationHoldRecord) : Except StorageError StableStore := do
  let previous ← okOr .recordNotFound (store.settlement.deposits.get deposit.id)
  let settlement ← store.settlement.commitDepositHoldBundle deposit hold
  let pendingLedgerOperations ← adjustActiveCount store.pendingLedgerOperations
    previous.isPendingLedger deposit.isPendingLedger
  let (reconciliationHolds, openHold) ← store.openHoldEntry hold
  refuseIf ((store.depositIndexes.pullPending.get deposit.id).isSome ≠ previous.isPendingLedger)
    .recordNotFound
  let pullPending ← constraint (store.depositIndexes.pullPending.exchange
    (previous.pullEntry.map Prod.fst) deposit.pullEntry)
  return { store with
    settlement, pendingLedgerOperations, reconciliationHolds, openHold
    depositIndexes := { store.depositIndexes with pullPending } }

def commitWithdrawalHoldBundle (withdrawal : WithdrawalRecord)
    (reason : Option String) (hold : ReconciliationHoldRecord) :
    Except StorageError StableStore := do
  let previous ← okOr .recordNotFound (store.storedWithdrawal withdrawal.id)
  refuseIf (reason ≠ previous.2) (.core .holdMismatch)
  let settlement ← store.settlement.commitWithdrawalHoldBundle withdrawal hold
  let pendingLedgerOperations ← adjustActiveCount store.pendingLedgerOperations
    previous.1.isPendingLedger withdrawal.isPendingLedger
  let (reconciliationHolds, openHold) ← store.openHoldEntry hold
  refuseIf ((store.withdrawalIndexes.releasePending.get withdrawal.id).isSome ≠
    previous.1.isPendingLedger) .recordNotFound
  let replaced ← store.withdrawalIndexes.replaceWithdrawalRow (some previous) withdrawal reason
  let releasePending ← constraint (replaced.releasePending.exchange
    (previous.1.releaseEntry.map Prod.fst) withdrawal.releaseEntry)
  return { store with
    settlement, pendingLedgerOperations, reconciliationHolds, openHold
    withdrawalIndexes := { replaced with releasePending } }

def putOpenReconciliationHold : Except StorageError StableStore := do
  refuseIf (hold.state ≠ .open_) (.core .holdMismatch)
  match store.settlement.holds.get hold.id with
  | some previous => if previous = hold then .ok store else .error (.core .conflictingReplay)
  | none =>
    let openHold ← constraint (store.openHold.transition none hold.openEntry)
    let reconciliationHolds ← constraint (grown true store.reconciliationHolds)
    return { store with
      settlement := { store.settlement with holds := store.settlement.holds.put hold }
      openHold, reconciliationHolds }

end

def closeHoldEntry (holdId : Nat)
    (scanTarget : Option ReconciliationTarget) : Except StorageError (Tracked Nat Unit × Nat) := do
  refuseIf ((store.openHold.get holdId).isNone) .recordNotFound
  let openHold ← constraint (store.openHold.transition (some holdId) none)
  let reconciliationScans ← constraint (shrunk scanTarget.isSome store.reconciliationScans)
  return (openHold, reconciliationScans)

def persistResolvedDepositAndHold (deposit next : DepositRecord)
    (holdId : Nat) (scanTarget : Option ReconciliationTarget) (settlement : SettlementStore) :
    Except StorageError StableStore := do
  let origin ← okOr .recordNotFound (store.origins deposit.id)
  let pendingLedgerOperations ← adjustActiveCount store.pendingLedgerOperations
    deposit.isPendingLedger next.isPendingLedger
  let (openHold, reconciliationScans) ← store.closeHoldEntry holdId scanTarget
  refuseIf ((store.depositIndexes.pullPending.get deposit.id).isSome ≠ deposit.isPendingLedger)
    .recordNotFound
  let nonterminalOwner ← constraint
    (DepositIndexes.putNonterminal store.depositIndexes.nonterminalOwner next origin.1)
  let pullPending ← constraint (store.depositIndexes.pullPending.exchange
    (deposit.pullEntry.map Prod.fst) next.pullEntry)
  return { store with
    settlement, pendingLedgerOperations, openHold, reconciliationScans
    depositIndexes := { store.depositIndexes with nonterminalOwner, pullPending } }

/-- A replay without a scan to drop writes nothing. -/
def resolveDepositHoldAndScan (depositId : Bytes32) (holdId : Nat)
    (resolution : DepositHoldResolution) (scanTarget : Option ReconciliationTarget) :
    Except StorageError StableStore := do
  let deposit ← okOr .recordNotFound (store.settlement.deposits.get depositId)
  let hold ← okOr .recordNotFound (store.settlement.holds.get holdId)
  let (next, closed, _) ← liftCore (resolveDepositHold deposit hold resolution)
  let settlement ← store.settlement.resolveDepositHoldAndScan depositId holdId resolution
    scanTarget
  if hold = closed ∧ deposit = next ∧ scanTarget.isNone then return store
  else store.persistResolvedDepositAndHold deposit next holdId scanTarget settlement

def persistResolvedWithdrawalAndHold (withdrawal next : WithdrawalRecord)
    (holdId : Nat) (scanTarget : Option ReconciliationTarget) (settlement : SettlementStore) :
    Except StorageError StableStore := do
  let pendingLedgerOperations ← adjustActiveCount store.pendingLedgerOperations
    withdrawal.isPendingLedger next.isPendingLedger
  let (openHold, reconciliationScans) ← store.closeHoldEntry holdId scanTarget
  refuseIf ((store.withdrawalIndexes.releasePending.get withdrawal.id).isSome ≠
    withdrawal.isPendingLedger) .recordNotFound
  let reason := store.stopReasons withdrawal.id
  let replaced ← store.withdrawalIndexes.replaceWithdrawalRow (some (withdrawal, reason)) next
    reason
  let releasePending ← constraint (replaced.releasePending.exchange
    (withdrawal.releaseEntry.map Prod.fst) next.releaseEntry)
  return { store with
    settlement, pendingLedgerOperations, openHold, reconciliationScans
    withdrawalIndexes := { replaced with releasePending } }

def resolveWithdrawalHoldAndScan (withdrawalId : Bytes32) (holdId : Nat)
    (resolution : WithdrawalHoldResolution) (scanTarget : Option ReconciliationTarget) :
    Except StorageError StableStore := do
  let withdrawal ← okOr .recordNotFound (store.settlement.withdrawals.get withdrawalId)
  let hold ← okOr .recordNotFound (store.settlement.holds.get holdId)
  let (next, closed, _) ← liftCore (resolveWithdrawalHold withdrawal hold resolution)
  let settlement ← store.settlement.resolveWithdrawalHoldAndScan withdrawalId holdId resolution
    scanTarget
  if hold = closed ∧ withdrawal = next ∧ scanTarget.isNone then return store
  else store.persistResolvedWithdrawalAndHold withdrawal next holdId scanTarget settlement

variable (progress : ReconciliationScanProgress)

def putReconciliationScan : Except StorageError StableStore := do
  let settlement ← store.settlement.putReconciliationScan progress
  let reconciliationScans ← constraint
    (grown (store.settlement.scans.get progress.target).isNone store.reconciliationScans)
  return { store with settlement, reconciliationScans }

def removeReconciliationScan (target : ReconciliationTarget) : Except StorageError StableStore := do
  let reconciliationScans ← constraint
    (shrunk (store.settlement.scans.get target).isSome store.reconciliationScans)
  return { store with
    settlement := { store.settlement with scans := store.settlement.scans.remove target }
    reconciliationScans }

def commitFeePayoutRequest (value : FeePayoutRecord) : Except StorageError StableStore := do
  let settlement ← store.settlement.commitFeePayoutRequest value
  let audit ← store.audit.commitAuditBatch 1
  let feePayouts ← constraint (grown true store.feePayouts)
  return { store with settlement, audit, feePayouts }

def transitionFeePayout (id : Nat) (transition : FeePayoutTransition)
    (scanTarget : Option ReconciliationTarget) : Except StorageError StableStore := do
  let settlement ← store.settlement.transitionFeePayout id transition scanTarget
  let reconciliationScans ← constraint
    (shrunk (scanTarget.any fun target => (store.settlement.scans.get target).isSome)
      store.reconciliationScans)
  return { store with settlement, reconciliationScans }

def commitFeePayoutScan : Except StorageError StableStore := do
  let settlement ← store.settlement.commitFeePayoutScan progress
  let reconciliationScans ← constraint
    (grown (store.settlement.scans.get progress.target).isNone store.reconciliationScans)
  return { store with settlement, reconciliationScans }

def updateFeePayoutScan (previous next : ReconciliationScanProgress) :
    Except StorageError StableStore := do
  let settlement ← store.settlement.updateFeePayoutScan previous next
  return { store with settlement }

def appendAuditEvents (size : Nat) : Except StorageError StableStore := do
  let audit ← store.audit.commitAuditBatch size
  return { store with audit }

/-! The release of expired authorizations: one transaction for each deposit, so that an error
leaves what was released before it. -/

def deadlineBefore (first second : Nat × Bytes32) : Prop :=
  first.1 < second.1 ∨ first.1 = second.1 ∧ first.2.toNat ≤ second.2.toNat

instance : DecidableRel deadlineBefore := fun first second =>
  inferInstanceAs (Decidable (first.1 < second.1 ∨
    first.1 = second.1 ∧ first.2.toNat ≤ second.2.toNat))

instance : IsTrans (Nat × Bytes32) deadlineBefore :=
  ⟨fun _ _ _ earlier later => by unfold deadlineBefore at *; omega⟩

instance : Std.Total deadlineBefore := ⟨fun _ _ => by unfold deadlineBefore; omega⟩

instance : Std.Antisymm deadlineBefore where
  antisymm first second earlier later := by
    unfold deadlineBefore at earlier later
    exact Prod.ext (by omega) (BitVec.eq_of_toNat_eq (by omega))

variable (finalizedTimestamp : Nat)

def expiredKeys : Finset (Nat × Bytes32) :=
  store.depositIndexes.authorizationDeadline.rows.keys.filter fun key =>
    key.1 < finalizedTimestamp

def expiredDeposits (finalizedTimestamp limit : Nat) : List Bytes32 :=
  (((store.expiredKeys finalizedTimestamp).sort deadlineBefore).take limit).filterMap
    store.depositIndexes.authorizationDeadline.get

def releaseExpiredDeposit (id : Bytes32) : Except StorageError StableStore := do
  let deposit ← okOr .recordNotFound (store.settlement.deposits.get id)
  refuseIf (deposit.state.code ≠ 2 ∧ deposit.state.code ≠ 3) (.core .conflictingReplay)
  let (next, result) ← liftCore
    (deposit.apply (.markRefundAvailable .authorizationExpired (some finalizedTimestamp)))
  store.putDepositWithAudit next (some result)

end

def releaseEach (finalizedTimestamp : Nat) :
    List Bytes32 → StableStore → StableStore × Except StorageError Unit
  | [], store => (store, .ok ())
  | id :: ids, store =>
    match store.releaseExpiredDeposit finalizedTimestamp id with
    | .ok next => releaseEach finalizedTimestamp ids next
    | .error error => (store, .error error)

/-- Whether entries below the timestamp are left. -/
def releaseExpiredDepositReservations (store : StableStore) (finalizedTimestamp limit : Nat) :
    StableStore × Except StorageError Bool :=
  if finalizedTimestamp = 0 ∨ limit = 0 then (store, .ok false)
  else
    match releaseEach finalizedTimestamp (store.expiredDeposits finalizedTimestamp limit) store with
    | (released, .error error) => (released, .error error)
    | (released, .ok ()) =>
      (released, .ok (decide ((released.expiredKeys finalizedTimestamp).Nonempty)))

end StableStore

inductive StoreOperation where
  | putDeposit (value : DepositRecord) (result : Option ApplyResult)
  | prepareAttempt (owner : List UInt8) (attempt : DepositFundingAttempt)
      (quota : DepositQuotaAdmission) (cyclesSuffice : Bool)
  | updateAttempt (previous next : DepositFundingAttempt)
  | removeAttempt (owner : List UInt8) (attempt : DepositFundingAttempt)
  | admitDeposit (owner : List UInt8) (intent : DepositIntent) (record : DepositRecord)
      (quota : Option DepositQuotaAdmission) (promotion : Option StableStore.Promotion)
  | releaseExpired (finalizedTimestamp limit : Nat)
  | putWithdrawal (value : WithdrawalRecord) (reason : Option String)
  | newRelease (record : WithdrawalRecord) (reason : Option String) (progress : ExternalProgress)
      (hash : Option Bytes32) (audit : Option Nat)
  | tripFeeGuard (record : WithdrawalRecord) (reason : Option String)
      (progress : ExternalProgress) (admin : StoredAdmin) (hash : Bytes32) (audit : Nat)
  | continueFeeGuard (record : WithdrawalRecord) (reason : Option String) (admin : StoredAdmin)
      (audit : Nat)
  | clearFeeGuard (record : WithdrawalRecord) (reason : Option String) (admin : StoredAdmin)
      (audit : Nat)
  | finishWithdrawalJob (id : Bytes32) (reason : Option String)
  | holdDeposit (deposit : DepositRecord) (hold : ReconciliationHoldRecord)
  | holdWithdrawal (withdrawal : WithdrawalRecord) (reason : Option String)
      (hold : ReconciliationHoldRecord)
  | putOpenHold (hold : ReconciliationHoldRecord)
  | resolveDeposit (id : Bytes32) (holdId : Nat) (resolution : DepositHoldResolution)
      (scanTarget : Option ReconciliationTarget)
  | resolveWithdrawal (id : Bytes32) (holdId : Nat) (resolution : WithdrawalHoldResolution)
      (scanTarget : Option ReconciliationTarget)
  | putScan (progress : ReconciliationScanProgress)
  | removeScan (target : ReconciliationTarget)
  | requestFeePayout (value : FeePayoutRecord)
  | moveFeePayout (id : Nat) (transition : FeePayoutTransition)
      (scanTarget : Option ReconciliationTarget)
  | putFeePayoutScan (progress : ReconciliationScanProgress)
  | updateFeePayoutScan (previous next : ReconciliationScanProgress)
  | appendAudit (size : Nat)
  | setAdmin (admin : StoredAdmin)
  | setAccounting (accounting : AccountingState)
  | setProgress (progress : ExternalProgress)

namespace StableStore

variable (store : StableStore)

def transact : StoreOperation → Except StorageError StableStore
  | .putDeposit value result => store.putDepositWithAudit value result
  | .prepareAttempt owner attempt quota cyclesSuffice =>
    (store.prepareDepositFundingAttempt owner attempt quota cyclesSuffice).map (·.1)
  | .updateAttempt previous next => store.updateDepositFundingAttempt previous next
  | .removeAttempt owner attempt => store.removeDepositFundingAttempt owner attempt
  | .admitDeposit owner intent record quota promotion =>
    (store.admitDeposit owner intent record quota promotion).map (·.1)
  | .releaseExpired finalizedTimestamp limit =>
    .ok (store.releaseExpiredDepositReservations finalizedTimestamp limit).1
  | .putWithdrawal value reason => store.putWithdrawal value reason
  | .newRelease record reason progress hash audit =>
    store.commitNewWithdrawalReleaseBundle record reason progress hash audit
  | .tripFeeGuard record reason progress admin hash audit =>
    store.commitWithdrawalFeeGuardTripBundle record reason progress admin hash audit
  | .continueFeeGuard record reason admin audit =>
    store.commitWithdrawalFeeGuardContinueBundle record reason admin audit
  | .clearFeeGuard record reason admin audit =>
    store.commitWithdrawalFeeGuardClearBundle record reason admin audit
  | .finishWithdrawalJob id reason => store.finishWithdrawalJob id reason
  | .holdDeposit deposit hold => store.commitDepositHoldBundle deposit hold
  | .holdWithdrawal withdrawal reason hold =>
    store.commitWithdrawalHoldBundle withdrawal reason hold
  | .putOpenHold hold => store.putOpenReconciliationHold hold
  | .resolveDeposit id holdId resolution scanTarget =>
    store.resolveDepositHoldAndScan id holdId resolution scanTarget
  | .resolveWithdrawal id holdId resolution scanTarget =>
    store.resolveWithdrawalHoldAndScan id holdId resolution scanTarget
  | .putScan progress => store.putReconciliationScan progress
  | .removeScan target => store.removeReconciliationScan target
  | .requestFeePayout value => store.commitFeePayoutRequest value
  | .moveFeePayout id transition scanTarget => store.transitionFeePayout id transition scanTarget
  | .putFeePayoutScan progress => store.commitFeePayoutScan progress
  | .updateFeePayoutScan previous next => store.updateFeePayoutScan previous next
  | .appendAudit size => store.appendAuditEvents size
  | .setAdmin admin => .ok { store with admin }
  | .setAccounting accounting => .ok { store with settlement := { store.settlement with accounting } }
  | .setProgress progress => .ok { store with progress }

def perform (operation : StoreOperation) : StableStore :=
  match store.transact operation with
  | .ok written => written
  | .error _ => store

end StableStore

end KinicBridge
