import KinicBridge.Settlement.Store
import KinicBridge.Ledger.LateScan

/-! Fee payouts: the records that move collected fees to the recipient, their transitions
and the task that advances them, cut at its calls. -/
namespace KinicBridge

open Checked

namespace Kernel

def payoutDebit (confirmedFirstTime : Bool) (amount fee : Nat) : Option Nat :=
  if !confirmedFirstTime then some 0
  else if limit 128 - fee < amount then none
  else some (amount + fee)

end Kernel

def FeePayoutRecord.isPending (payout : FeePayoutRecord) : Bool :=
  payout.state == .pending || payout.state == .reconciliationHold

def feePayoutDebit (payout : FeePayoutRecord) : Except StorageError Nat :=
  okOr .counterOverflow (Kernel.payoutDebit true payout.amount payout.transfer.fee)

def withoutPendingDebit (current : Nat) : Option FeePayoutRecord → Except StorageError Nat
  | none => .ok current
  | some previous =>
    if previous.isPending then do
      let debit ← feePayoutDebit previous
      okOr .counterUnderflow (sub current debit)
    else .ok current

def adjustPendingFeePayoutDebit (current : Nat) (previous : Option FeePayoutRecord)
    (next : FeePayoutRecord) : Except StorageError Nat := do
  let withoutPrevious ← withoutPendingDebit current previous
  if next.isPending then
    let debit ← feePayoutDebit next
    okOr .counterOverflow (add 128 withoutPrevious debit)
  else return withoutPrevious

inductive FeePayoutTransition where
  | succeeded (blockIndex : Nat)
  | failed
  | hold
  deriving DecidableEq

namespace FeePayoutState

def isReplay : FeePayoutState → FeePayoutTransition → Bool
  | .succeeded previous, .succeeded block => block == previous
  | .failed, .failed | .reconciliationHold, .hold => true
  | _, _ => false

def next : FeePayoutState → FeePayoutTransition → Except StorageError FeePayoutState
  | .pending, .succeeded block | .reconciliationHold, .succeeded block => .ok (.succeeded block)
  | .pending, .failed | .reconciliationHold, .failed => .ok .failed
  | .pending, .hold => .ok .reconciliationHold
  | _, _ => .error (.core .conflictingReplay)

end FeePayoutState

namespace SettlementStore

variable (store : SettlementStore)

def commitFeePayoutRequest (value : FeePayoutRecord) : Except StorageError SettlementStore := do
  if value.state ≠ .pending ∨ value.id ≠ store.counters.nextFeePayoutId ∨
      (store.feePayouts.get value.id).isSome then throw (.core .conflictingReplay)
  let nextFeePayoutId ← okOr .counterOverflow (add 64 value.id 1)
  let pendingFeePayoutDebit ←
    adjustPendingFeePayoutDebit store.counters.pendingFeePayoutDebit none value
  return { store with
    feePayouts := store.feePayouts.put value
    counters := { store.counters with nextFeePayoutId, pendingFeePayoutDebit } }

def spentAccounting (previous : FeePayoutRecord) :
    FeePayoutTransition → Except StorageError AccountingState
  | .succeeded _ => do
    let debit ← feePayoutDebit previous
    liftCore (store.accounting.spendFeeReserve debit)
  | .failed | .hold => .ok store.accounting

def dropScan : Option ReconciliationTarget → SettlementStore
  | none => store
  | some target => { store with scans := store.scans.remove target }

/-- A transition that is new: the record moves, its pending debit is released once it is
terminal, and success spends the reserve. -/
def moveFeePayout (previous : FeePayoutRecord)
    (transition : FeePayoutTransition) (scanTarget : Option ReconciliationTarget) :
    Except StorageError SettlementStore := do
  let state ← previous.state.next transition
  let pendingFeePayoutDebit ← adjustPendingFeePayoutDebit store.counters.pendingFeePayoutDebit
    (some previous) { previous with state }
  let accounting ← store.spentAccounting previous transition
  if scanTarget.any fun target => (store.scans.get target).isNone then throw .recordNotFound
  return { store.dropScan scanTarget with
    feePayouts := store.feePayouts.put { previous with state }
    accounting
    counters := { store.counters with pendingFeePayoutDebit } }

def transitionFeePayout (id : Nat) (transition : FeePayoutTransition)
    (scanTarget : Option ReconciliationTarget) : Except StorageError SettlementStore := do
  if scanTarget.any (· ≠ .feePayout id) then throw (.core .conflictingReplay)
  let previous ← okOr .recordNotFound (store.feePayouts.get id)
  -- a replay only drops the scan that is left, if any
  if previous.state.isReplay transition then return store.dropScan scanTarget
  store.moveFeePayout previous transition scanTarget

section

variable (progress : ReconciliationScanProgress)

def heldPayout : Except StorageError FeePayoutRecord :=
  match progress.target with
  | .feePayout id => do
    let payout ← okOr .recordNotFound (store.feePayouts.get id)
    if payout.state ≠ .reconciliationHold ∨ payout.transfer ≠ progress.transfer then
      throw (.core .conflictingReplay)
    return payout
  | _ => .error (.core .conflictingReplay)

def commitFeePayoutScan : Except StorageError SettlementStore := do
  let _ ← store.heldPayout progress
  match store.scans.get progress.target with
  | some previous =>
    if previous = progress then return store else throw (.core .conflictingReplay)
  | none => return { store with scans := store.scans.put progress }

end

/-- Saved progress may only replace the progress the scan started from. -/
def updateFeePayoutScan (previous next : ReconciliationScanProgress) :
    Except StorageError SettlementStore := do
  if previous.target ≠ next.target ∨ previous.transfer ≠ next.transfer then
    throw (.core .conflictingReplay)
  let _ ← store.heldPayout previous
  if store.scans.get previous.target ≠ some previous then throw (.core .conflictingReplay)
  return { store with scans := store.scans.put next }

variable {store store' : SettlementStore}

theorem transitionFeePayout_ok {id : Nat}
    (done : store.transitionFeePayout id transition target = .ok store') :
    ∃ previous, store.feePayouts.get id = some previous ∧
      (previous.state.isReplay transition = true ∧ store' = store.dropScan target ∨
      ∃ state accounting pendingDebit, previous.state.next transition = .ok state ∧
        store.spentAccounting previous transition = .ok accounting ∧
        store' = { store.dropScan target with
          feePayouts := store.feePayouts.put { previous with state }
          accounting
          counters := { store.counters with pendingFeePayoutDebit := pendingDebit } }) := by
  simp only [transitionFeePayout] at done
  obtain ⟨_, done⟩ := thrown_ok.mp done
  obtain ⟨previous, found, rest⟩ := found_ok.mp done
  refine ⟨previous, found, ?_⟩
  split at rest
  next replay =>
    exact .inl ⟨replay, (pure_ok.mp rest).symm⟩
  · obtain ⟨state, next, rest⟩ := bind_ok.mp rest
    obtain ⟨pendingDebit, _, rest⟩ := bind_ok.mp rest
    obtain ⟨accounting, spent, rest⟩ := bind_ok.mp rest
    obtain ⟨_, rest⟩ := thrown_ok.mp rest
    exact .inr ⟨state, accounting, pendingDebit, next, spent, (pure_ok.mp rest).symm⟩

theorem commitFeePayoutScan_ok {progress : ReconciliationScanProgress}
    (fresh : store.scans.get progress.target = none)
    (done : store.commitFeePayoutScan progress = .ok store') :
    store' = { store with scans := store.scans.put progress } := by
  obtain ⟨_, _, rest⟩ := bind_ok.mp done
  rw [fresh] at rest
  exact (pure_ok.mp rest).symm

theorem updateFeePayoutScan_ok {previous next : ReconciliationScanProgress}
    (done : store.updateFeePayoutScan previous next = .ok store') :
    store' = { store with scans := store.scans.put next } := by
  simp only [updateFeePayoutScan] at done
  obtain ⟨_, done⟩ := thrown_ok.mp done
  obtain ⟨_, _, rest⟩ := bind_ok.mp done
  split at rest
  · exact absurd rest throw_ne_ok
  · exact (pure_ok.mp rest).symm

/-! The task `advance_fee_payout`: the call it makes in each state, and its replies. -/

def feePayoutScan (payout : FeePayoutRecord) :
    Except StorageError (SettlementStore × ReconciliationScanProgress) :=
  match store.scans.get (.feePayout payout.id) with
  | some progress => .ok (store, progress)
  | none =>
    let progress := .new (.feePayout payout.id) payout.transfer
    (store.commitFeePayoutScan progress).map fun store => (store, progress)

end SettlementStore

inductive FeePayoutOrigin where
  | pending
  | reconciliationHold
  deriving DecidableEq

inductive FeePayoutCall where
  | transfer (origin : FeePayoutOrigin)
  | scan (progress : ReconciliationScanProgress)
  deriving DecidableEq

namespace SettlementStore

def beginFeePayout (now : Nat) (store : SettlementStore) (payout : FeePayoutRecord) :
    Except StorageError (SettlementStore × FeePayoutCall) :=
  match payout.state with
  | .pending => .ok (store, .transfer .pending)
  | .reconciliationHold =>
    if ledgerIdentityCanStillBeAccepted payout.transfer.createdAtTimeNs now then
      .ok (store, .transfer .reconciliationHold)
    else (store.feePayoutScan payout).map fun (store, progress) => (store, .scan progress)
  | .succeeded _ | .failed => .error .recordNotFound

def callState : FeePayoutCall → FeePayoutState
  | .transfer .pending => .pending
  | .transfer .reconciliationHold | .scan _ => .reconciliationHold

variable (store : SettlementStore)

/-- What a turn of the task begins: the transfer again, the saved scan, or a new scan once the
window has closed. -/
inductive FeePayoutBegun (store : SettlementStore) (now : Nat) (payout : FeePayoutRecord) :
    SettlementStore → FeePayoutCall → Prop where
  | sent : FeePayoutBegun store now payout store (.transfer origin)
  | scanResumed (saved : store.scans.get (.feePayout payout.id) = some progress) :
      FeePayoutBegun store now payout store (.scan progress)
  | scanStarted
      (closed : ledgerIdentityCanStillBeAccepted payout.transfer.createdAtTimeNs now = false)
      (unsaved : store.scans.get (.feePayout payout.id) = none) :
      FeePayoutBegun store now payout
        { store with
          scans := store.scans.put (.new (.feePayout payout.id) payout.transfer) }
        (.scan (.new (.feePayout payout.id) payout.transfer))

theorem beginFeePayout_begun {store written : SettlementStore}
    (begun : store.beginFeePayout now payout = .ok (written, call)) :
    payout.state = callState call ∧ FeePayoutBegun store now payout written call := by
  unfold beginFeePayout at begun
  split at begun
  next pending =>
    cases begun
    exact ⟨pending, .sent⟩
  next held =>
    split at begun
    · cases begun
      exact ⟨held, .sent⟩
    next closed =>
      obtain ⟨⟨written', progress⟩, scanned, same⟩ := map_ok.mp begun
      cases same
      refine ⟨held, ?_⟩
      unfold feePayoutScan at scanned
      split at scanned
      next saved =>
        cases scanned
        exact .scanResumed saved
      next unsaved =>
        obtain ⟨written', committed, same⟩ := map_ok.mp scanned
        cases same
        rw [commitFeePayoutScan_ok unsaved committed]
        exact .scanStarted (Bool.eq_false_iff.mpr closed) unsaved
  · cases begun
  · cases begun

/-- The ledger's answer. From `Pending` an unknown answer holds the payout; from the hold
anything but a block or a rejection leaves it there. -/
def resumeFeePayoutTransfer (id : Nat) (origin : FeePayoutOrigin)
    (outcome : LedgerCallOutcome) : Except StorageError SettlementStore :=
  match origin, outcome with
  | _, .succeeded block | _, .duplicate block =>
    store.transitionFeePayout id (.succeeded block) none
  | _, .definitiveFailure _ => store.transitionFeePayout id .failed none
  | .pending, .ambiguous => store.transitionFeePayout id .hold none
  | _, _ => .ok store

def resumeFeePayoutScan (id : Nat)
    (input : ReconciliationScanProgress) (outcome : ReconciliationOutcome) :
    Except StorageError SettlementStore :=
  match outcome with
  | .noProgress _ => .ok store
  | .progress saved => store.updateFeePayoutScan input saved
  | .succeeded block => store.transitionFeePayout id (.succeeded block) (some (.feePayout id))
  | .absent ledgerWatermark indexWatermark =>
    if indexWatermark < ledgerWatermark then .ok store
    else store.transitionFeePayout id .failed (some (.feePayout id))

end SettlementStore

end KinicBridge
