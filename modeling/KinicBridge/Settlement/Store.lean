import KinicBridge.Core.Reconciliation
import KinicBridge.Ledger.Scan
import KinicBridge.Library.Table

/-! The stored records of settlements, the fee accounting and the counters, with the transactions
that write them. Every function returns the whole store after its transaction or the error that
undid it. -/
namespace KinicBridge

open Amount Checked

inductive StorageError where
  | core (error : CoreError)
  | recordNotFound
  | counterOverflow
  | counterUnderflow
  | depositsPaused
  | depositRateLimited (retryAfterSeconds : Nat)
  | lifetimeDepositCapacityExceeded
  | reserveUnavailable
  | valueTooLarge (actual maximum : Nat)
  | sequenceMismatch (expected : Nat)
  | stale
  deriving DecidableEq

def liftCore (result : Except CoreError α) : Except StorageError α := result.mapError .core

theorem liftCore_ok : liftCore result = .ok a ↔ result = .ok a := mapError_ok

inductive FeeKind where
  | deposit
  | withdrawal
  deriving DecidableEq

structure AccountingState where
  feeReserve : Nat
  confirmedDepositFees : Nat
  confirmedWithdrawalFees : Nat
  deriving DecidableEq

namespace AccountingState

variable (accounting : AccountingState)

def confirmFee (kind : FeeKind) (amount : Nat) : Except CoreError AccountingState := do
  let nextReserve ← checkedAdd accounting.feeReserve amount
  match kind with
  | .deposit =>
    let nextDeposit ← checkedAdd accounting.confirmedDepositFees amount
    return { accounting with feeReserve := nextReserve, confirmedDepositFees := nextDeposit }
  | .withdrawal =>
    let nextWithdrawal ← checkedAdd accounting.confirmedWithdrawalFees amount
    return { accounting with feeReserve := nextReserve, confirmedWithdrawalFees := nextWithdrawal }

def spendFeeReserve (amount : Nat) : Except CoreError AccountingState :=
  (checkedSub accounting.feeReserve amount).map fun feeReserve =>
    { accounting with feeReserve }

def credit (kind : FeeKind) (feeDelta : Nat) : Except CoreError AccountingState :=
  if feeDelta = 0 then .ok accounting else accounting.confirmFee kind feeDelta

theorem confirmFee_feeReserve {accounting accounting' : AccountingState}
    (confirmed : accounting.confirmFee kind amount = .ok accounting') :
    accounting'.feeReserve = accounting.feeReserve + amount := by
  obtain ⟨reserve, sum, rest⟩ := bind_ok.mp confirmed
  have total := (checkedAdd_ok.mp sum).1
  cases kind with
  | deposit | withdrawal =>
    obtain ⟨_, _, rfl⟩ := returned_ok.mp rest
    exact total.symm

theorem credit_feeReserve {accounting accounting' : AccountingState}
    (credited : accounting.credit kind feeDelta = .ok accounting') :
    accounting'.feeReserve = accounting.feeReserve + feeDelta := by
  unfold credit at credited
  split at credited
  next zero =>
    cases credited
    rw [zero, Nat.add_zero]
  · exact confirmFee_feeReserve credited

end AccountingState

def Settlement.netServiceFee (settlement : Settlement) : Except CoreError Nat :=
  (okOr .settlementMismatch (Kernel.settlementDecision settlement.amountOut
    settlement.ledgerFee settlement.serviceFee)).map (·.reserveCredit)

structure CounterState where
  nextHoldId : Nat
  nextFeePayoutId : Nat
  reservedDepositMintAmount : Nat
  reservedDepositMintOperations : Nat
  pendingFeePayoutDebit : Nat
  deriving DecidableEq

inductive FeePayoutState where
  | pending
  | succeeded (blockIndex : Nat)
  | reconciliationHold
  | failed
  deriving DecidableEq

structure FeePayoutRecord where
  id : Nat
  amount : Nat
  transfer : LedgerTransferIdentity
  state : FeePayoutState
  deriving DecidableEq

def withoutReserved (current : Nat) : Option DepositRecord → Except StorageError Nat
  | none => .ok current
  | some previous =>
    if previous.reservesMintResources then do
      let reserved ← liftCore previous.reservedMintAmount
      okOr .counterUnderflow (sub current reserved)
    else .ok current

/-- Take a deposit's old share out of a counter and put its new share in. -/
def adjustReservedMintAmount (current : Nat) (previous : Option DepositRecord)
    (next : DepositRecord) : Except StorageError Nat := do
  let withoutPrevious ← withoutReserved current previous
  if next.reservesMintResources then
    let reserved ← liftCore next.reservedMintAmount
    okOr .counterOverflow (add 128 withoutPrevious reserved)
  else return withoutPrevious

def adjustActiveCount (current : Nat) (wasActive isActive : Bool) : Except StorageError Nat :=
  match wasActive, isActive with
  | false, true => okOr .counterOverflow (succ 64 current)
  | true, false => okOr .counterUnderflow (sub current 1)
  | _, _ => .ok current

def adjustReserved (counters : CounterState) (previous : Option DepositRecord)
    (next : DepositRecord) : Except StorageError CounterState := do
  let amount ← adjustReservedMintAmount counters.reservedDepositMintAmount previous next
  let operations ← adjustActiveCount counters.reservedDepositMintOperations
    (previous.any (·.reservesMintResources)) next.reservesMintResources
  return { counters with
    reservedDepositMintAmount := amount
    reservedDepositMintOperations := operations }

theorem adjustReserved_ok {counters counters' : CounterState}
    (adjusted : adjustReserved counters previous next = .ok counters') : ∃ amount operations,
      adjustReservedMintAmount counters.reservedDepositMintAmount previous next = .ok amount ∧
      counters' = { counters with
        reservedDepositMintAmount := amount
        reservedDepositMintOperations := operations } := by
  obtain ⟨amount, amounts, rest⟩ := bind_ok.mp adjusted
  obtain ⟨operations, _, rfl⟩ := returned_ok.mp rest
  exact ⟨amount, operations, amounts, rfl⟩

structure SettlementStore where
  deposits : Table DepositRecord.id
  withdrawals : Table WithdrawalRecord.id
  holds : Table ReconciliationHoldRecord.id
  scans : Table ReconciliationScanProgress.target
  feePayouts : Table FeePayoutRecord.id
  accounting : AccountingState
  counters : CounterState

namespace SettlementStore

def empty : SettlementStore where
  deposits := .empty
  withdrawals := .empty
  holds := .empty
  scans := .empty
  feePayouts := .empty
  accounting := ⟨0, 0, 0⟩
  counters := ⟨0, 0, 0, 0, 0⟩

/-- The fee a write credits by itself: the quoted one when a deposit becomes available. -/
def derivedFeeDelta (previous value : DepositRecord) : Except StorageError Nat :=
  if value.state.code = 3 ∧ previous.state.code ≠ 3 then
    okOr (.core .invalidAmount) (value.quote.map (·.serviceFee))
  else .ok 0

def mintCompleted (previous value : DepositRecord) : Bool :=
  value.state.code == 10 && previous.state.code != 10

def refundCompleted (previous value : DepositRecord) : Bool :=
  value.state.code == 8 && previous.state.code != 8

/-- What a completed mint or refund takes off the deposit's pending liability. -/
def expectedTerminalDebit (previous value : DepositRecord) (derived : Nat) :
    Except StorageError Nat :=
  if mintCompleted previous value || refundCompleted previous value then
    liftCore (checkedSub value.grossAmount value.chargedServiceFee)
  else .ok derived

def expectedEffects (previous value : DepositRecord)
    (previousReserved nextReserved derived terminalDebit : Nat) : DepositAccountingEffects where
  reservationAfter := nextReserved
  reservationAdd := if previousReserved = 0 then nextReserved else 0
  reservationRelease := if nextReserved = 0 then previousReserved else 0
  feeCredit := derived
  pendingLiabilityDebit := terminalDebit
  escrowDebit := if refundCompleted previous value then terminalDebit else 0
  mintSupplyIncrease :=
    if mintCompleted previous value then (value.quote.map (·.netAmount)).getD 0 else 0

def checkedFeeCredit (previous value : DepositRecord) (derived : Nat) (result : ApplyResult) :
    Except StorageError Nat := do
  let effects ← okOr
    (.core (.invalidTransition "deposit" "missing_transition_effects")) result.depositEffects
  let previousReserved ← liftCore previous.reservedMintAmount
  let nextReserved ← liftCore value.reservedMintAmount
  let terminalDebit ← expectedTerminalDebit previous value derived
  if result.outcome ≠ .applied ∨
      effects ≠ expectedEffects previous value previousReserved nextReserved derived terminalDebit
  then throw (.core (.invalidTransition "deposit" "storage_effect_mismatch"))
  return effects.feeCredit

def creditedFee (previous value : DepositRecord) (derived : Nat) :
    Option ApplyResult → Except StorageError Nat
  | none => .ok derived
  | some result => checkedFeeCredit previous value derived result

def putDepositWithAudit (store : SettlementStore) (value : DepositRecord)
    (result : Option ApplyResult) : Except StorageError SettlementStore := do
  let previous ← okOr .recordNotFound (store.deposits.get value.id)
  let counters ← adjustReserved store.counters (some previous) value
  let derived ← derivedFeeDelta previous value
  let feeDelta ← creditedFee previous value derived result
  let accounting ← liftCore (store.accounting.credit .deposit feeDelta)
  return { store with deposits := store.deposits.put value, counters, accounting }

variable {store store' : SettlementStore} {value : DepositRecord}

theorem checkedFeeCredit_ok {previous : DepositRecord}
    (checked : checkedFeeCredit previous value derived result = .ok feeDelta) :
    feeDelta = derived := by
  obtain ⟨effects, _, rest⟩ := bind_ok.mp checked
  obtain ⟨_, _, rest⟩ := bind_ok.mp rest
  obtain ⟨_, _, rest⟩ := bind_ok.mp rest
  obtain ⟨_, _, rest⟩ := bind_ok.mp rest
  split at rest
  · exact absurd rest throw_ne_ok
  next agrees =>
    have announced := not_not.mp (not_or.mp agrees).2
    rw [← pure_ok.mp rest, announced]
    rfl

theorem putDepositWithAudit_ok (written : store.putDepositWithAudit value result = .ok store') :
    ∃ previous feeDelta counters accounting, store.deposits.get value.id = some previous ∧
      derivedFeeDelta previous value = .ok feeDelta ∧
      creditedFee previous value feeDelta result = .ok feeDelta ∧
      adjustReserved store.counters (some previous) value = .ok counters ∧
      store.accounting.credit .deposit feeDelta = .ok accounting ∧
      store' = { store with deposits := store.deposits.put value, counters, accounting } := by
  obtain ⟨previous, found, rest⟩ := found_ok.mp written
  obtain ⟨counters, adjusted, rest⟩ := bind_ok.mp rest
  obtain ⟨derived, derivation, rest⟩ := bind_ok.mp rest
  obtain ⟨feeDelta, fee, rest⟩ := bind_ok.mp rest
  obtain ⟨accounting, credited, rest⟩ := bind_ok.mp rest
  have derivedFee : feeDelta = derived := by
    cases result with
    | none => exact (Except.ok.inj fee).symm
    | some result => exact checkedFeeCredit_ok fee
  rw [derivedFee] at fee credited
  exact ⟨previous, derived, counters, accounting, found, derivation, fee,
    adjusted, liftCore_ok.mp credited, (pure_ok.mp rest).symm⟩

section

variable (store : SettlementStore) (value : DepositRecord)

def putDeposit : Except StorageError SettlementStore := store.putDepositWithAudit value none

def putDepositTransition (result : ApplyResult) : Except StorageError SettlementStore :=
  store.putDepositWithAudit value (some result)

/-- The fee a withdrawal's write credits: its net service fee on the step into `Paid`. -/
def withdrawalFeeDelta (waiting : WithdrawalState → Bool) (previous : Option WithdrawalRecord)
    (value : WithdrawalRecord) : Except StorageError Nat :=
  match previous, value.state with
  | some previous, .paid _ settlement _ _ =>
    if waiting previous.state then liftCore settlement.netServiceFee else .ok 0
  | _, _ => .ok 0

def putWithdrawal (value : WithdrawalRecord) : Except StorageError SettlementStore := do
  let feeDelta ← withdrawalFeeDelta (·.phaseCode == 1) (store.withdrawals.get value.id) value
  let accounting ← liftCore (store.accounting.credit .withdrawal feeDelta)
  return { store with withdrawals := store.withdrawals.put value, accounting }

end

theorem putWithdrawal_ok {value : WithdrawalRecord}
    (written : store.putWithdrawal value = .ok store') : ∃ feeDelta accounting,
      withdrawalFeeDelta (·.phaseCode == 1) (store.withdrawals.get value.id) value = .ok feeDelta ∧
      store.accounting.credit .withdrawal feeDelta = .ok accounting ∧
      store' = { store with withdrawals := store.withdrawals.put value, accounting } := by
  obtain ⟨feeDelta, fee, rest⟩ := bind_ok.mp written
  obtain ⟨accounting, credited, rest⟩ := bind_ok.mp rest
  exact ⟨feeDelta, accounting, fee, liftCore_ok.mp credited, (pure_ok.mp rest).symm⟩

/-- A scan may be replaced only by a scan of the same transfer. -/
def putReconciliationScan (store : SettlementStore) (progress : ReconciliationScanProgress) :
    Except StorageError SettlementStore :=
  if (store.scans.get progress.target).any fun previous =>
      previous.transfer != progress.transfer then .error (.core .conflictingReplay)
  else .ok { store with scans := store.scans.put progress }

theorem putReconciliationScan_ok {progress : ReconciliationScanProgress}
    (written : store.putReconciliationScan progress = .ok store') :
    store' = { store with scans := store.scans.put progress } := by
  obtain ⟨_, saved⟩ := guarded_ok.mp written
  exact (Except.ok.inj saved).symm

end SettlementStore

def stored : Except ε SettlementStore → SettlementStore
  | .ok store => store
  | .error _ => .empty

theorem eq_ok_stored {result : Except ε SettlementStore} (done : result.isOk = true) :
    result = .ok (stored result) := by
  cases result with
  | error error => cases done
  | ok store => rfl

end KinicBridge
