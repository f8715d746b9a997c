import KinicBridge.Core.Admin
import KinicBridge.Settlement.FeePayouts
import KinicBridge.Settlement.System

/-! The fee reserve and what is promised from it: whatever the order of credited fees, requests and
late answers, the payouts still open are covered by the reserve. -/
namespace KinicBridge

open AccountingState BridgeConfig Checked

namespace Kernel

structure PayoutDecision where
  debit : Nat
  deriving DecidableEq

def payoutDecision (reserve pending amount fee : Nat) (confirmedFirstTime : Bool) :
    Option PayoutDecision :=
  if pending > reserve ∨ amount > limit 128 - fee ∨ amount + fee > reserve - pending then
    none
  else some ⟨if confirmedFirstTime then amount + fee else 0⟩

end Kernel

def feeRecipientSubaccount (recipient : FeeRecipientConfig) : Except AdminError Bytes32 :=
  if recipient.subaccount = [] then .ok 0
  else if recipient.subaccount.length = 32 then .ok (.ofBytes recipient.subaccount)
  else .error (.invalidArgument "invalid subaccount")

namespace BridgeConfig

variable (config : BridgeConfig)

def feePayoutMemo (id : Nat) : Bytes32 :=
  config.sha256 ("KINIC-FEE-PAYOUT".toUTF8.toList ++ beBytes64 id)

def feePayoutIdentity (now id amount : Nat) (recipient : Account) : LedgerTransferIdentity where
  operation := .feePayout
  createdAtTimeNs := now
  memo := config.feePayoutMemo id
  amount
  fee := config.ledgerFee
  from_ := { config.self with subaccount := 0 }
  to_ := recipient
  spender := none

def requestFeePayout (admin : AdminState) (now : Nat) (caller : Principal)
    (requested : Nat) (store : SettlementStore) : Except AdminError SettlementStore := do
  if admin.authorized caller .payout = false then throw .unauthorized
  let amount ← okOr (.invalidArgument "amount exceeds u128") (natU128 requested)
  if amount = 0 then throw (.invalidArgument "amount must be nonzero")
  let payout ← okOr .insufficientFeeReserve (Kernel.payoutDecision
    store.accounting.feeReserve store.counters.pendingFeePayoutDebit amount config.ledgerFee true)
  let payoutAmount ← okOr .insufficientFeeReserve
    (sub payout.debit config.ledgerFee)
  let subaccount ← feeRecipientSubaccount admin.feeRecipient
  let recipient ← okOr (.invalidArgument "invalid recipient")
    (Account.new admin.feeRecipient.owner subaccount)
  let id := store.counters.nextFeePayoutId
  orError .storageFailure (store.commitFeePayoutRequest
    ⟨id, payoutAmount, config.feePayoutIdentity now id payoutAmount recipient, .pending⟩)

end BridgeConfig

namespace FeePayoutRecord

variable (payout : FeePayoutRecord)

def debit : Nat := payout.amount + payout.transfer.fee

def promised : Nat := if payout.isPending then payout.debit else 0

def spent : Nat :=
  match payout.state with
  | .succeeded _ => payout.debit
  | .pending | .reconciliationHold | .failed => 0

end FeePayoutRecord

def FeePayoutTransition.reached : FeePayoutTransition → FeePayoutState
  | .succeeded block => .succeeded block
  | .failed => .failed
  | .hold => .reconciliationHold

theorem FeePayoutState.next_ok {payout : FeePayoutRecord}
    (next : payout.state.next transition = .ok state) :
    payout.isPending = true ∧ state = transition.reached := by
  cases phase : payout.state <;> cases transition <;>
    simp_all [FeePayoutState.next, FeePayoutRecord.isPending, FeePayoutTransition.reached]

theorem feePayoutDebit_ok {payout : FeePayoutRecord} : feePayoutDebit payout = .ok taken ↔
      payout.amount ≤ limit 128 - payout.transfer.fee ∧ taken = payout.debit := by
  unfold feePayoutDebit
  rw [okOr_ok]
  by_cases fits : payout.amount ≤ limit 128 - payout.transfer.fee
  · simp [Kernel.payoutDebit, Nat.not_lt.mpr fits, fits, FeePayoutRecord.debit, eq_comm]
  · simp [Kernel.payoutDebit, Nat.lt_of_not_le fits, fits]

theorem adjustPendingFeePayoutDebit_ok {previous : Option FeePayoutRecord}
    (adjusted : adjustPendingFeePayoutDebit current previous next = .ok result) :
    result + (previous.map (·.promised)).getD 0 = current + next.promised ∧
      (next.isPending = true → next.amount ≤ limit 128 - next.transfer.fee) := by
  obtain ⟨without, removed, rest⟩ := bind_ok.mp adjusted
  have taken : without + (previous.map (·.promised)).getD 0 = current := by
    cases previous with
    | none => exact (Except.ok.inj removed).symm
    | some record =>
      simp only [withoutPendingDebit] at removed
      split at removed
      next isPending =>
        obtain ⟨debit, debits, rest⟩ := bind_ok.mp removed
        have total := sub_eq_some.mp (okOr_ok.mp rest)
        rw [(feePayoutDebit_ok.mp debits).2] at total
        simpa [FeePayoutRecord.promised, isPending, Nat.add_comm] using total
      next ended =>
        simpa [FeePayoutRecord.promised, ended] using (Except.ok.inj removed).symm
  split at rest
  next isPending =>
    obtain ⟨debit, debits, rest⟩ := bind_ok.mp rest
    have total := (add_eq_some.mp (okOr_ok.mp rest)).1
    obtain ⟨fits, rfl⟩ := feePayoutDebit_ok.mp debits
    have promise : next.promised = next.debit := by simp [FeePayoutRecord.promised, isPending]
    exact ⟨by omega, fun _ => fits⟩
  next ended =>
    cases pure_ok.mp rest
    simpa [FeePayoutRecord.promised, ended] using taken

namespace AccountingState

def confirmed (accounting : AccountingState) : Nat :=
  accounting.confirmedDepositFees + accounting.confirmedWithdrawalFees

theorem credit_confirmed {accounting accounting' : AccountingState}
    (credited : accounting.credit kind fee = .ok accounting') :
    accounting'.confirmed = accounting.confirmed + fee := by
  unfold credit at credited
  split at credited
  next zero =>
    cases credited
    rw [zero, Nat.add_zero]
  · obtain ⟨_, _, rest⟩ := bind_ok.mp credited
    cases kind with
    | deposit | withdrawal =>
      obtain ⟨next, sum, rest⟩ := bind_ok.mp rest
      have total := (Amount.checkedAdd_ok.mp sum).1
      cases pure_ok.mp rest
      simp only [confirmed]
      omega

theorem spendFeeReserve_ok {accounting accounting' : AccountingState}
    (spent : accounting.spendFeeReserve amount = .ok accounting') :
    amount + accounting'.feeReserve = accounting.feeReserve ∧
      accounting'.confirmed = accounting.confirmed := by
  obtain ⟨left_, difference, rfl⟩ := map_ok.mp spent
  exact ⟨Amount.checkedSub_ok.mp difference, rfl⟩

end AccountingState

namespace SettlementStore

theorem commitFeePayoutRequest_ok {store written : SettlementStore} {value : FeePayoutRecord}
    (done : store.commitFeePayoutRequest value = .ok written) :
    value.state = .pending ∧ store.feePayouts.get value.id = none ∧
    value.amount ≤ limit 128 - value.transfer.fee ∧ written = { store with
      feePayouts := store.feePayouts.put value
      counters := { store.counters with
        nextFeePayoutId := value.id + 1
        pendingFeePayoutDebit := store.counters.pendingFeePayoutDebit + value.debit } } := by
  simp only [commitFeePayoutRequest] at done
  obtain ⟨accepted, done⟩ := thrown_ok.mp done
  simp only [not_or, not_not, Option.isSome_iff_ne_none] at accepted
  obtain ⟨isPending, _, fresh⟩ := accepted
  obtain ⟨nextId, counted, rest⟩ := found_ok.mp done
  obtain ⟨pending, adjusted, rest⟩ := bind_ok.mp rest
  have promise : value.isPending = true := by simp [FeePayoutRecord.isPending, isPending]
  obtain ⟨total, fits⟩ := adjustPendingFeePayoutDebit_ok adjusted
  simp only [Option.map_none, Option.getD_none, FeePayoutRecord.promised, promise, if_true,
    Nat.add_zero] at total
  cases pure_ok.mp rest
  rw [total, ← (add_eq_some.mp counted).1]
  exact ⟨isPending, fresh, fits promise, rfl⟩

variable {config : BridgeConfig}

theorem requestFeePayout_ok {store written : SettlementStore}
    (done : config.requestFeePayout admin now caller requested store = .ok written) :
    ∃ value : FeePayoutRecord, store.commitFeePayoutRequest value = .ok written ∧
      value.amount ≠ 0 ∧ store.counters.pendingFeePayoutDebit + value.debit ≤ store.accounting.feeReserve := by
  simp only [requestFeePayout] at done
  obtain ⟨_, done⟩ := thrown_ok.mp done
  obtain ⟨amount, _, rest⟩ := bind_ok.mp done
  obtain ⟨positive, rest⟩ := thrown_ok.mp rest
  obtain ⟨payout, decision, rest⟩ := found_ok.mp rest
  obtain ⟨payoutAmount, split_, rest⟩ := found_ok.mp rest
  obtain ⟨_, _, rest⟩ := bind_ok.mp rest
  obtain ⟨_, _, committed⟩ := bind_ok.mp rest
  refine ⟨_, orError_ok.mp committed, ?_⟩
  have debit := sub_eq_some.mp split_
  unfold Kernel.payoutDecision at decision
  split at decision
  · cases decision
  · cases decision
    simp only [FeePayoutRecord.debit, feePayoutIdentity, if_true] at debit ⊢
    constructor <;> omega

theorem moveFeePayout_ok {store written : SettlementStore} {previous : FeePayoutRecord}
    (done : store.moveFeePayout previous transition target = .ok written) :
    ∃ state pendingDebit accounting, previous.isPending = true ∧
      previous.state.next transition = .ok state ∧ pendingDebit + previous.promised =
        store.counters.pendingFeePayoutDebit + { previous with state }.promised ∧
      store.spentAccounting previous transition = .ok accounting ∧
      written = { store.dropScan target with
        feePayouts := store.feePayouts.put { previous with state }
        accounting
        counters := { store.counters with pendingFeePayoutDebit := pendingDebit } } := by
  obtain ⟨state, next, rest⟩ := bind_ok.mp done
  obtain ⟨pendingDebit, adjusted, rest⟩ := bind_ok.mp rest
  obtain ⟨accounting, spent, rest⟩ := bind_ok.mp rest
  obtain ⟨_, rest⟩ := thrown_ok.mp rest
  have isPending := (FeePayoutState.next_ok next).1
  exact ⟨state, pendingDebit, accounting, isPending, next,
    (adjustPendingFeePayoutDebit_ok adjusted).1, spent, (pure_ok.mp rest).symm⟩

structure FeesKept (store written : SettlementStore) : Prop where
  payouts : written.feePayouts = store.feePayouts
  promised : written.counters.pendingFeePayoutDebit = store.counters.pendingFeePayoutDebit
  credited : ∃ fee, written.accounting.feeReserve = store.accounting.feeReserve + fee ∧
    written.accounting.confirmed = store.accounting.confirmed + fee

section

variable {store written : SettlementStore} {id : Bytes32}

theorem FeesKept.of_eq (payouts : written.feePayouts = store.feePayouts)
    (promised : written.counters.pendingFeePayoutDebit = store.counters.pendingFeePayoutDebit)
    (accounting : written.accounting = store.accounting) : store.FeesKept written :=
  ⟨payouts, promised, 0, by rw [accounting]; rfl, by rw [accounting]; rfl⟩

theorem FeesKept.of_credit (payouts : written.feePayouts = store.feePayouts)
    (promised : written.counters.pendingFeePayoutDebit = store.counters.pendingFeePayoutDebit)
    (credited : store.accounting.credit kind fee = .ok written.accounting) :
    store.FeesKept written :=
  ⟨payouts, promised, fee, credit_feeReserve credited, credit_confirmed credited⟩

theorem adjustReserved_promised {counters counters' : CounterState}
    (adjusted : adjustReserved counters previous next = .ok counters') :
    counters'.pendingFeePayoutDebit = counters.pendingFeePayoutDebit := by
  obtain ⟨_, _, _, rfl⟩ := adjustReserved_ok adjusted
  rfl

theorem Change.feesKept (change : store.Change label written) : store.FeesKept written := by
  cases change with
  | depositCreated | withdrawalObserved | depositParked | withdrawalParked => exact .of_eq rfl rfl rfl
  | signatureDispatched found authorization dispatched adjusted =>
    exact .of_eq rfl (adjustReserved_promised adjusted) rfl
  | depositApplied found applied adjusted credited =>
    exact .of_credit rfl (adjustReserved_promised adjusted) credited
  | depositResolved found held isOpen resolved adjusted kept =>
    exact .of_eq rfl (adjustReserved_promised adjusted) rfl
  | withdrawalApplied found applied credited => exact .of_credit rfl rfl credited
  | withdrawalResolved found held isOpen request resolved credited =>
    exact .of_credit rfl rfl credited

theorem Moved.feesKept (moved : store.Moved written) : store.FeesKept written := by
  rcases moved with rfl | ⟨label, change, _⟩
  · exact .of_eq rfl rfl rfl
  · exact change.feesKept

theorem beginHold_feesKept
    (begun : store.beginHold now hold = .ok (written, task)) : store.FeesKept written := by
  unfold beginHold at begun
  split at begun
  · obtain ⟨_, begun⟩ := guarded_ok.mp begun
    cases begun
    exact .of_eq rfl rfl rfl
  · obtain ⟨⟨saved, progress⟩, scanned, same⟩ := map_ok.mp begun
    cases same
    unfold holdScan at scanned
    split at scanned
    · cases scanned
      exact .of_eq rfl rfl rfl
    · obtain ⟨_, put, same⟩ := map_ok.mp scanned
      cases same
      rw [putReconciliationScan_ok put]
      exact .of_eq rfl rfl rfl

theorem beginDeposit_feesKept
    (begun : store.beginDeposit now id = .ok (written, task)) : store.FeesKept written := by
  obtain ⟨deposit, _, rest⟩ := bind_ok.mp begun
  split at rest
  · cases pure_ok.mp rest
    exact .of_eq rfl rfl rfl
  · obtain ⟨hold, _, begun⟩ := bind_ok.mp rest
    exact beginHold_feesKept begun
  · obtain ⟨hold, _, begun⟩ := bind_ok.mp rest
    exact beginHold_feesKept begun
  · exact absurd rest throw_ne_ok

theorem beginWithdrawal_feesKept
    (begun : store.beginWithdrawal config now id = .ok (written, task)) :
    store.FeesKept written := by
  obtain ⟨withdrawal, _, rest⟩ := bind_ok.mp begun
  split at rest
  · split at rest
    · exact absurd rest throw_ne_ok
    cases pure_ok.mp rest
    exact .of_eq rfl rfl rfl
  · obtain ⟨hold, _, begun⟩ := bind_ok.mp rest
    exact beginHold_feesKept begun
  · exact absurd rest throw_ne_ok
  · exact absurd rest throw_ne_ok

theorem perform_feesKept {turn : Turn}
    (done : config.perform now store turn = .ok (written, started)) : store.FeesKept written := by
  cases started with
  | none => exact (perform_moved done).feesKept
  | some task =>
    rcases perform_task done with ⟨_, begun⟩ | ⟨_, begun⟩
    · exact beginDeposit_feesKept begun
    · exact beginWithdrawal_feesKept begun

theorem resolveAbsent_feesKept
    (done : store.resolveAbsent config now hold transfer watermark = .ok written) :
    store.FeesKept written := by
  have kept : ∀ label, written = store ∨ store.Change label written → store.FeesKept written := by
    rintro label (rfl | change)
    · exact .of_eq rfl rfl rfl
    · exact change.feesKept
  unfold resolveAbsent at done
  split at done
  · exact kept _ (resolveDepositHoldAndScan_change done)
  · exact kept _ (resolveDepositHoldAndScan_change done)
  · exact kept _ (resolveWithdrawalHoldAndScan_change done)

theorem resumeScan_feesKept
    (done : store.resumeScan config now hold outcome = .ok written) : store.FeesKept written := by
  cases outcome with
  | noProgress =>
    cases done
    exact .of_eq rfl rfl rfl
  | progress saved =>
    rw [putReconciliationScan_ok done]
    exact .of_eq rfl rfl rfl
  | succeeded block =>
    obtain ⟨current, _, resolved⟩ := bind_ok.mp done
    exact (resolveFound_moved resolved).feesKept
  | absent ledgerWatermark indexWatermark =>
    simp only [resumeScan] at done
    split at done
    · cases done
      exact .of_eq rfl rfl rfl
    · obtain ⟨current, _, resolved⟩ := bind_ok.mp done
      exact resolveAbsent_feesKept resolved

end

/-- The counter is what the open payouts promise, the reserve covers it, and the reserve is
what the credited fees leave after every successful payout. -/
structure FeesCovered (store : SettlementStore) : Prop where
  promised : store.counters.pendingFeePayoutDebit = store.feePayouts.total (·.promised)
  covered : store.counters.pendingFeePayoutDebit ≤ store.accounting.feeReserve
  booked : store.accounting.feeReserve + store.feePayouts.total (·.spent) =
    store.accounting.confirmed
  representable : ∀ id payout, store.feePayouts.get id = some payout →
    payout.amount ≤ limit 128 - payout.transfer.fee

section

theorem empty_feesCovered : empty.FeesCovered :=
  ⟨rfl, Nat.le_refl 0, rfl, nofun⟩

variable {store written : SettlementStore} {id : Nat} {previous : FeePayoutRecord}

theorem FeesCovered.kept (covered : store.FeesCovered)
    (kept : store.FeesKept written) : written.FeesCovered := by
  obtain ⟨payouts, promised, fee, reserve, confirmed⟩ := kept
  have counted := covered.promised
  have below := covered.covered
  have balance := covered.booked
  refine ⟨?_, by omega, ?_, ?_⟩
  · rw [promised, payouts, counted]
  · rw [payouts, reserve, confirmed]
    omega
  · rw [payouts]
    exact covered.representable

theorem dropScan_feesKept (store : SettlementStore) (target : Option ReconciliationTarget) :
    store.FeesKept (store.dropScan target) := by
  cases target <;> exact .of_eq rfl rfl rfl

theorem FeesCovered.request {value : FeePayoutRecord}
    (covered : store.FeesCovered) (committed : store.commitFeePayoutRequest value = .ok written)
    (left_ : store.counters.pendingFeePayoutDebit + value.debit ≤ store.accounting.feeReserve) :
    written.FeesCovered := by
  obtain ⟨phase, fresh, fits, rfl⟩ := commitFeePayoutRequest_ok committed
  have promises := store.feePayouts.total_put value (·.promised)
  have spends := store.feePayouts.total_put value (·.spent)
  have counted := covered.promised
  have balance := covered.booked
  simp only [fresh, Option.map_none, Option.getD_none, FeePayoutRecord.promised,
    FeePayoutRecord.spent, FeePayoutRecord.isPending, phase, beq_self_eq_true, Bool.true_or,
    if_true, Nat.add_zero] at promises spends
  refine ⟨?_, left_, ?_, ?_⟩
  · rw [counted]
    exact promises.symm
  · exact (congrArg _ spends).trans balance
  · intro id payout found
    rcases Table.get_put_cases found with ⟨_, rfl⟩ | ⟨_, before⟩
    · exact fits
    · exact covered.representable id payout before

theorem spentAccounting_ok {accounting : AccountingState}
    (next : previous.state.next transition = .ok state)
    (spent : store.spentAccounting previous transition = .ok accounting) :
    accounting.feeReserve + { previous with state }.spent = store.accounting.feeReserve ∧
      accounting.confirmed = store.accounting.confirmed ∧
      { previous with state }.promised + { previous with state }.spent ≤ previous.debit := by
  have reached := (FeePayoutState.next_ok next).2
  cases transition with
  | succeeded block =>
    obtain ⟨debit, debits, rest⟩ := bind_ok.mp spent
    obtain ⟨reserve, confirmed⟩ := spendFeeReserve_ok (liftCore_ok.mp rest)
    rw [(feePayoutDebit_ok.mp debits).2] at reserve
    subst reached
    exact ⟨by rw [Nat.add_comm]; exact reserve, confirmed, Nat.le_of_eq (Nat.zero_add _)⟩
  | failed =>
    cases spent
    subst reached
    exact ⟨rfl, rfl, Nat.zero_le _⟩
  | hold =>
    cases spent
    subst reached
    exact ⟨rfl, rfl, Nat.le_refl _⟩

theorem FeesCovered.move
    (covered : store.FeesCovered) (found : store.feePayouts.get previous.id = some previous)
    (done : store.moveFeePayout previous transition target = .ok written) :
    written.FeesCovered := by
  obtain ⟨state, pendingDebit, accounting, isPending, next, adjusted, spent, rfl⟩ :=
    moveFeePayout_ok done
  obtain ⟨reserve, confirmed, bound⟩ := spentAccounting_ok next spent
  have promises := store.feePayouts.total_put { previous with state } (·.promised)
  have spends := store.feePayouts.total_put { previous with state } (·.spent)
  have promise : previous.promised = previous.debit := by
    simp [FeePayoutRecord.promised, isPending]
  have unspent : previous.spent = 0 := by
    cases phase : previous.state <;> simp_all [FeePayoutRecord.spent, FeePayoutRecord.isPending]
  have counted := covered.promised
  have below := covered.covered
  have balance := covered.booked
  simp only [found, Option.map_some, Option.getD_some] at promises spends
  refine ⟨?_, ?_, ?_, ?_⟩
  · show pendingDebit = (store.feePayouts.put { previous with state }).total (·.promised)
    omega
  · show pendingDebit ≤ accounting.feeReserve
    omega
  · show accounting.feeReserve + (store.feePayouts.put { previous with state }).total (·.spent) =
      accounting.confirmed
    omega
  · intro id payout seen
    rcases Table.get_put_cases seen with ⟨_, rfl⟩ | ⟨_, before⟩
    · exact covered.representable previous.id previous found
    · exact covered.representable id payout before

theorem FeesCovered.advanced (covered : store.FeesCovered)
    (done : store.transitionFeePayout id transition target = .ok written) :
    written.FeesCovered := by
  simp only [transitionFeePayout] at done
  obtain ⟨_, done⟩ := thrown_ok.mp done
  obtain ⟨previous, found, rest⟩ := found_ok.mp done
  cases store.feePayouts.keyed _ _ found
  split at rest
  · cases pure_ok.mp rest
    exact covered.kept (store.dropScan_feesKept target)
  · exact covered.move found rest

theorem FeesCovered.answered (covered : store.FeesCovered)
    (done : store.resumeFeePayoutTransfer id origin outcome = .ok written) :
    written.FeesCovered := by
  unfold resumeFeePayoutTransfer at done
  split at done
  · exact covered.advanced done
  · exact covered.advanced done
  · exact covered.advanced done
  · exact covered.advanced done
  · cases done
    exact covered

theorem FeesCovered.scanned (covered : store.FeesCovered)
    (done : store.resumeFeePayoutScan id input outcome = .ok written) : written.FeesCovered := by
  cases outcome with
  | noProgress =>
    cases done
    exact covered
  | progress saved =>
    rw [updateFeePayoutScan_ok done]
    exact covered.kept (.of_eq rfl rfl rfl)
  | succeeded block => exact covered.advanced done
  | absent ledgerWatermark indexWatermark =>
    simp only [resumeFeePayoutScan] at done
    split at done
    · cases done
      exact covered
    · exact covered.advanced done

theorem beginFeePayout_feesKept
    (begun : store.beginFeePayout now payout = .ok (written, call)) : store.FeesKept written := by
  cases (beginFeePayout_begun begun).2 with
  | sent | scanResumed => exact .of_eq rfl rfl rfl
  | scanStarted => exact .of_eq rfl rfl rfl

end

/-! Runs: credits, requests and answers in any order, each answer as late as it likes. -/

inductive FeeStep (config : BridgeConfig) (store : SettlementStore) : SettlementStore → Prop where
  | request (admin : AdminState) (caller : Principal) (amount : Nat)
      (done : config.requestFeePayout admin now caller amount store = .ok written) :
      FeeStep config store written
  | begun (payout : FeePayoutRecord)
      (done : store.beginFeePayout now payout = .ok (written, call)) : FeeStep config store written
  | answered (id : Nat) (origin : FeePayoutOrigin) (outcome : LedgerCallOutcome)
      (done : store.resumeFeePayoutTransfer id origin outcome = .ok written) :
      FeeStep config store written
  | scanned (id : Nat) (input : ReconciliationScanProgress) (outcome : ReconciliationOutcome)
      (done : store.resumeFeePayoutScan id input outcome = .ok written) :
      FeeStep config store written
  | turn (turn : Turn) (performed : config.perform now store turn = .ok (written, started)) :
      FeeStep config store written
  | reply (task : PayoutTask) (outcome : LedgerCallOutcome)
      (resumed : store.resumeCall task outcome = .ok written) : FeeStep config store written
  | holdScanned (hold : ReconciliationHoldRecord) (outcome : ReconciliationOutcome)
      (resumed : store.resumeScan config now hold outcome = .ok written) :
      FeeStep config store written

inductive FeeReaches (config : BridgeConfig) : SettlementStore → Prop where
  | start : FeeReaches config empty
  | step (reached : FeeReaches config store) (next : FeeStep config store written) :
      FeeReaches config written

section

variable {store written : SettlementStore} {payout : FeePayoutRecord}

theorem FeesCovered.step (covered : store.FeesCovered) (step : FeeStep config store written) :
    written.FeesCovered := by
  cases step with
  | request admin caller amount done =>
    obtain ⟨value, committed, _, left_⟩ := requestFeePayout_ok done
    exact covered.request committed left_
  | begun payout done => exact covered.kept (beginFeePayout_feesKept done)
  | answered id origin outcome done => exact covered.answered done
  | scanned id input outcome done => exact covered.scanned done
  | turn turn performed => exact covered.kept (perform_feesKept performed)
  | reply task outcome resumed => exact covered.kept (resumeCall_moved resumed).feesKept
  | holdScanned hold outcome resumed => exact covered.kept (resumeScan_feesKept resumed)

theorem FeeReaches.covered (reached : FeeReaches config store) : store.FeesCovered := by
  induction reached with
  | start => exact empty_feesCovered
  | step _ next covered => exact covered.step next

/-- An open payout has room in the counter and in the reserve, so its success is recorded. -/
theorem FeesCovered.completes
    (covered : store.FeesCovered) (found : store.feePayouts.get payout.id = some payout)
    (isPending : payout.isPending = true) (consumes : target = none ∨
      target = some (.feePayout payout.id) ∧ (store.scans.get (.feePayout payout.id)).isSome)
    (block : Nat) :
    ∃ written, store.transitionFeePayout payout.id (.succeeded block) target = .ok written ∧
      written.feePayouts.get payout.id = some { payout with state := .succeeded block } ∧
      written.accounting.feeReserve + payout.debit = store.accounting.feeReserve := by
  have promise : payout.promised = payout.debit := by simp [FeePayoutRecord.promised, isPending]
  have share := Table.le_total found (·.promised)
  rw [promise, ← covered.promised] at share
  have debits : feePayoutDebit payout = .ok payout.debit :=
    feePayoutDebit_ok.mpr ⟨covered.representable _ _ found, rfl⟩
  have counted : sub store.counters.pendingFeePayoutDebit payout.debit =
      some (store.counters.pendingFeePayoutDebit - payout.debit) := by simp [sub, share]
  have reserved : payout.debit ≤ store.accounting.feeReserve := share.trans covered.covered
  have spends : Amount.checkedSub store.accounting.feeReserve payout.debit =
      .ok (store.accounting.feeReserve - payout.debit) :=
    Amount.checkedSub_ok.mpr (by omega)
  have fresh : payout.state.isReplay (.succeeded block) = false := by
    cases phase : payout.state <;> simp_all [FeePayoutState.isReplay, FeePayoutRecord.isPending]
  have next : payout.state.next (.succeeded block) = .ok (.succeeded block) := by
    cases phase : payout.state <;> simp_all [FeePayoutState.next, FeePayoutRecord.isPending]
  have ended : { payout with state := .succeeded block }.isPending = false := rfl
  have own : (target.any fun target => !decide (target = .feePayout payout.id)) = false := by
    rcases consumes with rfl | ⟨rfl, _⟩ <;> simp
  have saved : (target.any fun target => (store.scans.get target).isNone) = false := by
    rcases consumes with rfl | ⟨rfl, present⟩
    · rfl
    · simpa [Option.isNone_iff_eq_none, Option.isSome_iff_ne_none] using present
  refine ⟨{ store.dropScan target with
    feePayouts := store.feePayouts.put { payout with state := .succeeded block }
    accounting := { store.accounting with
      feeReserve := store.accounting.feeReserve - payout.debit }
    counters := { store.counters with
      pendingFeePayoutDebit := store.counters.pendingFeePayoutDebit - payout.debit } }, ?_, ?_, ?_⟩
  · simp [transitionFeePayout, own, found, fresh, moveFeePayout, next, adjustPendingFeePayoutDebit,
      withoutPendingDebit, isPending, debits, counted, ended, spentAccounting, liftCore,
      spendFeeReserve, spends, saved, bind, Except.bind, pure, Except.pure,
      Except.map, Except.mapError]
  · exact Table.get_put_self
  · exact Nat.sub_add_cancel reserved

theorem success_repeated {id : Nat}
    (found : store.feePayouts.get id = some payout) (ended : payout.isPending = false)
    (done : store.transitionFeePayout id transition target = .ok written) :
    written.accounting = store.accounting := by
  obtain ⟨previous, seen, replay | ⟨state, _, _, next, _⟩⟩ := transitionFeePayout_ok done
  · rw [replay.2]
    cases target <;> rfl
  · cases found.symm.trans seen
    simp [(FeePayoutState.next_ok next).1] at ended

/-- In every run the counter is exactly what open payouts promise, the reserve covers it and
accounts for every success once, an open payout can always be completed, and a success reported
again debits nothing. -/
theorem fee_reserve_never_overdrawn {config : BridgeConfig} {store : SettlementStore}
    (reached : FeeReaches config store) :
    store.counters.pendingFeePayoutDebit = store.feePayouts.total (·.promised) ∧
    store.counters.pendingFeePayoutDebit ≤ store.accounting.feeReserve ∧
    store.accounting.feeReserve + store.feePayouts.total (·.spent) = store.accounting.confirmed ∧
    (∀ payout target block, store.feePayouts.get payout.id = some payout →
      payout.isPending = true →
      (target = none ∨
        target = some (.feePayout payout.id) ∧ (store.scans.get (.feePayout payout.id)).isSome) →
      ∃ written, store.transitionFeePayout payout.id (.succeeded block) target = .ok written ∧
        written.feePayouts.get payout.id = some { payout with state := .succeeded block } ∧
        written.accounting.feeReserve + payout.debit = store.accounting.feeReserve) ∧
    (∀ payout transition target written, store.feePayouts.get payout.id = some payout →
      payout.isPending = false →
      store.transitionFeePayout payout.id transition target = .ok written →
      written.accounting = store.accounting) := by
  have covered := reached.covered
  exact ⟨covered.promised, covered.covered, covered.booked,
    fun payout target block found isPending consumes =>
      covered.completes found isPending consumes block,
    fun payout transition target written found ended done => success_repeated found ended done⟩

end

/-! A fee of ten is credited. Five and one of it are requested with a ledger fee of two each, and
the first payout succeeds. -/

def feeConfig : BridgeConfig := ⟨⟨[9], 0, owner_nine_valid⟩, [8], 2, fun _ => 6, 8453⟩

def feeAdmin : AdminState := ⟨true, [3], [4, 4], ⟨[5], []⟩⟩

def feeDeposit : DepositRequest where
  id := 1
  payloadHash := 2
  grossAmount := 100
  userMaxServiceFee := 10
  transfer := ⟨.pullDeposit, 0, 7, 100, 2, ⟨[1], 0, owner_one_valid⟩, ⟨[9], 0, owner_nine_valid⟩,
    some ⟨[9], 0, owner_nine_valid⟩⟩

def feeAuthorization : MintAuthorizationRecord where
  authorization := ⟨1, 2, 100, 10, 10, 900, 1⟩
  domain := ⟨mintAuthorizationDomainName, mintAuthorizationDomainVersion, 8453, 3⟩
  digest := 4
  origin := ⟨0, 5, 0, 0⟩
  signatureDispatchAttempt := 0
  signatureDispatched := false
  signature := none

def feeAccepted : SettlementStore := stored (empty.createDeposit feeDeposit)
def feeFunded : SettlementStore := stored (feeAccepted.applyDeposit 1 (.fundingSucceeded 5))
def feeCommitted : SettlementStore :=
  stored (feeFunded.applyDeposit 1 (.commitAuthorization ⟨10, 90⟩ feeAuthorization))
def feeDispatched : SettlementStore := stored (feeCommitted.dispatchSignature 1)
def feeCredited : SettlementStore :=
  stored (feeDispatched.applyDeposit 1 (.authorizationSigned (List.replicate 65 0) 0))
def feeRequested : SettlementStore :=
  stored (feeConfig.requestFeePayout feeAdmin 0 [4, 4] 5 feeCredited)

def feeRequestedTwice : SettlementStore :=
  stored (feeConfig.requestFeePayout feeAdmin 0 [4, 4] 1 feeRequested)
def feePaid : SettlementStore :=
  stored (feeRequestedTwice.resumeFeePayoutTransfer 0 .pending (.succeeded 9))

theorem FeeReaches.performed {store written : SettlementStore}
    (reached : FeeReaches config store) (turn : Turn)
    (performed : config.perform 0 store turn = .ok (written, none)) : FeeReaches config written :=
  reached.step (.turn turn performed)

theorem feeRequested_reached : FeeReaches feeConfig feeRequested := by
  have created : empty.createDeposit feeDeposit = .ok feeAccepted :=
    eq_ok_stored (by decide +kernel)
  have funded : feeAccepted.applyDeposit 1 (.fundingSucceeded 5) = .ok feeFunded :=
    eq_ok_stored (by decide +kernel)
  have committed : feeFunded.applyDeposit 1 (.commitAuthorization ⟨10, 90⟩ feeAuthorization) =
      .ok feeCommitted := eq_ok_stored (by decide +kernel)
  have dispatched : feeCommitted.dispatchSignature 1 = .ok feeDispatched :=
    eq_ok_stored (by decide +kernel)
  have credited : feeDispatched.applyDeposit 1 (.authorizationSigned (List.replicate 65 0) 0) =
      .ok feeCredited := eq_ok_stored (by decide +kernel)
  have requested : feeConfig.requestFeePayout feeAdmin 0 [4, 4] 5 feeCredited = .ok feeRequested :=
    eq_ok_stored (by decide +kernel)
  have atAccepted : FeeReaches feeConfig feeAccepted :=
    FeeReaches.start.performed (.createDeposit feeDeposit) (by rw [perform, created]; rfl)
  have atFunded := atAccepted.performed (.depositEvent 1 (.fundingSucceeded 5))
    (by rw [perform, funded]; rfl)
  have atCommitted := atFunded.performed
    (.depositEvent 1 (.commitAuthorization ⟨10, 90⟩ feeAuthorization))
    (by rw [perform, committed]; rfl)
  have atDispatched := atCommitted.performed (.dispatchSignature 1)
    (by rw [perform, dispatched]; rfl)
  have atCredited := atDispatched.performed
    (.depositEvent 1 (.authorizationSigned (List.replicate 65 0) 0))
    (by rw [perform, credited]; rfl)
  exact atCredited.step (.request feeAdmin [4, 4] 5 requested)

theorem feePaid_reached : FeeReaches feeConfig feePaid := by
  have requested : feeConfig.requestFeePayout feeAdmin 0 [4, 4] 1 feeRequested =
      .ok feeRequestedTwice := eq_ok_stored (by decide +kernel)
  have paid : feeRequestedTwice.resumeFeePayoutTransfer 0 .pending (.succeeded 9) =
      .ok feePaid := eq_ok_stored (by decide +kernel)
  exact (feeRequested_reached.step (.request feeAdmin [4, 4] 1 requested)).step
    (.answered 0 .pending (.succeeded 9) paid)

theorem fee_reserve_never_overdrawn_paid :
    feeRequestedTwice.counters.pendingFeePayoutDebit = 10 ∧
    feePaid.counters.pendingFeePayoutDebit = 3 ∧ feePaid.feePayouts.total (·.promised) = 3 ∧
    feePaid.accounting.feeReserve = 3 ∧ feePaid.feePayouts.total (·.spent) = 7 := by
  have reserve : feePaid.accounting.feeReserve = 3 := by decide +kernel
  have counted : feePaid.counters.pendingFeePayoutDebit = 3 := by decide +kernel
  have confirmed : feePaid.accounting.confirmed = 10 := by decide +kernel
  obtain ⟨promised, _, booked, _⟩ := fee_reserve_never_overdrawn feePaid_reached
  refine ⟨by decide +kernel, counted, promised.symm.trans counted, reserve, ?_⟩
  rw [reserve, confirmed] at booked
  omega

end SettlementStore

end KinicBridge
