import KinicBridge.Core.DepositAccounting

/-! The deposit machine and the kernel describe the same step: on a record reached from an accepted
request every transition passes the checks of `apply`, so an event is refused only for its ledger
block or by its guard. -/
namespace KinicBridge

open DepositEvent Kernel

theorem Kernel.decision_applies {input : Kernel.DepositTransitionInput}
    (fresh : input.samePayload = false) (fits : input.guard.matchesEvent input.event = true)
    (accepts : input.guard.accepts = true)
    (table : depositTransition input.state input.event = some nextState) :
    depositTransitionDecision input = .apply {
      nextState
      reservationActive := depositReservationActive nextState
      releaseReservation := depositReservationActive input.state &&
        !depositReservationActive nextState
      chargeServiceFee := depositChargeServiceFee input.state input.event
      accounting := depositNumericEffects input.state input.event input.grossAmount
        input.netAmount input.serviceFee input.reservedAmount } := by
  simp [depositTransitionDecision, fresh, fits, accepts, table]

namespace DepositRecord

theorem transitionGuard_matches (r : DepositRecord) (event : DepositEvent) :
    (r.transitionGuard event).1.matchesEvent event.code = true := by
  cases event <;> rfl

variable {r next : DepositRecord} {event : DepositEvent}

theorem Coherent.reserved (coherent : r.Coherent) : ∃ amount, r.reservedMintAmount = .ok amount ∧
      (depositReservationActive r.state.code = true → amount = r.netAmount ∧ amount ≠ 0) ∧
      (depositReservationActive r.state.code = false → amount = 0) := by
  unfold reservedMintAmount reservesMintResources
  cases active : depositReservationActive r.state.code with
  | false => exact ⟨0, by simp⟩
  | true =>
    have phase : r.state.code = 2 ∨ r.state.code = 3 := by
      simpa [depositReservationActive] using active
    have quoted : ∃ quote, r.quote = some quote ∧ quote.netAmount ≠ 0 := by
      rcases phase with phase | phase
      · obtain ⟨record, found, _⟩ := coherent.pending phase
        obtain ⟨quote, quotes⟩ := coherent.quotes record found
        exact ⟨quote, quotes.quoted, quotes.positive⟩
      · obtain ⟨quote, quoted, positive, _⟩ := coherent.signed_quote (coherent.signed (.inl phase))
        exact ⟨quote, quoted, positive⟩
    obtain ⟨quote, quoted, positive⟩ := quoted
    exact ⟨quote.netAmount, by simp [quoted, positive, netAmount]⟩

section

variable (applied : Applied r event next fee)

include applied

theorem Applied.guarded : (r.transitionGuard event).1.accepts = true := by
  cases applied with
  | committed phase guard | installed phase guard | mintRecorded phase guard => exact guard
  | refundOffered phase policy => exact policy
  | refundStarted phase matching policy => exact Bool.and_eq_true_iff.mpr ⟨matching, policy⟩
  | funded | fundingHeld | fundingCancelled | refundPaid | refundHeld => rfl

theorem Applied.fields : r.transitionFields event = .ok (next, fee) := by
  cases applied with
  | installed phase guard authorization installs quoted =>
    simp [transitionFields, phase, authorization, installs, quoted, bind, Except.bind, pure,
      Except.pure]
  | refundOffered phase => rcases phase with phase | phase | phase <;> simp [transitionFields, phase]
  | mintRecorded phase => rcases phase with phase | ⟨_, phase⟩ <;> simp [transitionFields, phase]
  | funded phase | fundingHeld phase | fundingCancelled phase | committed phase
  | refundStarted phase | refundPaid phase | refundHeld phase => simp [transitionFields, phase]

theorem Applied.ledger : depositLedgerBlockTransition r.state.ledgerBlocks.1 r.state.ledgerBlocks.2
      event.ledgerEvent.1 event.ledgerEvent.2 = some next.state.ledgerBlocks := by
  cases applied with
  | refundOffered phase => rcases phase with phase | phase | phase <;> rw [phase] <;> rfl
  | mintRecorded phase => rcases phase with phase | ⟨_, phase⟩ <;> rw [phase] <;> rfl
  | funded phase | fundingHeld phase | fundingCancelled phase | committed phase | installed phase
  | refundStarted phase | refundPaid phase | refundHeld phase => rw [phase]; rfl

theorem Applied.reserving
    (active : depositReservationActive next.state.code = true) (reserved : Nat) :
    (depositReservationActive r.state.code = false ∧
      (r.transitionInput event reserved).netAmount = next.netAmount) ∨
    (depositReservationActive r.state.code = true ∧ r.netAmount = next.netAmount) := by
  cases applied with
  | committed phase =>
    rw [phase]
    exact .inl ⟨rfl, rfl⟩
  | installed phase =>
    rw [phase]
    exact .inr ⟨rfl, rfl⟩
  | _ => simp [depositReservationActive, unquoted, DepositState.code] at active

theorem Applied.fee_eq (reserved : Nat) :
    fee = if depositChargeServiceFee r.state.code event.code then
      (r.transitionInput event reserved).serviceFee else 0 := by
  cases applied with
  | installed phase guard authorization installs quoted =>
    simp [phase, DepositState.code, code, depositChargeServiceFee,
      transitionInput, quoted]
  | _ => simp [code, depositChargeServiceFee]

end

def kernelEffects (r : DepositRecord) (event : DepositEvent) (reserved : Nat) :
    DepositAccountingEffects :=
  depositNumericEffects r.state.code event.code r.grossAmount
    (r.transitionInput event reserved).netAmount (r.transitionInput event reserved).serviceFee
    reserved

section

variable (coherent : r.Coherent) (applied : Applied r event next fee)

include coherent applied

theorem Applied.reservation (reservation : r.reservedMintAmount = .ok reserved) :
    (r.kernelEffects event reserved).reservationAfter =
      (if depositReservationActive next.state.code then next.netAmount else 0) ∧
    (r.kernelEffects event reserved).reservationAdd = (if !depositReservationActive r.state.code &&
        depositReservationActive next.state.code then next.netAmount else 0) ∧
    (r.kernelEffects event reserved).reservationRelease =
      (if depositReservationActive r.state.code &&
        !depositReservationActive next.state.code then reserved else 0) := by
  obtain ⟨amount, known, held, _⟩ := coherent.reserved
  cases reservation.symm.trans known
  simp only [kernelEffects, depositNumericEffects, applied.transition, Option.any_some]
  cases active : depositReservationActive next.state.code with
  | false => simp
  | true =>
    rcases applied.reserving active reserved with ⟨before, net⟩ | ⟨before, net⟩
    · simp [before, net]
    · simp [before, (held before).1, net]

theorem Applied.decided (fresh : r.isIdempotent event = false)
    (reservation : r.reservedMintAmount = .ok reserved) :
    ∃ effects, depositTransitionDecision (r.transitionInput event reserved) = .apply effects ∧
      effects.accounting = r.kernelEffects event reserved ∧
      r.effectMismatch next fee effects = false := by
  refine ⟨_, decision_applies fresh (r.transitionGuard_matches event) applied.guarded
    applied.transition, rfl, ?_⟩
  obtain ⟨after, add, _⟩ := applied.reservation coherent reservation
  have credit : (r.kernelEffects event reserved).feeCredit = fee := by
    rw [applied.fee_eq reserved]
    rfl
  change effectMismatch r next fee ⟨_, _, _, _, r.kernelEffects event reserved⟩ = false
  simp only [effectMismatch, after, add, credit]
  simp [reservesMintResources, netAmount, transitionInput]

theorem Applied.performed (fresh : r.isIdempotent event = false)
    (reservation : r.reservedMintAmount = .ok reserved) :
    r.apply event = .ok (next, .appliedDeposit (r.kernelEffects event reserved)) := by
  obtain ⟨effects, decided, accounting, agreed⟩ := applied.decided coherent fresh reservation
  simp [apply, applied.ledger, reservation, decided, applied.fields, accounting, agreed, bind,
    Except.bind, pure, Except.pure]

theorem Applied.succeeds (fresh : r.isIdempotent event = false) :
    ∃ result, r.apply event = .ok (next, result) := by
  obtain ⟨reserved, reservation, _⟩ := coherent.reserved
  exact ⟨_, applied.performed coherent fresh reservation⟩

end

theorem installGuard_installs (guard : (r.installGuard signature observedTimestamp).accepts = true)
    (found : r.mintAuthorization = some record) :
    record.installSignature signature = some { record with signature := some signature } := by
  simp only [installGuard, found, Option.any_some, Kernel.DepositEventGuard.accepts,
    signatureInstallAllowed, Bool.and_eq_true, beq_iff_eq, Option.isNone_iff_eq_none]
    at guard
  obtain ⟨⟨⟨dispatched, unsigned⟩, length⟩, _⟩ := guard
  simp [MintAuthorizationRecord.installSignature, dispatched, unsigned, length]

theorem applied_of_decision (coherent : r.Coherent)
    (decided : depositTransitionDecision (r.transitionInput event reserved) =
      .apply effects) : ∃ next fee, Applied r event next fee := by
  have guard := (decision_applied decided).2.1
  have table := (decision_applied decided).2.2.1
  suffices fields : ∃ next fee, r.transitionFields event = .ok (next, fee) by
    obtain ⟨next, fee, fields⟩ := fields
    exact ⟨next, fee, transitionFields_applied fields guard⟩
  simp only [transitionInput] at table
  cases phase : r.state <;> cases event <;>
    simp [phase, depositTransition, DepositState.code, code] at table <;>
    try simp [transitionFields, phase]
  case authorizationPending.authorizationSigned funding signature observed =>
    -- the guard has seen an unsigned authorization, and the phase has its quote
    obtain ⟨record, found, unsigned⟩ := coherent.pending (by rw [phase]; rfl)
    obtain ⟨quote, quotes⟩ := coherent.quotes record found
    have installs := installGuard_installs guard found
    simp [found, quotes.quoted, installs, bind, Except.bind]

theorem apply_eq_error (coherent : r.Coherent) (refused : r.apply event = .error error) :
    error = .ledgerBlockConflict ∨
      error = (r.transitionGuard event).2.getD (.invalidTransition "deposit" event.name) := by
  obtain ⟨reserved, reservation, _⟩ := coherent.reserved
  cases blocks : depositLedgerBlockTransition r.state.ledgerBlocks.1 r.state.ledgerBlocks.2
      event.ledgerEvent.1 event.ledgerEvent.2 with
  | none =>
    simp [apply, blocks, bind, Except.bind] at refused
    exact .inl refused.symm
  | some expected =>
    cases decided : depositTransitionDecision (r.transitionInput event reserved) with
    | idempotent =>
      simp [apply, blocks, reservation, decided, bind, Except.bind, pure, Except.pure] at refused
    | reject =>
      simp [apply, blocks, reservation, decided, bind, Except.bind, throw, throwThe,
        MonadExceptOf.throw] at refused
      exact .inr refused.symm
    | apply effects =>
      obtain ⟨next, fee, applied⟩ := applied_of_decision coherent decided
      have fresh := (decision_applied decided).1
      rw [applied.performed coherent fresh reservation] at refused
      contradiction

def crossChecks : List String :=
  ["ledger_block_effect_mismatch", "transition_effect_mismatch", "missing_quote",
    "missing_authorization"]

theorem validate_eq_error {quote : DepositQuote} (refused : quote.validate gross = .error error) :
    error = .invalidAmount ∨ error = .arithmeticOverflow := by
  unfold DepositQuote.validate Amount.checkedAdd at refused
  split at refused
  · exact .inl (Except.error.inj refused).symm
  · cases sum : Checked.add 128 quote.netAmount quote.serviceFee with
    | none =>
      simp [sum, bind, Except.bind] at refused
      exact .inr refused.symm
    | some total =>
      simp only [sum, Checked.okOr_some, bind, Except.bind] at refused
      split at refused
      · exact .inl (Except.error.inj refused).symm
      · contradiction

theorem transitionGuard_error (refused : (r.transitionGuard event).2 = some error) :
    error ≠ .invalidTransition entity check := by
  cases event with
  | commitAuthorization quote record =>
    simp only [transitionGuard] at refused
    split at refused
    · contradiction
    · cases refused
      unfold commitGuardError
      split
      next error invalid =>
        rcases validate_eq_error invalid with rfl | rfl <;> nofun
      · split <;> nofun
  | authorizationSigned | mintReconciled | startRefund =>
    simp only [transitionGuard] at refused
    split at refused
    · contradiction
    · cases refused
      nofun
  | fundingSucceeded | fundingAmbiguous | fundingFailed | markRefundAvailable | refundSucceeded
  | refundAmbiguous => contradiction

/-- On a coherent record none of the checks fires. -/
theorem apply_ne_crossCheck (coherent : r.Coherent) (event : DepositEvent)
    (listed : check ∈ crossChecks) :
    r.apply event ≠ .error (.invalidTransition "deposit" check) := by
  intro refused
  have named : event.name ≠ check := by
    simp only [crossChecks, List.mem_cons, List.not_mem_nil, or_false] at listed
    rcases listed with rfl | rfl | rfl | rfl <;> cases event <;> simp [name]
  rcases apply_eq_error coherent refused with conflict | guarded
  · contradiction
  · cases error : (r.transitionGuard event).2 with
    | none =>
      rw [error, Option.getD_none] at guarded
      cases guarded
      exact named rfl
    | some error' =>
      rw [error, Option.getD_some] at guarded
      exact transitionGuard_error error guarded.symm

/-- `apply` as the source runs it: the record is written in place, field by field, after the
last check. -/
def applyInPlace (event : DepositEvent) : EStateM CoreError DepositRecord ApplyResult := do
  let r ← get
  let expectedLedgerBlocks ← ofExcept (Checked.okOr .ledgerBlockConflict
    (depositLedgerBlockTransition r.state.ledgerBlocks.1 r.state.ledgerBlocks.2
      event.ledgerEvent.1 event.ledgerEvent.2))
  let reservedAmount ← ofExcept r.reservedMintAmount
  match depositTransitionDecision (r.transitionInput event reservedAmount) with
  | .idempotent => return .ofIdempotent
  | .reject =>
    throw ((r.transitionGuard event).2.getD (.invalidTransition "deposit" event.name))
  | .apply effects =>
    let (next, feeDelta) ← ofExcept (r.transitionFields event)
    if next.state.ledgerBlocks ≠ expectedLedgerBlocks then
      throw (.invalidTransition "deposit" "ledger_block_effect_mismatch")
    if r.effectMismatch next feeDelta effects then
      throw (.invalidTransition "deposit" "transition_effect_mismatch")
    modify fun self => { self with state := next.state }
    modify fun self => { self with quote := next.quote }
    modify fun self => { self with mintAuthorization := next.mintAuthorization }
    modify fun self => { self with mintFinalizationEvidence := next.mintFinalizationEvidence }
    modify fun self => { self with mintExpiryEvidence := next.mintExpiryEvidence }
    return .appliedDeposit effects.accounting

theorem transitionFields_fixed (fields : r.transitionFields event = .ok (next, fee)) :
    next = { r with
      state := next.state
      quote := next.quote
      mintAuthorization := next.mintAuthorization
      mintFinalizationEvidence := next.mintFinalizationEvidence
      mintExpiryEvidence := next.mintExpiryEvidence } := by
  cases phase : r.state <;> cases event <;> simp only [transitionFields, phase] at fields <;> first
    | contradiction
    | (cases fields; rfl)
    | skip
  case authorizationPending.authorizationSigned funding signature observed =>
    obtain ⟨record, _, fields⟩ := bind_ok.mp fields
    obtain ⟨installed, _, fields⟩ := bind_ok.mp fields
    obtain ⟨quote, _, ⟨⟩⟩ := returned_ok.mp fields
    rfl

theorem run_ofExcept_bind (x : Except CoreError α)
    (rest : α → EStateM CoreError DepositRecord β) (r : DepositRecord) :
    (ofExcept x >>= rest : EStateM CoreError DepositRecord β).run r = match x with
      | .ok value => (rest value).run r | .error error => .error error r := by
  cases x <;> rfl

theorem applyInPlace_eq (r : DepositRecord) (event : DepositEvent) :
    (applyInPlace event).run r = match r.apply event with
      | .ok (next, result) => .ok result next | .error error => .error error r := by
  have begins (rest : DepositRecord → EStateM CoreError DepositRecord ApplyResult) :
      (get >>= rest).run r = (rest r).run r := rfl
  simp only [applyInPlace, begins, run_ofExcept_bind, apply]
  cases Checked.okOr CoreError.ledgerBlockConflict (depositLedgerBlockTransition
      r.state.ledgerBlocks.1 r.state.ledgerBlocks.2 event.ledgerEvent.1 event.ledgerEvent.2) with
  | error error => rfl
  | ok expected =>
    cases r.reservedMintAmount with
    | error error => rfl
    | ok reserved =>
      cases decided : depositTransitionDecision (r.transitionInput event reserved) with
      | idempotent => simp only [decided, ok_bind]; rfl
      | reject => simp only [decided, ok_bind]; rfl
      | apply effects =>
        simp only [decided, ok_bind, run_ofExcept_bind]
        cases fields : r.transitionFields event with
        | error error => rfl
        | ok moved =>
          obtain ⟨next, fee⟩ := moved
          simp only [ok_bind]
          split
          · rfl
          split
          · rfl
          · rw [transitionFields_fixed fields]
            rfl

end DepositRecord

end KinicBridge
