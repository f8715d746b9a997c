import KinicBridge.Core.DepositChecks
import KinicBridge.Settlement.Store

/-! The store recomputes the effects of a deposit's transition from the records before and after
it. On records reached from an accepted request it comes to what the machine reported. -/
namespace KinicBridge

open DepositEvent DepositRecord Kernel SettlementStore

attribute [ext] DepositAccountingEffects

namespace DepositRecord

variable {r next : DepositRecord} {event : DepositEvent}

theorem Applied.derived
    (applied : Applied r event next fee) : derivedFeeDelta r next = .ok fee := by
  cases applied with
  | installed phase guard authorization installs quoted =>
    simp [derivedFeeDelta, phase, DepositState.code, quoted]
  | _ => simp [derivedFeeDelta, unquoted, DepositState.code]

theorem Applied.completes_mint (applied : Applied r event next fee) :
    mintCompleted r next = ((r.state.code == 3 || r.state.code == 4) && event.code == 6) := by
  cases applied with
  | mintRecorded phase =>
    rcases phase with phase | ⟨_, phase⟩ <;> simp [mintCompleted, phase, DepositState.code, code]
  | _ => simp [mintCompleted, unquoted, DepositState.code, code]

theorem Applied.completes_refund (applied : Applied r event next fee) :
    refundCompleted r next = (r.state.code == 6 && event.code == 8) := by
  cases applied with
  | refundPaid phase => simp [refundCompleted, phase, DepositState.code, code]
  | _ => simp [refundCompleted, unquoted, DepositState.code, code]

theorem Coherent.remaining (coherent : r.Coherent) :
    liftCore (Amount.checkedSub r.grossAmount r.chargedServiceFee) =
      .ok (if r.signed then r.netAmount else r.grossAmount) := by
  rw [liftCore_ok, Amount.checkedSub_ok]
  by_cases isSigned : r.signed = true
  · obtain ⟨quote, quoted, _, charged, split⟩ := coherent.signed_quote isSigned
    simp only [isSigned, if_true, netAmount, quoted, Option.map_some, Option.getD_some, charged]
    omega
  · simp [isSigned, chargedServiceFee]

/-- A completed mint or refund takes off what the fee has left of the gross amount, and it is
what the machine reported. -/
theorem Applied.terminal (coherent : r.Coherent)
    (applied : Applied r event next fee) (reserved : Nat) : expectedTerminalDebit r next fee =
      .ok (r.kernelEffects event reserved).pendingLiabilityDebit := by
  have remains := coherent.remaining
  unfold expectedTerminalDebit
  rw [applied.completes_mint, applied.completes_refund]
  cases applied with
  | installed phase guard authorization installs quoted =>
    simp [phase, DepositState.code, code, kernelEffects, depositNumericEffects,
      depositChargeServiceFee, transitionInput, quoted]
  | mintRecorded phase guard =>
    have isSigned := mintGuard_signed guard
    obtain ⟨quote, quoted, positive, _⟩ := coherent.signed_quote isSigned
    change (if _ then liftCore (Amount.checkedSub r.grossAmount r.chargedServiceFee) else _) = _
    rw [remains]
    rcases phase with phase | ⟨_, phase⟩ <;>
      simp [phase, DepositState.code, code, kernelEffects, netAmount,
        depositNumericEffects, transitionInput, quoted, positive, isSigned,
        depositChargeServiceFee]
  | refundPaid phase =>
    change (if _ then liftCore (Amount.checkedSub r.grossAmount r.chargedServiceFee) else _) = _
    rw [remains]
    cases isSigned : r.signed with
    | false =>
      simp [phase, DepositState.code, code, kernelEffects,
        depositNumericEffects, transitionInput, isSigned, depositChargeServiceFee]
    | true =>
      obtain ⟨quote, quoted, positive, _⟩ := coherent.signed_quote isSigned
      simp [phase, DepositState.code, code, kernelEffects, netAmount,
        depositNumericEffects, transitionInput, quoted, positive, isSigned,
        depositChargeServiceFee]
  | _ =>
    simp [code, kernelEffects, depositNumericEffects, depositChargeServiceFee]

theorem Coherent.reserved_eq (coherent : r.Coherent)
    (reservation : r.reservedMintAmount = .ok amount) :
    amount = (if depositReservationActive r.state.code then r.netAmount else 0) ∧
      (amount = 0 ↔ depositReservationActive r.state.code = false) := by
  obtain ⟨_, known, held, idle⟩ := coherent.reserved
  cases reservation.symm.trans known
  cases active : depositReservationActive r.state.code with
  | false => simp [idle active]
  | true => simp [← (held active).1, (held active).2]

theorem Applied.minted_net
    (applied : Applied r event next fee) (mints : event.code = 6) (reserved : Nat) :
    (r.transitionInput event reserved).netAmount = next.netAmount := by
  cases applied with
  | mintRecorded => simp [transitionInput, netAmount, code]
  | _ => simp [code] at mints

section

variable (coherent : r.Coherent)
  (applied : Applied r event next fee)
  (reservation : r.reservedMintAmount = .ok reserved)

include coherent applied reservation

/-- The effects the machine reports are those the store expects of the two records. -/
theorem Applied.expected (reservation' : next.reservedMintAmount = .ok reserved') :
    r.kernelEffects event reserved = expectedEffects r next reserved reserved' fee
      (r.kernelEffects event reserved).pendingLiabilityDebit := by
  obtain ⟨after, add, release⟩ := applied.reservation coherent reservation
  obtain ⟨_, free⟩ := coherent.reserved_eq reservation
  obtain ⟨amount', free'⟩ := (applied.coherent coherent).reserved_eq reservation'
  have credit := applied.fee_eq reserved
  have mints := applied.completes_mint
  have refunds := applied.completes_refund
  ext
  · rw [after, ← amount']
    rfl
  · rw [add]
    simp only [expectedEffects, free, amount']
    cases depositReservationActive r.state.code <;> simp
  · rw [release]
    simp only [expectedEffects, free']
    cases was : depositReservationActive r.state.code with
    | false => simp [free.mpr was]
    | true => cases depositReservationActive next.state.code <;> simp
  · exact credit.symm
  · rfl
  · simp only [expectedEffects, refunds, kernelEffects, depositNumericEffects,
      depositChargeServiceFee]
    by_cases refunded : r.state.code = 6 ∧ event.code = 8 <;> simp [refunded]
  · simp only [expectedEffects, mints, kernelEffects, depositNumericEffects]
    by_cases minted : event.code = 6
    · rw [applied.minted_net minted reserved]
      rfl
    · simp [minted]

theorem Applied.checked :
    checkedFeeCredit r next fee (.appliedDeposit (r.kernelEffects event reserved)) = .ok fee := by
  obtain ⟨reserved', reservation', _⟩ := (applied.coherent coherent).reserved
  have expected := applied.expected coherent reservation reservation'
  have credit : (r.kernelEffects event reserved).feeCredit = fee := (applied.fee_eq reserved).symm
  unfold checkedFeeCredit
  rw [applied.terminal coherent reserved, liftCore_ok.mpr reservation,
    liftCore_ok.mpr reservation']
  simp [ApplyResult.appliedDeposit, ok_bind, ← expected, credit, pure, Except.pure]

end

end DepositRecord

namespace DepositRun

/-- Whatever has happened to a deposit, an event that `apply` refuses leaves the record as it
was, none of the checks it makes of itself fires, and what it applies passes the store's own
computation of the effects. -/
theorem deposit_step_checked (run : DepositRun) (n : Nat) (event : DepositEvent) :
    (∀ error r, (applyInPlace event).run (run.record n) = .error error r →
      r = run.record n ∧
      ∀ check ∈ crossChecks, error ≠ .invalidTransition "deposit" check) ∧
    ∀ result next, (applyInPlace event).run (run.record n) = .ok result next →
      result.outcome = .applied →
      ∃ fee, derivedFeeDelta (run.record n) next = .ok fee ∧
        creditedFee (run.record n) next fee (some result) = .ok fee := by
  have coherent := (run.booked n).coherent
  rw [applyInPlace_eq]
  constructor
  · intro error r refused
    cases stepped : (run.record n).apply event with
    | ok moved => simp [stepped] at refused
    | error error' =>
      simp only [stepped, EStateM.Result.error.injEq] at refused
      obtain ⟨rfl, rfl⟩ := refused
      refine ⟨rfl, fun check listed same => ?_⟩
      rw [same] at stepped
      exact apply_ne_crossCheck coherent event listed stepped
  · intro result next accepted applies
    cases stepped : (run.record n).apply event with
    | error error => simp [stepped] at accepted
    | ok moved =>
      obtain ⟨next', result'⟩ := moved
      simp only [stepped, EStateM.Result.ok.injEq] at accepted
      obtain ⟨rfl, rfl⟩ := accepted
      rcases apply_ok stepped with ⟨_, rfl, _⟩ | ⟨fee, reserved, effects, applied,
        _, reservation, rfl, decided, _⟩
      · contradiction
      · refine ⟨fee, applied.derived, ?_⟩
        rw [applied_effects decided]
        exact applied.checked coherent reservation

end DepositRun

end KinicBridge
