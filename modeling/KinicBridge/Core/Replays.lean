import KinicBridge.Core.LedgerEvidence
import KinicBridge.Core.WithdrawalHolds

/-! Replays. An input that was applied is recognised when it comes again at once, and however late
it comes again it moves no amount. -/
namespace KinicBridge

open DepositRecord DepositState Kernel

namespace DepositRecord

variable {r : DepositRecord}

section

variable {event : DepositEvent} {next : DepositRecord}

theorem apply_idempotent (same : r.isIdempotent event = true)
    (blocks : depositLedgerBlockTransition r.state.ledgerBlocks.1 r.state.ledgerBlocks.2
      event.ledgerEvent.1 event.ledgerEvent.2 = some expected)
    (reserved : r.reservedMintAmount = .ok amount) : r.apply event = .ok (r, .ofIdempotent) := by
  have decided : depositTransitionDecision (r.transitionInput event amount) = .idempotent := by
    simp [depositTransitionDecision, transitionInput, same]
  simp only [apply, blocks, reserved, Checked.okOr_some, ok_bind, decided]
  rfl

theorem reservedMintAmount_ok (quoted : r.state.code = 2 ∨ r.state.code = 3 →
    r.quote.isSome = true) : ∃ amount, r.reservedMintAmount = .ok amount := by
  unfold reservedMintAmount
  split
  · exact ⟨0, rfl⟩
  next active =>
    have phase : r.state.code = 2 ∨ r.state.code = 3 := by
      simpa [reservesMintResources, depositReservationActive, or_iff_not_imp_left] using active
    obtain ⟨quote, found⟩ := Option.isSome_iff_exists.mp (quoted phase)
    exact ⟨quote.netAmount, by simp [found]⟩

theorem Applied.replays (applied : Applied r event next fee) :
    next.isIdempotent event = true ∧ (next.state.code = 2 ∨ next.state.code = 3 →
      next.quote.isSome = true) ∧ ∃ expected,
      depositLedgerBlockTransition next.state.ledgerBlocks.1 next.state.ledgerBlocks.2
        event.ledgerEvent.1 event.ledgerEvent.2 = some expected := by
  cases applied with
  | installed phase guard authorization installs quoted =>
    obtain ⟨_, _, rfl⟩ := MintAuthorizationRecord.install_eq_some installs
    simp [isIdempotent, quoted, DepositEvent.ledgerEvent, depositLedgerBlockTransition]
  | _ =>
    simp [isIdempotent, unquoted, ledgerBlocks, code,
      DepositEvent.ledgerEvent, depositLedgerBlockTransition]

theorem apply_twice
    (accepted : r.apply event = .ok (next, result)) (applied : result.outcome = .applied) :
    next.apply event = .ok (next, .ofIdempotent) := by
  rcases apply_ok accepted with ⟨_, rfl, _⟩ | ⟨fee, _, _, moved, _⟩
  · cases applied
  · obtain ⟨same, quoted, expected, blocks⟩ := moved.replays
    obtain ⟨amount, reserved⟩ := reservedMintAmount_ok quoted
    exact apply_idempotent same blocks reserved

end

end DepositRecord

namespace ReconciliationHoldRecord

@[simp] theorem resolveSucceeded_again (id block : Nat) (request : RequestReference)
    (transfer : LedgerTransferIdentity) :
    (ReconciliationHoldRecord.mk id request transfer (.resolvedSucceeded block)).resolveSucceeded
      block = .ok (⟨id, request, transfer, .resolvedSucceeded block⟩, .idempotent) := by
  simp [resolveSucceeded, close]

@[simp] theorem resolveAbsent_again (id watermark : Nat) (request : RequestReference)
    (transfer : LedgerTransferIdentity) :
    (ReconciliationHoldRecord.mk id request transfer (.resolvedAbsent watermark)).resolveAbsent
      watermark = .ok (⟨id, request, transfer, .resolvedAbsent watermark⟩, .idempotent) := by
  simp [resolveAbsent, close]

end ReconciliationHoldRecord

variable {hold : ReconciliationHoldRecord}

theorem resolveDepositHold_idempotent {deposit : DepositRecord}
    (stepped : depositHoldStep deposit hold resolution =
      .ok ((hold, .idempotent), deposit.state, .idempotent)) :
    resolveDepositHold deposit hold resolution = .ok (deposit, hold, .ofIdempotent) := by
  simp only [resolveDepositHold, stepped, ok_bind]
  rfl

theorem resolveDepositHold_twice {deposit deposit' : DepositRecord}
    {hold hold' : ReconciliationHoldRecord}
    (accepted : resolveDepositHold deposit hold resolution = .ok (deposit', hold', result))
    (applied : result.outcome = .applied) :
    resolveDepositHold deposit' hold' resolution = .ok (deposit', hold', .ofIdempotent) := by
  rcases resolveDepositHold_ok accepted with
    ⟨_, _, rfl⟩ | ⟨answer, state, resolved, _, rfl, rfl, _⟩
  · cases applied
  apply resolveDepositHold_idempotent
  cases resolved with
  | fundingFound phase request transfer =>
    simp [depositHoldStep, request, transfer, ledgerBlocks,
      depositLedgerBlockTransition, fundingFoundMove, ok_bind,
      pure, Except.pure]
  | fundingAbsent phase request transfer =>
    simp [depositHoldStep, request, transfer, fundingAbsentMove, ok_bind, pure, Except.pure]
  | refundFound phase request transfer =>
    simp [depositHoldStep, request, transfer, heldRefundBlocks,
      depositLedgerBlockTransition, refundFoundMove, ok_bind,
      pure, Except.pure]
  | refundAbsent phase request transfer retry =>
    have next := (TransferAttempt.retry_ok retry).1
    simp [depositHoldStep, request, refundAbsentMove, next, ok_bind, pure, Except.pure]

namespace WithdrawalRecord

theorem apply_twice {r next : WithdrawalRecord} {event : WithdrawalEvent}
    (accepted : r.apply event = .ok (next, result)) (applied : result.outcome = .applied) :
    next.apply event = .ok (next, .ofIdempotent) := by
  rcases apply_ok accepted with ⟨_, rfl, _⟩ | ⟨state, fee, moved, rfl, _⟩
  · cases applied
  · cases moved <;>
      simp [apply, isIdempotent, ledgerEvent, releaseBlock,
        withdrawalLedgerBlockTransition, ok_bind, pure, Except.pure]

end WithdrawalRecord

theorem resolveWithdrawalHold_idempotent {withdrawal : WithdrawalRecord} (request : hold.request = .withdrawal withdrawal.id)
    (held : withdrawal.heldAttempt hold = .ok attempt)
    (bound : hold.transfer = attempt.identity ∨ attempt.attemptNo ≠ 0)
    (stepped : withdrawalHoldStep withdrawal hold resolution =
      .ok ((hold, .idempotent), withdrawal.state, .idempotent, 0)) :
    resolveWithdrawalHold withdrawal hold resolution = .ok (withdrawal, hold, .ofIdempotent) := by
  have own : ¬(hold.transfer ≠ attempt.identity ∧ attempt.attemptNo = 0) := by tauto
  simp only [resolveWithdrawalHold, request, held, stepped, own, ne_eq, not_true_eq_false,
    if_false, ok_bind]
  rfl

theorem resolveWithdrawalHold_twice {withdrawal withdrawal' : WithdrawalRecord}
    {hold hold' : ReconciliationHoldRecord}
    (accepted : resolveWithdrawalHold withdrawal hold resolution =
      .ok (withdrawal', hold', result)) (applied : result.outcome = .applied) :
    resolveWithdrawalHold withdrawal' hold' resolution =
      .ok (withdrawal', hold', .ofIdempotent) := by
  obtain ⟨request, ⟨_, _, rfl⟩ | ⟨answer, state, fee, resolved, isOpen, rfl, rfl, _⟩⟩ :=
    resolveWithdrawalHold_ok accepted
  · cases applied
  cases resolved with
  | @releaseFound attempt settlement block phase settled =>
    have bound := ((held_applied_iff request isOpen phase).mp
      (isApplied_iff.mpr ⟨_, _, _, accepted, applied⟩)).1
    refine resolveWithdrawalHold_idempotent request ?held bound ?stepped
    case held => simp [WithdrawalRecord.heldAttempt]
    case stepped =>
      simp [withdrawalHoldStep, WithdrawalRecord.releaseBlock,
        withdrawalLedgerBlockTransition, WithdrawalRecord.releaseFoundMove,
        ok_bind, pure, Except.pure]
  | @releaseAbsent attempt settlement identity nextAttempt watermark phase retry =>
    obtain ⟨next, number, _⟩ := TransferAttempt.retry_ok retry
    have later : 0 < nextAttempt.attemptNo := by omega
    refine resolveWithdrawalHold_idempotent request ?held (.inr (Nat.ne_of_gt later)) ?stepped
    case held => simp [WithdrawalRecord.heldAttempt, later]
    case stepped =>
      simp [withdrawalHoldStep, WithdrawalRecord.releaseAbsentMove, next, ok_bind,
        pure, Except.pure]

/-- The same event again, or the same answer for whatever hold is stored by then. -/
inductive DepositOperation.Redelivers : DepositOperation → DepositOperation → Prop where
  | event : Redelivers (.apply event) (.apply event)
  | answer : Redelivers (.resolveHold first resolution) (.resolveHold stored resolution)

def DepositOperation.Spent (r : DepositRecord) : DepositOperation → Prop
  | .apply (.authorizationSigned ..) => r.signed = true
  | .apply (.mintReconciled _) => r.isMinted = true
  | .apply (.refundSucceeded _) | .resolveHold _ (.refundSucceeded _) =>
    (r.evidence .refund).isSome = true
  | _ => True

namespace DepositRecord

structure Harmless (r : DepositRecord) (operation : DepositOperation) : Prop where
  fee : ∀ result, r.report operation = some result → result.feeDelta = 0
  effects : Quiet (r.reportedEffects operation)
  mint : (r.perform operation).isMinted = r.isMinted
  refund : (r.perform operation).evidence .refund = r.evidence .refund

variable {r : DepositRecord}

section

theorem harmless_of_refused (silent : r.report operation = none)
    (same : r.perform operation = r) : r.Harmless operation where
  fee result reported := by cases silent.symm.trans reported
  effects := by simpa [reportedEffects, silent] using quiet_zero
  mint := by rw [same]
  refund := by rw [same]

variable {next : DepositRecord} {result : ApplyResult} {event : DepositEvent}
  {operation : DepositOperation}

theorem harmless_of_result
    (reported : r.report operation = some result) (free : result.feeDelta = 0)
    (quiet : Quiet result.effects) (mint : (r.perform operation).isMinted = r.isMinted)
    (refund : (r.perform operation).evidence .refund = r.evidence .refund) :
    r.Harmless operation where
  fee other again := by
    cases reported.symm.trans again
    exact free
  effects := by simpa [reportedEffects, reported] using quiet
  mint := mint
  refund := refund

theorem Applied.harmless
    (applied : Applied r event next fee) (signature : event.code ≠ 5) (mint : event.code ≠ 6)
    (refund : event.code ≠ 8) :
    next.isMinted = r.isMinted ∧ next.evidence .refund = r.evidence .refund := by
  cases applied with
  | installed => exact absurd rfl signature
  | mintRecorded => exact absurd rfl mint
  | refundPaid => exact absurd rfl refund
  | refundOffered phase =>
    rcases phase with phase | phase | phase <;> simp [isMinted, evidence, phase, code, ledgerBlocks]
  | funded phase | fundingHeld phase | fundingCancelled phase | committed phase
  | refundStarted phase | refundHeld phase =>
    simp [isMinted, evidence, unquoted, phase, code, ledgerBlocks]

theorem apply_harmless (unmoved : ∀ next fee, Applied r event next fee →
      event.code ≠ 5 ∧ event.code ≠ 6 ∧ event.code ≠ 8) : r.Harmless (.apply event) := by
  cases accepted : r.apply event with
  | error error =>
    exact harmless_of_refused (by simp [report, accepted, Except.toOption])
      (by simp [perform, accepted])
  | ok outcome =>
    obtain ⟨next, result⟩ := outcome
    have reported : r.report (.apply event) = some result := by
      simp [report, accepted, Except.toOption]
    have performed : r.perform (.apply event) = next := by simp [perform, accepted]
    rcases apply_ok accepted with
      ⟨rfl, rfl, _⟩ | ⟨fee, reserved, effects, applied, _, _, rfl, decided, _⟩
    · exact harmless_of_result reported rfl quiet_zero (by rw [performed]) (by rw [performed])
    · obtain ⟨signature, mint, refund⟩ := unmoved next fee applied
      obtain ⟨_, _, _, accounting⟩ := decision_applied decided
      have quiet : Quiet effects.accounting := by
        rw [accounting]
        exact numericEffects_quiet (fun both => signature both.2) (fun both => mint both.2)
          (fun both => refund both.2)
      obtain ⟨sameMint, sameRefund⟩ := applied.harmless signature mint refund
      exact harmless_of_result reported quiet.1 quiet (by rw [performed, sameMint])
        (by rw [performed, sameRefund])

theorem resolve_harmless
    (unpaid : ∀ block, resolution = .refundSucceeded block → r.state.code ≠ 7) :
    r.Harmless (.resolveHold hold resolution) := by
  cases accepted : resolveDepositHold r hold resolution with
  | error error =>
    exact harmless_of_refused (by simp [report, accepted, Except.toOption])
      (by simp [perform, accepted])
  | ok outcome =>
    obtain ⟨next, hold', result⟩ := outcome
    have reported : r.report (.resolveHold hold resolution) = some result := by
      simp [report, accepted, Except.toOption]
    have performed : r.perform (.resolveHold hold resolution) = next := by
      simp [perform, accepted]
    rcases resolveDepositHold_ok accepted with
      ⟨rfl, _, rfl⟩ | ⟨answer, state, resolved, _, _, rfl, rfl⟩
    · exact harmless_of_result reported rfl quiet_zero (by rw [performed]) (by rw [performed])
    · have same : ({ r with state } : DepositRecord).isMinted = r.isMinted ∧
          ({ r with state } : DepositRecord).evidence .refund = r.evidence .refund := by
        cases resolved with
        | refundFound phase => exact absurd (by simp [phase, code]) (unpaid _ rfl)
        | fundingFound phase | fundingAbsent phase | refundAbsent phase =>
          simp [isMinted, evidence, phase, code, ledgerBlocks]
      exact harmless_of_result reported rfl quiet_zero (by rw [performed, same.1])
        (by rw [performed, same.2])

theorem Moves.spent
    (moves : Moves r other next) (coherent : r.Coherent) (spent : operation.Spent r) :
    operation.Spent next := by
  have refunded (recorded : (r.evidence .refund).isSome = true) :
      (next.evidence .refund).isSome = true := by
    obtain ⟨block, found⟩ := Option.isSome_iff_exists.mp recorded
    rw [moves.evidence found, Option.isSome_some]
  have minted (before : r.isMinted = true) : next.isMinted = true := by
    have code : r.state.code = 10 := by simpa [isMinted] using before
    cases moves with
    | same | dispatched => exact before
    | applied applied => exact absurd (code ▸ applied.transition) transition_from_minted
    | resolved resolved =>
      have := resolved.transition
      omega
  unfold DepositOperation.Spent at spent ⊢
  split <;> simp only at spent
  · exact moves.signed coherent spent
  · exact minted spent
  · exact refunded spent
  · exact refunded spent
  · trivial

theorem spent_of_applied
    (reported : r.report operation = some result) (applied : result.outcome = .applied) :
    operation.Spent (r.perform operation) := by
  cases operation with
  | dispatchSignature => trivial
  | apply event =>
    cases accepted : r.apply event with
    | error error => simp [report, accepted, Except.toOption] at reported
    | ok outcome =>
      obtain ⟨next, found⟩ := outcome
      have same : found = result := by simpa [report, accepted, Except.toOption] using reported
      have performed : r.perform (.apply event) = next := by simp [perform, accepted]
      rw [performed]
      rcases apply_ok accepted with ⟨_, idle, _⟩ | ⟨fee, _, _, moved, _⟩
      · rw [← same, idle] at applied
        cases applied
      · cases moved with
        | installed phase guard authorization installs =>
          obtain ⟨_, _, rfl⟩ := MintAuthorizationRecord.install_eq_some installs
          rfl
        | mintRecorded | refundPaid => rfl
        | _ => trivial
  | resolveHold hold resolution =>
    cases accepted : resolveDepositHold r hold resolution with
    | error error => simp [report, accepted, Except.toOption] at reported
    | ok outcome =>
      obtain ⟨next, hold', found⟩ := outcome
      have same : found = result := by simpa [report, accepted, Except.toOption] using reported
      have performed : r.perform (.resolveHold hold resolution) = next := by
        simp [perform, accepted]
      rw [performed]
      rcases resolveDepositHold_ok accepted with
        ⟨_, _, idle⟩ | ⟨answer, state, resolved, _, _, rfl, _⟩
      · rw [← same, idle] at applied
        cases applied
      · cases resolved with
        | refundFound => rfl
        | _ => trivial

theorem Coherent.harmless {again : DepositOperation}
    (coherent : r.Coherent) (spent : operation.Spent r) (redelivers : operation.Redelivers again) :
    r.Harmless again := by
  cases redelivers with
  | @event event =>
    refine apply_harmless fun next fee applied => ?_
    cases applied with
    | installed phase =>
      obtain ⟨record, found, unsigned⟩ := coherent.pending (by simp [phase, code])
      have isSigned : r.signed = true := spent
      simp [DepositRecord.signed, found, unsigned] at isSigned
    | mintRecorded phase =>
      rcases phase with phase | ⟨_, phase⟩ <;>
        simp [DepositOperation.Spent, isMinted, phase, code] at spent
    | refundPaid phase =>
      simp [DepositOperation.Spent, evidence, phase, ledgerBlocks] at spent
    | _ => simp [DepositEvent.code]
  | answer =>
    refine resolve_harmless fun block same held => ?_
    subst same
    cases state : r.state <;> simp [state, code] at held
    simp [DepositOperation.Spent, evidence, state, ledgerBlocks] at spent

end

end DepositRecord

theorem DepositRun.spent_stays {run : DepositRun} {operation : DepositOperation}
    (spent : operation.Spent (run.record i)) (later : i ≤ j) : operation.Spent (run.record j) := by
  have both := Runs.stateAt_keeps (P := fun r : DepositRecord => r.Coherent ∧ operation.Spent r)
    (fun r other kept => ⟨(r.perform_moves other).coherent kept.1,
      (r.perform_moves other).spent kept.1 kept.2⟩)
    ⟨(run.booked i).coherent, spent⟩ later
  exact both.2

inductive WithdrawalOperation.Redelivers : WithdrawalOperation → WithdrawalOperation → Prop where
  | event : Redelivers (.apply event) (.apply event)
  | answer : Redelivers (.resolveHold first resolution) (.resolveHold stored resolution)

namespace WithdrawalRecord

structure Harmless (r : WithdrawalRecord) (operation : WithdrawalOperation) : Prop where
  fee : credit (r.report operation) = 0
  release : (r.perform operation).evidence = r.evidence

theorem Reports.unpaid {r next : WithdrawalRecord} (reports : Reports r operation reported next)
    (blockless : operation.evidence = none) : credit reported = 0 ∧ next.evidence = r.evidence := by
  cases reports with
  | refused | replayed => exact ⟨rfl, rfl⟩
  | applied applied =>
    cases applied with
    | released => cases blockless
    | started phase | held phase =>
      simp [credit, ApplyResult.ofApplied, WithdrawalRecord.evidence, releaseBlock, phase]
  | resolved resolved =>
    cases resolved with
    | releaseFound => cases blockless
    | releaseAbsent phase =>
      simp [credit, ApplyResult.ofApplied, WithdrawalRecord.evidence, releaseBlock, phase]

theorem Reports.pays_block {r next : WithdrawalRecord}
    (reports : Reports r operation (some result) next) (applied : result.outcome = .applied)
    (brings : operation.evidence = some block) : next.state.isPaid = true := by
  cases reports with
  | replayed => cases applied
  | applied moved =>
    cases moved with
    | released => rfl
    | started | held => cases brings
  | resolved moved =>
    cases moved with
    | releaseFound => rfl
    | releaseAbsent => cases brings

theorem harmless_of_paid {r : WithdrawalRecord} (operation : WithdrawalOperation)
    (paid : r.state.isPaid = true) : r.Harmless operation := by
  have reports := r.perform_reports operation
  refine ⟨reports.quiet fun both => ?_, by rw [reports.paid paid]⟩
  rw [paid] at both
  cases both.1

end WithdrawalRecord

theorem WithdrawalRun.redelivered {run : WithdrawalRun} {operation again : WithdrawalOperation}
    (input : run.operations[i]? = some operation)
    (reported : (run.record i).report operation = some result)
    (applied : result.outcome = .applied) (redelivers : operation.Redelivers again)
    (later : i < j) : (run.record j).Harmless again := by
  have same : again.evidence = operation.evidence := by
    cases redelivers with
    | event => rfl
    | @answer _ resolution => cases resolution <;> rfl
  cases brings : operation.evidence with
  | none =>
    obtain ⟨fee, release⟩ :=
      ((run.record j).perform_reports again).unpaid (same.trans brings)
    exact ⟨fee, release⟩
  | some block =>
    have reports := (run.record i).perform_reports operation
    rw [reported] at reports
    have paid : run.paidAt (i + 1) = true := by
      rw [WithdrawalRun.paidAt, WithdrawalRun.record, Runs.stateAt_succ input]
      exact reports.pays_block applied brings
    refine WithdrawalRecord.harmless_of_paid again ?_
    rw [run.paid_stays later paid]
    exact paid

theorem DepositRun.redelivered {run : DepositRun} {operation again : DepositOperation}
    (input : run.operations[i]? = some operation)
    (reported : (run.record i).report operation = some result)
    (applied : result.outcome = .applied) (redelivers : operation.Redelivers again)
    (later : i < j) : (run.record j).Harmless again := by
  have spent : operation.Spent (run.record (i + 1)) := by
    rw [DepositRun.record, Runs.stateAt_succ input]
    exact spent_of_applied reported applied
  exact (run.booked j).coherent.harmless (run.spent_stays spent later) redelivers

/-- Whatever was applied is a replay when it comes again at once, for the record and for the
hold, and harmless when it comes again at any later point of any run. -/
theorem replays_are_safe :
    (∀ (r next : DepositRecord) (event : DepositEvent) (result : ApplyResult),
      r.apply event = .ok (next, result) → result.outcome = .applied →
      next.apply event = .ok (next, .ofIdempotent)) ∧
    (∀ (r next : DepositRecord) (hold closed : ReconciliationHoldRecord)
      (resolution : DepositHoldResolution) (result : ApplyResult),
      resolveDepositHold r hold resolution = .ok (next, closed, result) →
      result.outcome = .applied →
      resolveDepositHold next closed resolution = .ok (next, closed, .ofIdempotent)) ∧
    (∀ (r next : WithdrawalRecord) (event : WithdrawalEvent) (result : ApplyResult),
      r.apply event = .ok (next, result) → result.outcome = .applied →
      next.apply event = .ok (next, .ofIdempotent)) ∧
    (∀ (r next : WithdrawalRecord) (hold closed : ReconciliationHoldRecord)
      (resolution : WithdrawalHoldResolution) (result : ApplyResult),
      resolveWithdrawalHold r hold resolution = .ok (next, closed, result) →
      result.outcome = .applied →
      resolveWithdrawalHold next closed resolution = .ok (next, closed, .ofIdempotent)) ∧
    (∀ (run : DepositRun) (i j : Nat) (operation again : DepositOperation) (result : ApplyResult),
      run.operations[i]? = some operation → (run.record i).report operation = some result →
      result.outcome = .applied → operation.Redelivers again → i < j →
      (run.record j).Harmless again) ∧
    ∀ (run : WithdrawalRun) (i j : Nat) (operation again : WithdrawalOperation)
      (result : ApplyResult),
      run.operations[i]? = some operation → (run.record i).report operation = some result →
      result.outcome = .applied → operation.Redelivers again → i < j →
      (run.record j).Harmless again := by
  refine ⟨?_, ?_, ?_, ?_, ?_, ?_⟩
  · exact fun r next event result => DepositRecord.apply_twice
  · exact fun r next hold closed resolution result => resolveDepositHold_twice
  · exact fun r next event result => WithdrawalRecord.apply_twice
  · exact fun r next hold closed resolution result => resolveWithdrawalHold_twice
  · exact fun run i j operation again result => DepositRun.redelivered
  · exact fun run i j operation again result => WithdrawalRun.redelivered

/-- The ambiguous answer of a refund that was then found comes once more and changes nothing. -/
theorem replays_are_safe_sample :
    (DepositRun.heldRefundRun.record 5).Harmless (.apply (.refundAmbiguous 7)) :=
  replays_are_safe.2.2.2.2.1 DepositRun.heldRefundRun 3 5 _ _
    (.appliedDeposit ((DepositRun.heldRefundRun.record 3).reportedEffects
      (.apply (.refundAmbiguous 7)))) rfl (by decide) rfl .event (by decide)

end KinicBridge
