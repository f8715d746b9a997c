import KinicBridge.Core.Reconciliation

/-! Which transfer a withdrawal hold may resolve. The source compares the hold's transfer with
the held attempt on the first attempt only, so a hold of another transfer resolves a later one. -/
namespace KinicBridge

open ApplyResult Kernel ReconciliationHoldRecord WithdrawalHoldResolution WithdrawalRecord

/-- The pair of records a resolution is called with, and the result it returns. The source
works on copies and stores them back at the very end, so an error keeps both. -/
def settleWithdrawalHold (withdrawal : WithdrawalRecord) (hold : ReconciliationHoldRecord)
    (resolution : WithdrawalHoldResolution) :
    (WithdrawalRecord × ReconciliationHoldRecord) × Except CoreError ApplyResult :=
  match resolveWithdrawalHold withdrawal hold resolution with
  | .ok (withdrawal', hold', result) => ((withdrawal', hold'), .ok result)
  | .error error => ((withdrawal, hold), .error error)

def ApplyResult.isApplied (result : Except CoreError ApplyResult) : Bool :=
  result.toOption.any (·.outcome == .applied)

/-- A resolution that applies belongs to the held transfer, and it moves the withdrawal and
closes the hold in one go, once. -/
structure ResolvesOwnTransfer (withdrawal : WithdrawalRecord) (hold : ReconciliationHoldRecord)
    (resolution : WithdrawalHoldResolution) : Prop where
  own : isApplied (settleWithdrawalHold withdrawal hold resolution).2 = true →
    ∃ attempt settlement, withdrawal.state = .reconciliationHold hold.id attempt settlement ∧
      hold.state = .open_ ∧ hold.transfer = attempt.identity
  together : isApplied (settleWithdrawalHold withdrawal hold resolution).2 = true →
    (settleWithdrawalHold withdrawal hold resolution).1.1 ≠ withdrawal ∧
      (settleWithdrawalHold withdrawal hold resolution).1.2 ≠ hold
  unchanged : isApplied (settleWithdrawalHold withdrawal hold resolution).2 = false →
    (settleWithdrawalHold withdrawal hold resolution).1 = (withdrawal, hold)
  once : isApplied (settleWithdrawalHold withdrawal hold resolution).2 = true →
    ∀ later resolution', isApplied (settleWithdrawalHold later
      (settleWithdrawalHold withdrawal hold resolution).1.2 resolution').2 = false

/-- The resolution itself can be carried out: the settlement's fees balance and its sums fit,
or the retry identity is a valid one. -/
def WithdrawalHoldResolution.feasible (attempt : TransferAttempt) (settlement : Settlement) :
    WithdrawalHoldResolution → Bool
  | .succeeded _ =>
    (settlementDecision settlement.amountOut settlement.ledgerFee
      settlement.serviceFee).isSome &&
    (Amount.checkedAdd settlement.amountOut settlement.ledgerFee).isOk &&
    (Amount.checkedAdd settlement.amountOut settlement.serviceFee).isOk
  | .absent _ identity => (attempt.retryAfterAbsence identity).isOk

/-- An open hold of the withdrawal whose transfer is not the one the withdrawal waits for: the
withdrawal is held under its id on a later attempt with another identity. -/
def ForeignHold (withdrawal : WithdrawalRecord) (hold : ReconciliationHoldRecord)
    (resolution : WithdrawalHoldResolution) : Prop :=
  hold.request = .withdrawal withdrawal.id ∧ hold.state = .open_ ∧
    ∃ attempt settlement, withdrawal.state = .reconciliationHold hold.id attempt settlement ∧
      attempt.attemptNo ≠ 0 ∧ hold.transfer ≠ attempt.identity ∧
      resolution.feasible attempt settlement = true

variable {withdrawal : WithdrawalRecord}

theorem WithdrawalHoldResolved.moves {state : WithdrawalState}
    (resolved : WithdrawalHoldResolved withdrawal hold resolution answer state fee) :
    answer ≠ .open_ ∧ state ≠ withdrawal.state ∧ ∃ attempt settlement,
      withdrawal.state = .reconciliationHold hold.id attempt settlement := by
  cases resolved with
  | releaseFound phase | releaseAbsent phase => exact ⟨nofun, by simp [phase], _, _, phase⟩

theorem releaseFoundMove_applied {hold : ReconciliationHoldRecord} {settlement : Settlement}
    (phase : withdrawal.state = .reconciliationHold holdId attempt settlement) :
    (∃ state fee, withdrawal.releaseFoundMove hold block found = .ok (state, .applied, fee)) ↔
      (succeeded block).feasible attempt settlement = true := by
  simp only [releaseFoundMove, phase, withdrawalTransitionEffects,
    withdrawalPhaseStep, feasible, Bool.and_eq_true,
    isOk_iff]
  cases decided : settlementDecision settlement.amountOut settlement.ledgerFee
      settlement.serviceFee with
  | none => simp [Checked.okOr, bind, Except.bind]
  | some decision =>
    obtain ⟨_, rfl⟩ := settlementDecision_eq_some decided
    constructor
    · rintro ⟨state, fee, moved⟩
      obtain ⟨_, _, rest⟩ := bind_ok.mp moved
      obtain ⟨escrow, fits, rest⟩ := bind_ok.mp rest
      obtain ⟨liability, fits', _⟩ := bind_ok.mp rest
      exact ⟨⟨rfl, escrow, fits⟩, liability, fits'⟩
    · rintro ⟨⟨_, escrow, fits⟩, liability, fits'⟩
      have exact := (Amount.checkedAdd_ok.mp fits).1
      have exact' := (Amount.checkedAdd_ok.mp fits').1
      simp [fits, fits', exact, exact', bind, Except.bind, pure, Except.pure]

theorem releaseAbsentMove_applied {settlement : Settlement}
    (phase : withdrawal.state = .reconciliationHold holdId attempt settlement) :
    (∃ state fee, withdrawal.releaseAbsentMove identity = .ok (state, .applied, fee)) ↔
      (absent watermark identity).feasible attempt settlement = true := by
  simp only [releaseAbsentMove, phase, withdrawalTransitionEffects,
    withdrawalPhaseStep, feasible, isOk_iff]
  cases attempt.retryAfterAbsence identity <;> simp [bind, Except.bind, pure, Except.pure]

theorem isApplied_iff {hold : ReconciliationHoldRecord} :
    isApplied (settleWithdrawalHold withdrawal hold resolution).2 = true ↔
      ∃ withdrawal' hold' result,
        resolveWithdrawalHold withdrawal hold resolution = .ok (withdrawal', hold', result) ∧
          result.outcome = .applied := by
  cases resolved : resolveWithdrawalHold withdrawal hold resolution with
  | error error => simp [settleWithdrawalHold, resolved, isApplied, Except.toOption]
  | ok outcome =>
    obtain ⟨withdrawal', hold', result⟩ := outcome
    simp [settleWithdrawalHold, resolved, isApplied, Except.toOption]

section Held

variable {withdrawal : WithdrawalRecord} {hold : ReconciliationHoldRecord}
  {resolution : WithdrawalHoldResolution} {attempt : TransferAttempt} {settlement : Settlement}

def holdMove (withdrawal : WithdrawalRecord) (hold : ReconciliationHoldRecord) :
    WithdrawalHoldResolution → Except CoreError (WithdrawalState × ApplyOutcome × Nat)
  | .succeeded block => withdrawal.releaseFoundMove hold block block
  | .absent _ identity => withdrawal.releaseAbsentMove identity

theorem holdMove_applied
    (phase : withdrawal.state = .reconciliationHold hold.id attempt settlement) :
    (∃ state fee, holdMove withdrawal hold resolution = .ok (state, .applied, fee)) ↔
      resolution.feasible attempt settlement = true := by
  cases resolution with
  | succeeded block => exact releaseFoundMove_applied phase
  | absent watermark identity => exact releaseAbsentMove_applied phase

theorem withdrawalHoldStep_open (isOpen : hold.state = .open_)
    (phase : withdrawal.state = .reconciliationHold hold.id attempt settlement) :
    ∃ closed, withdrawalHoldStep withdrawal hold resolution =
      (holdMove withdrawal hold resolution).map fun moved => ((closed, .applied), moved) := by
  cases resolution with
  | succeeded block =>
    refine ⟨{ hold with state := .resolvedSucceeded block }, ?_⟩
    cases moved : withdrawal.releaseFoundMove hold block block <;>
      simp [withdrawalHoldStep, phase, releaseBlock,
        withdrawalLedgerBlockTransition, resolveSucceeded,
        close, isOpen, holdMove, moved, bind, Except.bind, Except.map,
        pure, Except.pure]
  | absent watermark identity =>
    refine ⟨{ hold with state := .resolvedAbsent watermark }, ?_⟩
    cases moved : withdrawal.releaseAbsentMove identity <;> simp [withdrawalHoldStep, resolveAbsent,
        close, isOpen, holdMove, moved, bind, Except.bind, Except.map,
        pure, Except.pure]

theorem held_applied_iff (request : hold.request = .withdrawal withdrawal.id)
    (isOpen : hold.state = .open_)
    (phase : withdrawal.state = .reconciliationHold hold.id attempt settlement) :
    isApplied (settleWithdrawalHold withdrawal hold resolution).2 = true ↔
      (hold.transfer = attempt.identity ∨ attempt.attemptNo ≠ 0) ∧
        resolution.feasible attempt settlement = true := by
  rw [isApplied_iff, ← holdMove_applied phase]
  obtain ⟨closed, step⟩ : ∃ closed, withdrawalHoldStep withdrawal hold resolution = _ :=
    withdrawalHoldStep_open isOpen phase
  have held : withdrawal.heldAttempt hold = .ok attempt := by
    simp [heldAttempt, phase]
  by_cases foreign : hold.transfer ≠ attempt.identity ∧ attempt.attemptNo = 0
  · have refused : resolveWithdrawalHold withdrawal hold resolution = .error .holdMismatch := by
      simp [resolveWithdrawalHold, request, held, foreign, bind, Except.bind, throw, throwThe,
        MonadExceptOf.throw]
    simp [refused, foreign]
  · have own : hold.transfer = attempt.identity ∨ attempt.attemptNo ≠ 0 := by tauto
    have reduced : resolveWithdrawalHold withdrawal hold resolution = (do
        let moved ← holdMove withdrawal hold resolution
        let result ← agreeingOutcome .applied moved.2.1 moved.2.2
        return ({ withdrawal with state := moved.1 }, closed, result)) := by
      simp only [resolveWithdrawalHold, request, held, step]
      cases holdMove withdrawal hold resolution <;> simp [foreign, bind, Except.bind, Except.map]
    rw [reduced]
    simp only [own, true_and]
    constructor
    · rintro ⟨withdrawal', hold', result, resolved, applied⟩
      obtain ⟨⟨state, outcome, fee⟩, moved, rest⟩ := bind_ok.mp resolved
      obtain ⟨agreed, agreement, _⟩ := bind_ok.mp rest
      obtain ⟨same, _⟩ := guarded_ok.mp agreement
      cases not_not.mp same
      exact ⟨state, fee, moved⟩
    · rintro ⟨state, fee, moved⟩
      exact ⟨_, _, .ofApplied fee, by rw [moved]; rfl, rfl⟩

theorem applied_held
    (applied : isApplied (settleWithdrawalHold withdrawal hold resolution).2 = true) :
    hold.request = .withdrawal withdrawal.id ∧ hold.state = .open_ ∧ ∃ attempt settlement,
      withdrawal.state = .reconciliationHold hold.id attempt settlement := by
  obtain ⟨withdrawal', hold', result, resolved, applied⟩ := isApplied_iff.mp applied
  obtain ⟨request, ⟨_, _, rfl⟩ | ⟨answer, state, fee, moved, isOpen, _⟩⟩ :=
    resolveWithdrawalHold_ok resolved
  · cases applied
  · exact ⟨request, isOpen, moved.moves.2.2⟩

theorem applied_changes
    (applied : isApplied (settleWithdrawalHold withdrawal hold resolution).2 = true) :
    (settleWithdrawalHold withdrawal hold resolution).1.1 ≠ withdrawal ∧
      (settleWithdrawalHold withdrawal hold resolution).1.2.state ≠ .open_ := by
  obtain ⟨withdrawal', hold', result, resolved, applied⟩ := isApplied_iff.mp applied
  obtain ⟨_, ⟨_, _, rfl⟩ | ⟨answer, state, fee, moved, _, rfl, rfl, _⟩⟩ :=
    resolveWithdrawalHold_ok resolved
  · cases applied
  · simp only [settleWithdrawalHold, resolved]
    refine ⟨fun same => moved.moves.2.1 ?_, moved.moves.1⟩
    exact congrArg WithdrawalRecord.state same

theorem not_applied_keeps
    (replayed : isApplied (settleWithdrawalHold withdrawal hold resolution).2 = false) :
    (settleWithdrawalHold withdrawal hold resolution).1 = (withdrawal, hold) := by
  cases resolved : resolveWithdrawalHold withdrawal hold resolution with
  | error error => simp [settleWithdrawalHold, resolved]
  | ok outcome =>
    obtain ⟨withdrawal', hold', result⟩ := outcome
    obtain ⟨_, ⟨rfl, rfl, _⟩ | ⟨_, _, _, _, _, _, _, rfl⟩⟩ := resolveWithdrawalHold_ok resolved
    · simp [settleWithdrawalHold, resolved]
    · simp [settleWithdrawalHold, resolved, isApplied, ofApplied, Except.toOption] at replayed

end Held

/-- Hold resolution keeps to its own transfer except for an open hold of another transfer on a
later attempt, which it applies. -/
theorem resolves_own_transfer_iff (withdrawal : WithdrawalRecord)
    (hold : ReconciliationHoldRecord) (resolution : WithdrawalHoldResolution) :
    ResolvesOwnTransfer withdrawal hold resolution ↔ ¬ForeignHold withdrawal hold resolution := by
  constructor
  · rintro resolves ⟨request, isOpen, attempt, settlement, phase, later, foreign, feasible⟩
    have applied := (held_applied_iff request isOpen phase).mpr ⟨.inr later, feasible⟩
    obtain ⟨attempt', settlement', phase', _, own⟩ := resolves.own applied
    cases phase.symm.trans phase'
    exact foreign own
  · intro bound
    refine ⟨fun applied => ?_, fun applied => ?_, not_applied_keeps, fun applied later again => ?_⟩
    · obtain ⟨request, isOpen, attempt, settlement, phase⟩ := applied_held applied
      obtain ⟨own | later, feasible⟩ := (held_applied_iff request isOpen phase).mp applied
      · exact ⟨attempt, settlement, phase, isOpen, own⟩
      · by_cases own : hold.transfer = attempt.identity
        · exact ⟨attempt, settlement, phase, isOpen, own⟩
        · exact absurd ⟨request, isOpen, attempt, settlement, phase, later, own, feasible⟩ bound
    · obtain ⟨moved, closed⟩ := applied_changes applied
      exact ⟨moved, fun same => closed (by rw [same, (applied_held applied).2.1])⟩
    · exact Bool.eq_false_iff.mpr fun twice =>
        (applied_changes applied).2 (applied_held twice).2.1

def retriedRelease (createdAtTimeNs : Nat) (memo : Bytes32) : LedgerTransferIdentity :=
  { operation := .releaseWithdrawal, createdAtTimeNs, memo, amount := 90, fee := 2
    from_ := ⟨[1], 0, owner_one_valid⟩, to_ := ⟨[2], 0, owner_two_valid⟩, spender := none }

def retriedWithdrawal : WithdrawalRecord :=
  { id := 5, baseRequester := 1, owner := [2], subaccount := 0, payloadHash := 9, amount := 100
    maxServiceFee := 10, chargedServiceFee := 10, amountOut := 90, observedAtNs := 0
    state := .reconciliationHold 7 ⟨1, retriedRelease 20 1⟩ ⟨90, 10, 2⟩ }

/-- A hold of the first attempt's transfer marks the second attempt as paid. -/
theorem foreign_hold_applies :
    let hold : ReconciliationHoldRecord := .opened 7 (.withdrawal 5) (retriedRelease 10 0)
    isApplied (settleWithdrawalHold retriedWithdrawal hold (.succeeded 3)).2 = true ∧
    (settleWithdrawalHold retriedWithdrawal hold (.succeeded 3)).1.1.state =
      .paid ⟨1, retriedRelease 20 1⟩ ⟨90, 10, 2⟩ 3 (some 7) ∧
    hold.transfer ≠ (retriedRelease 20 1) ∧
    ¬ResolvesOwnTransfer retriedWithdrawal hold (.succeeded 3) := by
  refine ⟨by decide, by decide, by decide, fun resolves => ?_⟩
  obtain ⟨attempt, settlement, phase, _, own⟩ := resolves.own (by decide)
  cases phase
  exact absurd own (by decide)

end KinicBridge
