import KinicBridge.Core.PayoutAttempts

/-! A withdrawal over its whole life, next to the kernel's table of phases. Every applied
operation is one move of the table, and the reserve gets its fee at the one move into payment. -/
namespace KinicBridge

open Kernel

def WithdrawalOperation.eventCode : WithdrawalOperation → Nat
  | .apply event => event.phaseCode
  | .resolveHold _ (.succeeded _) => 4
  | .resolveHold _ (.absent ..) => 5

def WithdrawalState.settlement : WithdrawalState → Option Settlement
  | .observed => none
  | .releasePending _ settlement | .paid _ settlement _ _ | .reconciliationHold _ _ settlement =>
    some settlement

def WithdrawalState.isPaid : WithdrawalState → Bool
  | .paid .. => true
  | _ => false

namespace WithdrawalRecord

section

variable (r : WithdrawalRecord)

def report : WithdrawalOperation → Option ApplyResult
  | .apply event => (r.apply event).toOption.map (·.2)
  | .resolveHold hold resolution => (resolveWithdrawalHold r hold resolution).toOption.map (·.2.2)

inductive Reports (r : WithdrawalRecord) :
    WithdrawalOperation → Option ApplyResult → WithdrawalRecord → Prop where
  | refused : Reports r operation none r
  | replayed : Reports r operation (some .ofIdempotent) r
  | applied {state : WithdrawalState} (applied : Applied r event state fee) :
      Reports r (.apply event) (some (.ofApplied fee)) { r with state }
  | resolved {state : WithdrawalState}
      (resolved : WithdrawalHoldResolved r hold resolution answer state fee) :
      Reports r (.resolveHold hold resolution) (some (.ofApplied fee)) { r with state }

theorem perform_reports (operation : WithdrawalOperation) :
    Reports r operation (r.report operation) (r.perform operation) := by
  cases operation with
  | apply event =>
    cases accepted : r.apply event with
    | error error =>
      simp only [report, perform, accepted, Except.toOption, Option.map_none]
      exact .refused
    | ok outcome =>
      simp only [report, perform, accepted, Except.toOption, Option.map_some]
      rcases apply_ok accepted with ⟨same, result, _⟩ | ⟨state, fee, applied, moved, result⟩
      · rw [same, result]
        exact .replayed
      · rw [moved, result]
        exact .applied applied
  | resolveHold hold resolution =>
    cases accepted : resolveWithdrawalHold r hold resolution with
    | error error =>
      simp only [report, perform, accepted, Except.toOption, Option.map_none]
      exact .refused
    | ok outcome =>
      simp only [report, perform, accepted, Except.toOption, Option.map_some]
      obtain ⟨_, ⟨same, _, result⟩ | ⟨_, _, _, resolved, _, _, moved, result⟩⟩ :=
        resolveWithdrawalHold_ok accepted
      · rw [same, result]
        exact .replayed
      · rw [moved, result]
        exact .resolved resolved

/-- The settlement splits the burned amount as the contract committed it, and the transfer pays
its ledger fee. -/
structure Splits (r : WithdrawalRecord) (attempt : TransferAttempt) (settlement : Settlement) :
    Prop where
  amountOut : settlement.amountOut = r.amountOut
  serviceFee : settlement.serviceFee = r.chargedServiceFee
  ledgerFee : attempt.identity.fee = settlement.ledgerFee
  decided : settlementDecision settlement.amountOut settlement.ledgerFee
    settlement.serviceFee = some ⟨settlement.amountOut + settlement.ledgerFee,
      settlement.serviceFee - settlement.ledgerFee, settlement.amountOut + settlement.serviceFee⟩

def Committed : Prop :=
  r.amountOut + r.chargedServiceFee = r.amount ∧
  ∀ attempt settlement, r.state.attempt = some attempt → r.state.settlement = some settlement →
    r.Splits attempt settlement

end

theorem validateAttempt_splits {r : WithdrawalRecord}
    (valid : r.validateAttempt attempt settlement = .ok ()) : r.Splits attempt settlement := by
  obtain ⟨_, rest⟩ := guarded_ok.mp valid
  obtain ⟨matching, committed⟩ := guarded_ok.mp rest
  simp only [not_or, not_not, releaseTransferMatches, Bool.not_eq_false,
    Bool.and_eq_true, beq_iff_eq] at matching
  obtain ⟨_, ⟨_, fee⟩, _, _, amountOut, serviceFee⟩ := matching
  obtain ⟨_, committed⟩ := guarded_ok.mp committed
  obtain ⟨_, committed⟩ := guarded_ok.mp committed
  obtain ⟨decided, _⟩ := guarded_ok.mp committed
  obtain ⟨decision, decides⟩ := Option.ne_none_iff_exists'.mp decided
  obtain ⟨_, rfl⟩ := settlementDecision_eq_some decides
  exact ⟨amountOut, serviceFee, fee, decides⟩

theorem Splits.retry {r : WithdrawalRecord} (splits : r.Splits attempt settlement)
    (granted : attempt.retryAfterAbsence identity = .ok next) : r.Splits next settlement := by
  obtain ⟨rfl, _, _, _, _, fee, _⟩ := TransferAttempt.retry_ok granted
  exact ⟨splits.amountOut, splits.serviceFee, fee.trans splits.ledgerFee, splits.decided⟩

/-- What the kernel's table makes of a phase and a code, for the settlement that the record has
after the step: the next phase, the escrow debit, the reserve credit and the liability debit. -/
def tableEffects (next : WithdrawalRecord) (phase code : Nat) : Option (Nat × Nat × Nat × Nat) :=
  next.state.settlement.bind fun settlement => withdrawalTransitionEffects phase code
    settlement.amountOut settlement.ledgerFee settlement.serviceFee

theorem Reports.committed {r next : WithdrawalRecord} (reports : Reports r operation reported next)
    (committed : r.Committed) : next.Committed := by
  cases reports with
  | refused | replayed => exact committed
  | applied applied =>
    refine ⟨committed.1, fun attempt settlement sent recorded => ?_⟩
    cases applied with
    | started phase valid =>
      cases sent
      cases recorded
      exact { validateAttempt_splits valid with }
    | released phase | held phase =>
      cases sent
      cases recorded
      exact { committed.2 attempt settlement (by rw [phase]; rfl) (by rw [phase]; rfl) with }
  | resolved resolved =>
    refine ⟨committed.1, fun attempt settlement sent recorded => ?_⟩
    cases resolved with
    | releaseFound phase =>
      cases sent
      cases recorded
      exact { committed.2 attempt settlement (by rw [phase]; rfl) (by rw [phase]; rfl) with }
    | releaseAbsent phase retry =>
      cases sent
      cases recorded
      exact { (committed.2 _ settlement (by rw [phase]; rfl) (by rw [phase]; rfl)).retry retry with }

structure TableMove (r next : WithdrawalRecord) (code credit : Nat) : Prop where
  allowed : withdrawalPhaseAllows r.state.phaseCode code = true
  phase : next.state.phaseCode = withdrawalPhaseStep r.state.phaseCode code
  effects : ∃ escrow liability, next.tableEffects r.state.phaseCode code =
    some (next.state.phaseCode, escrow, credit, liability)

theorem effects_paid (splits : Splits r attempt settlement)
    (into : phase = 1 ∧ code = 2 ∨ phase = 3 ∧ code = 4) :
    withdrawalTransitionEffects phase code settlement.amountOut settlement.ledgerFee
      settlement.serviceFee = some (2, settlement.amountOut + settlement.ledgerFee,
        settlement.serviceFee - settlement.ledgerFee,
        settlement.amountOut + settlement.serviceFee) := by
  rcases into with ⟨rfl, rfl⟩ | ⟨rfl, rfl⟩ <;>
    simp [withdrawalTransitionEffects, withdrawalPhaseStep, splits.decided]

theorem Reports.table {r next : WithdrawalRecord}
    (reports : Reports r operation (some result) next) (committed : r.Committed)
    (applies : result.outcome = .applied) :
    r.TableMove next operation.eventCode result.feeDelta := by
  cases reports with
  | replayed => contradiction
  | applied applied =>
    cases applied with
    | started phase | held phase =>
      constructor <;> rw [phase]
      · rfl
      · rfl
      · exact ⟨0, 0, rfl⟩
    | released phase =>
      have splits := committed.2 _ _ (by rw [phase]; rfl) (by rw [phase]; rfl)
      constructor <;> rw [phase]
      · rfl
      · rfl
      · exact ⟨_, _, effects_paid splits (.inl ⟨rfl, rfl⟩)⟩
  | resolved resolved =>
    cases resolved with
    | releaseFound phase =>
      have splits := committed.2 _ _ (by rw [phase]; rfl) (by rw [phase]; rfl)
      constructor <;> rw [phase]
      · rfl
      · rfl
      · exact ⟨_, _, effects_paid splits (.inr ⟨rfl, rfl⟩)⟩
    | releaseAbsent phase =>
      constructor <;> rw [phase]
      · rfl
      · rfl
      · exact ⟨0, 0, rfl⟩

def credit (reported : Option ApplyResult) : Nat := (reported.map (·.feeDelta)).getD 0

/-- The one step that pays: its transfer's fee comes out of the service fee, the reserve gets
the rest, and together with what leaves the escrow that is all of the burned amount. -/
structure Pays (r next : WithdrawalRecord) (code credit : Nat) : Prop where
  payment : ∃ attempt settlement, next.state.attempt = some attempt ∧
    next.state.settlement = some settlement ∧ attempt.identity.fee = settlement.ledgerFee ∧
    settlement.ledgerFee ≤ r.chargedServiceFee ∧
    credit = r.chargedServiceFee - settlement.ledgerFee
  total : ∃ escrow, next.tableEffects r.state.phaseCode code = some (2, escrow, credit, r.amount) ∧
    escrow + credit = r.amount

theorem pays_of_splits {r next : WithdrawalRecord} (committed : r.Committed)
    (attempts : r.state.attempt = some attempt) (recorded : r.state.settlement = some settlement)
    (attempts' : next.state.attempt = some attempt)
    (recorded' : next.state.settlement = some settlement)
    (into : r.state.phaseCode = 1 ∧ code = 2 ∨ r.state.phaseCode = 3 ∧ code = 4) :
    r.Pays next code (settlement.serviceFee - settlement.ledgerFee) := by
  have splits := committed.2 attempt settlement attempts recorded
  have sum := committed.1
  have fees := (settlementDecision_eq_some splits.decided).1
  have effects := effects_paid splits into
  constructor
  · refine ⟨attempt, settlement, attempts', recorded', splits.ledgerFee, ?_, ?_⟩
    · rw [← splits.serviceFee]
      exact fees
    · rw [splits.serviceFee]
  · refine ⟨settlement.amountOut + settlement.ledgerFee, ?_, ?_⟩
    · rw [tableEffects, recorded', Option.bind_some, effects, splits.amountOut, splits.serviceFee,
        sum]
    · rw [← sum, ← splits.amountOut, ← splits.serviceFee]
      omega

theorem Reports.pays {r next : WithdrawalRecord} (reports : Reports r operation reported next)
    (committed : r.Committed) (unpaid : r.state.isPaid = false) (paid : next.state.isPaid = true) :
    r.Pays next operation.eventCode (credit reported) := by
  cases reports with
  | refused | replayed => simp [unpaid] at paid
  | applied applied =>
    cases applied with
    | started | held => contradiction
    | released phase =>
      exact pays_of_splits committed (by rw [phase]; rfl) (by rw [phase]; rfl) rfl rfl
        (.inl ⟨by rw [phase]; rfl, rfl⟩)
  | resolved resolved =>
    cases resolved with
    | releaseFound phase =>
      exact pays_of_splits committed (by rw [phase]; rfl) (by rw [phase]; rfl) rfl rfl
        (.inr ⟨by rw [phase]; rfl, rfl⟩)
    | releaseAbsent => contradiction

theorem Reports.quiet {r next : WithdrawalRecord} (reports : Reports r operation reported next)
    (unpaid : ¬(r.state.isPaid = false ∧ next.state.isPaid = true)) : credit reported = 0 := by
  cases reports with
  | refused | replayed => rfl
  | applied applied =>
    cases applied with
    | started | held => rfl
    | released phase =>
      rw [phase] at unpaid
      exact absurd ⟨rfl, rfl⟩ unpaid
  | resolved resolved =>
    cases resolved with
    | releaseFound phase =>
      rw [phase] at unpaid
      exact absurd ⟨rfl, rfl⟩ unpaid
    | releaseAbsent => rfl

theorem Reports.paid {r next : WithdrawalRecord} (reports : Reports r operation reported next)
    (paid : r.state.isPaid = true) : next = r := by
  cases reports with
  | refused | replayed => rfl
  | applied applied => cases applied <;> simp_all [WithdrawalState.isPaid]
  | resolved resolved => cases resolved <;> simp_all [WithdrawalState.isPaid]

theorem Reports.unapplied {r next : WithdrawalRecord} (reports : Reports r operation reported next)
    (idle : reported.any (·.outcome = .applied) = false) : next = r := by
  cases reports with
  | refused | replayed => rfl
  | applied | resolved => simp [ApplyResult.ofApplied] at idle

theorem Reports.amounts {r next : WithdrawalRecord} (reports : Reports r operation reported next) :
    next.amount = r.amount ∧ next.chargedServiceFee = r.chargedServiceFee := by
  cases reports <;> exact ⟨rfl, rfl⟩

end WithdrawalRecord

namespace WithdrawalRun

variable (run : WithdrawalRun)

def reported (n : Nat) : Option ApplyResult :=
  run.operations[n]?.bind (run.record n).report

def paidAt (n : Nat) : Bool := (run.record n).state.isPaid

theorem record_reports {run : WithdrawalRun} (input : run.operations[n]? = some operation) :
    (run.record n).Reports operation (run.reported n) (run.record (n + 1)) := by
  have next : run.record (n + 1) = (run.record n).perform operation := Runs.stateAt_succ input
  have reported : run.reported n = (run.record n).report operation := by
    simp [WithdrawalRun.reported, input]
  rw [next, reported]
  exact WithdrawalRecord.perform_reports _ _

theorem start_committed : run.start.Committed := by
  have begun := run.observed
  simp only [WithdrawalRecord.observed] at begun
  obtain ⟨_, begun⟩ := thrown_ok.mp begun
  obtain ⟨total, added, rest⟩ := bind_ok.mp begun
  split at rest
  · exact absurd rest throw_ne_ok
  next whole =>
    refine ⟨?_, fun attempt settlement sent => ?_⟩
    · rw [← not_not.mp whole]
      exact (Amount.checkedAdd_ok.mp added).1
    · simp [run.start_observed, WithdrawalState.attempt] at sent

theorem record_committed (n : Nat) : (run.record n).Committed :=
  Runs.stateAt_keeps (i := 0) (fun r operation => (r.perform_reports operation).committed)
    run.start_committed (Nat.zero_le n)

theorem record_amounts (n : Nat) : (run.record n).amount = run.start.amount ∧
      (run.record n).chargedServiceFee = run.start.chargedServiceFee := by
  refine Runs.stateAt_keeps (i := 0) (P := fun r : WithdrawalRecord =>
      r.amount = run.start.amount ∧ r.chargedServiceFee = run.start.chargedServiceFee)
    (fun r operation kept => ?_) ⟨rfl, rfl⟩ (Nat.zero_le n)
  obtain ⟨amount, fee⟩ := (r.perform_reports operation).amounts
  exact ⟨amount.trans kept.1, fee.trans kept.2⟩

theorem paid_stays {run : WithdrawalRun} (later : n ≤ m) (paid : run.paidAt n = true) :
    run.record m = run.record n :=
  Runs.stateAt_keeps (i := n) (P := fun r => r = run.record n)
    (fun r operation same => ((r.perform_reports operation).paid (same ▸ paid)).trans same) rfl later

/-- Over any run of an observed withdrawal, an applied operation is a move of the kernel's table
and any other changes nothing. A paid record stays as it is. The reserve is credited by the one
step into payment and by no other: with the service fee less the transfer's ledger fee, which
together with the escrow debit is the withdrawn amount. -/
theorem withdrawal_run_refines (run : WithdrawalRun) :
    (∀ n operation, run.operations[n]? = some operation →
      (∀ result, run.reported n = some result → result.outcome = .applied →
        (run.record n).TableMove (run.record (n + 1)) operation.eventCode result.feeDelta) ∧
      ((run.reported n).any (·.outcome = .applied) = false → run.record (n + 1) = run.record n)) ∧
    (∀ n m, n ≤ m → run.paidAt n = true → run.record m = run.record n) ∧
    (∀ n, run.paidAt n = false → run.paidAt (n + 1) = true →
      ∃ operation, run.operations[n]? = some operation ∧
        (run.record n).Pays (run.record (n + 1)) operation.eventCode
          (WithdrawalRecord.credit (run.reported n)) ∧
        (run.record n).amount = run.start.amount ∧
        (run.record n).chargedServiceFee = run.start.chargedServiceFee) ∧
    (∀ n, ¬(run.paidAt n = false ∧ run.paidAt (n + 1) = true) →
      WithdrawalRecord.credit (run.reported n) = 0) ∧
    ∀ n m, run.paidAt n = false → run.paidAt (n + 1) = true → run.paidAt m = false →
      run.paidAt (m + 1) = true → n = m := by
  refine ⟨fun n operation input => ?_, fun n m => paid_stays, fun n unpaid paid => ?_,
    fun n unpaid => ?_, fun n m unpaid paid unpaid' paid' => ?_⟩
  · have reports := record_reports input
    refine ⟨fun result reported applies => ?_, reports.unapplied⟩
    rw [reported] at reports
    exact reports.table (run.record_committed n) applies
  · cases input : run.operations[n]? with
    | none =>
      have same : run.record (n + 1) = run.record n := Runs.stateAt_done input
      rw [paidAt, same] at paid
      exact absurd (unpaid.symm.trans paid) Bool.false_ne_true
    | some operation =>
      exact ⟨operation, rfl, (record_reports input).pays (run.record_committed n) unpaid paid,
        run.record_amounts n⟩
  · cases input : run.operations[n]? with
    | none => simp [reported, input, WithdrawalRecord.credit]
    | some operation => exact (record_reports input).quiet unpaid
  · -- the earlier payment would still stand at the later one
    rcases Nat.lt_trichotomy n m with before | same | after
    · rw [paidAt, paid_stays (Nat.succ_le_of_lt before) paid] at unpaid'
      exact absurd (unpaid'.symm.trans paid) Bool.false_ne_true
    · exact same
    · rw [paidAt, paid_stays (Nat.succ_le_of_lt after) paid'] at unpaid
      exact absurd (unpaid.symm.trans paid') Bool.false_ne_true

end WithdrawalRun

end KinicBridge
