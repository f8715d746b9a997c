import KinicBridge.Core.DepositMoves

/-! The transfers a record sends over its whole life. Where they pay and how much is fixed by
the first attempt; a retry after an absence only gets a new number, time and memo. -/
namespace KinicBridge

namespace TransferAttempt

structure Follows (next attempt : TransferAttempt) : Prop where
  number : next.attemptNo = attempt.attemptNo + 1
  later : attempt.identity.createdAtTimeNs < next.identity.createdAtTimeNs
  memo : next.identity.memo ≠ attempt.identity.memo

inductive Advances : Option TransferAttempt → Option TransferAttempt → Prop where
  | kept : Advances attempt attempt
  | first (number : attempt.attemptNo = 0) : Advances none (some attempt)
  | replaced (follows : next.Follows attempt) : Advances (some attempt) (some next)

theorem retry_follows {attempt next : TransferAttempt} {identity : LedgerTransferIdentity}
    (granted : attempt.retryAfterAbsence identity = .ok next) : next.Follows attempt := by
  obtain ⟨same, number, later, _⟩ := retry_ok granted
  refine ⟨number, same ▸ later, fun repeated => ?_⟩
  rw [same] at repeated
  simp [retryAfterAbsence, repeated] at granted

end TransferAttempt

def WithdrawalState.attempt : WithdrawalState → Option TransferAttempt
  | .observed => none
  | .releasePending attempt _ | .paid attempt _ _ _ | .reconciliationHold _ attempt _ =>
    some attempt

def DepositState.refundAttempt : DepositState → Option TransferAttempt
  | .refundPending _ _ attempt | .refundReconciliationHold _ _ _ attempt
  | .refunded _ _ attempt _ _ => some attempt
  | _ => none

inductive WithdrawalOperation where
  | apply (event : WithdrawalEvent)
  | resolveHold (hold : ReconciliationHoldRecord) (resolution : WithdrawalHoldResolution)
  deriving DecidableEq

namespace WithdrawalRecord

section

variable (r : WithdrawalRecord)

def perform : WithdrawalOperation → WithdrawalRecord
  | .apply event =>
    match r.apply event with
    | .ok (next, _) => next
    | .error _ => r
  | .resolveHold hold resolution =>
    match resolveWithdrawalHold r hold resolution with
    | .ok (next, _, _) => next
    | .error _ => r

inductive Moves (r : WithdrawalRecord) : WithdrawalOperation → WithdrawalRecord → Prop where
  | same : Moves r operation r
  | applied {state : WithdrawalState} (applied : Applied r event state fee) :
      Moves r (.apply event) { r with state }
  | resolved {state : WithdrawalState}
      (resolved : WithdrawalHoldResolved r hold resolution answer state fee) :
      Moves r (.resolveHold hold resolution) { r with state }

theorem perform_moves (operation : WithdrawalOperation) :
    Moves r operation (r.perform operation) := by
  cases operation with
  | apply event =>
    simp only [perform]
    split
    next next result accepted =>
      rcases apply_ok accepted with ⟨rfl, _⟩ | ⟨state, fee, applied, rfl, _⟩
      · exact .same
      · exact .applied applied
    · exact .same
  | resolveHold hold resolution =>
    simp only [perform]
    split
    next next hold' result resolved =>
      obtain ⟨_, ⟨rfl, _⟩ | ⟨_, _, _, moved, _, _, rfl, _⟩⟩ := resolveWithdrawalHold_ok resolved
      · exact .same
      · exact .resolved moved
    · exact .same

structure PaidBy (r : WithdrawalRecord) (attempt : TransferAttempt) : Prop where
  amount : attempt.identity.amount = r.amountOut
  owner : attempt.identity.to_.owner = r.owner
  subaccount : attempt.identity.to_.subaccount = r.subaccount

def Directed : Prop :=
  ∀ attempt, r.state.attempt = some attempt → r.PaidBy attempt

end

variable {r : WithdrawalRecord}

theorem validateAttempt_paidBy {settlement : Settlement}
    (valid : r.validateAttempt attempt settlement = .ok ()) :
    r.PaidBy attempt ∧ (r.state = .observed → attempt.attemptNo = 0) := by
  obtain ⟨numbered, rest⟩ := guarded_ok.mp valid
  obtain ⟨matching, _⟩ := guarded_ok.mp rest
  simp only [not_or, not_not, Kernel.releaseTransferMatches, Bool.not_eq_false,
    Bool.and_eq_true, beq_iff_eq] at matching
  obtain ⟨_, ⟨amount, _⟩, owner, subaccount, _⟩ := matching
  exact ⟨⟨amount, owner, subaccount⟩, fun observed => by tauto⟩

theorem PaidBy.retry (paid : r.PaidBy attempt)
    (granted : attempt.retryAfterAbsence identity = .ok next) : r.PaidBy next := by
  obtain ⟨rfl, _, _, _, amount, _, _, account⟩ := TransferAttempt.retry_ok granted
  exact ⟨amount.trans paid.amount, account ▸ paid.owner, account ▸ paid.subaccount⟩

theorem Moves.directed {next : WithdrawalRecord} (moves : Moves r operation next)
    (directed : r.Directed) : next.Directed := by
  cases moves with
  | same => exact directed
  | applied applied =>
    intro attempt sent
    cases applied with
    | started phase valid =>
      cases sent
      have paid := (validateAttempt_paidBy valid).1
      exact ⟨paid.amount, paid.owner, paid.subaccount⟩
    | released phase | held phase =>
      cases sent
      have paid := directed attempt (by rw [phase]; rfl)
      exact ⟨paid.amount, paid.owner, paid.subaccount⟩
  | resolved resolved =>
    intro attempt sent
    cases resolved with
    | releaseFound phase =>
      cases sent
      have paid := directed attempt (by rw [phase]; rfl)
      exact ⟨paid.amount, paid.owner, paid.subaccount⟩
    | releaseAbsent phase retry =>
      cases sent
      have paid := (directed _ (by rw [phase]; rfl)).retry retry
      exact ⟨paid.amount, paid.owner, paid.subaccount⟩

theorem Moves.advances {next : WithdrawalRecord} (moves : Moves r operation next) :
    TransferAttempt.Advances r.state.attempt next.state.attempt := by
  cases moves with
  | same => exact .kept
  | applied applied =>
    cases applied with
    | started phase valid =>
      rw [phase]
      exact .first ((validateAttempt_paidBy valid).2 phase)
    | released phase | held phase =>
      rw [phase]
      exact .kept
  | resolved resolved =>
    cases resolved with
    | releaseFound phase =>
      rw [phase]
      exact .kept
    | releaseAbsent phase retry =>
      rw [phase]
      exact .replaced (TransferAttempt.retry_follows retry)

theorem Moves.fixed {next : WithdrawalRecord} (moves : Moves r operation next) :
    next.amountOut = r.amountOut ∧ next.owner = r.owner ∧ next.subaccount = r.subaccount := by
  cases moves <;> exact ⟨rfl, rfl, rfl⟩

end WithdrawalRecord

structure WithdrawalRun where
  start : WithdrawalRecord
  observed : WithdrawalRecord.observed start.id start.baseRequester start.owner start.subaccount
    start.payloadHash start.amount start.maxServiceFee start.chargedServiceFee start.amountOut
    start.observedAtNs = .ok start
  operations : List WithdrawalOperation

namespace WithdrawalRun

variable (run : WithdrawalRun) (n : Nat)

def record : WithdrawalRecord :=
  Runs.stateAt WithdrawalRecord.perform run.start run.operations n

theorem start_observed : run.start.state = .observed := by
  have begun := run.observed
  simp only [WithdrawalRecord.observed] at begun
  obtain ⟨_, begun⟩ := thrown_ok.mp begun
  obtain ⟨total, _, rest⟩ := bind_ok.mp begun
  split at rest
  · exact absurd rest throw_ne_ok
  · rw [← pure_ok.mp rest]

theorem record_advances : TransferAttempt.Advances
    (run.record n).state.attempt (run.record (n + 1)).state.attempt :=
  Runs.stateAt_links (R := fun r next : WithdrawalRecord =>
      TransferAttempt.Advances r.state.attempt next.state.attempt)
    (fun _ => .kept) (fun r operation => (r.perform_moves operation).advances) n

theorem record_directed : (run.record n).Directed := by
  refine Runs.stateAt_keeps (i := 0) (fun r operation => (r.perform_moves operation).directed)
    (fun attempt sent => ?_) (Nat.zero_le n)
  simp [run.start_observed, WithdrawalState.attempt] at sent

theorem record_fixed :
    (run.record n).amountOut = run.start.amountOut ∧ (run.record n).owner = run.start.owner ∧
      (run.record n).subaccount = run.start.subaccount := by
  refine Runs.stateAt_keeps (i := 0) (P := fun r : WithdrawalRecord =>
      r.amountOut = run.start.amountOut ∧ r.owner = run.start.owner ∧
      r.subaccount = run.start.subaccount)
    (fun r operation kept => ?_) ⟨rfl, rfl, rfl⟩ (Nat.zero_le n)
  obtain ⟨amount, owner, subaccount⟩ := (r.perform_moves operation).fixed
  exact ⟨amount.trans kept.1, owner.trans kept.2.1, subaccount.trans kept.2.2⟩

end WithdrawalRun

namespace DepositRecord

structure RefundedBy (r : DepositRecord) (attempt : TransferAttempt) : Prop where
  source : attempt.identity.from_ = r.transfer.to_
  target : attempt.identity.to_ = r.transfer.from_
  amounts : attempt.identity.amount + attempt.identity.fee + r.chargedServiceFee = r.grossAmount

def Directed (r : DepositRecord) : Prop :=
  ∀ attempt, r.state.refundAttempt = some attempt → r.RefundedBy attempt

variable {r : DepositRecord}

theorem refundAttemptMatches_refundedBy (matching : r.refundAttemptMatches attempt = true) :
    r.RefundedBy attempt ∧ attempt.attemptNo = 0 := by
  simp only [refundAttemptMatches, Bool.and_eq_true, beq_iff_eq] at matching
  obtain ⟨⟨⟨⟨⟨number, _⟩, _⟩, source⟩, target⟩, amounts⟩ := matching
  obtain ⟨paid, sum, total⟩ := Option.bind_eq_some_iff.mp amounts
  obtain ⟨rfl, _⟩ := Checked.add_eq_some.mp sum
  exact ⟨⟨source, target, (Checked.add_eq_some.mp total).1⟩, number⟩

theorem RefundedBy.retry (refunded : r.RefundedBy attempt)
    (granted : attempt.retryAfterAbsence identity = .ok next) : r.RefundedBy next := by
  obtain ⟨rfl, _, _, _, amount, fee, source, target⟩ := TransferAttempt.retry_ok granted
  exact ⟨source.trans refunded.source, target.trans refunded.target,
    amount ▸ fee ▸ refunded.amounts⟩

theorem dispatched_charged {record next : MintAuthorizationRecord}
    (authorization : r.mintAuthorization = some record)
    (dispatched : record.dispatchSignature = some next) :
    chargedServiceFee { r with mintAuthorization := some next } = r.chargedServiceFee := by
  obtain ⟨unsigned, attempt, rfl⟩ := MintAuthorizationRecord.dispatch_eq_some dispatched
  simp [chargedServiceFee, signed, authorization, unsigned]

theorem Moves.directed {next : DepositRecord} (moves : Moves r operation next)
    (directed : r.Directed) : next.Directed := by
  cases moves with
  | same => exact directed
  | dispatched authorization dispatched =>
    intro attempt sent
    have refunded := directed attempt sent
    refine ⟨refunded.source, refunded.target, ?_⟩
    rw [dispatched_charged authorization dispatched]
    exact refunded.amounts
  | resolved resolved =>
    intro attempt sent
    cases resolved with
    | fundingFound | fundingAbsent => cases sent
    | refundFound phase =>
      cases sent
      have refunded := directed attempt (by rw [phase]; rfl)
      exact ⟨refunded.source, refunded.target, refunded.amounts⟩
    | refundAbsent phase _ _ retry =>
      cases sent
      have refunded := (directed _ (by rw [phase]; rfl)).retry retry
      exact ⟨refunded.source, refunded.target, refunded.amounts⟩
  | applied applied =>
    intro attempt sent
    cases applied with
    | refundStarted phase matching =>
      cases sent
      have refunded := (refundAttemptMatches_refundedBy matching).1
      exact ⟨refunded.source, refunded.target, refunded.amounts⟩
    | refundPaid phase | refundHeld phase =>
      cases sent
      have refunded := directed attempt (by rw [phase]; rfl)
      exact ⟨refunded.source, refunded.target, refunded.amounts⟩
    | _ => cases sent

theorem Moves.advances {next : DepositRecord} (moves : Moves r operation next) :
    TransferAttempt.Advances r.state.refundAttempt next.state.refundAttempt := by
  cases moves with
  | same | dispatched => exact .kept
  | resolved resolved =>
    cases resolved with
    | fundingFound phase | fundingAbsent phase | refundFound phase =>
      rw [phase]
      exact .kept
    | refundAbsent phase _ _ retry =>
      rw [phase]
      exact .replaced (TransferAttempt.retry_follows retry)
  | applied applied =>
    cases applied with
    | refundStarted phase matching =>
      rw [phase]
      exact .first (refundAttemptMatches_refundedBy matching).2
    | refundOffered phase => rcases phase with phase | phase | phase <;> rw [phase] <;> exact .kept
    | mintRecorded phase => rcases phase with phase | ⟨_, phase⟩ <;> rw [phase] <;> exact .kept
    | funded phase | fundingHeld phase | fundingCancelled phase | committed phase
    | installed phase | refundPaid phase | refundHeld phase =>
      rw [phase]
      exact .kept

theorem Moves.fixed {next : DepositRecord} (moves : Moves r operation next) :
    next.transfer = r.transfer ∧ next.grossAmount = r.grossAmount := by
  cases moves with
  | applied applied => exact applied.accepted.2
  | _ => exact ⟨rfl, rfl⟩

end DepositRecord

namespace DepositRun

variable (run : DepositRun) (n : Nat)

theorem record_advances : TransferAttempt.Advances
    (run.record n).state.refundAttempt (run.record (n + 1)).state.refundAttempt :=
  Runs.stateAt_links (R := fun r next : DepositRecord =>
      TransferAttempt.Advances r.state.refundAttempt next.state.refundAttempt)
    (fun _ => .kept) (fun r operation => (r.perform_moves operation).advances) n

theorem record_directed : (run.record n).Directed := by
  refine Runs.stateAt_keeps (i := 0) (fun r operation => (r.perform_moves operation).directed)
    (fun attempt sent => ?_) (Nat.zero_le n)
  simp [run.start_pending, DepositState.refundAttempt] at sent

theorem record_fixed : (run.record n).transfer = run.start.transfer ∧
      (run.record n).grossAmount = run.start.grossAmount := by
  refine Runs.stateAt_keeps (i := 0) (P := fun r : DepositRecord =>
      r.transfer = run.start.transfer ∧ r.grossAmount = run.start.grossAmount)
    (fun r operation kept => ?_) ⟨rfl, rfl⟩ (Nat.zero_le n)
  obtain ⟨transfer, gross⟩ := (r.perform_moves operation).fixed
  exact ⟨transfer.trans kept.1, gross.trans kept.2⟩

end DepositRun

/-- Every release pays the observed amount to the observed account, every refund returns the
gross amount less the fees to the account that funded it, and attempts only ever advance. -/
theorem payouts_never_drift :
    (∀ (run : WithdrawalRun) (n : Nat),
      (∀ attempt, (run.record n).state.attempt = some attempt →
        attempt.identity.amount = run.start.amountOut ∧
        attempt.identity.to_.owner = run.start.owner ∧
        attempt.identity.to_.subaccount = run.start.subaccount) ∧
      TransferAttempt.Advances (run.record n).state.attempt (run.record (n + 1)).state.attempt) ∧
    ∀ (run : DepositRun) (n : Nat),
      (∀ attempt, (run.record n).state.refundAttempt = some attempt →
        attempt.identity.from_ = run.start.transfer.to_ ∧
        attempt.identity.to_ = run.start.transfer.from_ ∧
        attempt.identity.amount + attempt.identity.fee + (run.record n).chargedServiceFee =
          run.start.grossAmount) ∧
      TransferAttempt.Advances (run.record n).state.refundAttempt
        (run.record (n + 1)).state.refundAttempt := by
  refine ⟨fun run n => ⟨fun attempt sent => ?_, run.record_advances n⟩,
    fun run n => ⟨fun attempt sent => ?_, run.record_advances n⟩⟩
  · obtain ⟨amount, owner, subaccount⟩ := run.record_directed n attempt sent
    obtain ⟨amount', owner', subaccount'⟩ := run.record_fixed n
    exact ⟨amount.trans amount', owner.trans owner', subaccount.trans subaccount'⟩
  · obtain ⟨source, target, amounts⟩ := run.record_directed n attempt sent
    obtain ⟨transfer, gross⟩ := run.record_fixed n
    rw [transfer] at source target
    exact ⟨source, target, amounts.trans gross⟩

end KinicBridge
