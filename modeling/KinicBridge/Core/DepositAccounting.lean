import KinicBridge.Core.PayoutAttempts

/-! The accounting effects a deposit reports over its whole life. Events report what they
book; hold resolutions report nothing, so a refund found through its hold is never booked. -/
namespace KinicBridge

open DepositRecord Kernel

def ApplyResult.effects (result : ApplyResult) : DepositAccountingEffects :=
  result.depositEffects.getD .zero

namespace DepositRecord

section

variable (r : DepositRecord)

def report : DepositOperation → Option ApplyResult
  | .apply event => (r.apply event).toOption.map (·.2)
  | .resolveHold hold resolution => (resolveDepositHold r hold resolution).toOption.map (·.2.2)
  | .dispatchSignature => none

def reportedEffects (operation : DepositOperation) : DepositAccountingEffects :=
  ((r.report operation).map (·.effects)).getD .zero

def netAmount : Nat := (r.quote.map (·.netAmount)).getD 0

/-! What should have been booked for a record by now, were every refund reported. A refund
whose block came from a hold is the one that is not. -/

def refundBooked : Nat :=
  match r.state with
  | .refunded _ _ _ _ none => r.grossAmount - r.chargedServiceFee
  | _ => 0

def mintBooked : Nat :=
  match r.state with
  | .minted _ => r.netAmount
  | _ => 0

def liabilityBooked : Nat :=
  r.chargedServiceFee + r.mintBooked + r.refundBooked

end

structure Books (r : DepositRecord) (effects : DepositAccountingEffects) (next : DepositRecord) :
    Prop where
  fee : next.chargedServiceFee = r.chargedServiceFee + effects.feeCredit
  mint : next.mintBooked = r.mintBooked + effects.mintSupplyIncrease
  refund : next.refundBooked = r.refundBooked + effects.escrowDebit
  liability : next.liabilityBooked = r.liabilityBooked + effects.pendingLiabilityDebit
  once : effects.feeCredit ≠ 0 → r.signed = false ∧ next.signed = true

def Quiet (effects : DepositAccountingEffects) : Prop :=
  effects.feeCredit = 0 ∧ effects.mintSupplyIncrease = 0 ∧ effects.escrowDebit = 0 ∧
    effects.pendingLiabilityDebit = 0

variable {r next : DepositRecord}

theorem Books.idle (quiet : Quiet effects) (fee : next.chargedServiceFee = r.chargedServiceFee)
    (mint : next.mintBooked = r.mintBooked) (refund : next.refundBooked = r.refundBooked) :
    Books r effects next := by
  obtain ⟨noFee, noMint, noRefund, noLiability⟩ := quiet
  refine ⟨by rw [fee, noFee, Nat.add_zero], by rw [mint, noMint, Nat.add_zero],
    by rw [refund, noRefund, Nat.add_zero], ?_, fun credited => absurd noFee credited⟩
  rw [noLiability, liabilityBooked, liabilityBooked, fee, mint, refund, Nat.add_zero]

theorem numericEffects_quiet (signature : ¬(code = 2 ∧ event = 5))
    (mint : ¬((code = 3 ∨ code = 4) ∧ event = 6)) (refund : ¬(code = 6 ∧ event = 8)) :
    Quiet (depositNumericEffects code event gross net fee reserved) := by
  simp only [Quiet, depositNumericEffects, depositChargeServiceFee]
  simp [signature, mint, refund]

theorem mintBooked_eq_zero (phase : r.state.code ≠ 10) : r.mintBooked = 0 := by
  unfold mintBooked
  split
  next minted =>
    simp [minted, DepositState.code] at phase
  · rfl

theorem refundBooked_eq_zero (phase : r.state.code ≠ 8) : r.refundBooked = 0 := by
  unfold refundBooked
  split
  next refunded =>
    simp [refunded, DepositState.code] at phase
  · rfl

theorem transition_to_minted (moved : depositTransition code event = some 10) : event = 6 := by
  by_contra other
  simp [depositTransition, other, ite_eq_iff] at moved

theorem transition_to_refunded (moved : depositTransition code event = some 8) : event = 8 := by
  by_contra other
  simp [depositTransition, other, ite_eq_iff] at moved

theorem transition_from_refunded {next : Nat} : depositTransition 8 event ≠ some next := by
  simp [depositTransition]

theorem Books.quiet (transition : depositTransition r.state.code event = some next.state.code)
    (other : event ≠ 5 ∧ event ≠ 6 ∧ event ≠ 8)
    (fee : next.chargedServiceFee = r.chargedServiceFee) :
    Books r (depositNumericEffects r.state.code event gross net serviceFee reserved) next := by
  obtain ⟨signature, mint, refund⟩ := other
  refine .idle (numericEffects_quiet ?_ ?_ ?_) fee ?_ ?_
  · exact fun both => signature both.2
  · exact fun both => mint both.2
  · exact fun both => refund both.2
  · rw [mintBooked_eq_zero, mintBooked_eq_zero]
    · exact fun minted => transition_from_minted (minted ▸ transition)
    · exact fun minted => mint (transition_to_minted (minted ▸ transition))
  · rw [refundBooked_eq_zero, refundBooked_eq_zero]
    · exact fun refunded => transition_from_refunded (refunded ▸ transition)
    · exact fun refunded => refund (transition_to_refunded (refunded ▸ transition))

theorem Books.signs (before : r.signed = false) (after : next.signed = true)
    (uncharged : r.chargedServiceFee = 0) (charged : next.chargedServiceFee = charge)
    (mint : next.mintBooked = r.mintBooked) (refund : next.refundBooked = r.refundBooked) :
    Books r (depositNumericEffects 2 5 gross net charge reserved) next := by
  have credit : (depositNumericEffects 2 5 gross net charge reserved).feeCredit = charge :=
    rfl
  have debit : (depositNumericEffects 2 5 gross net charge
    reserved).pendingLiabilityDebit = charge := rfl
  refine ⟨?_, mint, refund, ?_, fun _ => ⟨before, after⟩⟩
  · omega
  · simp only [liabilityBooked, mint, refund]
    omega

theorem Books.mints (phase : code = 3 ∨ code = 4) (positive : net ≠ 0)
    (fee : next.chargedServiceFee = r.chargedServiceFee) (mint : r.mintBooked = 0)
    (minted : next.mintBooked = net) (refund : next.refundBooked = r.refundBooked) :
    Books r (depositNumericEffects code 6 gross net charge reserved) next := by
  have booked : ∀ effects, effects = depositNumericEffects code 6 gross net charge reserved →
      effects.feeCredit = 0 ∧ effects.mintSupplyIncrease = net ∧ effects.escrowDebit = 0 ∧
        effects.pendingLiabilityDebit = net := by
    rintro _ rfl
    rcases phase with rfl | rfl <;> simp [depositNumericEffects, depositChargeServiceFee, positive]
  obtain ⟨credit, increase, escrow, debit⟩ := booked _ rfl
  refine ⟨by omega, by omega, by omega, ?_, fun credited => absurd credit credited⟩
  simp only [liabilityBooked]
  omega

theorem Books.refunds (terminal : (if net = 0 then gross else net) = amount)
    (fee : next.chargedServiceFee = r.chargedServiceFee) (mint : next.mintBooked = r.mintBooked)
    (refund : r.refundBooked = 0) (refunded : next.refundBooked = amount) :
    Books r (depositNumericEffects 6 8 gross net charge reserved) next := by
  have booked : ∀ effects, effects = depositNumericEffects 6 8 gross net charge reserved →
      effects.feeCredit = 0 ∧ effects.mintSupplyIncrease = 0 ∧ effects.escrowDebit = amount ∧
        effects.pendingLiabilityDebit = amount := by
    rintro _ rfl
    simp [depositNumericEffects, depositChargeServiceFee, terminal]
  obtain ⟨credit, increase, escrow, debit⟩ := booked _ rfl
  refine ⟨by omega, by omega, by omega, ?_, fun credited => absurd credit credited⟩
  simp only [liabilityBooked]
  omega

theorem Coherent.blank_charged (coherent : r.Coherent)
    (phase : r.state.code = 0 ∨ r.state.code = 1 ∨ r.state.code = 5 ∨ r.state.code = 9) :
    r.chargedServiceFee = 0 := by
  simp [chargedServiceFee, DepositRecord.signed, coherent.blank phase]

theorem Coherent.signed_quote (coherent : r.Coherent)
    (isSigned : r.signed = true) : ∃ quote, r.quote = some quote ∧ quote.netAmount ≠ 0 ∧
      r.chargedServiceFee = quote.serviceFee ∧
      quote.netAmount + quote.serviceFee = r.grossAmount := by
  obtain ⟨record, found⟩ := signed_iff.mp isSigned
  obtain ⟨quote, quotes⟩ := coherent.quotes record (signedAuthorization_eq_some.mp found).1
  exact ⟨quote, quotes.quoted, quotes.positive, by simp [chargedServiceFee, isSigned, quotes.quoted],
    quotes.split⟩

theorem applied_effects {event : DepositEvent} {effects : Kernel.DepositEffects}
    (decided : depositTransitionDecision (r.transitionInput event reserved) = .apply effects) :
    effects.accounting = depositNumericEffects r.state.code event.code r.grossAmount
      (r.transitionInput event reserved).netAmount (r.transitionInput event reserved).serviceFee
      reserved :=
  (decision_applied decided).2.2.2

theorem Applied.books {event : DepositEvent} (coherent : r.Coherent)
    (applied : Applied r event next fee) (reserved : Nat) :
    Books r (depositNumericEffects r.state.code event.code r.grossAmount
      (r.transitionInput event reserved).netAmount (r.transitionInput event reserved).serviceFee
      reserved) next := by
  have transition := applied.transition
  cases applied with
  | funded phase | fundingHeld phase | fundingCancelled phase =>
    refine .quiet transition (by simp [DepositEvent.code]) ?_
    rw [coherent.blank_charged (by simp [phase, DepositState.code])]
    rfl
  | committed phase guard =>
    refine .quiet transition (by simp [DepositEvent.code]) ?_
    rw [coherent.blank_charged (by simp [phase, DepositState.code])]
    simp [chargedServiceFee, signed, (commitGuard_accepts guard).1]
  | refundOffered | refundStarted | refundHeld =>
    exact .quiet transition (by simp [DepositEvent.code]) rfl
  | @installed _ signature observed _ _ quote phase guard authorization installs quoted =>
    obtain ⟨unsigned, _, rfl⟩ := MintAuthorizationRecord.install_eq_some installs
    have before : r.signed = false := by simp [signed, authorization, unsigned]
    have charged : r.chargedServiceFee = 0 := by simp [chargedServiceFee, before]
    have issued : (r.transitionInput (.authorizationSigned signature observed) reserved).serviceFee =
        quote.serviceFee := by
      simp [transitionInput, quoted, DepositEvent.code]
    rw [issued, phase]
    refine .signs before rfl charged ?_ ?_ ?_
    · simp [chargedServiceFee, signed, quoted]
    · simp [mintBooked, phase]
    · simp [refundBooked, phase]
  | @mintRecorded _ evidence phase guard =>
    obtain ⟨quote, quoted, positive, _⟩ := coherent.signed_quote (mintGuard_signed guard)
    have net : (r.transitionInput (.mintReconciled evidence) reserved).netAmount =
        quote.netAmount := by
      simp [transitionInput, quoted, DepositEvent.code]
    rw [net]
    have code : r.state.code = 3 ∨ r.state.code = 4 := by
      rcases phase with phase | ⟨_, phase⟩ <;> simp [phase, DepositState.code]
    refine .mints code positive rfl (mintBooked_eq_zero (by omega)) ?_ ?_
    · simp [mintBooked, netAmount, quoted]
    · rw [refundBooked_eq_zero (r := r) (by omega), refundBooked_eq_zero]
      simp [DepositState.code]
  | @refundPaid _ _ _ block phase =>
    have code : r.state.code = 6 := by simp [phase, DepositState.code]
    have terminal : ∀ net, net = (r.transitionInput (.refundSucceeded block) reserved).netAmount →
        (if net = 0 then r.grossAmount else net) = r.grossAmount - r.chargedServiceFee := by
      rintro _ rfl
      by_cases isSigned : r.signed = true
      · obtain ⟨quote, quoted, positive, charged, split⟩ := coherent.signed_quote isSigned
        simp only [transitionInput, isSigned, quoted, Bool.true_or, Bool.not_true, Bool.and_false,
          Option.map_some, Option.getD_some, positive, if_false, Bool.false_eq_true, charged]
        omega
      · simp [transitionInput, isSigned, DepositEvent.code, chargedServiceFee]
    rw [code]
    refine .refunds (terminal _ rfl) rfl ?_ (refundBooked_eq_zero (by omega)) rfl
    rw [mintBooked_eq_zero (r := r) (by omega), mintBooked_eq_zero]
    simp [DepositState.code]

theorem quiet_zero : Quiet .zero := ⟨rfl, rfl, rfl, rfl⟩

theorem Books.same (r : DepositRecord) : Books r .zero r := .idle quiet_zero rfl rfl rfl

theorem resolved_books {state : DepositState}
    (resolved : DepositHoldResolved r hold resolution answer state) :
    Books r .zero { r with state } := by
  refine .idle quiet_zero rfl ?_ ?_
  · cases resolved with
    | fundingFound phase | fundingAbsent phase | refundFound phase | refundAbsent phase =>
      simp [mintBooked, phase]
  · cases resolved with
    | fundingFound phase | fundingAbsent phase | refundFound phase | refundAbsent phase =>
      simp [refundBooked, phase]

theorem dispatched_books {record next : MintAuthorizationRecord}
    (authorization : r.mintAuthorization = some record)
    (dispatched : record.dispatchSignature = some next) :
    Books r .zero { r with mintAuthorization := some next } := by
  obtain ⟨unsigned, attempt, rfl⟩ := MintAuthorizationRecord.dispatch_eq_some dispatched
  have fee : chargedServiceFee { r with mintAuthorization := some { record with
      signatureDispatchAttempt := attempt, signatureDispatched := true } } =
      r.chargedServiceFee := by
    simp [chargedServiceFee, signed, authorization, unsigned]
  refine .idle quiet_zero fee rfl ?_
  simp only [refundBooked, fee]

theorem perform_books (coherent : r.Coherent) (operation : DepositOperation) :
    Books r (r.reportedEffects operation) (r.perform operation) := by
  cases operation with
  | apply event =>
    cases accepted : r.apply event with
    | error error =>
      simpa [reportedEffects, report, perform, accepted, Except.toOption] using Books.same r
    | ok outcome =>
      obtain ⟨next, result⟩ := outcome
      simp only [reportedEffects, report, perform, accepted, Except.toOption, Option.map_some,
        Option.getD_some]
      rcases apply_ok accepted with ⟨rfl, rfl, _⟩ | ⟨fee, reserved, effects, applied, _, _, rfl,
        decided, _⟩
      · exact .same next
      · have booked := applied.books coherent reserved
        rwa [← applied_effects decided] at booked
  | resolveHold hold resolution =>
    cases resolved : resolveDepositHold r hold resolution with
    | error error =>
      simpa [reportedEffects, report, perform, resolved, Except.toOption] using Books.same r
    | ok outcome =>
      obtain ⟨next, hold', result⟩ := outcome
      simp only [reportedEffects, report, perform, resolved, Except.toOption, Option.map_some,
        Option.getD_some]
      rcases resolveDepositHold_ok resolved with ⟨rfl, _, rfl⟩ | ⟨_, _, moved, _, _, rfl, rfl⟩
      · exact .same next
      · exact resolved_books moved
  | dispatchSignature =>
    have moves := perform_moves r .dispatchSignature
    simp only [reportedEffects, report, Option.map_none, Option.getD_none]
    generalize r.perform .dispatchSignature = next at moves
    cases moves with
    | same => exact .same r
    | dispatched authorization dispatched => exact dispatched_books authorization dispatched

section

variable (r : DepositRecord)

def isRefunded : Bool := r.state.code == 8

def isCancelled : Bool := r.state.code == 9

def refundedThroughHold : Bool :=
  match r.state with
  | .refunded _ _ _ _ (some _) => true
  | _ => false

/-- The step that records a refund through its hold: the deposit waits for exactly this open
hold and the scan found the transfer. -/
def FoundByHold (operation : DepositOperation) : Prop :=
  ∃ hold block reason funding attempt, operation = .resolveHold hold (.refundSucceeded block) ∧
    r.state = .refundReconciliationHold reason funding hold.id attempt ∧
    hold.request = .depositRefund r.id ∧ hold.transfer = attempt.identity ∧ hold.state = .open_

end

theorem found_refunds {operation : DepositOperation}
    (found : r.FoundByHold operation) : (r.perform operation).refundedThroughHold = true := by
  obtain ⟨hold, block, reason, funding, attempt, rfl, phase, request, transfer, isOpen⟩ := found
  simp [perform, resolveDepositHold, depositHoldStep, request, heldRefundBlocks, phase,
    depositLedgerBlockTransition, ReconciliationHoldRecord.resolveSucceeded,
    ReconciliationHoldRecord.close, isOpen, refundFoundMove, transfer, agreeingOutcome,
    refundedThroughHold, bind, Except.bind, pure, Except.pure]

theorem refundedThroughHold_iff : r.refundedThroughHold = true ↔
    ∃ reason funding attempt block hold,
      r.state = .refunded reason funding attempt block (some hold) := by
  unfold refundedThroughHold
  split
  next reason funding attempt block hold state =>
    exact ⟨fun _ => ⟨_, _, _, _, _, state⟩, fun _ => rfl⟩
  next other =>
    simp only [Bool.false_eq_true, false_iff]
    rintro ⟨_, _, _, _, _, state⟩
    exact other _ _ _ _ _ state

theorem Moves.keeps_refunded (moves : Moves r operation next)
    (phase : r.state.code = 8) : next.state = r.state := by
  cases moves with
  | same | dispatched => rfl
  | resolved resolved =>
    have := resolved.transition
    omega
  | applied applied =>
    have transition := applied.transition
    rw [phase] at transition
    exact absurd transition transition_from_refunded

theorem perform_throughHold (r : DepositRecord) (operation : DepositOperation) :
    (r.perform operation).refundedThroughHold = true ↔
      r.refundedThroughHold = true ∨ r.FoundByHold operation := by
  constructor
  · intro reached
    obtain ⟨reason, funding, attempt, block, holdId, state⟩ := refundedThroughHold_iff.mp reached
    cases operation with
    | apply event =>
      have moves := perform_moves r (.apply event)
      generalize r.perform (.apply event) = next at moves state reached
      cases moves with
      | same => exact .inl reached
      | applied applied => cases applied <;> cases state
    | resolveHold hold resolution =>
      cases resolved : resolveDepositHold r hold resolution with
      | error error =>
        simp only [perform, resolved] at reached
        exact .inl reached
      | ok outcome =>
        obtain ⟨next, hold', result⟩ := outcome
        simp only [perform, resolved] at reached state
        rcases resolveDepositHold_ok resolved with ⟨rfl, _⟩ | ⟨_, _, moved, isOpen, _, rfl, _⟩
        · exact .inl reached
        · cases moved with
          | fundingFound | fundingAbsent | refundAbsent => cases state
          | refundFound phase request transfer =>
            exact .inr ⟨_, _, _, _, _, rfl, phase, request, transfer, isOpen⟩
    | dispatchSignature =>
      simp only [perform, dispatchSignature_state] at state
      exact .inl (refundedThroughHold_iff.mpr ⟨_, _, _, _, _, state⟩)
  · rintro (refunded | found)
    · obtain ⟨_, _, _, _, _, state⟩ := refundedThroughHold_iff.mp refunded
      rw [refundedThroughHold_iff,
        (r.perform_moves operation).keeps_refunded (by rw [state]; rfl), ← refundedThroughHold_iff]
      exact refunded
    · exact found_refunds found

end DepositRecord

namespace DepositRun

variable (run : DepositRun)

def reports (n : Nat) : List ApplyResult :=
  (List.range n).filterMap fun i => run.operations[i]?.bind (run.record i).report

def total (effect : DepositAccountingEffects → Nat) (results : List ApplyResult) : Nat :=
  (results.map fun result => effect result.effects).sum

def final : DepositRecord := run.record run.operations.length

def finalReports : List ApplyResult := run.reports run.operations.length

/-- The reports of a run add up: the liability of a settled deposit is debited in full and that
of a cancelled one not at all, the fee is credited at most once and exactly if it was signed,
minting increases the supply by the net amount, and a refund debits the escrow by the rest. -/
structure Accounted (run : DepositRun) : Prop where
  settled : run.final.isMinted = true ∨ run.final.isRefunded = true →
    total (·.pendingLiabilityDebit) run.finalReports = run.start.grossAmount
  cancelled : run.final.isCancelled = true → total (·.pendingLiabilityDebit) run.finalReports = 0
  feeOnce : (run.finalReports.filter fun result => result.effects.feeCredit ≠ 0).length ≤ 1
  fee : total (·.feeCredit) run.finalReports =
    if run.final.signed then (run.final.quote.map (·.serviceFee)).getD 0 else 0
  minted : total (·.mintSupplyIncrease) run.finalReports =
    if run.final.isMinted then (run.final.quote.map (·.netAmount)).getD 0 else 0
  refunded : total (·.escrowDebit) run.finalReports =
    if run.final.isRefunded then run.start.grossAmount - total (·.feeCredit) run.finalReports else 0

theorem reports_succ {run : DepositRun} (input : run.operations[n]? = some operation) :
    run.reports (n + 1) = run.reports n ++ ((run.record n).report operation).toList := by
  cases reported : (run.record n).report operation <;>
    simp [reports, List.range_succ, List.filterMap_append, input, reported]

theorem reports_done {run : DepositRun} (done : run.operations[n]? = none) :
    run.reports (n + 1) = run.reports n := by
  simp [reports, List.range_succ, List.filterMap_append, done]

theorem total_succ {run : DepositRun} (effect : DepositAccountingEffects → Nat)
    (zero : effect .zero = 0) (input : run.operations[n]? = some operation) :
    total effect (run.reports (n + 1)) =
      total effect (run.reports n) + effect ((run.record n).reportedEffects operation) := by
  rw [reports_succ input]
  cases reported : (run.record n).report operation <;> simp [total, reportedEffects, reported, zero]

/-- The reports of the first `n` operations match what is booked for the record they reach. -/
structure Booked (run : DepositRun) (n : Nat) : Prop where
  coherent : (run.record n).Coherent
  fee : total (·.feeCredit) (run.reports n) = (run.record n).chargedServiceFee
  mint : total (·.mintSupplyIncrease) (run.reports n) = (run.record n).mintBooked
  refund : total (·.escrowDebit) (run.reports n) = (run.record n).refundBooked
  liability : total (·.pendingLiabilityDebit) (run.reports n) = (run.record n).liabilityBooked
  once : ((run.reports n).filter fun result => result.effects.feeCredit ≠ 0).length ≤
    if (run.record n).signed then 1 else 0

theorem credited_step {r next : DepositRecord} {results : List ApplyResult}
    (once : (results.filter fun result => result.effects.feeCredit ≠ 0).length ≤
      if r.signed then 1 else 0)
    (books : r.Books (r.reportedEffects operation) next)
    (keeps : r.signed = true → next.signed = true) :
    ((results ++ (r.report operation).toList).filter fun result =>
      result.effects.feeCredit ≠ 0).length ≤ if next.signed then 1 else 0 := by
  rw [List.filter_append, List.length_append]
  by_cases credited : (r.reportedEffects operation).feeCredit = 0
  · have silent : ((r.report operation).toList.filter fun result =>
        result.effects.feeCredit ≠ 0) = [] := by
      cases reported : r.report operation <;> simp_all [reportedEffects]
    rw [silent, List.length_nil, Nat.add_zero]
    refine once.trans ?_
    by_cases isSigned : r.signed = true
    · simp [isSigned, keeps isSigned]
    · simp [isSigned]
  · obtain ⟨before, after⟩ := books.once credited
    simp only [before, Bool.false_eq_true, if_false] at once
    rw [after, if_pos rfl]
    have single : ((r.report operation).toList.filter fun result =>
        result.effects.feeCredit ≠ 0).length ≤ 1 := by
      refine (List.length_filter_le _ _).trans ?_
      cases r.report operation <;> simp
    omega

theorem booked_start : run.Booked 0 := by
  have coherent := accept_coherent run.accepted
  have code : run.start.state.code = 0 := by rw [run.start_pending]; rfl
  have charged := coherent.blank_charged (.inl code)
  have mint : run.start.mintBooked = 0 := mintBooked_eq_zero (by omega)
  have refund : run.start.refundBooked = 0 := refundBooked_eq_zero (by omega)
  refine ⟨coherent, charged.symm, mint.symm, refund.symm, ?_, Nat.zero_le _⟩
  show 0 = run.start.liabilityBooked
  rw [liabilityBooked, charged, mint, refund]

theorem booked_step {run : DepositRun} (booked : run.Booked n) : run.Booked (n + 1) := by
  cases input : run.operations[n]? with
  | none =>
    have same : run.record (n + 1) = run.record n := Runs.stateAt_done input
    obtain ⟨coherent, fee, mint, refund, liability, once⟩ := booked
    constructor <;> rw [same] <;> (try rw [reports_done input]) <;> assumption
  | some operation =>
    have next : run.record (n + 1) = (run.record n).perform operation := Runs.stateAt_succ input
    have books := perform_books booked.coherent operation
    refine ⟨?_, ?_, ?_, ?_, ?_, ?_⟩
    · rw [next]
      exact ((run.record n).perform_moves operation).coherent booked.coherent
    · rw [total_succ (·.feeCredit) rfl input, booked.fee, next, books.fee]
    · rw [total_succ (·.mintSupplyIncrease) rfl input, booked.mint, next, books.mint]
    · rw [total_succ (·.escrowDebit) rfl input, booked.refund, next, books.refund]
    · rw [total_succ (·.pendingLiabilityDebit) rfl input, booked.liability, next, books.liability]
    · rw [reports_succ input, next]
      exact credited_step booked.once books 
        (((run.record n).perform_moves operation).signed booked.coherent)

theorem booked (n : Nat) : run.Booked n := by
  induction n with
  | zero => exact run.booked_start
  | succ n ih => exact booked_step ih

theorem record_throughHold (n : Nat) :
    (run.record n).refundedThroughHold = true ↔ ∃ m operation, m < n ∧
      run.operations[m]? = some operation ∧ (run.record m).FoundByHold operation := by
  induction n with
  | zero =>
    have pending : (run.record 0).state = .fundingPending := run.start_pending
    simp [refundedThroughHold, pending]
  | succ n ih =>
    cases input : run.operations[n]? with
    | none =>
      have same : run.record (n + 1) = run.record n := Runs.stateAt_done input
      rw [same, ih]
      constructor
      · rintro ⟨m, operation, below, rest⟩
        exact ⟨m, operation, by omega, rest⟩
      · rintro ⟨m, operation, below, found, rest⟩
        refine ⟨m, operation, ?_, found, rest⟩
        by_contra reached
        obtain rfl : m = n := by omega
        cases input.symm.trans found
    | some operation =>
      have next : run.record (n + 1) = (run.record n).perform operation := Runs.stateAt_succ input
      rw [next, perform_throughHold, ih]
      constructor
      · rintro (⟨m, earlier, below, rest⟩ | found)
        · exact ⟨m, earlier, by omega, rest⟩
        · exact ⟨n, operation, by omega, input, found⟩
      · rintro ⟨m, other, below, found, rest⟩
        by_cases last : m = n
        · subst last
          cases input.symm.trans found
          exact .inr rest
        · exact .inl ⟨m, other, by omega, found, rest⟩

def RefundFound : Prop :=
  ∃ n operation, run.operations[n]? = some operation ∧ (run.record n).FoundByHold operation

theorem final_throughHold : run.final.refundedThroughHold = true ↔ run.RefundFound := by
  rw [final, record_throughHold]
  constructor
  · rintro ⟨n, operation, _, rest⟩
    exact ⟨n, operation, rest⟩
  · rintro ⟨n, operation, input, found⟩
    exact ⟨n, operation, (List.getElem?_eq_some_iff.mp input).1, input, found⟩

theorem start_positive : run.start.grossAmount ≠ 0 := by
  obtain ⟨_, rest⟩ := guarded_ok.mp run.accepted
  obtain ⟨amounts, rest⟩ := guarded_ok.mp rest
  rw [← Except.ok.inj rest]
  exact fun none => amounts (.inr none)

theorem charged_lt_gross (n : Nat) : (run.record n).chargedServiceFee < run.start.grossAmount := by
  have fixed := (run.record_fixed n).2
  by_cases isSigned : (run.record n).signed = true
  · obtain ⟨quote, _, positive, charged, split⟩ := (run.booked n).coherent.signed_quote isSigned
    omega
  · have positive := run.start_positive
    simp only [chargedServiceFee, isSigned, Bool.false_eq_true, if_false]
    omega

theorem not_accounted (found : run.final.refundedThroughHold = true) : ¬run.Accounted := by
  intro accounted
  obtain ⟨_, _, _, _, _, state⟩ := refundedThroughHold_iff.mp found
  have debits := accounted.settled (.inr (by simp [isRefunded, state, DepositState.code]))
  have charged := run.charged_lt_gross run.operations.length
  have booked := (run.booked run.operations.length).liability
  have mint : run.final.mintBooked = 0 := by simp [mintBooked, state]
  have refund : run.final.refundBooked = 0 := by simp [refundBooked, state]
  simp only [liabilityBooked] at booked
  simp only [final] at mint refund
  simp only [finalReports] at debits
  omega

theorem mintBooked_final {r : DepositRecord} :
    r.mintBooked = if r.isMinted then (r.quote.map (·.netAmount)).getD 0 else 0 := by
  unfold mintBooked isMinted
  split
  next minted =>
    simp [minted, DepositState.code, netAmount]
  next other =>
    cases state : r.state <;> simp_all [DepositState.code]

theorem refundBooked_final {r : DepositRecord} (direct : r.refundedThroughHold = false) :
    r.refundBooked = if r.isRefunded then r.grossAmount - r.chargedServiceFee else 0 := by
  by_cases isRefunded : r.isRefunded = true
  · rw [if_pos isRefunded]
    cases state : r.state <;> simp [DepositRecord.isRefunded, state, DepositState.code] at isRefunded
    rename_i sourceHold
    cases sourceHold with
    | none => simp [DepositRecord.refundBooked, state]
    | some hold => simp [DepositRecord.refundedThroughHold, state] at direct
  · rw [if_neg isRefunded]
    exact DepositRecord.refundBooked_eq_zero fun code => isRefunded (by
      simp [DepositRecord.isRefunded, code])

/-- The reports of a run add up unless its refund was recorded through a hold. -/
theorem accounted_iff (run : DepositRun) : run.Accounted ↔ ¬run.RefundFound := by
  rw [← final_throughHold]
  constructor
  · exact fun accounted found => run.not_accounted found accounted
  intro found
  have direct : run.final.refundedThroughHold = false := Bool.eq_false_iff.mpr found
  obtain ⟨coherent, fee, mint, refund, liability, once⟩ := run.booked run.operations.length
  have charged := run.charged_lt_gross run.operations.length
  have gross := (run.record_fixed run.operations.length).2
  change run.final.Coherent at coherent
  change total _ run.finalReports = run.final.chargedServiceFee at fee
  change total _ run.finalReports = run.final.mintBooked at mint
  change total _ run.finalReports = run.final.refundBooked at refund
  change total _ run.finalReports = run.final.liabilityBooked at liability
  change run.final.chargedServiceFee < _ at charged
  change run.final.grossAmount = _ at gross
  rw [mintBooked_final] at mint
  rw [refundBooked_final direct] at refund
  rw [liabilityBooked, mintBooked_final, refundBooked_final direct] at liability
  refine ⟨?_, ?_, once.trans (by split <;> omega), fee, mint, ?_⟩
  · rintro (minted | refunded)
    · have code : run.final.state.code = 10 := by simpa [isMinted] using minted
      obtain ⟨quote, quoted, _, charge, split⟩ := coherent.signed_quote (coherent.signed (.inr code))
      simp only [minted, isRefunded, code, quoted] at liability
      simp at liability
      omega
    · have code : run.final.state.code = 8 := by simpa [isRefunded] using refunded
      simp only [refunded, isMinted, code] at liability
      simp at liability
      omega
  · intro cancelled
    have code : run.final.state.code = 9 := by simpa [isCancelled] using cancelled
    rw [coherent.blank_charged (by omega)] at liability
    simpa [isMinted, isRefunded, code] using liability
  · rw [refund, fee, gross]

def sampleRequest : DepositRequest where
  id := 5
  payloadHash := 9
  grossAmount := 100
  userMaxServiceFee := 10
  transfer := { operation := .pullDeposit, createdAtTimeNs := 1, memo := 3, amount := 100, fee := 2
                from_ := ⟨[2], 0, owner_two_valid⟩, to_ := ⟨[1], 0, owner_one_valid⟩
                spender := some ⟨[1], 0, owner_one_valid⟩ }

def sampleRefund : TransferAttempt where
  attemptNo := 0
  identity := { operation := .refundDeposit, createdAtTimeNs := 2, memo := 4, amount := 98, fee := 2
                from_ := ⟨[1], 0, owner_one_valid⟩, to_ := ⟨[2], 0, owner_two_valid⟩, spender := none }

/-- The deposit is funded, offered for refund while Base is paused, and its refund is found on
the ledger only after an ambiguous answer. -/
def heldRefundRun : DepositRun where
  request := sampleRequest
  start := {
    id := 5, payloadHash := 9, grossAmount := 100, maxServiceFee := 10, quote := none
    mintAuthorization := none, mintFinalizationEvidence := none, mintExpiryEvidence := none
    transfer := sampleRequest.transfer, state := .fundingPending }
  accepted := rfl
  operations := [ .apply (.fundingSucceeded 1), .apply (.markRefundAvailable .basePaused none),
    .apply (.startRefund .basePaused sampleRefund none),
    .apply (.refundAmbiguous 7),
    .resolveHold (.opened 7 (.depositRefund 5) sampleRefund.identity) (.refundSucceeded 2)]

/-- The deposit ends refunded, yet no debit of its liability or of the escrow was reported. -/
theorem held_refund_unaccounted : heldRefundRun.final.isRefunded = true ∧
    total (·.pendingLiabilityDebit) heldRefundRun.finalReports = 0 ∧
    total (·.escrowDebit) heldRefundRun.finalReports = 0 ∧ ¬heldRefundRun.Accounted := by
  have refunded : heldRefundRun.final.isRefunded = true := by decide
  have silent : total (·.pendingLiabilityDebit) heldRefundRun.finalReports = 0 := by decide
  refine ⟨refunded, silent, by decide, fun accounted => ?_⟩
  have debits := accounted.settled (.inr refunded)
  rw [silent] at debits
  cases debits

end DepositRun

end KinicBridge
