import KinicBridge.Core.Deposit

/-! What one successful `DepositRecord::apply` can do. Every later argument about a
deposit splits on the transitions listed here and never unfolds `apply`. -/
namespace KinicBridge.DepositRecord

/-- The transitions of the machine with the phase they need, the guard they passed, the
record they reach and the fee they credit. -/
inductive Applied (r : DepositRecord) : DepositEvent → DepositRecord → Nat → Prop where
  | funded (phase : r.state = .fundingPending) :
      Applied r (.fundingSucceeded block) (r.unquoted (.escrowedUnquoted block)) 0
  | fundingHeld (phase : r.state = .fundingPending) :
      Applied r (.fundingAmbiguous holdId) (r.unquoted (.fundingReconciliationHold holdId)) 0
  | fundingCancelled (phase : r.state = .fundingPending) :
      Applied r (.fundingFailed code) (r.unquoted (.cancelled none none (some code))) 0
  | committed {quote : DepositQuote} (phase : r.state = .escrowedUnquoted funding)
      (guard : (r.commitGuard quote record).accepts = true) :
      Applied r (.commitAuthorization quote record)
        { r with
          state := .authorizationPending funding
          quote := some quote
          mintAuthorization := some record
          mintFinalizationEvidence := none
          mintExpiryEvidence := none } 0
  | installed {quote : DepositQuote} (phase : r.state = .authorizationPending funding)
      (guard : (r.installGuard signature observedTimestamp).accepts = true)
      (authorization : r.mintAuthorization = some record)
      (installs : record.installSignature signature = some next) (quoted : r.quote = some quote) :
      Applied r (.authorizationSigned signature observedTimestamp)
        { r with state := .authorizationAvailable funding, mintAuthorization := some next }
        quote.serviceFee
  | refundOffered (phase : r.state = .escrowedUnquoted funding ∨
        r.state = .authorizationPending funding ∨ r.state = .authorizationAvailable funding)
      (policy : r.refundPolicyAllowed reason finalizedTimestamp = true) :
      Applied r (.markRefundAvailable reason finalizedTimestamp)
        { r with state := .refundAvailable reason funding } 0
  | mintRecorded (phase : r.state = .authorizationAvailable funding ∨
        ∃ reason, r.state = .refundAvailable reason funding)
      (guard : (r.mintGuard evidence).accepts = true) :
      Applied r (.mintReconciled evidence)
        { r with
          state := .minted funding
          mintFinalizationEvidence := some evidence
          mintExpiryEvidence := none } 0
  | refundStarted (phase : r.state = .refundAvailable expected funding)
      (matching : r.refundAttemptMatches attempt = true)
      (policy : r.refundPolicyMatches reason expiryEvidence = true) :
      Applied r (.startRefund reason attempt expiryEvidence)
        { r with
          state := .refundPending reason funding attempt
          mintExpiryEvidence := expiryEvidence } 0
  | refundPaid (phase : r.state = .refundPending reason funding attempt) :
      Applied r (.refundSucceeded block)
        { r with state := .refunded reason funding attempt block none } 0
  | refundHeld (phase : r.state = .refundPending reason funding attempt) :
      Applied r (.refundAmbiguous holdId)
        { r with state := .refundReconciliationHold reason funding holdId attempt } 0

theorem Applied.transition {r next : DepositRecord} {event : DepositEvent}
    (applied : Applied r event next fee) :
    Kernel.depositTransition r.state.code event.code = some next.state.code := by
  cases applied with
  | refundOffered phase => rcases phase with phase | phase | phase <;> rw [phase] <;> rfl
  | mintRecorded phase => rcases phase with phase | ⟨_, phase⟩ <;> rw [phase] <;> rfl
  | _ => simp only [*]; rfl

theorem Applied.accepted {r next : DepositRecord} {event : DepositEvent}
    (applied : Applied r event next fee) :
    next.id = r.id ∧ next.transfer = r.transfer ∧ next.grossAmount = r.grossAmount := by
  cases applied <;> exact ⟨rfl, rfl, rfl⟩

theorem transitionFields_applied {r next : DepositRecord} {event : DepositEvent}
    (fields : r.transitionFields event = .ok (next, fee))
    (guard : (r.transitionGuard event).1.accepts = true) : Applied r event next fee := by
  cases phase : r.state <;> cases event <;> simp only [transitionFields, phase] at fields <;>
    try contradiction
  case fundingPending.fundingSucceeded => cases fields; exact .funded phase
  case fundingPending.fundingAmbiguous => cases fields; exact .fundingHeld phase
  case fundingPending.fundingFailed => cases fields; exact .fundingCancelled phase
  case escrowedUnquoted.commitAuthorization => cases fields; exact .committed phase guard
  case escrowedUnquoted.markRefundAvailable => cases fields; exact .refundOffered (.inl phase) guard
  case authorizationPending.authorizationSigned funding signature observed =>
    obtain ⟨record, authorization, fields⟩ := found_ok.mp fields
    obtain ⟨installed, installs, fields⟩ := found_ok.mp fields
    obtain ⟨quote, quoted, fields⟩ := found_ok.mp fields
    cases pure_ok.mp fields
    exact .installed phase guard authorization installs quoted
  case authorizationPending.markRefundAvailable =>
    cases fields; exact .refundOffered (.inr (.inl phase)) guard
  case authorizationAvailable.markRefundAvailable =>
    cases fields; exact .refundOffered (.inr (.inr phase)) guard
  case authorizationAvailable.mintReconciled => cases fields; exact .mintRecorded (.inl phase) guard
  case refundAvailable.mintReconciled =>
    cases fields; exact .mintRecorded (.inr ⟨_, phase⟩) guard
  case refundAvailable.startRefund =>
    cases fields
    have both := Bool.and_eq_true_iff.mp guard
    exact .refundStarted phase both.1 both.2
  case refundPending.refundSucceeded => cases fields; exact .refundPaid phase
  case refundPending.refundAmbiguous => cases fields; exact .refundHeld phase

theorem apply_ok {r r' : DepositRecord} {event : DepositEvent}
    (accepted : r.apply event = .ok (r', result)) :
    (r' = r ∧ result = .ofIdempotent ∧ r.isIdempotent event = true) ∨
    ∃ fee reserved effects, Applied r event r' fee ∧ r.isIdempotent event = false ∧
      r.reservedMintAmount = .ok reserved ∧ result = .appliedDeposit effects.accounting ∧
      Kernel.depositTransitionDecision (r.transitionInput event reserved) = .apply effects ∧
      r.effectMismatch r' fee effects = false := by
  obtain ⟨expected, _, rest⟩ := bind_ok.mp accepted
  obtain ⟨reserved, reservation, rest⟩ := bind_ok.mp rest
  split at rest
  next replay =>
    cases pure_ok.mp rest
    exact .inl ⟨rfl, rfl, Kernel.decision_idempotent replay⟩
  · exact absurd rest throw_ne_ok
  next effects applied =>
    obtain ⟨fresh, guard, _, _⟩ := Kernel.decision_applied applied
    obtain ⟨⟨next, fee⟩, fields, rest⟩ := bind_ok.mp rest
    obtain ⟨_, rest⟩ := thrown_ok.mp rest
    split at rest
    · exact absurd rest throw_ne_ok
    next agrees =>
      cases pure_ok.mp rest
      exact .inr ⟨fee, reserved, effects, transitionFields_applied fields guard, fresh,
        reservation, rfl, applied, Bool.eq_false_iff.mpr agrees⟩

end KinicBridge.DepositRecord
