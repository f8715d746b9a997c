import KinicBridge.Core.DepositRuns

/-! What an operation does to a deposit record, and what every record reached from an
accepted request keeps: its authorization belongs to it, quotes its gross amount, and once
signed is never replaced. -/
namespace KinicBridge.DepositRecord

open DepositRecord DepositState MintAuthorizationRecord

def signedAuthorization (r : DepositRecord) : Option MintAuthorizationRecord :=
  r.mintAuthorization.filter (·.signature.isSome)

inductive Moves (r : DepositRecord) : DepositOperation → DepositRecord → Prop where
  | same : Moves r operation r
  | applied (applied : Applied r event next fee) : Moves r (.apply event) next
  | resolved {state : DepositState} (resolved : DepositHoldResolved r hold resolution answer state) :
      Moves r (.resolveHold hold resolution) { r with state }
  | dispatched (authorization : r.mintAuthorization = some record)
      (dispatched : record.dispatchSignature = some next) :
      Moves r .dispatchSignature { r with mintAuthorization := some next }

theorem perform_moves (r : DepositRecord) (operation : DepositOperation) :
    Moves r operation (r.perform operation) := by
  cases operation with
  | apply event =>
    simp only [perform]
    split
    next next result accepted =>
      rcases apply_ok accepted with ⟨rfl, _⟩ | ⟨fee, _, _, applied, _⟩
      · exact .same
      · exact .applied applied
    · exact .same
  | resolveHold hold resolution =>
    simp only [perform]
    split
    next next hold' result resolved =>
      rcases resolveDepositHold_ok resolved with ⟨rfl, _⟩ | ⟨_, _, moved, _, _, rfl, _⟩
      · exact .same
      · exact .resolved moved
    · exact .same
  | dispatchSignature =>
    simp only [perform, dispatchSignature]
    split
    next next dispatched =>
      obtain ⟨record, authorization, dispatched⟩ := Option.bind_eq_some_iff.mp dispatched
      exact .dispatched authorization dispatched
    · exact .same

/-- An authorization that was made for this record: its fields are the record's, and its
fee with the net amount makes up the gross amount. -/
structure Quotes (r : DepositRecord) (record : MintAuthorizationRecord) (quote : DepositQuote) :
    Prop where
  quoted : r.quote = some quote
  positive : quote.netAmount ≠ 0
  split : quote.netAmount + quote.serviceFee = r.grossAmount
  depositId : record.authorization.depositId = r.id
  gross : record.authorization.grossAmount = r.grossAmount
  fee : record.authorization.chargedServiceFee = quote.serviceFee

structure Coherent (r : DepositRecord) : Prop where
  blank : r.state.code = 0 ∨ r.state.code = 1 ∨ r.state.code = 5 ∨ r.state.code = 9 →
    r.mintAuthorization = none
  pending : r.state.code = 2 → ∃ record, r.mintAuthorization = some record ∧ record.signature = none
  signed : r.state.code = 3 ∨ r.state.code = 10 → r.signed = true
  unquoted : r.mintAuthorization = none → r.quote = none
  quotes : ∀ record, r.mintAuthorization = some record → ∃ quote, r.Quotes record quote

theorem accept_coherent (accepted : accept request = .ok r) : r.Coherent := by
  obtain ⟨_, rest⟩ := guarded_ok.mp accepted
  obtain ⟨_, rest⟩ := guarded_ok.mp rest
  cases rest
  exact ⟨fun _ => rfl, nofun, nofun, fun _ => rfl, nofun⟩

variable {r next : DepositRecord} {quote : DepositQuote} {record : MintAuthorizationRecord}
  {state : DepositState}

theorem commitGuard_accepts (guard : (r.commitGuard quote record).accepts = true) :
    record.signature = none ∧
      Quotes { r with quote := some quote, mintAuthorization := some record } record quote := by
  simp only [commitGuard, Kernel.DepositEventGuard.accepts, Bool.and_eq_true, beq_iff_eq,
    bne_iff_ne, Option.isNone_iff_eq_none] at guard
  obtain ⟨⟨⟨⟨⟨fields, valid⟩, _⟩, _⟩, pristine⟩, _⟩ := guard
  have split : quote.netAmount ≠ 0 ∧ quote.netAmount + quote.serviceFee = r.grossAmount := by
    cases checked : quote.validate r.grossAmount with
    | error error => simp [checked, Except.isOk, Except.toBool] at valid
    | ok done => exact DepositQuote.validate_ok checked
  obtain ⟨⟨⟨⟨⟨⟨⟨⟨⟨depositId, _⟩, gross⟩, _⟩, fee⟩, _⟩, _⟩, _⟩, _⟩, _⟩ := fields
  exact ⟨pristine.1.1, rfl, split.1, split.2, depositId, gross, fee⟩

theorem mintGuard_signed (guard : (r.mintGuard evidence).accepts = true) : r.signed = true := by
  simp only [mintGuard, Kernel.DepositEventGuard.accepts, Kernel.mintFinalizationAllowed,
    Bool.and_eq_true, Option.any_eq_true] at guard
  obtain ⟨⟨⟨⟨⟨record, found, fields⟩, _⟩, _⟩, _⟩, _⟩ := guard
  have signature : record.signature.isSome = true := by tauto
  simp [signed, found, signature]

theorem Quotes.transfer {record' : MintAuthorizationRecord} (quotes : r.Quotes record quote)
    (same : record'.authorization = record.authorization) (sameQuote : next.quote = r.quote)
    (accepted : next.id = r.id ∧ next.grossAmount = r.grossAmount) : next.Quotes record' quote where
  quoted := sameQuote.trans quotes.quoted
  positive := quotes.positive
  split := quotes.split.trans accepted.2.symm
  depositId := by rw [same, quotes.depositId, accepted.1]
  gross := by rw [same, quotes.gross, accepted.2]
  fee := by rw [same, quotes.fee]

theorem Coherent.restate (coherent : r.Coherent)
    (authorization : next.mintAuthorization = r.mintAuthorization) (quote : next.quote = r.quote)
    (accepted : next.id = r.id ∧ next.grossAmount = r.grossAmount)
    (phase : next.state.code = 4 ∨ next.state.code = 6 ∨ next.state.code = 7 ∨
      next.state.code = 8) : next.Coherent where
  blank code := by omega
  pending code := by omega
  signed code := by omega
  unquoted none := by rw [quote, coherent.unquoted (by rw [← authorization, none])]
  quotes record found := by
    obtain ⟨quoted, quotes⟩ := coherent.quotes record (by rw [← authorization, found])
    exact ⟨quoted, quotes.transfer rfl quote accepted⟩

theorem unquoted_coherent (r : DepositRecord)
    (phase : state.code = 1 ∨ state.code = 5 ∨ state.code = 9) : (r.unquoted state).Coherent where
  blank _ := rfl
  pending code := by simp only [unquoted] at code; omega
  signed code := by simp only [unquoted] at code; omega
  unquoted _ := rfl
  quotes record found := by cases found

theorem Applied.coherent {event : DepositEvent}
    (applied : Applied r event next fee) (coherent : r.Coherent) : next.Coherent := by
  cases applied with
  | funded | fundingHeld | fundingCancelled =>
    exact unquoted_coherent r (by simp [code])
  | committed phase guard =>
    obtain ⟨unsigned, quotes⟩ := commitGuard_accepts guard
    refine ⟨by simp [code], fun _ => ⟨_, rfl, unsigned⟩, by simp [code], by simp, ?_⟩
    rintro record ⟨⟩
    exact ⟨_, quotes.transfer rfl rfl ⟨rfl, rfl⟩⟩
  | installed phase guard authorization installs quoted =>
    obtain ⟨_, _, rfl⟩ := install_eq_some installs
    refine ⟨by simp [code], by simp [code], fun _ => rfl, by simp, ?_⟩
    rintro record ⟨⟩
    obtain ⟨quote, quotes⟩ := coherent.quotes _ authorization
    exact ⟨quote, quotes.transfer rfl rfl ⟨rfl, rfl⟩⟩
  | mintRecorded phase guard =>
    refine ⟨by simp [code], by simp [code], fun _ => ?_, coherent.unquoted, ?_⟩
    · exact mintGuard_signed guard
    · intro record found
      obtain ⟨quote, quotes⟩ := coherent.quotes record found
      exact ⟨quote, quotes.transfer rfl rfl ⟨rfl, rfl⟩⟩
  | refundOffered | refundStarted | refundPaid | refundHeld =>
    exact coherent.restate rfl rfl ⟨rfl, rfl⟩ (by simp [code])

theorem resolved_coherent (coherent : r.Coherent)
    (resolved : DepositHoldResolved r hold resolution answer state) :
    Coherent { r with state } := by
  rcases resolved.transition with ⟨before, after⟩ | ⟨before, after⟩
  · have blank := coherent.blank (by omega)
    refine ⟨fun _ => blank, fun code => ?_, fun code => ?_, coherent.unquoted, ?_⟩
    · simp only at code
      omega
    · simp only at code
      omega
    · intro record found
      cases blank.symm.trans found
  · refine coherent.restate rfl rfl ⟨rfl, rfl⟩ ?_
    simp only
    omega

theorem dispatched_coherent {next : MintAuthorizationRecord}
    (coherent : r.Coherent) (authorization : r.mintAuthorization = some record)
    (dispatched : record.dispatchSignature = some next) :
    Coherent { r with mintAuthorization := some next } := by
  obtain ⟨unsigned, attempt, rfl⟩ := dispatch_eq_some dispatched
  have open_ : r.signed = false := by simp [signed, authorization, unsigned]
  refine ⟨fun code => ?_, fun _ => ⟨_, rfl, unsigned⟩, fun code => ?_, nofun, ?_⟩
  · cases (coherent.blank code).symm.trans authorization
  · cases (coherent.signed code).symm.trans open_
  · rintro record' ⟨⟩
    obtain ⟨quote, quotes⟩ := coherent.quotes record authorization
    exact ⟨quote, quotes.transfer rfl rfl ⟨rfl, rfl⟩⟩

theorem Moves.coherent (moves : Moves r operation next)
    (coherent : r.Coherent) : next.Coherent := by
  cases moves with
  | same => exact coherent
  | applied applied => exact applied.coherent coherent
  | resolved resolved => exact resolved_coherent coherent resolved
  | dispatched authorization dispatched =>
    exact dispatched_coherent coherent authorization dispatched

theorem signedAuthorization_eq_some : r.signedAuthorization = some record ↔
      r.mintAuthorization = some record ∧ record.signature.isSome = true := by
  simp [signedAuthorization, Option.filter_eq_some_iff]

theorem signed_iff : r.signed = true ↔ ∃ record, r.signedAuthorization = some record := by
  simp [signed, signedAuthorization_eq_some, Option.any_eq_true]

theorem Coherent.unsigned_of_blank (coherent : r.Coherent)
    (phase : r.state.code = 0 ∨ r.state.code = 1 ∨ r.state.code = 5 ∨ r.state.code = 9) :
    r.signedAuthorization = none := by
  simp [signedAuthorization, coherent.blank phase]

theorem Moves.signedAuthorization (moves : Moves r operation next) (coherent : r.Coherent) :
    next.signedAuthorization = r.signedAuthorization ∨
      (r.signedAuthorization = none ∧ r.state.code = 2 ∧ next.state.code = 3) := by
  cases moves with
  | same => exact .inl rfl
  | resolved => exact .inl rfl
  | dispatched authorization dispatched =>
    obtain ⟨unsigned, attempt, rfl⟩ := dispatch_eq_some dispatched
    exact .inl (by simp [signedAuthorization, authorization, unsigned, Option.filter])
  | applied applied =>
    cases applied with
    | funded phase | fundingHeld phase | fundingCancelled phase =>
      refine .inl ?_
      rw [coherent.unsigned_of_blank (by simp [phase, code])]
      rfl
    | committed phase guard =>
      refine .inl ?_
      rw [coherent.unsigned_of_blank (by simp [phase, code])]
      simp [signedAuthorization, (commitGuard_accepts guard).1]
    | installed phase guard authorization installs =>
      obtain ⟨unsigned, _, rfl⟩ := install_eq_some installs
      exact .inr ⟨by simp [signedAuthorization, authorization, unsigned],
        by simp [phase, code], rfl⟩
    | _ => exact .inl rfl

theorem Moves.signed (moves : Moves r operation next)
    (coherent : r.Coherent) (isSigned : r.signed = true) : next.signed = true := by
  obtain ⟨record, found⟩ := signed_iff.mp isSigned
  rcases moves.signedAuthorization coherent with same | ⟨none, _⟩
  · exact signed_iff.mpr ⟨record, same.trans found⟩
  · cases none.symm.trans found

/-- What a refund start has proved about Base: nothing was signed, or the signed
authorization was seen unprocessed after its deadline. -/
def ExpiryProven (r : DepositRecord) : Option MintExpiryEvidence → Prop
  | none => r.signedAuthorization = none
  | some evidence => ∃ record, r.signedAuthorization = some record ∧
      evidence.depositId = record.authorization.depositId ∧ evidence.depositProcessed = false ∧
      record.authorization.deadline < evidence.finalizedBlockTimestamp

theorem refundPolicyMatches_proven (policy : r.refundPolicyMatches reason expiryEvidence = true) :
    r.ExpiryProven expiryEvidence := by
  unfold refundPolicyMatches at policy
  split at policy
  next evidence phase =>
    simp only [Bool.and_eq_true] at policy
    obtain ⟨signed, _, matching⟩ := policy
    obtain ⟨record, found⟩ := signed_iff.mp signed
    simp only [expiryEvidenceMatches, (signedAuthorization_eq_some.mp found).1,
      Kernel.expiryRefundAllowed, Bool.and_eq_true, beq_iff_eq, decide_eq_true_eq,
      Bool.not_eq_true'] at matching
    exact ⟨record, found, by tauto, by tauto, by tauto⟩
  · simp only [Bool.and_eq_true, Bool.not_eq_true'] at policy
    cases found : r.signedAuthorization with
    | none => exact found
    | some record => cases (signed_iff.mpr ⟨record, found⟩).symm.trans policy.1
  · contradiction

theorem Moves.refund_starts (moves : Moves r operation next) (started : next.refundStarted = true) :
    r.refundStarted = true ∨ ∃ reason attempt expiryEvidence,
      operation = .apply (.startRefund reason attempt expiryEvidence) ∧
      next.signedAuthorization = r.signedAuthorization ∧ r.ExpiryProven expiryEvidence := by
  cases moves with
  | same => exact .inl started
  | dispatched => exact .inl started
  | resolved resolved =>
    rcases resolved.transition with ⟨_, after⟩ | ⟨before, _⟩
    · simp only [refundStarted, Bool.or_eq_true, beq_iff_eq] at started
      omega
    · exact .inl (by simp [refundStarted, before])
  | applied applied =>
    cases applied with
    | refundStarted phase matching policy =>
      exact .inr ⟨_, _, _, rfl, rfl, refundPolicyMatches_proven policy⟩
    | refundPaid phase | refundHeld phase =>
      exact .inl (by simp [refundStarted, phase, code])
    | _ => simp [refundStarted, unquoted, code] at started

theorem Moves.refundStarted (moves : Moves r operation next)
    (started : r.refundStarted = true) : next.refundStarted = true := by
  have code : r.state.code = 6 ∨ r.state.code = 7 ∨ r.state.code = 8 := by
    simpa [DepositRecord.refundStarted, or_assoc] using started
  simp only [DepositRecord.refundStarted, Bool.or_eq_true, beq_iff_eq]
  cases moves with
  | same => omega
  | dispatched => simp only; omega
  | resolved resolved =>
    have := resolved.transition
    simp only
    omega
  | applied applied =>
    have := transition_from_refund code applied.transition
    omega

end KinicBridge.DepositRecord
