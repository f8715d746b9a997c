import KinicBridge.Core.DepositChecks
import KinicBridge.Deposits.Admission

/-! From every deposit the canister admits there is a way to its end. A refund can always be
formed, since admission and commit leave more than the fees, and every phase leads to one or to a
mint. -/
namespace KinicBridge

open Checked DepositState Kernel ReconciliationHoldRecord

structure DepositRules where
  config : BridgeConfig
  deployment : Deployment
  attestation : Option ActivationAttestation

namespace DepositRules

/-- `commit_deposit_authorization` refuses what `unsigned_authorization_rejection` rejects;
other operations have no rule of their own here. -/
def Permits (rules : DepositRules) : DepositOperation → Prop
  | .apply (.commitAuthorization _ record) =>
    unsignedAuthorizationRejection rules.config rules.deployment rules.attestation record = .ok none
  | _ => True

end DepositRules

namespace DepositRecord

/-- The records the canister can reach: accepted for validated arguments, then changed by any
operations its rules permit. -/
inductive Admitted (rules : DepositRules) : DepositRecord → Prop where
  | accepted (valid : validateDepositArgs rules.config caller args = .ok checked)
      (opened : accept ⟨depositId, payload, checked.grossAmount, checked.maxServiceFee, pull⟩ =
        .ok r) : Admitted rules r
  | performed (reached : Admitted rules r) (permitted : rules.Permits operation) :
      Admitted rules (r.perform operation)

structure Refundable (ledgerFee : Nat) (r : DepositRecord) : Prop where
  fits : r.grossAmount ≤ limit 128
  unsigned : ledgerFee < r.grossAmount
  authorized : ∀ record, r.mintAuthorization = some record →
    record.authorization.chargedServiceFee + ledgerFee < r.grossAmount
  expired : ∀ reason funding, r.state = .refundAvailable reason funding → r.signed = true →
    reason = .authorizationExpired

section

variable {r : DepositRecord}

theorem Refundable.enough (refundable : r.Refundable ledgerFee)
    (coherent : r.Coherent) : r.chargedServiceFee + ledgerFee < r.grossAmount := by
  by_cases isSigned : r.signed = true
  · obtain ⟨record, found⟩ := signed_iff.mp isSigned
    have authorization := (signedAuthorization_eq_some.mp found).1
    obtain ⟨quote, quotes⟩ := coherent.quotes record authorization
    have committed := refundable.authorized record authorization
    rw [quotes.fee] at committed
    simpa [chargedServiceFee, isSigned, quotes.quoted] using committed
  · simpa [chargedServiceFee, isSigned] using refundable.unsigned

theorem accept_refundable {request : DepositRequest} (opened : accept request = .ok r)
    (enough : ledgerFee < request.grossAmount) (fits : request.grossAmount ≤ limit 128) :
    r.Refundable ledgerFee := by
  obtain ⟨_, rest⟩ := guarded_ok.mp opened
  obtain ⟨_, rest⟩ := guarded_ok.mp rest
  cases rest
  exact ⟨fits, enough, nofun, nofun⟩

def Timely (r : DepositRecord) : Prop :=
  ∀ record, r.signedAuthorization = some record → record.authorization.deadline < limit 64

theorem signed_of_not_timely (timeless : ¬r.Timely) :
    ∃ record, r.signedAuthorization = some record := by
  simp only [Timely, not_forall] at timeless
  obtain ⟨record, found, _⟩ := timeless
  exact ⟨record, found⟩

section

variable (coherent : r.Coherent)
  (phase : r.state = .escrowedUnquoted funding ∨ r.state = .authorizationPending funding ∨
    r.state = .authorizationAvailable funding)

include coherent phase

theorem offered_signed (policy : r.refundPolicyAllowed reason finalizedTimestamp = true)
    (isSigned : r.signed = true) : reason = .authorizationExpired := by
  rcases phase with phase | phase | phase
  · have blank := coherent.blank (by simp [phase, code])
    simp [signed, blank] at isSigned
  · obtain ⟨record, found, unsigned⟩ := coherent.pending (by simp [phase, code])
    simp [signed, found, unsigned] at isSigned
  · cases reason <;> simp_all [refundPolicyAllowed]

theorem offer_accepted (policy : r.refundPolicyAllowed reason finalizedTimestamp = true) :
    ∃ result, r.apply (.markRefundAvailable reason finalizedTimestamp) =
      .ok ({ r with state := .refundAvailable reason funding }, result) := by
  apply Applied.succeeds coherent (.refundOffered phase policy)
  rcases phase with phase | phase | phase <;> simp [isIdempotent, phase]

/-- The reasons that end the wait for Base: a pause before any quote, a defect before the
signature, the last timestamp a block can have once the deadline is before it. -/
theorem offer_policy (timely : r.Timely) : ∃ reason finalizedTimestamp,
    r.refundPolicyAllowed reason finalizedTimestamp = true ∧
      (r.signed = true → reason = .authorizationExpired) := by
  rcases phase with phase | phase | phase
  · refine ⟨.basePaused, none, by simp [refundPolicyAllowed, phase], fun isSigned => ?_⟩
    simp [signed, coherent.blank (by simp [phase, code])] at isSigned
  · obtain ⟨record, found, unsigned⟩ := coherent.pending (by simp [phase, code])
    refine ⟨.invalidRecipient, none, by simp [refundPolicyAllowed, phase, found, unsigned], ?_⟩
    simp [signed, found, unsigned]
  · obtain ⟨record, found⟩ := signed_iff.mp (coherent.signed (by simp [phase, code]))
    refine ⟨.authorizationExpired, some (limit 64), ?_, fun _ => rfl⟩
    simp [refundPolicyAllowed, phase, (signedAuthorization_eq_some.mp found).1,
      timely record found]

end

theorem Applied.refundable {next : DepositRecord} {event : DepositEvent}
    (applied : Applied r event next fee) (coherent : r.Coherent)
    (refundable : r.Refundable ledgerFee)
    (committed : ∀ quote record, event = .commitAuthorization quote record →
      record.signature = none →
      record.authorization.chargedServiceFee + ledgerFee < record.authorization.grossAmount) :
    next.Refundable ledgerFee := by
  obtain ⟨fits, unsigned, authorized, expired⟩ := refundable
  cases applied with
  | funded | fundingHeld | fundingCancelled => exact ⟨fits, unsigned, nofun, nofun⟩
  | committed phase guard =>
    obtain ⟨fresh, quotes⟩ := commitGuard_accepts guard
    refine ⟨fits, unsigned, ?_, nofun⟩
    rintro record ⟨⟩
    have enough := committed _ _ rfl fresh
    rwa [quotes.gross] at enough
  | installed phase guard authorization installs =>
    obtain ⟨_, _, rfl⟩ := MintAuthorizationRecord.install_eq_some installs
    refine ⟨fits, unsigned, ?_, nofun⟩
    rintro record ⟨⟩
    have kept := authorized _ authorization
    exact kept
  | refundOffered phase policy =>
    refine ⟨fits, unsigned, authorized, ?_⟩
    rintro reason funding ⟨⟩ isSigned
    exact offered_signed coherent phase policy isSigned
  | mintRecorded | refundStarted | refundPaid | refundHeld =>
    exact ⟨fits, unsigned, authorized, nofun⟩

theorem Admitted.invariant {rules : DepositRules} (admitted : Admitted rules r) :
    r.Coherent ∧ r.Refundable rules.config.ledgerFee := by
  induction admitted with
  | accepted valid opened =>
    obtain ⟨enough, fits⟩ := validateDepositArgs_ok valid
    exact ⟨accept_coherent opened, accept_refundable opened enough fits⟩
  | @performed r operation reached permitted ih =>
    obtain ⟨coherent, refundable⟩ := ih
    have moves := perform_moves r operation
    refine ⟨moves.coherent coherent, ?_⟩
    generalize r.perform operation = next at moves
    cases moves with
    | same => exact refundable
    | applied applied =>
      refine applied.refundable coherent refundable fun quote record commits fresh => ?_
      subst commits
      exact unrejected_refundable fresh permitted
    | resolved resolved =>
      refine ⟨refundable.fits, refundable.unsigned, refundable.authorized, ?_⟩
      cases resolved <;> nofun
    | dispatched authorization dispatched =>
      obtain ⟨unsigned, attempt, rfl⟩ := MintAuthorizationRecord.dispatch_eq_some dispatched
      refine ⟨refundable.fits, refundable.unsigned, ?_, ?_⟩
      · rintro record ⟨⟩
        have kept := refundable.authorized _ authorization
        exact kept
      · intro reason funding phase isSigned
        simp [signed, unsigned] at isSigned

theorem fund_accepted (coherent : r.Coherent) (phase : r.state = .fundingPending) (block : Nat) :
    ∃ result, r.apply (.fundingSucceeded block) =
      .ok (r.unquoted (.escrowedUnquoted block), result) := by
  apply Applied.succeeds coherent (.funded phase)
  simp [isIdempotent, phase, ledgerBlocks]

theorem start_accepted (coherent : r.Coherent) (phase : r.state = .refundAvailable expected funding)
    (matching : r.refundAttemptMatches attempt = true)
    (policy : r.refundPolicyMatches reason expiryEvidence = true) :
    ∃ result, r.apply (.startRefund reason attempt expiryEvidence) = .ok ({ r with
        state := .refundPending reason funding attempt
        mintExpiryEvidence := expiryEvidence }, result) := by
  apply Applied.succeeds coherent (.refundStarted phase matching policy)
  simp [isIdempotent, phase]

theorem refund_accepted (coherent : r.Coherent)
    (phase : r.state = .refundPending reason funding attempt) (block : Nat) :
    ∃ result, r.apply (.refundSucceeded block) =
      .ok ({ r with state := .refunded reason funding attempt block none }, result) := by
  apply Applied.succeeds coherent (.refundPaid phase)
  simp [isIdempotent, phase]

end

inductive Continues : DepositRecord → List DepositOperation → DepositRecord → Prop where
  | done : Continues r [] r
  | event (accepted : r.apply event = .ok (next, result)) (rest : Continues next operations last) :
      Continues r (.apply event :: operations) last
  | hold (resolved : resolveDepositHold r hold resolution = .ok (next, hold', result))
      (rest : Continues next operations last) :
      Continues r (.resolveHold hold resolution :: operations) last

def isTerminal (r : DepositRecord) : Bool := r.isMinted || r.isRefunded || r.isCancelled

def Settles (r : DepositRecord) : Prop :=
  ∃ operations last, Continues r operations last ∧ (last.isMinted || last.isRefunded) = true

theorem Settles.event {r next : DepositRecord} {event : DepositEvent} (accepted : ∃ result,
    r.apply event = .ok (next, result)) (settles : next.Settles) : r.Settles := by
  obtain ⟨result, accepted⟩ := accepted
  obtain ⟨operations, last, continues, settled⟩ := settles
  exact ⟨_, last, .event accepted continues, settled⟩

theorem settles_pending {r : DepositRecord} (coherent : r.Coherent)
    (phase : r.state = .refundPending reason funding attempt) : r.Settles :=
  .event (refund_accepted coherent phase 0) ⟨[], _, .done, rfl⟩

theorem settles_held {r : DepositRecord}
    (phase : r.state = .refundReconciliationHold reason funding holdId attempt) : r.Settles := by
  have resolved : resolveDepositHold r (.opened holdId (.depositRefund r.id) attempt.identity)
      (.refundSucceeded 0) = .ok ({ r with
        state := .refunded reason funding attempt 0 (some holdId) },
        ⟨holdId, .depositRefund r.id, attempt.identity, .resolvedSucceeded 0⟩, .ofApplied 0) := by
    simp [resolveDepositHold, depositHoldStep, heldRefundBlocks, phase,
      opened, depositLedgerBlockTransition,
      resolveSucceeded, close, refundFoundMove,
      agreeingOutcome, bind, Except.bind, pure, Except.pure]
  exact ⟨_, _, .hold resolved .done, rfl⟩

/-- The attempt `prepare_deposit_refund` forms passes the guard of the machine. -/
theorem Refundable.attempt {config : BridgeConfig} {r : DepositRecord} (coherent : r.Coherent)
    (refundable : r.Refundable config.ledgerFee) (now : Nat) :
    ∃ amount, depositRefundAmount r.grossAmount r.chargedServiceFee config.ledgerFee =
        some amount ∧ r.refundAttemptMatches ⟨0, config.refundIdentity now r amount⟩ = true := by
  have enough := refundable.enough coherent
  refine ⟨r.grossAmount - r.chargedServiceFee - config.ledgerFee, ?_, ?_⟩
  · unfold depositRefundAmount
    rw [if_neg (by omega)]
  · have fits := refundable.fits
    have first : add 128 (r.grossAmount - r.chargedServiceFee - config.ledgerFee)
        config.ledgerFee = some (r.grossAmount - r.chargedServiceFee) :=
      add_eq_some.mpr ⟨by omega, by omega⟩
    have second : add 128 (r.grossAmount - r.chargedServiceFee) r.chargedServiceFee =
        some r.grossAmount := add_eq_some.mpr ⟨by omega, fits⟩
    simp [refundAttemptMatches, BridgeConfig.refundIdentity, first, second]

def expiredEvidence (record : MintAuthorizationRecord) : MintExpiryEvidence where
  depositId := record.authorization.depositId
  authorizationDigest := record.digest
  chainId := record.domain.chainId
  verifyingContract := record.domain.verifyingContract
  depositProcessed := false
  finalizedBlockNumber := record.origin.finalizedBlockNumber
  finalizedBlockHash := 1
  finalizedBlockTimestamp := limit 64
  bridgeSigner := 0
  mintAuthorizationEpoch := record.authorization.authorizationEpoch
  runtimeSha256 := 1
  rpcRequestDigest := 1
  rpcResponseDigest := 1

section

variable {r : DepositRecord}

theorem expired_policy (phase : r.state = .refundAvailable
      .authorizationExpired funding) (authorization : r.mintAuthorization = some record)
    (isSigned : r.signed = true) (timely : record.authorization.deadline < limit 64) :
    r.refundPolicyMatches .authorizationExpired (some (expiredEvidence record)) = true := by
  simp [refundPolicyMatches, phase, isSigned, expiryEvidenceMatches, authorization, expiredEvidence,
    expiryRefundAllowed, timely]

def mintedEvidence (record : MintAuthorizationRecord) : MintFinalizationEvidence where
  depositId := record.authorization.depositId
  recipient := record.authorization.recipient
  authorizationDigest := record.digest
  chainId := record.domain.chainId
  verifyingContract := record.domain.verifyingContract
  grossAmount := record.authorization.grossAmount
  chargedServiceFee := record.authorization.chargedServiceFee
  mintedAmount := record.authorization.grossAmount - record.authorization.chargedServiceFee
  transactionHash := 1
  logIndex := 0
  receiptSucceeded := true
  receiptBlockNumber := record.origin.finalizedBlockNumber
  receiptBlockHash := 1
  finalizedBlockNumber := record.origin.finalizedBlockNumber
  finalizedBlockHash := 1
  rpcRequestDigest := 1
  rpcResponseDigest := 1

/-- A signed authorization can be minted as long as it lasts, also after an offer. -/
theorem settles_minted (coherent : r.Coherent) (phase : r.state = .authorizationAvailable funding ∨
      ∃ reason, r.state = .refundAvailable reason funding)
    (found : r.signedAuthorization = some record) : r.Settles := by
  obtain ⟨authorization, isSigned⟩ := signedAuthorization_eq_some.mp found
  obtain ⟨quote, quotes⟩ := coherent.quotes record authorization
  have charged : record.authorization.chargedServiceFee ≤ record.authorization.grossAmount := by
    rw [quotes.fee, quotes.gross, ← quotes.split]
    exact Nat.le_add_left ..
  have guard : (r.mintGuard (mintedEvidence record)).accepts = true := by
    simp [mintGuard, DepositEventGuard.accepts, mintFinalizationAllowed, authorization, isSigned,
      mintedEvidence, sub, charged]
  refine .event (Applied.succeeds coherent (.mintRecorded phase guard) ?_) ⟨[], _, .done, rfl⟩
  rcases phase with phase | ⟨_, phase⟩ <;> simp [isIdempotent, phase]

variable (config : BridgeConfig)

/-- An offered deposit starts its refund: with proof of the expiry if it was signed. No block
can pass a deadline at the end of all timestamps; such a deposit is still minted. -/
theorem settles_offered (coherent : r.Coherent) (refundable : r.Refundable config.ledgerFee)
    (phase : r.state = .refundAvailable reason funding) : r.Settles := by
  by_cases timely : r.Timely
  swap
  · obtain ⟨record, found⟩ := signed_of_not_timely timely
    exact settles_minted coherent (.inr ⟨reason, phase⟩) found
  obtain ⟨amount, _, matching⟩ := refundable.attempt coherent 0
  obtain ⟨evidence, policy⟩ : ∃ evidence, r.refundPolicyMatches reason evidence = true := by
    by_cases isSigned : r.signed = true
    · cases refundable.expired reason funding phase isSigned
      obtain ⟨record, found⟩ := signed_iff.mp isSigned
      exact ⟨_, expired_policy phase (signedAuthorization_eq_some.mp found).1 isSigned
        (timely record found)⟩
    · exact ⟨none, by simp [refundPolicyMatches, phase, isSigned]⟩
  refine .event (start_accepted coherent phase matching policy) ?_
  exact settles_pending (coherent.restate rfl rfl ⟨rfl, rfl⟩ (by simp [code])) rfl

theorem settles_waiting (coherent : r.Coherent) (refundable : r.Refundable config.ledgerFee)
    (phase : r.state = .escrowedUnquoted funding ∨ r.state = .authorizationPending funding ∨
      r.state = .authorizationAvailable funding) : r.Settles := by
  by_cases timely : r.Timely
  swap
  · obtain ⟨record, found⟩ := signed_of_not_timely timely
    have isSigned := signed_iff.mpr ⟨record, found⟩
    rcases phase with phase | phase | phase
    · simp [signed, coherent.blank (by simp [phase, code])] at isSigned
    · obtain ⟨_, pending, unsigned⟩ := coherent.pending (by simp [phase, code])
      simp [signed, pending, unsigned] at isSigned
    · exact settles_minted coherent (.inl phase) found
  obtain ⟨reason, finalizedTimestamp, policy, expired⟩ := offer_policy coherent phase timely
  refine .event (offer_accepted coherent phase policy) (settles_offered config ?_ ?_ rfl)
  · exact coherent.restate rfl rfl ⟨rfl, rfl⟩ (by simp [code])
  · refine ⟨refundable.fits, refundable.unsigned, refundable.authorized, ?_⟩
    rintro _ _ ⟨⟩ isSigned
    exact expired isSigned

theorem fundingFound_resolved (phase : r.state = .fundingReconciliationHold holdId) :
    DepositHoldResolved r (.opened holdId (.depositFunding r.id) r.transfer) (.fundingSucceeded 0)
      (.resolvedSucceeded 0) (.escrowedUnquoted 0) :=
  .fundingFound phase rfl rfl

theorem settles_funding_held (coherent : r.Coherent) (refundable : r.Refundable config.ledgerFee)
    (phase : r.state = .fundingReconciliationHold holdId) : r.Settles := by
  have resolved : resolveDepositHold r (.opened holdId (.depositFunding r.id) r.transfer)
      (.fundingSucceeded 0) = .ok ({ r with state := .escrowedUnquoted 0 },
        ⟨holdId, .depositFunding r.id, r.transfer, .resolvedSucceeded 0⟩, .ofApplied 0) := by
    simp [resolveDepositHold, depositHoldStep, phase, ledgerBlocks,
      opened, depositLedgerBlockTransition,
      resolveSucceeded, close, fundingFoundMove,
      agreeingOutcome, bind, Except.bind, pure, Except.pure]
  have escrowed : Coherent { r with state := .escrowedUnquoted 0 } :=
    resolved_coherent coherent (fundingFound_resolved phase)
  obtain ⟨operations, last, continues, settled⟩ := settles_waiting config escrowed
    ⟨refundable.fits, refundable.unsigned, refundable.authorized, by rintro _ _ ⟨⟩⟩ (.inl rfl)
  exact ⟨_, last, .hold resolved continues, settled⟩

theorem settles (coherent : r.Coherent)
    (refundable : r.Refundable config.ledgerFee) (open_ : r.isTerminal = false) : r.Settles := by
  cases phase : r.state with
  | fundingPending =>
    refine .event (fund_accepted coherent phase 0) (settles_waiting config ?_ ?_ (.inl rfl))
    · exact unquoted_coherent r (by simp [code])
    · exact ⟨refundable.fits, refundable.unsigned, by rintro _ ⟨⟩, by rintro _ _ ⟨⟩⟩
  | escrowedUnquoted funding => exact settles_waiting config coherent refundable (.inl phase)
  | authorizationPending funding => exact settles_waiting config coherent refundable (.inr (.inl phase))
  | authorizationAvailable funding => exact settles_waiting config coherent refundable (.inr (.inr phase))
  | refundAvailable reason funding => exact settles_offered config coherent refundable phase
  | fundingReconciliationHold holdId => exact settles_funding_held config coherent refundable phase
  | refundPending reason funding attempt => exact settles_pending coherent phase
  | refundReconciliationHold reason funding holdId attempt => exact settles_held phase
  | minted | refunded | cancelled =>
    simp [isTerminal, isMinted, isRefunded, isCancelled, phase, code] at open_

/-- No admitted deposit is stuck: unless it has ended, some continuation mints or refunds it,
and, signed or not, it always leaves more than the fee it is charged and the ledger's. -/
theorem admitted_settles {rules : DepositRules} {r : DepositRecord}
    (admitted : Admitted rules r) :
    (r.isTerminal = false → r.Settles) ∧
    r.chargedServiceFee + rules.config.ledgerFee < r.grossAmount ∧
    ∀ now, ∃ amount, Kernel.depositRefundAmount r.grossAmount r.chargedServiceFee
        rules.config.ledgerFee = some amount ∧
      r.refundAttemptMatches ⟨0, rules.config.refundIdentity now r amount⟩ = true := by
  obtain ⟨coherent, refundable⟩ := admitted.invariant
  exact ⟨settles rules.config coherent refundable, refundable.enough coherent,
    refundable.attempt coherent⟩

end

def sampleRules : DepositRules where
  config := ⟨⟨[1], 0, owner_one_valid⟩, [8], 2, fun _ => 6, 8453⟩
  deployment := ⟨8453, 11, 12, 13⟩
  attestation := some ⟨8453, 12, 13, 11, 14⟩

def sampleAuthorization : MintAuthorizationRecord where
  authorization := ⟨5, 3, 100, 10, 10, 901, 1⟩
  domain := ⟨mintAuthorizationDomainName, mintAuthorizationDomainVersion, 8453, 11⟩
  digest := 7
  origin := ⟨1, 1, 1, 1⟩
  signatureDispatchAttempt := 0
  signatureDispatched := false
  signature := none

def sampleSigned : DepositRecord :=
  [.apply (.fundingSucceeded 1), .apply (.commitAuthorization ⟨10, 90⟩ sampleAuthorization),
    .dispatchSignature, .apply (.authorizationSigned (List.replicate 65 0) 2)].foldl perform
    DepositRun.heldRefundRun.start

theorem sampleSigned_admitted : Admitted sampleRules sampleSigned := by
  have valid : validateDepositArgs sampleRules.config [2] ⟨0, List.replicate 20 1, none, 100, 10⟩ =
      .ok ⟨0, List.replicate 20 1, List.replicate 32 0, 100, 10⟩ := rfl
  have accepted : Admitted sampleRules _ := .accepted valid DepositRun.heldRefundRun.accepted
  have committed : sampleRules.Permits (.apply (.commitAuthorization ⟨10, 90⟩
      sampleAuthorization)) := rfl
  have funded : sampleRules.Permits (.apply (.fundingSucceeded 1)) := trivial
  have dispatched : sampleRules.Permits .dispatchSignature := trivial
  have signed_ : sampleRules.Permits (.apply (.authorizationSigned (List.replicate 65 0) 2)) :=
    trivial
  exact .performed (.performed (.performed (.performed accepted funded) committed) dispatched) signed_

theorem admitted_settles_signed : sampleSigned.state = .authorizationAvailable 1 ∧
    sampleSigned.signed = true ∧ sampleSigned.Settles ∧
    sampleSigned.chargedServiceFee + 2 < sampleSigned.grossAmount := by
  obtain ⟨ends, enough, _⟩ := admitted_settles sampleSigned_admitted
  exact ⟨by decide, by decide, ends (by decide), enough⟩

end DepositRecord

end KinicBridge
