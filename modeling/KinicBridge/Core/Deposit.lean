import KinicBridge.Core.Authorization
import KinicBridge.Core.Withdrawal

/-! The deposit machine: an accepted request, its eleven states and the events that move it. `apply`
computes the next record and checks it against the kernel's answer. -/
namespace KinicBridge

open Checked Kernel

structure DepositQuote where
  serviceFee : Nat
  netAmount : Nat
  deriving DecidableEq

def DepositQuote.validate (quote : DepositQuote) (grossAmount : Nat) : Except CoreError Unit :=
  if quote.netAmount = 0 then .error .invalidAmount
  else do
    let total ← Amount.checkedAdd quote.netAmount quote.serviceFee
    if total ≠ grossAmount then throw .invalidAmount

theorem DepositQuote.validate_ok {quote : DepositQuote} (valid : quote.validate gross = .ok ()) :
    quote.netAmount ≠ 0 ∧ quote.netAmount + quote.serviceFee = gross := by
  unfold validate at valid
  obtain ⟨positive, rest⟩ := guarded_ok.mp valid
  obtain ⟨total, sum, rest⟩ := bind_ok.mp rest
  split at rest
  · exact absurd rest throw_ne_ok
  next exactly =>
    exact ⟨positive, (Amount.checkedAdd_ok.mp sum).1.trans (not_not.mp exactly)⟩

inductive DepositRefundReason where
  | basePaused
  | serviceFeeRejected
  | refundAmountTooSmall
  | invalidRecipient
  | perDepositLimitExceeded
  | mintWindowLimitExceeded
  | authorizationExpired
  deriving DecidableEq

inductive DepositState where
  | fundingPending
  | escrowedUnquoted (funding : Nat)
  | authorizationPending (funding : Nat)
  | authorizationAvailable (funding : Nat)
  | refundAvailable (reason : DepositRefundReason) (funding : Nat)
  | minted (funding : Nat)
  | fundingReconciliationHold (holdId : Nat)
  | refundPending (reason : DepositRefundReason) (funding : Nat) (attempt : TransferAttempt)
  | refundReconciliationHold (reason : DepositRefundReason) (funding : Nat) (holdId : Nat)
      (attempt : TransferAttempt)
  | refunded (reason : DepositRefundReason) (funding : Nat) (attempt : TransferAttempt)
      (refundBlock : Nat) (sourceHold : Option Nat)
  | cancelled (holdId historyWatermark : Option Nat) (ledgerFailure : Option LedgerFailure)
  deriving DecidableEq

namespace DepositState

def code : DepositState → Nat
  | .fundingPending => 0
  | .escrowedUnquoted _ => 1
  | .authorizationPending _ => 2
  | .authorizationAvailable _ => 3
  | .refundAvailable .. => 4
  | .fundingReconciliationHold _ => 5
  | .refundPending .. => 6
  | .refundReconciliationHold .. => 7
  | .refunded .. => 8
  | .cancelled .. => 9
  | .minted _ => 10

def ledgerBlocks : DepositState → Option Nat × Option Nat
  | .escrowedUnquoted funding | .authorizationPending funding | .authorizationAvailable funding
  | .refundAvailable _ funding | .minted funding | .refundPending _ funding _
  | .refundReconciliationHold _ funding _ _ => (some funding, none)
  | .refunded _ funding _ refund _ => (some funding, some refund)
  | .fundingPending | .fundingReconciliationHold _ | .cancelled .. => (none, none)

end DepositState

inductive DepositEvent where
  | fundingSucceeded (funding : Nat)
  | fundingAmbiguous (holdId : Nat)
  | fundingFailed (code : LedgerFailure)
  | commitAuthorization (quote : DepositQuote) (authorization : MintAuthorizationRecord)
  | authorizationSigned (signature : List UInt8) (observedTimestamp : Nat)
  | markRefundAvailable (reason : DepositRefundReason) (finalizedTimestamp : Option Nat)
  | mintReconciled (evidence : MintFinalizationEvidence)
  | startRefund (reason : DepositRefundReason) (attempt : TransferAttempt)
      (expiryEvidence : Option MintExpiryEvidence)
  | refundSucceeded (refundBlock : Nat)
  | refundAmbiguous (holdId : Nat)
  deriving DecidableEq

namespace DepositEvent

def code : DepositEvent → Nat
  | .fundingSucceeded _ => 0
  | .fundingAmbiguous _ => 1
  | .fundingFailed _ => 2
  | .commitAuthorization .. => 3
  | .markRefundAvailable .. => 4
  | .authorizationSigned .. => 5
  | .mintReconciled _ => 6
  | .startRefund .. => 7
  | .refundSucceeded _ => 8
  | .refundAmbiguous _ => 9

def name : DepositEvent → String
  | .fundingSucceeded _ => "funding_succeeded"
  | .fundingAmbiguous _ => "funding_ambiguous"
  | .fundingFailed _ => "funding_failed"
  | .commitAuthorization .. => "commit_authorization"
  | .authorizationSigned .. => "authorization_signed"
  | .markRefundAvailable .. => "mark_refund_available"
  | .mintReconciled _ => "mint_reconciled"
  | .startRefund .. => "start_refund"
  | .refundSucceeded _ => "refund_succeeded"
  | .refundAmbiguous _ => "refund_ambiguous"

def ledgerEvent : DepositEvent → Nat × Nat
  | .fundingSucceeded block => (1, block)
  | .refundSucceeded block => (2, block)
  | _ => (0, 0)

end DepositEvent

structure DepositRequest where
  id : Bytes32
  payloadHash : Bytes32
  grossAmount : Nat
  userMaxServiceFee : Nat
  transfer : LedgerTransferIdentity
  deriving DecidableEq

structure DepositRecord where
  id : Bytes32
  payloadHash : Bytes32
  grossAmount : Nat
  maxServiceFee : Nat
  quote : Option DepositQuote
  mintAuthorization : Option MintAuthorizationRecord
  mintFinalizationEvidence : Option MintFinalizationEvidence
  mintExpiryEvidence : Option MintExpiryEvidence
  transfer : LedgerTransferIdentity
  state : DepositState
  deriving DecidableEq

namespace DepositRecord

def accept (request : DepositRequest) : Except CoreError DepositRecord :=
  if request.transfer.operation ≠ .pullDeposit then .error .invalidLedgerOperation
  else if request.transfer.amount ≠ request.grossAmount ∨ request.grossAmount = 0 then
    .error .invalidAmount
  else .ok {
    id := request.id
    payloadHash := request.payloadHash
    grossAmount := request.grossAmount
    maxServiceFee := request.userMaxServiceFee
    quote := none
    mintAuthorization := none
    mintFinalizationEvidence := none
    mintExpiryEvidence := none
    transfer := request.transfer
    state := .fundingPending }

variable (r : DepositRecord)

def signed : Bool :=
  r.mintAuthorization.any fun record => record.signature.isSome

def chargedServiceFee : Nat :=
  if r.signed then (r.quote.map (·.serviceFee)).getD 0 else 0

def reservesMintResources : Bool := depositReservationActive r.state.code

def reservedMintAmount : Except CoreError Nat :=
  if r.reservesMintResources = false then .ok 0
  else okOr (.invalidTransition "deposit" "missing_quote") (r.quote.map (·.netAmount))

def expiryEvidenceMatches (evidence : MintExpiryEvidence) : Bool :=
  match r.mintAuthorization with
  | none => false
  | some record =>
    let bindingMatches := evidence.authorizationDigest == record.digest &&
      evidence.depositId == record.authorization.depositId &&
      evidence.chainId == record.domain.chainId &&
      evidence.verifyingContract == record.domain.verifyingContract &&
      decide (record.origin.finalizedBlockNumber ≤ evidence.finalizedBlockNumber) &&
      evidence.finalizedBlockHash != 0 && evidence.runtimeSha256 != 0 &&
      evidence.rpcRequestDigest != 0 && evidence.rpcResponseDigest != 0
    expiryRefundAllowed bindingMatches evidence.depositProcessed
      evidence.finalizedBlockTimestamp record.authorization.deadline

def commitGuard (quote : DepositQuote) (record : MintAuthorizationRecord) : DepositEventGuard :=
  let authorization := record.authorization
  let fixedFieldsMatch := authorization.depositId == r.id && authorization.recipient != 0 &&
    authorization.grossAmount == r.grossAmount &&
    authorization.maxServiceFee == r.maxServiceFee &&
    authorization.chargedServiceFee == quote.serviceFee &&
    record.domain.chainId != 0 && record.domain.verifyingContract != 0 &&
    record.digest != 0 && record.origin.finalizedBlockHash != 0 &&
    authorization.authorizationEpoch != 0
  let canonicalDomainStrings := record.domain.name == mintAuthorizationDomainName &&
    record.domain.version == mintAuthorizationDomainVersion
  let deadlineValid := add 64 record.origin.issuedAtTimestamp mintAuthorizationTtlSeconds ==
    some authorization.deadline
  let pristine := record.signature.isNone && !record.signatureDispatched &&
    record.signatureDispatchAttempt == 0
  .commitAuthorization (quote.validate r.grossAmount).isOk fixedFieldsMatch canonicalDomainStrings
    deadlineValid pristine

def commitGuardError (quote : DepositQuote) (record : MintAuthorizationRecord) : CoreError :=
  match quote.validate r.grossAmount with
  | .error error => error
  | .ok _ =>
    if add 64 record.origin.issuedAtTimestamp mintAuthorizationTtlSeconds = none then
      .arithmeticOverflow
    else .conflictingReplay

def installGuard (signature : List UInt8) (observedTimestamp : Nat) : DepositEventGuard :=
  .installSignature (r.mintAuthorization.any (·.signatureDispatched))
    (r.mintAuthorization.any (·.signature.isNone)) (signature.length == 65) observedTimestamp
    ((r.mintAuthorization.map (·.authorization.deadline)).getD 0)

/-- When a deposit may be offered for refund: before any quote for a reason other than
expiry, after the deadline of its authorization, or for a defect of an unsigned one. -/
def refundPolicyAllowed (reason : DepositRefundReason) (finalizedTimestamp : Option Nat) : Bool :=
  match r.state, reason, finalizedTimestamp with
  | .escrowedUnquoted _, reason, none => reason != .authorizationExpired
  | .authorizationPending _, .authorizationExpired, some timestamp
  | .authorizationAvailable _, .authorizationExpired, some timestamp =>
    r.mintAuthorization.any fun record => decide (record.authorization.deadline < timestamp)
  | .authorizationPending _, .refundAmountTooSmall, none
  | .authorizationPending _, .invalidRecipient, none =>
    r.mintAuthorization.any (·.signature.isNone)
  | _, _, _ => false

def mintGuard (evidence : MintFinalizationEvidence) : DepositEventGuard :=
  let fixedFieldsMatch := r.mintAuthorization.any fun record =>
    record.signature.isSome && evidence.authorizationDigest == record.digest &&
    evidence.depositId == record.authorization.depositId &&
    evidence.recipient == record.authorization.recipient &&
    evidence.chainId == record.domain.chainId &&
    evidence.verifyingContract == record.domain.verifyingContract &&
    evidence.grossAmount == record.authorization.grossAmount &&
    evidence.chargedServiceFee == record.authorization.chargedServiceFee &&
    sub record.authorization.grossAmount record.authorization.chargedServiceFee ==
      some evidence.mintedAmount
  let originInclusion := r.mintAuthorization.any fun record =>
    decide (record.origin.finalizedBlockNumber ≤ evidence.receiptBlockNumber)
  let auditComplete := evidence.transactionHash != 0 && evidence.receiptBlockHash != 0 &&
    evidence.finalizedBlockHash != 0 && evidence.rpcRequestDigest != 0 &&
    evidence.rpcResponseDigest != 0
  .mintFinalization (fixedFieldsMatch && originInclusion) evidence.receiptSucceeded
    evidence.receiptBlockNumber evidence.finalizedBlockNumber auditComplete

def refundAttemptMatches (attempt : TransferAttempt) : Bool :=
  let identity := attempt.identity
  attempt.attemptNo == 0 && identity.operation == .refundDeposit && identity.spender.isNone &&
  identity.from_ == r.transfer.to_ && identity.to_ == r.transfer.from_ &&
  ((add 128 identity.amount identity.fee).bind (add 128 · r.chargedServiceFee) ==
    some r.grossAmount)

def refundPolicyMatches (reason : DepositRefundReason)
    (expiryEvidence : Option MintExpiryEvidence) : Bool :=
  match r.state, reason, expiryEvidence with
  | .refundAvailable expected _, .authorizationExpired, some evidence =>
    r.signed && (expected == .authorizationExpired && r.expiryEvidenceMatches evidence)
  | .refundAvailable expected _, reason, none => !r.signed && expected == reason
  | _, _, _ => false

def transitionGuard : DepositEvent → DepositEventGuard × Option CoreError
  | .fundingSucceeded _ | .fundingAmbiguous _ | .fundingFailed _ => (.funding, none)
  | .commitAuthorization quote record =>
    let guard := r.commitGuard quote record
    (guard, if guard.accepts then none else some (r.commitGuardError quote record))
  | .authorizationSigned signature observedTimestamp =>
    let guard := r.installGuard signature observedTimestamp
    (guard, if guard.accepts then none else some .conflictingReplay)
  | .markRefundAvailable reason finalizedTimestamp =>
    (.markRefundAvailable (r.refundPolicyAllowed reason finalizedTimestamp), none)
  | .mintReconciled evidence =>
    let guard := r.mintGuard evidence
    (guard, if guard.accepts then none else some .conflictingReplay)
  | .startRefund reason attempt expiryEvidence =>
    let guard := .startRefund (r.refundAttemptMatches attempt)
      (r.refundPolicyMatches reason expiryEvidence)
    (guard, if guard.accepts then none else some .refundIneligible)
  | .refundSucceeded _ | .refundAmbiguous _ => (.refundResult, none)

variable (event : DepositEvent)

def isIdempotent : Bool :=
  match r.state, event with
  | state, .fundingSucceeded block => state.ledgerBlocks.1 == some block
  | .fundingReconciliationHold current, .fundingAmbiguous holdId => current == holdId
  | .cancelled none none (some current), .fundingFailed code => current == code
  | .authorizationPending _, .commitAuthorization quote record
  | .authorizationAvailable _, .commitAuthorization quote record
  | .refundAvailable .., .commitAuthorization quote record
  | .minted _, .commitAuthorization quote record =>
    r.quote == some quote && r.mintAuthorization == some record
  | .authorizationAvailable _, .authorizationSigned signature _ =>
    r.mintAuthorization.bind (·.signature) == some signature
  | .refundAvailable current _, .markRefundAvailable reason _ => current == reason
  | .minted _, .mintReconciled evidence => r.mintFinalizationEvidence == some evidence
  | .refundPending currentReason _ currentAttempt, .startRefund reason attempt expiryEvidence =>
    currentReason == reason && currentAttempt == attempt && r.mintExpiryEvidence == expiryEvidence
  | .refunded _ _ _ current none, .refundSucceeded block => current == block
  | .refundReconciliationHold _ _ current _, .refundAmbiguous holdId => current == holdId
  | _, _ => false

def unquoted (state : DepositState) : DepositRecord :=
  { r with
    state
    quote := none
    mintAuthorization := none
    mintFinalizationEvidence := none
    mintExpiryEvidence := none }

/-- The next record and the fee it credits, for the pairs the source matches. -/
def transitionFields : Except CoreError (DepositRecord × Nat) :=
  match r.state, event with
  | .fundingPending, .fundingSucceeded block => .ok (r.unquoted (.escrowedUnquoted block), 0)
  | .fundingPending, .fundingAmbiguous holdId =>
    .ok (r.unquoted (.fundingReconciliationHold holdId), 0)
  | .fundingPending, .fundingFailed code =>
    .ok (r.unquoted (.cancelled none none (some code)), 0)
  | .escrowedUnquoted funding, .commitAuthorization quote record =>
    .ok ({ r with
      state := .authorizationPending funding
      quote := some quote
      mintAuthorization := some record
      mintFinalizationEvidence := none
      mintExpiryEvidence := none }, 0)
  | .authorizationPending funding, .authorizationSigned signature _ => do
    let record ← okOr (.invalidTransition "deposit" "missing_authorization") r.mintAuthorization
    let installed ← okOr .conflictingReplay (record.installSignature signature)
    let quote ← okOr .invalidAmount r.quote
    return ({ r with
      state := .authorizationAvailable funding
      mintAuthorization := some installed }, quote.serviceFee)
  | .escrowedUnquoted funding, .markRefundAvailable reason _
  | .authorizationPending funding, .markRefundAvailable reason _
  | .authorizationAvailable funding, .markRefundAvailable reason _ =>
    .ok ({ r with state := .refundAvailable reason funding }, 0)
  | .authorizationAvailable funding, .mintReconciled evidence
  | .refundAvailable _ funding, .mintReconciled evidence =>
    .ok ({ r with
      state := .minted funding
      mintFinalizationEvidence := some evidence
      mintExpiryEvidence := none }, 0)
  | .refundAvailable _ funding, .startRefund reason attempt expiryEvidence =>
    .ok ({ r with
      state := .refundPending reason funding attempt
      mintExpiryEvidence := expiryEvidence }, 0)
  | .refundPending reason funding attempt, .refundSucceeded block =>
    .ok ({ r with state := .refunded reason funding attempt block none }, 0)
  | .refundPending reason funding attempt, .refundAmbiguous holdId =>
    .ok ({ r with state := .refundReconciliationHold reason funding holdId attempt }, 0)
  | _, other => .error (.invalidTransition "deposit" other.name)

/-- The amounts the kernel is asked about: the quote that applies, the fee once the
authorization is issued, and the gross amount for a refund without one. -/
def transitionInput (reservedAmount : Nat) : DepositTransitionInput :=
  let transitionQuote := match event with
    | .commitAuthorization quote _ => some quote
    | _ => r.quote
  let authorizationIssued := r.signed || event.code == 5
  { state := r.state.code
    event := event.code
    guard := (r.transitionGuard event).1
    samePayload := r.isIdempotent event
    grossAmount := r.grossAmount
    netAmount :=
      if (event.code == 7 || event.code == 8) && !authorizationIssued then r.grossAmount
      else (transitionQuote.map (·.netAmount)).getD 0
    serviceFee := if authorizationIssued then (transitionQuote.map (·.serviceFee)).getD 0 else 0
    reservedAmount }

def effectMismatch (r next : DepositRecord) (feeDelta : Nat) (effects : DepositEffects) : Bool :=
  let nextActive := depositReservationActive next.state.code
  let nextNet := (next.quote.map (·.netAmount)).getD 0
  next.state.code != effects.nextState || nextActive != effects.reservationActive ||
  (r.reservesMintResources && !nextActive) != effects.releaseReservation ||
  (if nextActive then nextNet else 0) != effects.accounting.reservationAfter ||
  (if !r.reservesMintResources && nextActive then nextNet else 0) !=
    effects.accounting.reservationAdd ||
  feeDelta != effects.accounting.feeCredit

def apply : Except CoreError (DepositRecord × ApplyResult) := do
  let expectedLedgerBlocks ← okOr .ledgerBlockConflict
    (depositLedgerBlockTransition r.state.ledgerBlocks.1 r.state.ledgerBlocks.2
      event.ledgerEvent.1 event.ledgerEvent.2)
  let reservedAmount ← r.reservedMintAmount
  match depositTransitionDecision (r.transitionInput event reservedAmount) with
  | .idempotent => return (r, .ofIdempotent)
  | .reject =>
    throw ((r.transitionGuard event).2.getD (.invalidTransition "deposit" event.name))
  | .apply effects =>
    let (next, feeDelta) ← r.transitionFields event
    if next.state.ledgerBlocks ≠ expectedLedgerBlocks then
      throw (.invalidTransition "deposit" "ledger_block_effect_mismatch")
    if r.effectMismatch next feeDelta effects then
      throw (.invalidTransition "deposit" "transition_effect_mismatch")
    return (next, .appliedDeposit effects.accounting)

end DepositRecord

end KinicBridge
