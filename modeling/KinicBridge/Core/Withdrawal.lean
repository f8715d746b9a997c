import KinicBridge.Core.Kernel

/-! The withdrawal machine: one record per Base withdrawal, its transfer attempts and
the events that move it from observation to payment. -/
namespace KinicBridge

open Checked Kernel

structure Settlement where
  amountOut : Nat
  serviceFee : Nat
  ledgerFee : Nat
  deriving DecidableEq

def Settlement.validateCommitted (settlement : Settlement) (amount maxServiceFee : Nat) :
    Except CoreError Unit :=
  if maxServiceFee < settlement.serviceFee then .error .serviceFeeAboveMaximum
  else if committedQuoteMatches amount settlement.amountOut settlement.serviceFee = false then
    .error .settlementMismatch
  else if settlementDecision settlement.amountOut settlement.ledgerFee
      settlement.serviceFee = none then .error .settlementMismatch
  else .ok ()

structure TransferAttempt where
  attemptNo : Nat
  identity : LedgerTransferIdentity
  deriving DecidableEq

def TransferAttempt.retryAfterAbsence (attempt : TransferAttempt)
    (identity : LedgerTransferIdentity) : Except CoreError TransferAttempt :=
  let current := attempt.identity
  if identity.createdAtTimeNs ≤ current.createdAtTimeNs ∨ identity.memo = current.memo ∨
      identity.operation ≠ current.operation ∨ identity.amount ≠ current.amount ∨
      identity.fee ≠ current.fee ∨ identity.from_ ≠ current.from_ ∨ identity.to_ ≠ current.to_ ∨
      identity.spender ≠ current.spender then .error .attemptPayloadChanged
  else (okOr .attemptOverflow (nextAttempt attempt.attemptNo)).map
    fun attemptNo => ⟨attemptNo, identity⟩

theorem TransferAttempt.retry_ok {attempt next : TransferAttempt}
    {identity : LedgerTransferIdentity} (granted : attempt.retryAfterAbsence identity = .ok next) :
    next.identity = identity ∧ next.attemptNo = attempt.attemptNo + 1 ∧
    attempt.identity.createdAtTimeNs < identity.createdAtTimeNs ∧
    identity.operation = attempt.identity.operation ∧
    identity.amount = attempt.identity.amount ∧ identity.fee = attempt.identity.fee ∧
    identity.from_ = attempt.identity.from_ ∧ identity.to_ = attempt.identity.to_ := by
  simp only [retryAfterAbsence] at granted
  split at granted
  · contradiction
  next same =>
    simp only [not_or, not_le, not_not] at same
    cases number : nextAttempt attempt.attemptNo with
    | none => simp [number, Except.map] at granted
    | some attemptNo =>
      simp only [number, okOr_some, Except.map, Except.ok.injEq] at granted
      subst granted
      have successor := (succ_eq_some.mp number).2
      exact ⟨rfl, successor, same.1, same.2.2.1, same.2.2.2.1, same.2.2.2.2.1,
        same.2.2.2.2.2.1, same.2.2.2.2.2.2.1⟩

inductive WithdrawalState where
  | observed
  | releasePending (attempt : TransferAttempt) (settlement : Settlement)
  | paid (attempt : TransferAttempt) (settlement : Settlement) (releaseLedgerBlockIndex : Nat)
      (sourceHold : Option Nat)
  | reconciliationHold (holdId : Nat) (attempt : TransferAttempt) (settlement : Settlement)
  deriving DecidableEq

def WithdrawalState.phaseCode : WithdrawalState → Nat
  | .observed => 0
  | .releasePending .. => 1
  | .paid .. => 2
  | .reconciliationHold .. => 3

inductive WithdrawalEvent where
  | startRelease (attempt : TransferAttempt) (settlement : Settlement)
  | releaseSucceeded (releaseLedgerBlockIndex : Nat)
  | releaseAmbiguous (holdId : Nat)
  deriving DecidableEq

namespace WithdrawalEvent

def phaseCode : WithdrawalEvent → Nat
  | .startRelease .. => 0
  | .releaseSucceeded _ => 2
  | .releaseAmbiguous _ => 3

def name : WithdrawalEvent → String
  | .startRelease .. => "start_release"
  | .releaseSucceeded _ => "release_succeeded"
  | .releaseAmbiguous _ => "release_ambiguous"

end WithdrawalEvent

structure WithdrawalRecord where
  id : Bytes32
  baseRequester : Bytes20
  owner : List UInt8
  subaccount : Bytes32
  payloadHash : Bytes32
  amount : Nat
  maxServiceFee : Nat
  chargedServiceFee : Nat
  amountOut : Nat
  observedAtNs : Nat
  state : WithdrawalState
  deriving DecidableEq

namespace WithdrawalRecord

def observed (id : Bytes32) (baseRequester : Bytes20) (owner : List UInt8)
    (subaccount payloadHash : Bytes32)
    (amount maxServiceFee chargedServiceFee amountOut observedAtNs : Nat) :
    Except CoreError WithdrawalRecord := do
  if amount = 0 ∨ amountOut = 0 ∨ maxServiceFee < chargedServiceFee then
    throw .invalidAmount
  let total ← Amount.checkedAdd amountOut chargedServiceFee
  if total ≠ amount then throw .invalidAmount
  return ⟨id, baseRequester, owner, subaccount, payloadHash, amount, maxServiceFee,
    chargedServiceFee, amountOut, observedAtNs, .observed⟩

def releaseBlock (state : WithdrawalState) : Option Nat :=
  match state with
  | .paid _ _ block _ => some block
  | _ => none

variable (r : WithdrawalRecord)

def validateAttempt (attempt : TransferAttempt) (settlement : Settlement) : Except CoreError Unit :=
  if r.state = .observed ∧ attempt.attemptNo ≠ 0 then .error .invalidLedgerOperation
  else if attempt.identity.operation ≠ .releaseWithdrawal ∨
      releaseTransferMatches attempt.identity.amount attempt.identity.fee r.amountOut
        settlement.ledgerFee = false ∨
      attempt.identity.to_.owner ≠ r.owner ∨ attempt.identity.to_.subaccount ≠ r.subaccount ∨
      settlement.amountOut ≠ r.amountOut ∨ settlement.serviceFee ≠ r.chargedServiceFee then
    .error .settlementMismatch
  else settlement.validateCommitted r.amount r.maxServiceFee

variable (event : WithdrawalEvent)

def isIdempotent : Bool :=
  match r.state, event with
  | .releasePending attempt settlement, .startRelease attempt' settlement'
  | .paid attempt settlement _ _, .startRelease attempt' settlement'
  | .reconciliationHold _ attempt settlement, .startRelease attempt' settlement' =>
    attempt == attempt' && settlement == settlement'
  | .paid _ _ current _, .releaseSucceeded block => current == block
  | .reconciliationHold current _ _, .releaseAmbiguous holdId => current == holdId
  | _, _ => false

def settlementForEffects : Settlement :=
  match r.state, event with
  | _, .startRelease _ settlement => settlement
  | .releasePending _ settlement, _ | .reconciliationHold _ _ settlement, _ => settlement
  | _, _ => ⟨0, 0, 0⟩

def nextState : Except CoreError WithdrawalState :=
  match r.state, event with
  | .observed, .startRelease attempt settlement => do
    r.validateAttempt attempt settlement
    return .releasePending attempt settlement
  | .releasePending attempt settlement, .releaseSucceeded block => do
    r.validateAttempt attempt settlement
    return .paid attempt settlement block none
  | .releasePending attempt settlement, .releaseAmbiguous holdId =>
    return .reconciliationHold holdId attempt settlement
  | _, other => throw (.invalidTransition "withdrawal" other.name)

def ledgerEvent : WithdrawalEvent → Nat × Nat
  | .releaseSucceeded block => (1, block)
  | _ => (0, 0)

def apply : Except CoreError (WithdrawalRecord × ApplyResult) := do
  let expectedRelease ← okOr .ledgerBlockConflict
    (withdrawalLedgerBlockTransition (releaseBlock r.state) (ledgerEvent event).1
      (ledgerEvent event).2)
  if r.isIdempotent event then return (r, .ofIdempotent)
  if withdrawalPhaseAllows r.state.phaseCode event.phaseCode = false then
    throw (.invalidTransition "withdrawal" event.name)
  let settlement := r.settlementForEffects event
  let next ← r.nextState event
  if releaseBlock next ≠ expectedRelease then
    throw (.invalidTransition "withdrawal" "ledger_block_effect_mismatch")
  let effects ← okOr (.invalidTransition "withdrawal" "effect_mismatch")
    (withdrawalTransitionEffects r.state.phaseCode event.phaseCode settlement.amountOut
      settlement.ledgerFee settlement.serviceFee)
  return ({ r with state := next }, .ofApplied effects.2.2.1)

inductive Applied (r : WithdrawalRecord) : WithdrawalEvent → WithdrawalState → Nat → Prop where
  | started (phase : r.state = .observed) (valid : r.validateAttempt attempt settlement = .ok ()) :
      Applied r (.startRelease attempt settlement) (.releasePending attempt settlement) 0
  | released (phase : r.state = .releasePending attempt settlement)
      (valid : r.validateAttempt attempt settlement = .ok ())
      (settled : settlement.ledgerFee ≤ settlement.serviceFee) :
      Applied r (.releaseSucceeded block) (.paid attempt settlement block none)
        (settlement.serviceFee - settlement.ledgerFee)
  | held (phase : r.state = .releasePending attempt settlement) :
      Applied r (.releaseAmbiguous holdId) (.reconciliationHold holdId attempt settlement) 0

theorem nextState_applied {r : WithdrawalRecord} {event : WithdrawalEvent}
    {reached : WithdrawalState} (next : r.nextState event = .ok reached)
    (effects : withdrawalTransitionEffects r.state.phaseCode event.phaseCode
      (r.settlementForEffects event).amountOut (r.settlementForEffects event).ledgerFee
      (r.settlementForEffects event).serviceFee = some e) : Applied r event reached e.2.2.1 := by
  cases phase : r.state <;> cases event <;> simp only [nextState, phase] at next <;>
    try exact absurd next throw_ne_ok
  case observed.startRelease attempt settlement =>
    obtain ⟨_, valid, rfl⟩ := returned_ok.mp next
    simp [withdrawalTransitionEffects, withdrawalPhaseStep, phase,
      WithdrawalState.phaseCode, WithdrawalEvent.phaseCode] at effects
    subst effects
    exact .started phase valid
  case releasePending.releaseSucceeded attempt settlement block =>
    obtain ⟨_, valid, rfl⟩ := returned_ok.mp next
    simp only [withdrawalTransitionEffects, withdrawalPhaseStep, phase,
      WithdrawalState.phaseCode, WithdrawalEvent.phaseCode, settlementForEffects] at effects
    obtain ⟨decision, decided, rfl⟩ := Option.map_eq_some_iff.mp effects
    obtain ⟨fees, rfl⟩ := settlementDecision_eq_some decided
    exact .released phase valid fees
  case releasePending.releaseAmbiguous attempt settlement holdId =>
    cases pure_ok.mp next
    simp [withdrawalTransitionEffects, withdrawalPhaseStep, phase,
      WithdrawalState.phaseCode, WithdrawalEvent.phaseCode] at effects
    subst effects
    exact .held phase

theorem apply_ok {r r' : WithdrawalRecord} {event : WithdrawalEvent}
    (accepted : r.apply event = .ok (r', result)) :
    (r' = r ∧ result = .ofIdempotent ∧ r.isIdempotent event = true) ∨
    ∃ state fee, Applied r event state fee ∧ r' = { r with state } ∧ result = .ofApplied fee := by
  obtain ⟨expected, _, rest⟩ := bind_ok.mp accepted
  by_cases replay : r.isIdempotent event = true
  · rw [if_pos replay] at rest
    cases pure_ok.mp rest
    exact .inl ⟨rfl, rfl, replay⟩
  · rw [if_neg replay] at rest
    obtain ⟨_, rest⟩ := thrown_ok.mp rest
    obtain ⟨state, next, rest⟩ := bind_ok.mp rest
    obtain ⟨_, rest⟩ := thrown_ok.mp rest
    obtain ⟨effects, decided, rest⟩ := found_ok.mp rest
    cases pure_ok.mp rest
    exact .inr ⟨state, _, nextState_applied next decided, rfl, rfl⟩

end WithdrawalRecord

end KinicBridge
