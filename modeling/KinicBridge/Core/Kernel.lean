import KinicBridge.Core.Types

/-! The deterministic decisions of the bridge kernel. States and events enter these
functions as the numeric codes the source assigns them; the rich machines supply the
codes and check their own effects against the answers. -/
namespace KinicBridge.Kernel

open Checked

def nextAttempt (attempt : Nat) : Option Nat := succ 64 attempt

def leaseGenerationNext (current : Nat) : Option Nat := succ 64 current

def scanComplete (next tip watermark : Nat) (archives matched : Bool) : Bool :=
  archives && !matched && decide (tip ≤ watermark) && decide (tip < next)

/-- Event codes are preserve 0, funding success 1 and refund success 2; `none` is a
conflicting replay. -/
def depositLedgerBlockTransition (funding refund : Option Nat) (event block : Nat) :
    Option (Option Nat × Option Nat) :=
  if event = 0 then some (funding, refund)
  else if event = 1 then
    match funding with
    | none => some (some block, refund)
    | some current => if current = block then some (funding, refund) else none
  else if event = 2 then
    match funding, refund with
    | some _, none => some (funding, some block)
    | some _, some current => if current = block then some (funding, refund) else none
    | none, _ => none
  else none

def withdrawalLedgerBlockTransition (release : Option Nat) (event block : Nat) :
    Option (Option Nat) :=
  if event = 0 then some release
  else if event = 1 then
    match release with
    | none => some (some block)
    | some current => if current = block then some release else none
  else none

def releaseTransferMatches (transferAmount transferFee amountOut ledgerFee : Nat) : Bool :=
  transferAmount == amountOut && transferFee == ledgerFee

def committedQuoteMatches (amount amountOut serviceFee : Nat) : Bool :=
  decide (serviceFee < amount) && decide (amountOut ≤ limit 128 - serviceFee) &&
    amountOut + serviceFee == amount

structure SettlementDecision where
  escrowDebit : Nat
  reserveCredit : Nat
  liabilityDebit : Nat
  deriving DecidableEq

def settlementDecision (amountOut ledgerFee serviceFee : Nat) : Option SettlementDecision :=
  if serviceFee < ledgerFee ∨ limit 128 - ledgerFee < amountOut ∨
      limit 128 - serviceFee < amountOut then none
  else some ⟨amountOut + ledgerFee, serviceFee - ledgerFee, amountOut + serviceFee⟩

theorem settlementDecision_eq_some (decided : settlementDecision out ledger service = some d) :
    ledger ≤ service ∧ d = ⟨out + ledger, service - ledger, out + service⟩ := by
  unfold settlementDecision at decided
  split at decided
  · contradiction
  · exact ⟨by omega, (Option.some.inj decided).symm⟩

def depositRefundAmount (gross serviceFee ledgerFee : Nat) : Option Nat :=
  if gross ≤ serviceFee ∨ gross - serviceFee ≤ ledgerFee then none
  else some (gross - serviceFee - ledgerFee)

/-! Deposit phases: funding pending 0, escrowed 1, authorization pending 2 and
available 3, refund available 4, funding hold 5, refund pending 6, refund hold 7,
refunded 8, cancelled 9, minted 10. -/

def depositTransition (state event : Nat) : Option Nat :=
  if state = 0 ∧ event = 0 then some 1
  else if state = 0 ∧ event = 1 then some 5
  else if state = 0 ∧ event = 2 then some 9
  else if state = 1 ∧ event = 3 then some 2
  else if state = 1 ∧ event = 4 then some 4
  else if state = 2 ∧ event = 4 then some 4
  else if state = 2 ∧ event = 5 then some 3
  else if state = 3 ∧ event = 4 then some 4
  else if (state = 3 ∨ state = 4) ∧ event = 6 then some 10
  else if state = 4 ∧ event = 7 then some 6
  else if state = 6 ∧ event = 8 then some 8
  else if state = 6 ∧ event = 9 then some 7
  else none

def expiryRefundAllowed (bindingMatches depositProcessed : Bool)
    (finalizedTimestamp deadline : Nat) : Bool :=
  bindingMatches && !depositProcessed && decide (deadline < finalizedTimestamp)

def mintFinalizationAllowed (bindingMatches receiptSucceeded : Bool)
    (receiptBlock finalizedBlock : Nat) : Bool :=
  bindingMatches && receiptSucceeded && decide (receiptBlock ≤ finalizedBlock)

def mintAuthorizationBeforeDeadline (observedTimestamp deadline : Nat) : Bool :=
  decide (observedTimestamp < deadline)

def signatureInstallAllowed (dispatched absent lengthValid : Bool)
    (observedTimestamp deadline : Nat) : Bool :=
  dispatched && absent && lengthValid && mintAuthorizationBeforeDeadline observedTimestamp deadline

def depositReservationActive (state : Nat) : Bool := state == 2 || state == 3

def depositNonterminalIndexed (state : Nat) : Bool := state != 8 && state != 9 && state != 10

def depositChargeServiceFee (state event : Nat) : Bool := state == 2 && event == 5

inductive DepositEventGuard where
  | funding
  | commitAuthorization (quoteValid fixedFieldsMatch canonicalDomainStrings deadlineValid
      pristine : Bool)
  | installSignature (dispatched signatureAbsent signatureLengthValid : Bool)
      (observedTimestamp deadline : Nat)
  | markRefundAvailable (policyAllowed : Bool)
  | mintFinalization (fixedFieldsMatch receiptSucceeded : Bool)
      (receiptBlock finalizedBlock : Nat) (auditComplete : Bool)
  | startRefund (attemptMatches policyMatches : Bool)
  | refundResult
  deriving DecidableEq

namespace DepositEventGuard

def matchesEvent (event : Nat) : DepositEventGuard → Bool
  | .funding => decide (event ≤ 2)
  | .commitAuthorization .. => event == 3
  | .startRefund .. => event == 7
  | .installSignature .. => event == 5
  | .markRefundAvailable _ => event == 4
  | .mintFinalization .. => event == 6
  | .refundResult => event == 8 || event == 9

def accepts : DepositEventGuard → Bool
  | .funding | .refundResult => true
  | .markRefundAvailable policyAllowed => policyAllowed
  | .commitAuthorization quote fields domain deadline pristine =>
    fields && quote && domain && fields && pristine && deadline
  | .installSignature dispatched absent length observed deadline =>
    signatureInstallAllowed dispatched absent length observed deadline
  | .mintFinalization fields succeeded receipt finalized audit =>
    mintFinalizationAllowed (fields && audit) succeeded receipt finalized
  | .startRefund attempt policy => attempt && policy

end DepositEventGuard

structure DepositTransitionInput where
  state : Nat
  event : Nat
  guard : DepositEventGuard
  samePayload : Bool
  grossAmount : Nat
  netAmount : Nat
  serviceFee : Nat
  reservedAmount : Nat

structure DepositEffects where
  nextState : Nat
  reservationActive : Bool
  releaseReservation : Bool
  chargeServiceFee : Bool
  accounting : DepositAccountingEffects
  deriving DecidableEq

inductive DepositTransitionDecision where
  | idempotent
  | apply (effects : DepositEffects)
  | reject
  deriving DecidableEq

def depositNumericEffects (state event : Nat) (gross net fee reserved : Nat) :
    DepositAccountingEffects :=
  let next := depositTransition state event
  let wasReserved := depositReservationActive state
  let afterReserved := next.any depositReservationActive
  let authorizationSigned := depositChargeServiceFee state event
  let mintCompleted := (state == 3 || state == 4) && event == 6
  let refundCompleted := state == 6 && event == 8
  let terminalLiability := if net = 0 then gross else net
  { reservationAfter := if afterReserved then (if wasReserved then reserved else net) else 0
    reservationAdd := if !wasReserved && afterReserved then net else 0
    reservationRelease := if wasReserved && !afterReserved && next.isSome then reserved else 0
    feeCredit := if authorizationSigned then fee else 0
    pendingLiabilityDebit :=
      if authorizationSigned then fee
      else if mintCompleted || refundCompleted then terminalLiability else 0
    escrowDebit := if refundCompleted then terminalLiability else 0
    mintSupplyIncrease := if mintCompleted then net else 0 }

def depositTransitionDecision (input : DepositTransitionInput) : DepositTransitionDecision :=
  if input.samePayload then .idempotent
  else if !input.guard.matchesEvent input.event || !input.guard.accepts then .reject
  else match depositTransition input.state input.event with
    | none => .reject
    | some nextState =>
      let afterReserved := depositReservationActive nextState
      .apply {
        nextState
        reservationActive := afterReserved
        releaseReservation := depositReservationActive input.state && !afterReserved
        chargeServiceFee := depositChargeServiceFee input.state input.event
        accounting := depositNumericEffects input.state input.event input.grossAmount
          input.netAmount input.serviceFee input.reservedAmount }

theorem decision_applied (applied : depositTransitionDecision input = .apply effects) :
    input.samePayload = false ∧ input.guard.accepts = true ∧
    depositTransition input.state input.event = some effects.nextState ∧
    effects.accounting = depositNumericEffects input.state input.event input.grossAmount
      input.netAmount input.serviceFee input.reservedAmount := by
  unfold depositTransitionDecision at applied
  split at applied
  · contradiction
  next fresh =>
    split at applied
    · contradiction
    next guard =>
      split at applied
      · contradiction
      next next table =>
        cases applied
        simp only [Bool.or_eq_true, Bool.not_eq_true', not_or, Bool.not_eq_false] at guard
        exact ⟨Bool.eq_false_iff.mpr fresh, guard.2, table, rfl⟩

theorem decision_idempotent (replay : depositTransitionDecision input = .idempotent) :
    input.samePayload = true := by
  unfold depositTransitionDecision at replay
  split at replay
  · assumption
  · split at replay
    · contradiction
    · split at replay <;> contradiction

/-! Withdrawal phases: observed 0, release pending 1, paid 2, hold 3; event codes are
start 0, retry 1, succeeded 2, ambiguous 3, hold succeeded 4 and hold absent 5. -/

def withdrawalPhaseStep (state event : Nat) : Nat :=
  if state = 0 ∧ event = 0 then 1
  else if state = 1 ∧ event = 1 then 1
  else if state = 1 ∧ event = 2 then 2
  else if state = 1 ∧ event = 3 then 3
  else if state = 3 ∧ event = 4 then 2
  else if state = 3 ∧ event = 5 then 1
  else state

def withdrawalPhaseAllows (state event : Nat) : Bool :=
  withdrawalPhaseStep state event != state || (state == 1 && event == 1)

def withdrawalTransitionEffects (state event : Nat) (amountOut ledgerFee serviceFee : Nat) :
    Option (Nat × Nat × Nat × Nat) :=
  let next := withdrawalPhaseStep state event
  if next = state ∧ ¬(state = 1 ∧ event = 1) then none
  else if (state = 1 ∧ event = 2) ∨ (state = 3 ∧ event = 4) then
    (settlementDecision amountOut ledgerFee serviceFee).map
      fun d => (next, d.escrowDebit, d.reserveCredit, d.liabilityDebit)
  else if (state = 0 ∧ event = 0) ∨ (state = 1 ∧ event = 3) ∨ (state = 3 ∧ event = 5) ∨
      (state = 1 ∧ event = 1) then some (next, 0, 0, 0)
  else none

inductive LeaseLaneClaimDecision where
  | allow
  | automaticProgressPending
  | busy
  deriving DecidableEq

def leaseLaneClaimDecision (targetActive targetAutomatic : Bool) (activeInLane capacity : Nat) :
    LeaseLaneClaimDecision :=
  if targetActive then (if targetAutomatic then .automaticProgressPending else .busy)
  else if capacity ≤ activeInLane then .busy
  else .allow

def manualClaimAllowed (scheduled active stopped overdue expired : Bool) : Bool :=
  (!active || expired) && (!scheduled || stopped || overdue || expired)

def leaseOutcomeIsCurrent (activeGeneration outcomeGeneration : Nat) (active : Bool) : Bool :=
  active && activeGeneration == outcomeGeneration

end KinicBridge.Kernel
