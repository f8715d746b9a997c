import KinicBridge.Core.DepositSteps

/-! Reconciliation holds: a transfer whose result is unknown parks its request until a
ledger scan finds the block or proves that there is none. -/
namespace KinicBridge

open Checked DepositRecord WithdrawalRecord

inductive RequestReference where
  | depositFunding (id : Bytes32)
  | depositRefund (id : Bytes32)
  | withdrawal (id : Bytes32)
  deriving DecidableEq

inductive ReconciliationHoldState where
  | open_
  | resolvedSucceeded (ledgerBlockIndex : Nat)
  | resolvedAbsent (historyWatermark : Nat)
  deriving DecidableEq

structure ReconciliationHoldRecord where
  id : Nat
  request : RequestReference
  transfer : LedgerTransferIdentity
  state : ReconciliationHoldState
  deriving DecidableEq

namespace ReconciliationHoldRecord

def opened (id : Nat) (request : RequestReference) (transfer : LedgerTransferIdentity) :
    ReconciliationHoldRecord := ⟨id, request, transfer, .open_⟩

variable (hold : ReconciliationHoldRecord)

def close (answer : ReconciliationHoldState) :
    Except CoreError (ReconciliationHoldRecord × ApplyOutcome) :=
  if hold.state = .open_ then .ok ({ hold with state := answer }, .applied)
  else if hold.state = answer then .ok (hold, .idempotent)
  else .error .conflictingReplay

def resolveSucceeded (block : Nat) : Except CoreError (ReconciliationHoldRecord × ApplyOutcome) :=
  hold.close (.resolvedSucceeded block)

def resolveAbsent (watermark : Nat) : Except CoreError (ReconciliationHoldRecord × ApplyOutcome) :=
  hold.close (.resolvedAbsent watermark)

theorem close_ok {hold hold' : ReconciliationHoldRecord}
    (closed : hold.close answer = .ok (hold', outcome)) :
    (outcome = .applied ∧ hold.state = .open_ ∧ hold' = { hold with state := answer }) ∨
    (outcome = .idempotent ∧ hold.state = answer ∧ hold' = hold) := by
  unfold close at closed
  split at closed
  next isOpen =>
    cases closed
    exact .inl ⟨rfl, isOpen, rfl⟩
  · split at closed
    next same =>
      cases closed
      exact .inr ⟨rfl, same, rfl⟩
    · contradiction

end ReconciliationHoldRecord

inductive DepositHoldResolution where
  | fundingSucceeded (fundingLedgerBlockIndex : Nat)
  | fundingAbsent (historyWatermark : Nat)
  | refundSucceeded (refundLedgerBlockIndex : Nat)
  | refundAbsent (historyWatermark : Nat) (nextIdentity : LedgerTransferIdentity)
  deriving DecidableEq

inductive WithdrawalHoldResolution where
  | succeeded (releaseLedgerBlockIndex : Nat)
  | absent (historyWatermark : Nat) (nextIdentity : LedgerTransferIdentity)
  deriving DecidableEq

def agreeingOutcome (holdOutcome requestOutcome : ApplyOutcome) (feeDelta : Nat) :
    Except CoreError ApplyResult :=
  if holdOutcome ≠ requestOutcome then .error .conflictingReplay
  else .ok (if requestOutcome = .applied then .ofApplied feeDelta else .ofIdempotent)

namespace DepositRecord

/-! How a deposit follows the answer of its hold: the state it reaches and whether that
is a move or a replay. -/

variable (deposit : DepositRecord) (hold : ReconciliationHoldRecord)

def fundingFoundMove (block nextFunding : Nat) : Except CoreError (DepositState × ApplyOutcome) :=
  if deposit.state = .fundingReconciliationHold hold.id then
    .ok (.escrowedUnquoted nextFunding, .applied)
  else if deposit.state.ledgerBlocks.1 = some block then .ok (deposit.state, .idempotent)
  else .error .holdMismatch

def fundingAbsentMove (watermark : Nat) : Except CoreError (DepositState × ApplyOutcome) :=
  if deposit.state = .fundingReconciliationHold hold.id then
    .ok (.cancelled (some hold.id) (some watermark) none, .applied)
  else if deposit.state = .cancelled (some hold.id) (some watermark) none then
    .ok (deposit.state, .idempotent)
  else .error .holdMismatch

def refundFoundMove (block nextRefund : Nat) : Except CoreError (DepositState × ApplyOutcome) :=
  match deposit.state with
  | .refundReconciliationHold reason funding holdId attempt =>
    if holdId = hold.id ∧ hold.transfer = attempt.identity then
      .ok (.refunded reason funding attempt nextRefund (some hold.id), .applied)
    else .error .holdMismatch
  | .refunded _ _ attempt current (some id) =>
    if id = hold.id ∧ current = block ∧ hold.transfer = attempt.identity then
      .ok (deposit.state, .idempotent)
    else .error .holdMismatch
  | _ => .error .holdMismatch

def refundAbsentMove
    (nextIdentity : LedgerTransferIdentity) : Except CoreError (DepositState × ApplyOutcome) :=
  match deposit.state with
  | .refundReconciliationHold reason funding holdId attempt =>
    if holdId = hold.id ∧ hold.transfer = attempt.identity then
      (attempt.retryAfterAbsence nextIdentity).map fun nextAttempt =>
        (.refundPending reason funding nextAttempt, .applied)
    else .error .holdMismatch
  | .refundPending _ _ attempt =>
    if attempt.identity = nextIdentity then .ok (deposit.state, .idempotent)
    else .error .holdMismatch
  | _ => .error .holdMismatch

def heldRefundBlocks : Option Nat × Option Nat :=
  match deposit.state with
  | .refundReconciliationHold _ funding _ _ => (some funding, none)
  | .refunded _ funding _ refund _ => (some funding, some refund)
  | _ => (none, none)

end DepositRecord

def depositHoldStep (deposit : DepositRecord) (hold : ReconciliationHoldRecord) :
    DepositHoldResolution →
    Except CoreError ((ReconciliationHoldRecord × ApplyOutcome) × DepositState × ApplyOutcome)
  | .fundingSucceeded block => do
    if hold.request ≠ .depositFunding deposit.id ∨ hold.transfer ≠ deposit.transfer then
      throw .holdMismatch
    let (nextFunding, _) ← okOr .ledgerBlockConflict
      (Kernel.depositLedgerBlockTransition deposit.state.ledgerBlocks.1 none 1 block)
    let nextFunding ← okOr .ledgerBlockConflict nextFunding
    let closed ← hold.resolveSucceeded nextFunding
    let moved ← deposit.fundingFoundMove hold block nextFunding
    return (closed, moved)
  | .fundingAbsent watermark => do
    if hold.request ≠ .depositFunding deposit.id ∨ hold.transfer ≠ deposit.transfer then
      throw .holdMismatch
    let closed ← hold.resolveAbsent watermark
    let moved ← deposit.fundingAbsentMove hold watermark
    return (closed, moved)
  | .refundSucceeded block => do
    if hold.request ≠ .depositRefund deposit.id then throw .holdMismatch
    let (_, nextRefund) ← okOr .ledgerBlockConflict
      (Kernel.depositLedgerBlockTransition deposit.heldRefundBlocks.1 deposit.heldRefundBlocks.2
        2 block)
    let nextRefund ← okOr .ledgerBlockConflict nextRefund
    let closed ← hold.resolveSucceeded nextRefund
    let moved ← deposit.refundFoundMove hold block nextRefund
    return (closed, moved)
  | .refundAbsent watermark nextIdentity => do
    if hold.request ≠ .depositRefund deposit.id then throw .holdMismatch
    let closed ← hold.resolveAbsent watermark
    let moved ← deposit.refundAbsentMove hold nextIdentity
    return (closed, moved)

def resolveDepositHold (deposit : DepositRecord) (hold : ReconciliationHoldRecord)
    (resolution : DepositHoldResolution) :
    Except CoreError (DepositRecord × ReconciliationHoldRecord × ApplyResult) := do
  let (closed, moved) ← depositHoldStep deposit hold resolution
  let result ← agreeingOutcome closed.2 moved.2 0
  return ({ deposit with state := moved.1 }, closed.1, result)

inductive DepositHoldResolved (deposit : DepositRecord) (hold : ReconciliationHoldRecord) :
    DepositHoldResolution → ReconciliationHoldState → DepositState → Prop where
  | fundingFound (phase : deposit.state = .fundingReconciliationHold hold.id)
      (request : hold.request = .depositFunding deposit.id)
      (transfer : hold.transfer = deposit.transfer) :
      DepositHoldResolved deposit hold (.fundingSucceeded block) (.resolvedSucceeded block)
        (.escrowedUnquoted block)
  | fundingAbsent (phase : deposit.state = .fundingReconciliationHold hold.id)
      (request : hold.request = .depositFunding deposit.id)
      (transfer : hold.transfer = deposit.transfer) :
      DepositHoldResolved deposit hold (.fundingAbsent watermark) (.resolvedAbsent watermark)
        (.cancelled (some hold.id) (some watermark) none)
  | refundFound (phase : deposit.state = .refundReconciliationHold reason funding hold.id attempt)
      (request : hold.request = .depositRefund deposit.id)
      (transfer : hold.transfer = attempt.identity) :
      DepositHoldResolved deposit hold (.refundSucceeded block) (.resolvedSucceeded block)
        (.refunded reason funding attempt block (some hold.id))
  | refundAbsent (phase : deposit.state = .refundReconciliationHold reason funding hold.id attempt)
      (request : hold.request = .depositRefund deposit.id)
      (transfer : hold.transfer = attempt.identity)
      (retry : attempt.retryAfterAbsence identity = .ok nextAttempt) :
      DepositHoldResolved deposit hold (.refundAbsent watermark identity)
        (.resolvedAbsent watermark) (.refundPending reason funding nextAttempt)

variable {hold hold' : ReconciliationHoldRecord} {deposit : DepositRecord}
  {withdrawal : WithdrawalRecord}

theorem DepositHoldResolved.transition {next : DepositState}
    (resolved : DepositHoldResolved deposit hold resolution answer next) :
    (deposit.state.code = 5 ∧ (next.code = 1 ∨ next.code = 9)) ∨
    (deposit.state.code = 7 ∧ (next.code = 6 ∨ next.code = 8)) := by
  cases resolved with
  | fundingFound phase | fundingAbsent phase => simp [phase, DepositState.code]
  | refundFound phase | refundAbsent phase => simp [phase, DepositState.code]

private theorem funding_transition (transition :
    Kernel.depositLedgerBlockTransition current none 1 block = some (next, refund)) :
    next = some block := by
  cases current with
  | none => simp_all [Kernel.depositLedgerBlockTransition]
  | some held =>
    by_cases same : held = block <;> simp_all [Kernel.depositLedgerBlockTransition]

private theorem refund_transition (transition :
    Kernel.depositLedgerBlockTransition current refund 2 block = some (funding, next)) :
    next = some block := by
  cases current with
  | none => simp [Kernel.depositLedgerBlockTransition] at transition
  | some held =>
    cases refund with
    | none => simp_all [Kernel.depositLedgerBlockTransition]
    | some paid =>
      by_cases same : paid = block <;> simp_all [Kernel.depositLedgerBlockTransition]

def HoldMove (deposit : DepositRecord) (hold : ReconciliationHoldRecord)
    (resolution : DepositHoldResolution) (answer : ReconciliationHoldState)
    (moved : DepositState × ApplyOutcome) : Prop :=
  (moved.2 = .applied ∧ DepositHoldResolved deposit hold resolution answer moved.1) ∨
  moved = (deposit.state, .idempotent)

theorem fundingFoundMove_ok (moves : deposit.fundingFoundMove hold block block = .ok moved)
    (request : hold.request = .depositFunding deposit.id)
    (transfer : hold.transfer = deposit.transfer) :
    HoldMove deposit hold (.fundingSucceeded block) (.resolvedSucceeded block) moved := by
  unfold fundingFoundMove at moves
  split at moves
  next phase =>
    cases moves
    exact .inl ⟨rfl, .fundingFound phase request transfer⟩
  · split at moves <;> cases moves
    exact .inr rfl

theorem fundingAbsentMove_ok (moves : deposit.fundingAbsentMove hold watermark = .ok moved)
    (request : hold.request = .depositFunding deposit.id)
    (transfer : hold.transfer = deposit.transfer) :
    HoldMove deposit hold (.fundingAbsent watermark) (.resolvedAbsent watermark) moved := by
  unfold fundingAbsentMove at moves
  split at moves
  next phase =>
    cases moves
    exact .inl ⟨rfl, .fundingAbsent phase request transfer⟩
  · split at moves <;> cases moves
    exact .inr rfl

theorem refundFoundMove_ok (moves : deposit.refundFoundMove hold block block = .ok moved)
    (request : hold.request = .depositRefund deposit.id) :
    HoldMove deposit hold (.refundSucceeded block) (.resolvedSucceeded block) moved := by
  unfold refundFoundMove at moves
  split at moves
  next phase =>
    split at moves <;> cases moves
    rename_i same
    obtain ⟨rfl, transfer⟩ := same
    exact .inl ⟨rfl, .refundFound phase request transfer⟩
  · split at moves <;> cases moves
    exact .inr rfl
  · contradiction

theorem refundAbsentMove_ok (moves : deposit.refundAbsentMove hold identity = .ok moved)
    (request : hold.request = .depositRefund deposit.id) :
    HoldMove deposit hold (.refundAbsent watermark identity) (.resolvedAbsent watermark) moved := by
  unfold refundAbsentMove at moves
  split at moves
  next reason funding holdId attempt phase =>
    split at moves
    next same =>
      obtain ⟨rfl, transfer⟩ := same
      cases retry : attempt.retryAfterAbsence identity with
      | error _ => simp [retry, Except.map] at moves
      | ok nextAttempt =>
        simp only [retry, Except.map, Except.ok.injEq] at moves
        subst moves
        exact .inl ⟨rfl, .refundAbsent phase request transfer retry⟩
    · contradiction
  · split at moves <;> cases moves
    exact .inr rfl
  · contradiction

theorem depositHoldStep_ok {resolution : DepositHoldResolution}
    (stepped : depositHoldStep deposit hold resolution = .ok (closed, moved)) :
    ∃ answer, hold.close answer = .ok closed ∧ HoldMove deposit hold resolution answer moved := by
  cases resolution with
  | fundingSucceeded block =>
    simp only [depositHoldStep] at stepped
    obtain ⟨bound, stepped⟩ := thrown_ok.mp stepped
    simp only [not_or, not_not] at bound
    obtain ⟨⟨nextFunding, _⟩, transition, rest⟩ := found_ok.mp stepped
    obtain ⟨found, present, rest⟩ := found_ok.mp rest
    cases funding_transition transition
    cases present
    obtain ⟨_, closing, rest⟩ := bind_ok.mp rest
    obtain ⟨_, moves, ⟨⟩⟩ := returned_ok.mp rest
    exact ⟨_, closing, fundingFoundMove_ok moves bound.1 bound.2⟩
  | fundingAbsent watermark =>
    simp only [depositHoldStep] at stepped
    obtain ⟨bound, stepped⟩ := thrown_ok.mp stepped
    simp only [not_or, not_not] at bound
    obtain ⟨_, closing, rest⟩ := bind_ok.mp stepped
    obtain ⟨_, moves, ⟨⟩⟩ := returned_ok.mp rest
    exact ⟨_, closing, fundingAbsentMove_ok moves bound.1 bound.2⟩
  | refundSucceeded block =>
    simp only [depositHoldStep] at stepped
    obtain ⟨request, stepped⟩ := thrown_ok.mp stepped
    obtain ⟨⟨_, nextRefund⟩, transition, rest⟩ := found_ok.mp stepped
    obtain ⟨found, present, rest⟩ := found_ok.mp rest
    cases refund_transition transition
    cases present
    obtain ⟨_, closing, rest⟩ := bind_ok.mp rest
    obtain ⟨_, moves, ⟨⟩⟩ := returned_ok.mp rest
    exact ⟨_, closing, refundFoundMove_ok moves (not_not.mp request)⟩
  | refundAbsent watermark identity =>
    simp only [depositHoldStep] at stepped
    obtain ⟨request, stepped⟩ := thrown_ok.mp stepped
    obtain ⟨_, closing, rest⟩ := bind_ok.mp stepped
    obtain ⟨_, moves, ⟨⟩⟩ := returned_ok.mp rest
    exact ⟨_, closing, refundAbsentMove_ok moves (not_not.mp request)⟩

theorem resolveDepositHold_ok {deposit' : DepositRecord}
    (resolved : resolveDepositHold deposit hold resolution = .ok (deposit', hold', result)) :
    (deposit' = deposit ∧ hold' = hold ∧ result = .ofIdempotent) ∨
    ∃ answer state, DepositHoldResolved deposit hold resolution answer state ∧
      hold.state = .open_ ∧ hold' = { hold with state := answer } ∧
      deposit' = { deposit with state } ∧ result = .ofApplied 0 := by
  obtain ⟨⟨⟨closedHold, closedOutcome⟩, next, outcome⟩, stepped, rest⟩ :=
    bind_ok.mp resolved
  obtain ⟨agreed, agreement, ⟨⟩⟩ := returned_ok.mp rest
  obtain ⟨same, final⟩ := guarded_ok.mp agreement
  cases not_not.mp same
  cases final
  obtain ⟨answer, closing, moved⟩ := depositHoldStep_ok stepped
  rcases ReconciliationHoldRecord.close_ok closing with ⟨rfl, isOpen, rfl⟩ | ⟨rfl, _, rfl⟩
  · rcases moved with ⟨_, moved⟩ | replay
    · exact .inr ⟨answer, next, moved, isOpen, rfl, rfl, rfl⟩
    · cases replay
  · rcases moved with ⟨absurdity, _⟩ | replay
    · cases absurdity
    · cases replay
      exact .inl ⟨rfl, rfl, rfl⟩

namespace WithdrawalRecord

variable (withdrawal : WithdrawalRecord) (hold : ReconciliationHoldRecord)

/-- The attempt a hold may resolve. After an absence the hold stays bound to the old
transfer while the record has moved to the replacement attempt. -/
def heldAttempt : Except CoreError TransferAttempt :=
  match withdrawal.state with
  | .reconciliationHold holdId attempt _ =>
    if holdId = hold.id then .ok attempt else .error .holdMismatch
  | .paid attempt _ _ (some id) => if id = hold.id then .ok attempt else .error .holdMismatch
  | .releasePending attempt _ =>
    if 0 < attempt.attemptNo then .ok attempt else .error .holdMismatch
  | _ => .error .holdMismatch

def releaseFoundMove
    (block nextRelease : Nat) : Except CoreError (WithdrawalState × ApplyOutcome × Nat) :=
  match withdrawal.state with
  | .reconciliationHold _ attempt settlement => do
    let (nextState, escrowDebit, reserveCredit, liabilityDebit) ←
      okOr .settlementMismatch
        (Kernel.withdrawalTransitionEffects 3 4 settlement.amountOut settlement.ledgerFee
          settlement.serviceFee)
    let escrow ← Amount.checkedAdd settlement.amountOut settlement.ledgerFee
    let liability ← Amount.checkedAdd settlement.amountOut settlement.serviceFee
    if nextState ≠ 2 ∨ escrowDebit ≠ escrow ∨ liabilityDebit ≠ liability then
      throw .settlementMismatch
    return (.paid attempt settlement nextRelease (some hold.id), .applied, reserveCredit)
  | .paid _ _ current (some id) =>
    if id = hold.id ∧ current = block then .ok (withdrawal.state, .idempotent, 0)
    else .error .holdMismatch
  | _ => .error .holdMismatch

def releaseAbsentMove (nextIdentity : LedgerTransferIdentity) :
    Except CoreError (WithdrawalState × ApplyOutcome × Nat) :=
  match withdrawal.state with
  | .reconciliationHold _ attempt settlement => do
    let (nextState, escrowDebit, reserveCredit, liabilityDebit) ←
      okOr .settlementMismatch
        (Kernel.withdrawalTransitionEffects 3 5 settlement.amountOut settlement.ledgerFee
          settlement.serviceFee)
    if nextState ≠ 1 ∨ escrowDebit ≠ 0 ∨ reserveCredit ≠ 0 ∨ liabilityDebit ≠ 0 then
      throw .settlementMismatch
    let nextAttempt ← attempt.retryAfterAbsence nextIdentity
    return (.releasePending nextAttempt settlement, .applied, 0)
  | .releasePending attempt _ =>
    if attempt.identity = nextIdentity then .ok (withdrawal.state, .idempotent, 0)
    else .error .holdMismatch
  | _ => .error .holdMismatch

end WithdrawalRecord

section

variable (withdrawal : WithdrawalRecord) (hold : ReconciliationHoldRecord)

def withdrawalHoldStep : WithdrawalHoldResolution → Except CoreError
      ((ReconciliationHoldRecord × ApplyOutcome) × WithdrawalState × ApplyOutcome × Nat)
  | .succeeded block => do
    let nextRelease ← okOr .ledgerBlockConflict
      (Kernel.withdrawalLedgerBlockTransition (releaseBlock withdrawal.state) 1
        block)
    let nextRelease ← okOr .ledgerBlockConflict nextRelease
    let closed ← hold.resolveSucceeded nextRelease
    let moved ← withdrawal.releaseFoundMove hold block nextRelease
    return (closed, moved)
  | .absent watermark nextIdentity => do
    let closed ← hold.resolveAbsent watermark
    let moved ← withdrawal.releaseAbsentMove nextIdentity
    return (closed, moved)

def resolveWithdrawalHold (resolution : WithdrawalHoldResolution) :
    Except CoreError (WithdrawalRecord × ReconciliationHoldRecord × ApplyResult) := do
  if hold.request ≠ .withdrawal withdrawal.id then throw .holdMismatch
  let heldAttempt ← withdrawal.heldAttempt hold
  if hold.transfer ≠ heldAttempt.identity ∧ heldAttempt.attemptNo = 0 then throw .holdMismatch
  let (closed, moved) ← withdrawalHoldStep withdrawal hold resolution
  let result ← agreeingOutcome closed.2 moved.2.1 moved.2.2
  return ({ withdrawal with state := moved.1 }, closed.1, result)

/-- The resolutions that move a withdrawal. The hold's transfer is only known to be the
held attempt's on the first attempt. -/
inductive WithdrawalHoldResolved (withdrawal : WithdrawalRecord)
    (hold : ReconciliationHoldRecord) : WithdrawalHoldResolution → ReconciliationHoldState →
    WithdrawalState → Nat → Prop where
  | releaseFound (phase : withdrawal.state = .reconciliationHold hold.id attempt settlement)
      (settled : settlement.ledgerFee ≤ settlement.serviceFee) :
      WithdrawalHoldResolved withdrawal hold (.succeeded block) (.resolvedSucceeded block)
        (.paid attempt settlement block (some hold.id))
        (settlement.serviceFee - settlement.ledgerFee)
  | releaseAbsent (phase : withdrawal.state = .reconciliationHold hold.id attempt settlement)
      (retry : attempt.retryAfterAbsence identity = .ok nextAttempt) :
      WithdrawalHoldResolved withdrawal hold (.absent watermark identity)
        (.resolvedAbsent watermark) (.releasePending nextAttempt settlement) 0

private theorem release_transition (transition :
    Kernel.withdrawalLedgerBlockTransition current 1 block = some next) : next = some block := by
  cases current with
  | none => simp_all [Kernel.withdrawalLedgerBlockTransition]
  | some held =>
    by_cases same : held = block <;> simp_all [Kernel.withdrawalLedgerBlockTransition]

def ReleaseMove (resolution : WithdrawalHoldResolution) (answer : ReconciliationHoldState)
    (moved : WithdrawalState × ApplyOutcome × Nat) : Prop :=
  (moved.2.1 = .applied ∧
    WithdrawalHoldResolved withdrawal hold resolution answer moved.1 moved.2.2) ∨
  moved = (withdrawal.state, .idempotent, 0)

end

theorem heldAttempt_ok (held : withdrawal.heldAttempt hold = .ok attempt)
    (phase : withdrawal.state = .reconciliationHold holdId current settlement) :
    holdId = hold.id ∧ attempt = current := by
  unfold heldAttempt at held
  simp only [phase] at held
  split at held <;> cases held
  exact ⟨by assumption, rfl⟩

section

variable (held : withdrawal.heldAttempt hold = .ok current)

include held

theorem releaseFoundMove_ok (moves : withdrawal.releaseFoundMove hold block block = .ok moved) :
    ReleaseMove withdrawal hold (.succeeded block) (.resolvedSucceeded block) moved := by
  unfold releaseFoundMove at moves
  split at moves
  next holdId attempt settlement phase =>
    obtain ⟨rfl, _⟩ := heldAttempt_ok held phase
    obtain ⟨⟨nextState, escrow, reserve, liability⟩, effects, rest⟩ := found_ok.mp moves
    obtain ⟨_, _, rest⟩ := bind_ok.mp rest
    obtain ⟨_, _, rest⟩ := bind_ok.mp rest
    obtain ⟨_, rest⟩ := thrown_ok.mp rest
    cases pure_ok.mp rest
    simp only [Kernel.withdrawalTransitionEffects, Kernel.withdrawalPhaseStep] at effects
    obtain ⟨decision, decided, same⟩ := Option.map_eq_some_iff.mp effects
    obtain ⟨settled, rfl⟩ := Kernel.settlementDecision_eq_some decided
    simp only [Prod.mk.injEq] at same
    obtain ⟨_, _, rfl, _⟩ := same
    exact .inl ⟨rfl, .releaseFound phase settled⟩
  · split at moves <;> cases moves
    exact .inr rfl
  · contradiction

theorem releaseAbsentMove_ok (moves : withdrawal.releaseAbsentMove identity = .ok moved) :
    ReleaseMove withdrawal hold (.absent watermark identity) (.resolvedAbsent watermark) moved := by
  unfold releaseAbsentMove at moves
  split at moves
  next holdId attempt settlement phase =>
    obtain ⟨rfl, _⟩ := heldAttempt_ok held phase
    obtain ⟨⟨nextState, escrow, reserve, liability⟩, _, rest⟩ := bind_ok.mp moves
    obtain ⟨_, rest⟩ := thrown_ok.mp rest
    obtain ⟨nextAttempt, retry, rfl⟩ := returned_ok.mp rest
    exact .inl ⟨rfl, .releaseAbsent phase retry⟩
  · split at moves <;> cases moves
    exact .inr rfl
  · contradiction

theorem withdrawalHoldStep_ok {resolution : WithdrawalHoldResolution}
    (stepped : withdrawalHoldStep withdrawal hold resolution = .ok (closed, moved)) :
    ∃ answer, hold.close answer = .ok closed ∧
      ReleaseMove withdrawal hold resolution answer moved := by
  cases resolution with
  | succeeded block =>
    obtain ⟨nextRelease, transition, rest⟩ := found_ok.mp stepped
    obtain ⟨found, present, rest⟩ := found_ok.mp rest
    cases release_transition transition
    cases present
    obtain ⟨_, closing, rest⟩ := bind_ok.mp rest
    obtain ⟨_, moves, ⟨⟩⟩ := returned_ok.mp rest
    exact ⟨_, closing, releaseFoundMove_ok held moves⟩
  | absent watermark identity =>
    obtain ⟨_, closing, rest⟩ := bind_ok.mp stepped
    obtain ⟨_, moves, ⟨⟩⟩ := returned_ok.mp rest
    exact ⟨_, closing, releaseAbsentMove_ok held moves⟩

end

theorem resolveWithdrawalHold_ok {withdrawal' : WithdrawalRecord}
    (resolved : resolveWithdrawalHold withdrawal hold resolution =
      .ok (withdrawal', hold', result)) : hold.request = .withdrawal withdrawal.id ∧
    ((withdrawal' = withdrawal ∧ hold' = hold ∧ result = .ofIdempotent) ∨
    ∃ answer state fee, WithdrawalHoldResolved withdrawal hold resolution answer state fee ∧
      hold.state = .open_ ∧ hold' = { hold with state := answer } ∧
      withdrawal' = { withdrawal with state } ∧ result = .ofApplied fee) := by
  simp only [resolveWithdrawalHold] at resolved
  obtain ⟨request, resolved⟩ := thrown_ok.mp resolved
  refine ⟨not_not.mp request, ?_⟩
  obtain ⟨current, held, rest⟩ := bind_ok.mp resolved
  obtain ⟨_, rest⟩ := thrown_ok.mp rest
  obtain ⟨⟨⟨closedHold, closedOutcome⟩, next, outcome, fee⟩, stepped, rest⟩ :=
    bind_ok.mp rest
  obtain ⟨agreed, agreement, ⟨⟩⟩ := returned_ok.mp rest
  obtain ⟨same, final⟩ := guarded_ok.mp agreement
  cases not_not.mp same
  cases final
  obtain ⟨answer, closing, moved⟩ := withdrawalHoldStep_ok held stepped
  rcases ReconciliationHoldRecord.close_ok closing with ⟨rfl, isOpen, rfl⟩ | ⟨rfl, _, rfl⟩
  · rcases moved with ⟨_, moved⟩ | replay
    · exact .inr ⟨answer, next, fee, moved, isOpen, rfl, rfl, rfl⟩
    · cases replay
  · rcases moved with ⟨absurdity, _⟩ | replay
    · cases absurdity
    · cases replay
      exact .inl ⟨rfl, rfl, rfl⟩

end KinicBridge
