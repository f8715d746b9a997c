import KinicBridge.Library.Checked

/-! Data shared by the deposit and withdrawal machines. Amounts and block indexes are natural
numbers; every addition the source checks is checked here too. -/
namespace KinicBridge

open Checked

abbrev Bytes20 := BitVec 160
abbrev Bytes32 := BitVec 256

inductive CoreError where
  | invalidAmount
  | invalidPrincipal
  | arithmeticOverflow
  | arithmeticUnderflow
  | serviceFeeAboveMaximum
  | serviceFeeAboveUserMaximum
  | perDepositLimitExceeded
  | mintWindowLimitExceeded
  | settlementMismatch
  | staleFinalizedObservation
  | conflictingFinalizedObservation
  | invalidLedgerOperation
  | invalidTransition (entity event : String)
  | conflictingReplay
  | ledgerBlockConflict
  | payloadConflict
  | holdMismatch
  | missingReconciliationEvidence
  | attemptOverflow
  | attemptPayloadChanged
  | refundIneligible
  deriving DecidableEq

namespace Amount

def checkedAdd (a b : Nat) : Except CoreError Nat :=
  okOr .arithmeticOverflow (add 128 a b)

def checkedSub (a b : Nat) : Except CoreError Nat :=
  okOr .arithmeticUnderflow (sub a b)

theorem checkedAdd_ok : checkedAdd a b = .ok c ↔ a + b = c ∧ c ≤ limit 128 := by
  rw [checkedAdd, okOr_ok, add_eq_some]

theorem checkedSub_ok : checkedSub a b = .ok c ↔ b + c = a := by
  rw [checkedSub, okOr_ok, sub_eq_some]

end Amount

/-- An ICRC account. The owner is a principal that `Account::new` accepts: nonempty,
at most 29 bytes and not the anonymous principal. -/
structure Account where
  owner : List UInt8
  subaccount : Bytes32
  valid : owner ≠ [] ∧ owner.length ≤ 29 ∧ owner ≠ [4]
  deriving DecidableEq

theorem owner_one_valid : [(1 : UInt8)] ≠ [] ∧ 1 ≤ 29 ∧ [(1 : UInt8)] ≠ [4] := by decide

theorem owner_two_valid : [(2 : UInt8)] ≠ [] ∧ 1 ≤ 29 ∧ [(2 : UInt8)] ≠ [4] := by decide

theorem owner_nine_valid : [(9 : UInt8)] ≠ [] ∧ 1 ≤ 29 ∧ [(9 : UInt8)] ≠ [4] := by decide

inductive LedgerOperation where
  | pullDeposit
  | refundDeposit
  | releaseWithdrawal
  | feePayout
  deriving DecidableEq

structure LedgerTransferIdentity where
  operation : LedgerOperation
  createdAtTimeNs : Nat
  memo : Bytes32
  amount : Nat
  fee : Nat
  from_ : Account
  to_ : Account
  spender : Option Account
  deriving DecidableEq

inductive LedgerFailure where
  | badFee (expectedFee : Nat)
  | badBurn (minimum : Nat)
  | insufficientFunds (balance : Nat)
  | insufficientAllowance (allowance : Nat)
  | tooOld
  | createdInFuture (ledgerTimeNs : Nat)
  | temporarilyUnavailable
  | generic (code : Nat)
  deriving DecidableEq

inductive LedgerCallOutcome where
  | succeeded (blockIndex : Nat)
  | duplicate (blockIndex : Nat)
  | definitiveFailure (code : LedgerFailure)
  | retryableFailure (code : LedgerFailure)
  | ambiguous
  deriving DecidableEq

def LedgerCallOutcome.confirmedBlock : LedgerCallOutcome → Option Nat
  | .succeeded block | .duplicate block => some block
  | .definitiveFailure _ | .retryableFailure _ | .ambiguous => none

inductive ApplyOutcome where
  | applied
  | idempotent
  deriving DecidableEq

structure DepositAccountingEffects where
  reservationAfter : Nat
  reservationAdd : Nat
  reservationRelease : Nat
  feeCredit : Nat
  pendingLiabilityDebit : Nat
  escrowDebit : Nat
  mintSupplyIncrease : Nat
  deriving DecidableEq

def DepositAccountingEffects.zero : DepositAccountingEffects := ⟨0, 0, 0, 0, 0, 0, 0⟩

structure ApplyResult where
  outcome : ApplyOutcome
  feeDelta : Nat
  depositEffects : Option DepositAccountingEffects
  deriving DecidableEq

namespace ApplyResult

def ofApplied (feeDelta : Nat) : ApplyResult := ⟨.applied, feeDelta, none⟩

def appliedDeposit (effects : DepositAccountingEffects) : ApplyResult :=
  ⟨.applied, effects.feeCredit, some effects⟩

def ofIdempotent : ApplyResult := ⟨.idempotent, 0, none⟩

end ApplyResult

end KinicBridge
