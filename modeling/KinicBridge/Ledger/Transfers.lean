import KinicBridge.Ledger.Window

/-! Transfers: how the ledger answers an `icrc1_transfer` and how the canister reads the
answer. The ledger checks the fee first, then the creation time, then duplicates, and
balances last. -/
namespace KinicBridge

inductive TransferError where
  | badFee (expectedFee : Nat)
  | badBurn (minBurnAmount : Nat)
  | insufficientFunds (balance : Nat)
  | tooOld
  | createdInFuture (ledgerTime : Nat)
  | temporarilyUnavailable
  | duplicate (duplicateOf : Nat)
  | genericError (errorCode : Nat)
  deriving DecidableEq

abbrev TransferResult := Except TransferError Nat

def blockOutcome (index : Nat) (duplicate : Bool) : LedgerCallOutcome :=
  match natU128 index with
  | some block => if duplicate then .duplicate block else .succeeded block
  | none => .ambiguous

def failureAmount (value : Nat) (build : Nat → LedgerFailure) : LedgerCallOutcome :=
  match natU128 value with
  | some amount => .definitiveFailure (build amount)
  | none => .ambiguous

def classifyTransfer : TransferResult → LedgerCallOutcome
  | .ok index => blockOutcome index false
  | .error (.duplicate duplicateOf) => blockOutcome duplicateOf true
  | .error (.badFee expectedFee) => failureAmount expectedFee .badFee
  | .error (.badBurn minBurnAmount) => failureAmount minBurnAmount .badBurn
  | .error (.insufficientFunds balance) => failureAmount balance .insufficientFunds
  | .error .tooOld => .ambiguous
  | .error (.createdInFuture ledgerTime) => .retryableFailure (.createdInFuture ledgerTime)
  | .error .temporarilyUnavailable => .retryableFailure .temporarilyUnavailable
  | .error (.genericError errorCode) =>
    if errorCode ≤ Checked.limit 64 then .retryableFailure (.generic errorCode) else .ambiguous

def TransferError.refuses : TransferError → Bool
  | .badFee _ | .badBurn _ | .insufficientFunds _ => true
  | _ => false

theorem refuses_of_definitive (read : classifyTransfer result = .definitiveFailure code) :
    ∃ error, result = .error error ∧ error.refuses = true := by
  have noBlock : ∀ index duplicate, blockOutcome index duplicate ≠ .definitiveFailure code := by
    intro index duplicate
    unfold blockOutcome
    split
    · split <;> exact LedgerCallOutcome.noConfusion
    · exact LedgerCallOutcome.noConfusion
  cases result with
  | ok index => exact absurd read (noBlock index false)
  | error error =>
    refine ⟨error, rfl, ?_⟩
    cases error with
    | badFee | badBurn | insufficientFunds => rfl
    | duplicate index => exact absurd read (noBlock index true)
    | tooOld | createdInFuture | temporarilyUnavailable => cases read
    | genericError code =>
      simp only [classifyTransfer] at read
      split at read <;> cases read

def Accepted (ledger : List Transaction) (identity : LedgerTransferIdentity) : Prop :=
  ∃ transaction ∈ ledger, matchesIdentity transaction identity = true

inductive LedgerAnswers (fee now : Nat) (ledger : List Transaction)
    (identity : LedgerTransferIdentity) : TransferResult → List Transaction → Prop where
  | accepted (charged : identity.fee = fee) (admits : ledgerRule.Admits now ledger transaction)
      (carries : matchesIdentity transaction identity = true) :
      LedgerAnswers fee now ledger identity (.ok ledger.length) (ledger ++ [transaction])
  | badFee (differs : identity.fee ≠ fee) :
      LedgerAnswers fee now ledger identity (.error (.badFee fee)) ledger
  | tooOld (expired : identity.createdAtTimeNs + ledgerDedupNs < now) :
      LedgerAnswers fee now ledger identity (.error .tooOld) ledger
  | createdInFuture (ahead : now < identity.createdAtTimeNs) :
      LedgerAnswers fee now ledger identity (.error (.createdInFuture now)) ledger
  | duplicate (charged : identity.fee = fee) (found : ledger[index]? = some transaction)
      (carries : matchesIdentity transaction identity = true) :
      LedgerAnswers fee now ledger identity (.error (.duplicate index)) ledger
  | badBurn (charged : identity.fee = fee) (fresh : ¬Accepted ledger identity) :
      LedgerAnswers fee now ledger identity (.error (.badBurn minimum)) ledger
  | insufficientFunds (charged : identity.fee = fee) (fresh : ¬Accepted ledger identity) :
      LedgerAnswers fee now ledger identity (.error (.insufficientFunds balance)) ledger
  | temporarilyUnavailable :
      LedgerAnswers fee now ledger identity (.error .temporarilyUnavailable) ledger
  | genericError : LedgerAnswers fee now ledger identity (.error (.genericError code)) ledger

theorem LedgerAnswers.fresh_of_refusal
    (answers : LedgerAnswers fee now ledger identity (.error error) ledger')
    (refuses : error.refuses = true) (charged : identity.fee = fee) :
    ¬Accepted ledger identity := by
  cases answers with
  | badFee differs => exact absurd charged differs
  | badBurn _ fresh | insufficientFunds _ fresh => exact fresh
  | tooOld | createdInFuture | duplicate | temporarilyUnavailable | genericError => cases refuses

theorem LedgerAnswers.same_of_error
    (answers : LedgerAnswers fee now ledger identity (.error error) ledger') : ledger' = ledger := by
  cases answers <;> rfl

/-! Pulls: an `icrc2_transfer_from` may also be refused for its allowance. -/

inductive TransferFromError where
  | shared (error : TransferError)
  | insufficientAllowance (allowance : Nat)
  deriving DecidableEq

abbrev TransferFromResult := Except TransferFromError Nat

def classifyTransferFrom : TransferFromResult → LedgerCallOutcome
  | .ok index => classifyTransfer (.ok index)
  | .error (.shared error) => classifyTransfer (.error error)
  | .error (.insufficientAllowance allowance) => failureAmount allowance .insufficientAllowance

inductive LedgerPulls (fee now : Nat) (ledger : List Transaction)
    (identity : LedgerTransferIdentity) : TransferFromResult → List Transaction → Prop where
  | accepted (answers : LedgerAnswers fee now ledger identity (.ok index) ledger') :
      LedgerPulls fee now ledger identity (.ok index) ledger'
  | shared (answers : LedgerAnswers fee now ledger identity (.error error) ledger') :
      LedgerPulls fee now ledger identity (.error (.shared error)) ledger'
  | insufficientAllowance (charged : identity.fee = fee) (fresh : ¬Accepted ledger identity) :
      LedgerPulls fee now ledger identity (.error (.insufficientAllowance allowance)) ledger

end KinicBridge
