import KinicBridge.Core.Types

/-! The mint policy of the Base contract: the checks a mint authorization passes, in the contract's
order, and what an accepted mint changes. Amounts are 256-bit words kept as numbers. -/
namespace KinicBridge.MintAuthorizationPolicy

inductive RejectReason
  | none | paused | expired | deadlineTooFar | epochMismatch | zeroRecipient | invalidRecipient
  | grossExceedsU128 | maximumFeeExceedsU128 | chargedFeeExceedsU128 | processed
  | protocolFeeExceeded | userFeeExceeded | invalidAmount | perDepositLimitExceeded
  | windowLimitExceeded | timestampExceedsU64
  deriving DecidableEq

structure MintTransitionInput where
  timestamp : Nat
  deadline : Nat
  authorizationEpoch : Nat
  currentEpoch : Nat
  recipient : Bytes20
  bridge : Bytes20
  token : Bytes20
  grossAmount : Nat
  maximumFee : Nat
  chargedFee : Nat
  protocolMaximumFee : Nat
  perDepositLimit : Nat
  consumedInWindow : Nat
  windowLimit : Nat
  windowStartedAt : Nat
  windowDuration : Nat
  paused : Bool
  processed : Bool
  deriving DecidableEq

structure MintEffects where
  processedAfter : Bool := false
  windowReset : Bool := false
  windowStartedAtAfter : Nat := 0
  windowConsumedAfter : Nat := 0
  mintAmount : Nat := 0
  supplyIncrease : Nat := 0
  eventGrossAmount : Nat := 0
  eventServiceFee : Nat := 0
  eventMintedAmount : Nat := 0
  deriving DecidableEq

def deadlineAccepts (timestamp deadline : Nat) : Bool := timestamp ≤ deadline
def epochMatches (authorizationEpoch currentEpoch : Nat) : Bool := authorizationEpoch == currentEpoch
def depositAvailable (processed : Bool) : Bool := !processed

def feeWithinBounds (chargedFee userMaximum protocolMaximum : Nat) : Bool :=
  chargedFee ≤ userMaximum && chargedFee ≤ protocolMaximum

def mintAmountWithinLimit (grossAmount chargedFee perDepositLimit : Nat) : Bool × Nat :=
  if grossAmount ≤ chargedFee then (false, 0)
  else (grossAmount - chargedFee ≤ perDepositLimit, grossAmount - chargedFee)

def windowExpired (timestamp startedAt duration : Nat) : Bool := startedAt + duration ≤ timestamp

def tryConsumeWindow (consumed requested limit : Nat) : Bool × Nat × Nat :=
  let available := if limit ≤ consumed then 0 else limit - consumed
  if available < requested then (false, consumed, available)
  else (true, consumed + requested, available)

def nextEpoch (currentEpoch : Nat) : Option Nat := Checked.add 256 currentEpoch 1

private def reject (reason : RejectReason) (available : Nat) :
    Option (RejectReason × MintEffects × Nat) :=
  some (reason, {}, available)

def evaluateWindow (input : MintTransitionInput) (mintAmount : Nat) :
    Option (RejectReason × MintEffects × Nat) :=
  let reset := windowExpired input.timestamp input.windowStartedAt input.windowDuration
  if reset ∧ Checked.limit 64 < input.timestamp then reject .timestampExceedsU64 0
  else
    match tryConsumeWindow (if reset then 0 else input.consumedInWindow) mintAmount
        input.windowLimit with
    | (false, _, available) => reject .windowLimitExceeded available
    | (true, nextConsumed, available) => some (.none,
        { processedAfter := true
          windowReset := reset
          windowStartedAtAfter := if reset then input.timestamp else input.windowStartedAt
          windowConsumedAfter := nextConsumed
          mintAmount := input.grossAmount - input.chargedFee
          supplyIncrease := input.grossAmount - input.chargedFee
          eventGrossAmount := input.grossAmount
          eventServiceFee := input.chargedFee
          eventMintedAmount := input.grossAmount - input.chargedFee }, available)

/-- The contract's decision on a mint; `none` is an arithmetic panic. -/
def evaluateMint (input : MintTransitionInput) : Option (RejectReason × MintEffects × Nat) :=
  if input.paused then reject .paused 0
  else if ¬deadlineAccepts input.timestamp input.deadline then reject .expired 0
  else (Checked.add 256 input.timestamp (15 * 60)).bind fun latest =>
    if latest < input.deadline then reject .deadlineTooFar 0
    else if ¬epochMatches input.authorizationEpoch input.currentEpoch then reject .epochMismatch 0
    else if input.recipient = 0 then reject .zeroRecipient 0
    else if input.recipient = input.bridge ∨ input.recipient = input.token then
      reject .invalidRecipient 0
    else if Checked.limit 128 < input.grossAmount then reject .grossExceedsU128 0
    else if Checked.limit 128 < input.maximumFee then reject .maximumFeeExceedsU128 0
    else if Checked.limit 128 < input.chargedFee then reject .chargedFeeExceedsU128 0
    else if ¬depositAvailable input.processed then reject .processed 0
    else if ¬feeWithinBounds input.chargedFee input.maximumFee input.protocolMaximumFee then
      if input.protocolMaximumFee < input.chargedFee then reject .protocolFeeExceeded 0
      else reject .userFeeExceeded 0
    else if input.grossAmount ≤ input.chargedFee then reject .invalidAmount 0
    else if ¬(mintAmountWithinLimit input.grossAmount input.chargedFee input.perDepositLimit).1 then
      reject .perDepositLimitExceeded 0
    else evaluateWindow input
      (mintAmountWithinLimit input.grossAmount input.chargedFee input.perDepositLimit).2

structure Accepted (input : MintTransitionInput) (effects : MintEffects) : Prop where
  active : input.paused = false
  inTime : input.timestamp ≤ input.deadline
  near : input.deadline ≤ input.timestamp + 15 * 60
  epoch : input.authorizationEpoch = input.currentEpoch
  gross : input.grossAmount ≤ Checked.limit 128
  fresh : input.processed = false
  fee : input.chargedFee ≤ input.maximumFee ∧ input.chargedFee ≤ input.protocolMaximumFee
  positive : input.chargedFee < input.grossAmount
  small : input.grossAmount - input.chargedFee ≤ input.perDepositLimit
  processed : effects.processedAfter = true
  minted : effects.supplyIncrease = input.grossAmount - input.chargedFee
  window : (input.windowStartedAt + input.windowDuration ≤ input.timestamp ∧
      effects.windowStartedAtAfter = input.timestamp ∧
      effects.windowConsumedAfter = input.grossAmount - input.chargedFee) ∨
    (input.timestamp < input.windowStartedAt + input.windowDuration ∧
      effects.windowStartedAtAfter = input.windowStartedAt ∧
      effects.windowConsumedAfter = input.consumedInWindow + (input.grossAmount - input.chargedFee))
  within : effects.windowConsumedAfter ≤ input.windowLimit

variable {input : MintTransitionInput} {effects : MintEffects}

private theorem passed {p : Prop} [Decidable p] {reason : RejectReason} (rejects : reason ≠ .none)
    (accepted : (if p then reject reason n else rest) = some (.none, effects, available)) :
    ¬p ∧ rest = some (.none, effects, available) := by
  by_cases holds : p
  · simp [holds, reject, rejects] at accepted
  · exact ⟨holds, by simpa [holds] using accepted⟩

private theorem mintAmount_of_lt (positive : chargedFee < grossAmount) :
    mintAmountWithinLimit grossAmount chargedFee perDepositLimit =
      (decide (grossAmount - chargedFee ≤ perDepositLimit), grossAmount - chargedFee) := by
  simp [mintAmountWithinLimit, Nat.not_le.mpr positive]

theorem tryConsumeWindow_accepts
    (taken : tryConsumeWindow consumed requested limit = (true, next, available)) :
    next = consumed + requested ∧ (requested = 0 ∨ next ≤ limit) := by
  unfold tryConsumeWindow at taken
  by_cases room : (if limit ≤ consumed then 0 else limit - consumed) < requested
  · simp [room] at taken
  · simp only [room, if_false, Prod.mk.injEq, true_and] at taken
    refine ⟨taken.1.symm, ?_⟩
    split at room <;> omega

theorem evaluateWindow_accepts (positive : 0 < mintAmount)
    (accepted : evaluateWindow input mintAmount = some (.none, effects, available)) :
    ∃ consumed, effects = MintEffects.mk true
        (windowExpired input.timestamp input.windowStartedAt input.windowDuration)
        (if windowExpired input.timestamp input.windowStartedAt input.windowDuration
          then input.timestamp else input.windowStartedAt) (consumed + mintAmount)
        (input.grossAmount - input.chargedFee) (input.grossAmount - input.chargedFee)
        input.grossAmount input.chargedFee (input.grossAmount - input.chargedFee) ∧
      consumed = (if windowExpired input.timestamp input.windowStartedAt input.windowDuration
        then 0 else input.consumedInWindow) ∧ consumed + mintAmount ≤ input.windowLimit := by
  unfold evaluateWindow at accepted
  obtain ⟨_, accepted⟩ := passed (by simp) accepted
  split at accepted
  · simp [reject] at accepted
  next next available' taken =>
    obtain ⟨rfl, limited⟩ := tryConsumeWindow_accepts taken
    simp only [Option.some.injEq, Prod.mk.injEq, true_and] at accepted
    exact ⟨_, accepted.1.symm, rfl, by omega⟩

theorem evaluateMint_accepts (accepted : evaluateMint input = some (.none, effects, available)) :
    Accepted input effects := by
  unfold evaluateMint at accepted
  obtain ⟨active, accepted⟩ := passed (by simp) accepted
  obtain ⟨inTime, accepted⟩ := passed (by simp) accepted
  obtain ⟨latest, sum, accepted⟩ := Option.bind_eq_some_iff.mp accepted
  obtain ⟨near, accepted⟩ := passed (by simp) accepted
  obtain ⟨epoch, accepted⟩ := passed (by simp) accepted
  obtain ⟨_, accepted⟩ := passed (by simp) accepted
  obtain ⟨_, accepted⟩ := passed (by simp) accepted
  obtain ⟨gross, accepted⟩ := passed (by simp) accepted
  obtain ⟨_, accepted⟩ := passed (by simp) accepted
  obtain ⟨_, accepted⟩ := passed (by simp) accepted
  obtain ⟨fresh, accepted⟩ := passed (by simp) accepted
  split at accepted
  · split at accepted <;> simp [reject] at accepted
  rename_i fee
  obtain ⟨positive, accepted⟩ := passed (by simp) accepted
  rw [mintAmount_of_lt (Nat.not_le.mp positive)] at accepted
  obtain ⟨small, accepted⟩ := passed (by simp) accepted
  dsimp only at accepted
  obtain ⟨consumed, rfl, counted, within⟩ := evaluateWindow_accepts (by omega) accepted
  obtain ⟨rfl, _⟩ := Checked.add_eq_some.mp sum
  simp only [deadlineAccepts, epochMatches, depositAvailable, feeWithinBounds, windowExpired,
    Bool.and_eq_true, decide_eq_true_eq, not_not, beq_iff_eq, Bool.not_eq_true',
    Bool.not_eq_true] at *
  refine ⟨active, inTime, by omega, epoch, by omega, fresh, fee, by omega, small, rfl, rfl, ?_, within⟩
  by_cases expired : input.windowStartedAt + input.windowDuration ≤ input.timestamp
  · simp only [expired, if_true] at counted ⊢
    exact .inl ⟨trivial, trivial, by omega⟩
  · simp only [expired, if_false] at counted ⊢
    exact .inr ⟨by omega, trivial, by omega⟩

end KinicBridge.MintAuthorizationPolicy
