import Mathlib.Data.List.DropRight
import Mathlib.Data.List.TakeWhile
import Mathlib.Tactic

/-! Amounts as the page computes them: what a deposit costs, the most that can be deposited,
and the text an amount is shown and entered as. -/
namespace KinicBridge.Amounts

open List

def tokenDecimals : Nat := 8
def scale : Nat := 100000000

inductive AmountResult where
  | ok (value : Nat)
  | refused (reason : String)
  deriving DecidableEq

def isBlank (c : Char) : Bool :=
  (9 ≤ c.toNat && c.toNat ≤ 13) || (0x2000 ≤ c.toNat && c.toNat ≤ 0x200A) ||
    [0x20, 0xA0, 0x1680, 0x2028, 0x2029, 0x202F, 0x205F, 0x3000, 0xFEFF].contains c.toNat

def trim (text : List Char) : List Char := (text.dropWhile isBlank).rdropWhile isBlank

def splitPoint (text : List Char) : List Char × Option (List Char) :=
  (text.takeWhile (· ≠ '.'), (text.dropWhile (· ≠ '.')).tail?)

/-- `0|[1-9]\d*` -/
def isWhole : List Char → Bool
  | [] => false
  | first :: rest => (first == '0' && rest.isEmpty) ||
      (first.isDigit && first != '0' && rest.all Char.isDigit)

/-- `(?:\.\d{1,8})?` behind the whole number. -/
def isFraction : Option (List Char) → Bool
  | none => true
  | some digits => digits.all Char.isDigit && 1 ≤ digits.length && digits.length ≤ tokenDecimals

section

variable (digits : List Char)

def bigInt : Nat := Nat.ofDigitChars 10 digits 0

def padEnd : List Char :=
  digits ++ replicate (tokenDecimals - digits.length) '0'

def padStart : List Char :=
  replicate (tokenDecimals - digits.length) '0' ++ digits

end

def parseTokenAmount (input : List Char) : AmountResult :=
  let (whole, fraction) := splitPoint (trim input)
  if isWhole whole && isFraction fraction then
    let value := bigInt whole * scale + bigInt (padEnd (fraction.getD []))
    if 0 < value then .ok value else .refused "Amount must be greater than zero."
  else .refused "Enter a positive token amount with no more than 8 decimal places."

def fractionText (value : Nat) : List Char :=
  (padStart (Nat.toDigits 10 (value % scale))).rdropWhile (· = '0')

def formatTokenAmount (value : Nat) : List Char :=
  let whole := Nat.toDigits 10 (value / scale)
  if fractionText value = [] then whole else whole ++ '.' :: fractionText value

def requiredDepositBalance (amount ledgerFee allowance : Nat) : Nat :=
  let requiredAllowance := amount + ledgerFee
  let approvalFee := if allowance < requiredAllowance then ledgerFee else 0
  amount + ledgerFee + approvalFee

def maximumDepositAmount (balance ledgerFee allowance : Nat) : Nat :=
  let amountWithTransferFee :=
    if ledgerFee < balance then
      min (balance - ledgerFee) (if ledgerFee < allowance then allowance - ledgerFee else 0)
    else 0
  let amountWithApprovalAndTransferFees :=
    if ledgerFee * 2 < balance then balance - ledgerFee * 2 else 0
  if amountWithApprovalAndTransferFees < amountWithTransferFee then amountWithTransferFee
  else amountWithApprovalAndTransferFees

theorem requiredDepositBalance_le_iff (positive : 0 < amount) :
    requiredDepositBalance amount ledgerFee allowance ≤ balance ↔
      amount ≤ maximumDepositAmount balance ledgerFee allowance := by
  simp only [requiredDepositBalance, maximumDepositAmount]
  split_ifs <;> omega

theorem isDigit_toDigits (member : digit ∈ Nat.toDigits 10 n) : digit.isDigit = true :=
  Nat.isDigit_of_mem_toDigits (by decide) (by decide) member

theorem toDigits_head (positive : 0 < n) :
    ∃ first rest, Nat.toDigits 10 n = first :: rest ∧ first ≠ '0' := by
  induction n using Nat.strong_induction_on with
  | _ n ih =>
    by_cases small : n < 10
    · refine ⟨n.digitChar, [], Nat.toDigits_of_lt_base small, ?_⟩
      interval_cases n <;> decide
    · obtain ⟨first, rest, digits, nonzero⟩ := ih (n / 10) (by omega) (by omega)
      have split := Nat.toDigits_append_toDigits (b := 10) (n := n / 10) (d := n % 10) (by decide)
        (by omega) (by omega)
      rw [Nat.div_add_mod, digits] at split
      exact ⟨first, _, split.symm, nonzero⟩

theorem isWhole_toDigits (n : Nat) : isWhole (Nat.toDigits 10 n) = true := by
  rcases Nat.eq_zero_or_pos n with rfl | positive
  · rfl
  · obtain ⟨first, rest, digits, nonzero⟩ := toDigits_head positive
    have all : ∀ digit ∈ first :: rest, digit.isDigit = true :=
      fun digit member => isDigit_toDigits (digits ▸ member)
    simp only [mem_cons, forall_eq_or_imp] at all
    simp [digits, isWhole, nonzero, all.1, all_eq_true.mpr all.2]

theorem bigInt_zeros (k : Nat) : bigInt (replicate k '0' ++ digits) = bigInt digits := by
  induction k with
  | zero => rfl
  | succ k ih => simpa [bigInt, replicate_succ, Nat.ofDigitChars] using ih

theorem padEnd_rdropWhile (length : digits.length = tokenDecimals) :
    padEnd (digits.rdropWhile (· = '0')) = digits := by
  have whole := List.rdropWhile_append_rtakeWhile (p := (· = '0')) (l := digits)
  have zeros : digits.rtakeWhile (· = '0') =
      List.replicate (digits.rtakeWhile (· = '0')).length '0' :=
    List.eq_replicate_of_mem fun digit member => by simpa using List.mem_rtakeWhile_imp member
  have lengths := congrArg List.length whole
  rw [List.length_append, length] at lengths
  rw [zeros] at whole
  rw [padEnd, ← Nat.eq_sub_of_add_eq' lengths]
  exact whole

theorem padStart_length (n : Nat) (small : n < scale) :
    (padStart (Nat.toDigits 10 n)).length = tokenDecimals := by
  have short := Nat.toDigits_length 10 n 8 (by decide) small
  simp only [padStart, length_append, length_replicate, tokenDecimals]
  omega

theorem bigInt_fractionText (value : Nat) : bigInt (padEnd (fractionText value)) = value % scale := by
  have small : value % scale < scale := Nat.mod_lt _ (by decide)
  rw [fractionText, padEnd_rdropWhile (padStart_length _ small), padStart, bigInt_zeros, bigInt]
  exact Nat.ofDigitChars_toDigits (by decide) (by decide)

theorem isDigit_fractionText (member : digit ∈ fractionText value) : digit.isDigit = true := by
  have padded := (List.rdropWhile_prefix _ _).subset member
  rcases mem_append.mp padded with zero | own
  · rw [eq_of_mem_replicate zero]
    rfl
  · exact isDigit_toDigits own

theorem fractionText_length (value : Nat) : (fractionText value).length ≤ tokenDecimals := by
  have small : value % scale < scale := Nat.mod_lt _ (by decide)
  rw [← padStart_length _ small]
  exact (List.rdropWhile_prefix _ _).length_le

theorem trim_eq (visible : ∀ c ∈ text, c.isDigit = true ∨ c = '.') : trim text = text := by
  have shown : ∀ c ∈ text, isBlank c = false := by
    intro c member
    rcases visible c member with digit | rfl
    · simp only [Char.isDigit, Bool.and_eq_true, decide_eq_true_eq] at digit
      have low : 48 ≤ c.toNat := digit.1
      have high : c.toNat ≤ 57 := digit.2
      simp [isBlank]
      omega
    · rfl
  have front : text.dropWhile isBlank = text := by
    cases text with
    | nil => rfl
    | cons c rest => exact dropWhile_cons_of_neg (by simp [shown c])
  rw [trim, front, rdropWhile_eq_self_iff]
  intro nonempty
  simp [shown _ (getLast_mem nonempty)]

section Split

variable {whole : List Char} (digits : ∀ c ∈ whole, c.isDigit = true)
include digits

theorem ne_point_of_digits : ∀ c ∈ whole, decide (c ≠ '.') = true := by
  intro c member
  refine decide_eq_true fun same => ?_
  have digit := digits c member
  rw [same] at digit
  exact absurd digit (by decide)

theorem splitPoint_digits : splitPoint whole = (whole, none) := by
  rw [splitPoint, takeWhile_eq_self_iff.mpr (ne_point_of_digits digits),
    dropWhile_eq_nil_iff.mpr (ne_point_of_digits digits)]
  rfl

theorem splitPoint_append (rest : List Char) :
    splitPoint (whole ++ '.' :: rest) = (whole, some rest) := by
  rw [splitPoint, takeWhile_append_of_pos (ne_point_of_digits digits),
    dropWhile_append_of_pos (ne_point_of_digits digits)]
  simp

end Split

theorem parseTokenAmount_formatTokenAmount (positive : 0 < value) :
    parseTokenAmount (formatTokenAmount value) = .ok value := by
  have whole : bigInt (Nat.toDigits 10 (value / scale)) = value / scale :=
    Nat.ofDigitChars_toDigits (by decide) (by decide)
  have sum : bigInt (Nat.toDigits 10 (value / scale)) * scale +
      bigInt (padEnd (fractionText value)) = value := by
    rw [whole, bigInt_fractionText, Nat.mul_comm]
    exact Nat.div_add_mod value scale
  by_cases none : fractionText value = []
  · have read : splitPoint (trim (formatTokenAmount value)) =
        (Nat.toDigits 10 (value / scale), .none) := by
      rw [formatTokenAmount, if_pos none, trim_eq fun _ member => .inl (isDigit_toDigits member),
        splitPoint_digits fun _ => isDigit_toDigits]
    rw [none] at sum
    simp [parseTokenAmount, read, isWhole_toDigits, isFraction, sum, positive]
  · have read : splitPoint (trim (formatTokenAmount value)) =
        (Nat.toDigits 10 (value / scale), some (fractionText value)) := by
      rw [formatTokenAmount, if_neg none, trim_eq, splitPoint_append fun _ => isDigit_toDigits]
      intro c member
      rcases mem_append.mp member with digit | rest
      · exact .inl (isDigit_toDigits digit)
      · rcases mem_cons.mp rest with rfl | digit
        · exact .inr rfl
        · exact .inl (isDigit_fractionText digit)
    have fraction : isFraction (some (fractionText value)) = true := by
      have all : (fractionText value).all Char.isDigit = true :=
        all_eq_true.mpr fun _ => isDigit_fractionText
      simp [isFraction, all, fractionText_length, Nat.one_le_iff_ne_zero, none]
    simp [parseTokenAmount, read, isWhole_toDigits, fraction, sum, positive]

/-- The maximum is exact, and what is shown is read back. -/
theorem amounts_exact :
    (∀ balance ledgerFee allowance amount, 0 < amount →
      (requiredDepositBalance amount ledgerFee allowance ≤ balance ↔
        amount ≤ maximumDepositAmount balance ledgerFee allowance)) ∧
    ∀ value, 0 < value → parseTokenAmount (formatTokenAmount value) = .ok value :=
  ⟨fun _ _ _ _ => requiredDepositBalance_le_iff, fun _ => parseTokenAmount_formatTokenAmount⟩

end KinicBridge.Amounts
