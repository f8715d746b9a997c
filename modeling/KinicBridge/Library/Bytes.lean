import Mathlib.Tactic

/-! Byte strings: numbers as big-endian bytes of a fixed width, and strings that are put
together from words of one length. -/
namespace KinicBridge.Bytes

open List Nat

/-- The last `width` bytes of a number, most significant first. -/
def ofNat : (width value : Nat) → List UInt8
  | 0, _ => []
  | width + 1, value => ofNat width (value / 256) ++ [UInt8.ofNat value]

section

variable (bytes : List UInt8)

def toNat : Nat := bytes.foldl (fun value byte => value * 256 + byte.toNat) 0

@[simp] theorem length_ofNat (width value : Nat) : (ofNat width value).length = width := by
  induction width generalizing value with
  | zero => rfl
  | succ width ih => simp [ofNat, ih]

@[simp] theorem toNat_append_singleton (byte : UInt8) :
    toNat (bytes ++ [byte]) = toNat bytes * 256 + byte.toNat := by
  simp [toNat]

theorem toNat_ofNat (fits : value < 256 ^ width) : toNat (ofNat width value) = value := by
  induction width generalizing value with
  | zero =>
    rw [pow_zero, lt_one_iff] at fits
    rw [fits]
    rfl
  | succ width ih =>
    have high : value / 256 < 256 ^ width := by
      rw [div_lt_iff_lt_mul (by decide), ← pow_succ]
      exact fits
    have low : (UInt8.ofNat value).toNat = value % 256 := UInt8.toNat_ofNat'
    rw [ofNat, toNat_append_singleton, ih high, low]
    omega

theorem ofNat_toNat {bytes : List UInt8} (length : bytes.length = width) :
    ofNat width (toNat bytes) = bytes := by
  subst length
  induction bytes using List.reverseRecOn with
  | nil => rfl
  | append_singleton bytes byte ih =>
    have quotient : (toNat bytes * 256 + byte.toNat) / 256 = toNat bytes := by
      have := byte.toNat_lt
      omega
    have rest : UInt8.ofNat (toNat bytes * 256 + byte.toNat) = byte := by
      apply UInt8.toNat_inj.mp
      simp
    rw [length_append, length_singleton, toNat_append_singleton, ofNat, quotient, rest, ih]

theorem ofNat_inj (fits : value < 256 ^ width) (fits' : other < 256 ^ width) :
    ofNat width value = ofNat width other ↔ value = other := by
  refine ⟨fun same => ?_, congrArg _⟩
  rw [← toNat_ofNat fits, ← toNat_ofNat fits', same]

theorem ofNat_add (padding : Nat) (fits : value < 256 ^ width) :
    ofNat (padding + width) value = replicate padding 0 ++ ofNat width value := by
  induction width generalizing value with
  | zero =>
    rw [pow_zero, lt_one_iff] at fits
    subst fits
    rw [ofNat, append_nil, add_zero]
    induction padding with
    | zero => rfl
    | succ padding ih => rw [ofNat, ih, replicate_succ']; rfl
  | succ width ih =>
    have high : value / 256 < 256 ^ width := by
      rw [div_lt_iff_lt_mul (by decide), ← pow_succ]
      exact fits
    rw [← add_assoc, ofNat, ih high, ofNat, append_assoc]

theorem flatten_inj {words others : List (List UInt8)} (length : words.length = others.length)
    (sized : ∀ word ∈ words, word.length = width) (sized' : ∀ word ∈ others, word.length = width)
    (same : words.flatten = others.flatten) : words = others := by
  induction words generalizing others with
  | nil => exact (length_eq_zero_iff.mp length.symm).symm
  | cons word words ih =>
    cases others with
    | nil => contradiction
    | cons other others =>
      rw [flatten_cons, flatten_cons] at same
      have first := sized word (mem_cons_self ..)
      have second := sized' other (mem_cons_self ..)
      obtain ⟨rfl, rest⟩ := append_inj same (first.trans second.symm)
      rw [ih (succ.inj length) (fun w present => sized w (mem_cons_of_mem _ present))
        (fun w present => sized' w (mem_cons_of_mem _ present)) rest]

theorem take_drop_flatten {words : List (List UInt8)} (sized : ∀ word ∈ words, word.length = width)
    (found : words[i]? = some word) (tail : List UInt8) :
    ((words.flatten ++ tail).drop (i * width)).take width = word := by
  induction words generalizing i with
  | nil => simp at found
  | cons first rest ih =>
    have long := sized first (mem_cons_self ..)
    cases i with
    | zero =>
      simp only [getElem?_cons_zero, Option.some.injEq] at found
      subst found
      simp [long]
    | succ i =>
      rw [getElem?_cons_succ] at found
      rw [flatten_cons, append_assoc, succ_mul, add_comm, ← drop_drop,
        drop_append_of_le_length (le_of_eq long.symm), drop_of_length_le
        (le_of_eq long), nil_append]
      exact ih (fun word present => sized word (mem_cons_of_mem _ present)) found

theorem length_flatten {words : List (List UInt8)} (sized : ∀ word ∈ words, word.length = width) :
    words.flatten.length = words.length * width := by
  induction words with
  | nil => simp
  | cons first rest ih =>
    rw [flatten_cons, length_append, length_cons, sized first (mem_cons_self ..),
      ih fun word present => sized word (mem_cons_of_mem _ present), succ_mul, add_comm]

theorem toNat_zero_cons : toNat (0 :: bytes) = toNat bytes := by
  simp [toNat]

def trim : List UInt8 := bytes.dropWhile (· = 0)

theorem toNat_trim : toNat (trim bytes) = toNat bytes := by
  induction bytes with
  | nil => rfl
  | cons byte bytes ih =>
    by_cases zero : byte = 0
    · subst zero
      simpa [trim, toNat_zero_cons] using ih
    · simp [trim, zero]

theorem head_trim : (trim bytes).head? ≠ some 0 := by
  intro leading
  have first := head?_dropWhile_not (· = 0) bytes
  unfold trim at leading
  rw [leading] at first
  simp at first

theorem length_trim_le : (trim bytes).length ≤ bytes.length :=
  (dropWhile_sublist _).length_le

end

theorem trim_ne_nil (positive : toNat bytes ≠ 0) : trim bytes ≠ [] := by
  intro empty
  apply positive
  rw [← toNat_trim, empty]
  rfl

-- the lemmas above say all there is to know; unfolding 32 bytes never helps
attribute [irreducible] ofNat toNat

end KinicBridge.Bytes
