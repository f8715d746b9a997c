import KinicBridge.Rpc.RoundTrips
import Mathlib.Data.List.TakeWhile

/-! Hexadecimal text as Rust reads it: by byte positions, of which those inside a character
trap, and with number parsing that takes a sign. -/
namespace KinicBridge

open Checked Option

def byteLength (text : List Char) : Nat := (text.map Char.utf8Size).sum

/-- The text before and from a byte position; none when the position is inside a character. -/
def splitAtByte : List Char → Nat → Option (List Char × List Char)
  | text, 0 => some ([], text)
  | [], _ + 1 => none
  | c :: rest, n + 1 =>
    if c.utf8Size ≤ n + 1 then
      (splitAtByte rest (n + 1 - c.utf8Size)).map fun parts => (c :: parts.1, parts.2)
    else none

section

variable (text : List Char)

def sliceBytes (start stop : Nat) : Option (List Char) := do
  let (_, rest) ← splitAtByte text start
  let (slice, _) ← splitAtByte rest (stop - start)
  return slice

def parsePair : List Char → Option UInt8
  | [high, low] => hexByte high low
  | _ => none

def decodePairs (text : List Char) : List Nat → Option (Except ObservationError (List UInt8))
  | [] => some (.ok [])
  | index :: rest => do
    let slice ← sliceBytes text index (index + 2)
    match parsePair slice with
    | none => some (.error .invalidResponse)
    | some byte => (decodePairs text rest).map (Except.map (byte :: ·))

def decodeHexText : Option (Except ObservationError (List UInt8)) :=
  if byteLength text % 2 ≠ 0 then some (.error .invalidResponse)
  else decodePairs text ((List.range (byteLength text / 2)).map (2 * ·))

/-- `u128::from_str_radix` of a text that is not empty. -/
def parseRadix16 : Option Nat :=
  let digits := match text with
    | '+' :: rest => if rest = [] then text else rest
    | _ => text
  (digits.mapM hexDigit).bind fun values =>
    let value := values.foldl (fun value digit => 16 * value + digit) 0
    if value ≤ limit 128 then some value else none

end

def parseU128 (value : List Char) : Except ObservationError Nat := do
  let body ← stripHexPrefix (trimQuotes value)
  if 64 < byteLength body then throw .invalidResponse
  let significant := body.dropWhile (· = '0')
  if 32 < byteLength significant then throw .overflow
  if significant = [] then return 0
  okOr .invalidResponse (parseRadix16 significant)

@[simp] theorem byteLength_cons (c : Char) (rest : List Char) :
    byteLength (c :: rest) = c.utf8Size + byteLength rest := rfl

section Slices

theorem splitAtByte_append (front tail : List Char) (n : Nat) :
    splitAtByte (front ++ tail) (byteLength front + n) =
      (splitAtByte tail n).map fun parts => (front ++ parts.1, parts.2) := by
  induction front with
  | nil => simp [byteLength]
  | cons c front ih =>
    have positive := c.utf8Size_pos
    rw [byteLength_cons]
    obtain ⟨k, sum⟩ : ∃ k, c.utf8Size + byteLength front + n = k + 1 :=
      ⟨c.utf8Size + byteLength front + n - 1, by omega⟩
    rw [sum, List.cons_append, splitAtByte, if_pos (by omega),
      show k + 1 - c.utf8Size = byteLength front + n by omega, ih, map_map]
    rfl

theorem splitAtByte_spec (done : splitAtByte text n = some (front, tail)) :
    text = front ++ tail ∧ byteLength front = n := by
  induction text generalizing n front tail with
  | nil =>
    cases n with
    | zero => cases done; exact ⟨rfl, rfl⟩
    | succ n => cases done
  | cons c rest ih =>
    cases n with
    | zero => cases done; exact ⟨rfl, rfl⟩
    | succ n =>
      simp only [splitAtByte] at done
      split at done
      next fits =>
        obtain ⟨⟨inner, left⟩, found, same⟩ := map_eq_some_iff.mp done
        cases same
        obtain ⟨rfl, length⟩ := ih found
        refine ⟨rfl, ?_⟩
        simp only [byteLength_cons]
        omega
      next => cases done

end Slices

section Pairs

/-- The text from its first pair that is not read as a byte. -/
def unread : List Char → List Char
  | high :: low :: rest => if (hexByte high low).isSome then unread rest else high :: low :: rest
  | text => text

def readPairs : Nat → List Char → Option (Except ObservationError (List UInt8))
  | 0, _ => some (.ok [])
  | count + 1, tail => do
    let (pair, rest) ← splitAtByte tail 2
    match parsePair pair with
    | none => some (.error .invalidResponse)
    | some byte => (readPairs count rest).map (Except.map (byte :: ·))

theorem decodePairs_append (length : byteLength front = 2 * first) :
    decodePairs (front ++ tail) ((List.range' first count).map (2 * ·)) = readPairs count tail := by
  induction count generalizing front tail first with
  | zero => rfl
  | succ count ih =>
    have slice : sliceBytes (front ++ tail) (2 * first) (2 * first + 2) =
        (splitAtByte tail 2).map Prod.fst := by
      have start := splitAtByte_append front tail 0
      rw [length, Nat.add_zero] at start
      simp only [sliceBytes, start, splitAtByte, map_some, Nat.add_sub_cancel_left,
        bind_eq_bind, bind_some]
      cases splitAtByte tail 2 <;> rfl
    rw [List.range'_succ, List.map_cons, decodePairs, slice, readPairs]
    cases split : splitAtByte tail 2 with
    | none => rfl
    | some parts =>
      obtain ⟨pair, rest⟩ := parts
      obtain ⟨rfl, two⟩ := splitAtByte_spec split
      have longer : byteLength (front ++ pair) = 2 * (first + 1) := by
        simp only [byteLength, List.map_append, List.sum_append] at length two ⊢
        omega
      have later : decodePairs ((front ++ pair) ++ rest) _ = readPairs count rest := ih longer
      rw [List.append_assoc] at later
      simp only [map_some, bind_eq_bind, bind_some, later]

theorem decodeHexText_eq (even : byteLength text % 2 = 0) :
    decodeHexText text = readPairs (byteLength text / 2) text := by
  rw [decodeHexText, if_neg (by omega), List.range_eq_range']
  have start : byteLength [] = 2 * 0 := rfl
  exact decodePairs_append start

theorem hexDigit_bounds (read : hexDigit c = some value) : c.toNat ≤ 102 ∧ value < 16 := by
  unfold hexDigit at read
  split at read
  next range =>
    have last : c.toNat ≤ 57 := range.2
    cases read
    exact ⟨by omega, Nat.lt_of_le_of_lt (Nat.sub_le_sub_right last 48) (by decide)⟩
  next =>
    split at read
    next range =>
      have last : c.toNat ≤ 102 := range.2
      cases read
      exact ⟨last, Nat.add_lt_of_lt_sub (Nat.lt_of_le_of_lt (Nat.sub_le_sub_right last 97)
        (by decide))⟩
    next =>
      split at read
      next range =>
        have last : c.toNat ≤ 70 := range.2
        cases read
        exact ⟨by omega, Nat.add_lt_of_lt_sub (Nat.lt_of_le_of_lt (Nat.sub_le_sub_right last 65)
          (by decide))⟩
      next => cases read

theorem hexDigit_utf8Size (digit : (hexDigit c).isSome = true) : c.utf8Size = 1 := by
  obtain ⟨value, read⟩ := isSome_iff_exists.mp digit
  have small : c.val.toNat ≤ 102 := (hexDigit_bounds read).1
  exact if_pos (UInt32.le_iff_toNat_le.mpr (Nat.le_trans small (by decide)))

theorem hexByte_cases (read : (hexByte high low).isSome = true) :
    (high = '+' ∨ (hexDigit high).isSome = true) ∧ (hexDigit low).isSome = true := by
  unfold hexByte at read
  split at read
  next plus => exact ⟨.inl plus, by simpa using read⟩
  next =>
    cases first : hexDigit high with
    | none => simp [first] at read
    | some value => exact ⟨.inr rfl, by simpa [first] using read⟩

theorem hexByte_utf8Size (read : (hexByte high low).isSome = true) :
    high.utf8Size = 1 ∧ low.utf8Size = 1 := by
  obtain ⟨rfl | digit, last⟩ := hexByte_cases read
  · exact ⟨rfl, hexDigit_utf8Size last⟩
  · exact ⟨hexDigit_utf8Size digit, hexDigit_utf8Size last⟩

theorem parsePair_none
    (unreadable : ∀ high low rest, text = high :: low :: rest → hexByte high low = none)
    (split : splitAtByte text 2 = some (pair, left)) : parsePair pair = none := by
  obtain ⟨rfl, two⟩ := splitAtByte_spec split
  match pair with
  | [] => rfl
  | [_] => rfl
  | [high, low] => exact unreadable high low left rfl
  | _ :: _ :: _ :: _ => rfl

theorem readPairs_unreadable
    (unreadable : ∀ high low rest, text = high :: low :: rest → hexByte high low = none) :
    readPairs (count + 1) text = (splitAtByte text 2).map fun _ => .error .invalidResponse := by
  rw [readPairs]
  cases split : splitAtByte text 2 with
  | none => rfl
  | some parts =>
    simp only [bind_eq_bind, bind_some, parsePair_none unreadable split]
    rfl

theorem readPairs_eq (length : byteLength text = 2 * count) :
    readPairs count text = if unread text = [] then some (decodeHex text)
      else (splitAtByte (unread text) 2).map fun _ => .error .invalidResponse := by
  induction count generalizing text with
  | zero =>
    cases text with
    | nil => rfl
    | cons c rest =>
      have := c.utf8Size_pos
      simp [byteLength] at length
      omega
  | succ count ih =>
    match text, length with
    | [], length => simp [byteLength] at length
    | [c], length =>
      rw [readPairs_unreadable (by simp), unread, if_neg (List.cons_ne_nil c [])]
      simp
    | high :: low :: rest, length =>
      cases read : hexByte high low with
      | none =>
        have stuck : unread (high :: low :: rest) = high :: low :: rest := by simp [unread, read]
        rw [readPairs_unreadable (by simpa using read), stuck, if_neg (List.cons_ne_nil high _)]
      | some byte =>
        have sizes := hexByte_utf8Size (isSome_of_eq_some read)
        have split : splitAtByte (high :: low :: rest) 2 = some ([high, low], rest) := by
          simp [splitAtByte, sizes]
        have shorter : byteLength rest = 2 * count := by
          simp [byteLength, sizes] at length ⊢
          omega
        have skipped : unread (high :: low :: rest) = unread rest := by simp [unread, read]
        have first : decodeHex (high :: low :: rest) = (decodeHex rest).map (byte :: ·) := by
          simp only [decodeHex, read, okOr_some, ok_bind]
          cases decodeHex rest <;> rfl
        simp only [readPairs, split, parsePair, read, skipped, first, bind_eq_bind,
          bind_some, ih shorter]
        split
        · rfl
        · cases splitAtByte (unread rest) 2 <;> rfl

theorem unread_nil (read : unread text = []) :
    (∃ bytes, decodeHex text = .ok bytes) ∧ byteLength text = text.length ∧
      text.length % 2 = 0 ∧ ∀ c ∈ text, c ≠ '+' → (hexDigit c).isSome = true := by
  induction text using unread.induct with
  | case1 high low rest pair ih =>
    simp only [unread, pair, if_true] at read
    obtain ⟨⟨bytes, decoded⟩, narrow, even, digits⟩ := ih read
    obtain ⟨byte, known⟩ := isSome_iff_exists.mp pair
    obtain ⟨first, second⟩ := hexByte_cases pair
    refine ⟨⟨byte :: bytes, by simp [decodeHex, known, decoded, ok_bind]⟩, ?_, ?_, ?_⟩
    · have sizes := hexByte_utf8Size pair
      simp only [byteLength_cons, List.length_cons]
      omega
    · simp only [List.length_cons]
      omega
    · simp only [List.mem_cons, forall_eq_or_imp]
      exact ⟨fun plain => first.resolve_left plain, fun _ => second, digits⟩
  | case2 high low rest pair =>
    simp [unread, pair] at read
  | case3 text short =>
    rcases text with _ | ⟨high, _ | ⟨low, rest⟩⟩
    · exact ⟨⟨[], rfl⟩, rfl, rfl, by simp⟩
    · simp [unread] at read
    · exact absurd rfl (short high low rest)

end Pairs

section

variable (text : List Char)

/-- `decode_hex` returns, and accepts nothing but pairs of digits. -/
def DecodesStrictly : Prop :=
  decodeHexText text ≠ none ∧ ∀ bytes, decodeHexText text = some (.ok bytes) →
    text.length % 2 = 0 ∧ ∀ c ∈ text, (hexDigit c).isSome = true

/-- `parse_u128` accepts nothing but `0x` and digits, perhaps in quotes. -/
def ParsesStrictly : Prop :=
  ∀ value, parseU128 text = .ok value → ∃ digits, trimQuotes text = '0' :: 'x' :: digits ∧
    digits ≠ [] ∧ ∀ c ∈ digits, (hexDigit c).isSome = true

/-- The first pair that is not read cuts no character, or all are read and none has a sign. -/
def DecodesCleanly : Prop :=
  byteLength text % 2 = 1 ∨ (unread text = [] ∧ '+' ∉ text) ∨
    (unread text ≠ [] ∧ (splitAtByte (unread text) 2).isSome = true)

/-- There is a digit behind `0x`, and no sign in front of digits behind the zeros. -/
def ParsesCleanly : Prop :=
  ∀ body, trimQuotes text = '0' :: 'x' :: body → byteLength body ≤ 64 → body ≠ [] ∧
    ∀ digits, body.dropWhile (· = '0') = '+' :: digits → byteLength digits ≤ 31 →
      digits = [] ∨ ∃ c ∈ digits, hexDigit c = none

theorem decodesStrictly_iff : DecodesStrictly text ↔ DecodesCleanly text := by
  unfold DecodesStrictly DecodesCleanly
  by_cases odd : byteLength text % 2 = 1
  · simp [decodeHexText, odd]
  · have even : byteLength text % 2 = 0 := by omega
    rw [decodeHexText_eq even, readPairs_eq (by omega)]
    by_cases read : unread text = []
    · obtain ⟨⟨bytes, decoded⟩, -, pairs, digits⟩ := unread_nil read
      simp only [read, if_true, decoded, odd, false_or, true_and, ne_eq, not_true_eq_false,
        false_and, or_false, reduceCtorEq, not_false_eq_true]
      constructor
      · intro strict plus
        exact absurd ((strict bytes rfl).2 '+' plus) (by decide)
      · intro plain _ _
        exact ⟨pairs, fun c member => digits c member fun same => plain (same ▸ member)⟩
    · cases split : splitAtByte (unread text) 2 <;> simp [read, odd]

end

section Numbers

variable {text : List Char} {values : List Nat}

theorem mapM_hexDigit (digits : ∀ c ∈ text, (hexDigit c).isSome = true) :
    ∃ values, text.mapM hexDigit = some values ∧ ∀ start,
      values.foldl (fun value digit => 16 * value + digit) start <
        (start + 1) * 16 ^ text.length := by
  induction text with
  | nil => exact ⟨[], rfl, by simp⟩
  | cons c rest ih =>
    simp only [List.mem_cons, forall_eq_or_imp] at digits
    obtain ⟨value, first⟩ := isSome_iff_exists.mp digits.1
    obtain ⟨values, others, bound⟩ := ih digits.2
    refine ⟨value :: values, by simp [first, others], fun start => ?_⟩
    have small := (hexDigit_bounds first).2
    calc values.foldl (fun value digit => 16 * value + digit) (16 * start + value)
        < (16 * start + value + 1) * 16 ^ rest.length := bound _
      _ ≤ (16 * (start + 1)) * 16 ^ rest.length := Nat.mul_le_mul_right _ (by omega)
      _ = (start + 1) * 16 ^ (c :: rest).length := by
        rw [List.length_cons, Nat.pow_succ]
        ring

theorem mapM_hexDigit_some (read : text.mapM hexDigit = some values) :
    ∀ c ∈ text, (hexDigit c).isSome = true := by
  induction text generalizing values with
  | nil => simp
  | cons c rest ih =>
    simp only [List.mapM_cons, bind_eq_bind, bind_eq_some_iff] at read
    obtain ⟨value, first, others, tail, -⟩ := read
    simp only [List.mem_cons, forall_eq_or_imp]
    exact ⟨isSome_of_eq_some first, ih tail⟩

theorem stripHexPrefix_ok {body : List Char} :
    stripHexPrefix text = .ok body ↔ text = '0' :: 'x' :: body := by
  unfold stripHexPrefix
  split
  · simp
  next other => simp; exact fun same => other body same

theorem mem_of_dropWhile_zeros (rest : ∀ c ∈ text.dropWhile (· = '0'), (hexDigit c).isSome = true) :
    ∀ c ∈ text, (hexDigit c).isSome = true := by
  intro c member
  rw [← List.takeWhile_append_dropWhile (p := (· = '0')) (l := text)] at member
  rcases List.mem_append.mp member with zero | other
  · have same : c = '0' := by simpa using List.mem_takeWhile_imp zero
    rw [same]
    rfl
  · exact rest c other

theorem byteLength_digits (digits : ∀ c ∈ text, (hexDigit c).isSome = true) :
    byteLength text = text.length := by
  induction text with
  | nil => rfl
  | cons c rest ih =>
    simp only [List.mem_cons, forall_eq_or_imp] at digits
    rw [byteLength_cons, hexDigit_utf8Size digits.1, ih digits.2, List.length_cons, Nat.add_comm]

theorem parseRadix16_digits (nonempty : text ≠ []) (short : text.length ≤ 31)
    (digits : ∀ c ∈ text, (hexDigit c).isSome = true) :
    ∃ value, parseRadix16 ('+' :: text) = some value := by
  obtain ⟨values, read, bound⟩ := mapM_hexDigit digits
  have fits : values.foldl (fun value digit => 16 * value + digit) 0 ≤ limit 128 := by
    have above := bound 0
    have power := Nat.pow_le_pow_right (n := 16) (by decide) short
    have word : 16 ^ 31 ≤ limit 128 := by decide
    omega
  refine ⟨values.foldl (fun value digit => 16 * value + digit) 0, ?_⟩
  simp [parseRadix16, nonempty, read, fits]

theorem parseRadix16_some (read : parseRadix16 text = some value)
    (plain : ∀ digits, text = '+' :: digits → digits = [] ∨ ∃ c ∈ digits, hexDigit c = none) :
    ∀ c ∈ text, (hexDigit c).isSome = true := by
  simp only [parseRadix16, bind_eq_some_iff] at read
  obtain ⟨values, mapped, -⟩ := read
  have all := mapM_hexDigit_some mapped
  split at all
  next rest =>
    split at all
    next => exact all
    next nonempty =>
      obtain ⟨c, member, unknown⟩ := (plain rest rfl).resolve_left nonempty
      have known := all c member
      rw [unknown] at known
      cases known
  next => exact all

theorem parseU128_of_body {body : List Char} (stripped : trimQuotes text = '0' :: 'x' :: body) :
    parseU128 text = if 64 < byteLength body then .error .invalidResponse
      else if 32 < byteLength (body.dropWhile (· = '0')) then .error .overflow
      else if body.dropWhile (· = '0') = [] then .ok 0
      else okOr .invalidResponse (parseRadix16 (body.dropWhile (· = '0'))) := by
  simp only [parseU128, stripHexPrefix_ok.mpr stripped, ok_bind]
  split
  next => rfl
  next =>
    split
    next => rfl
    next => rfl

theorem parsesStrictly_iff (text : List Char) : ParsesStrictly text ↔ ParsesCleanly text := by
  constructor
  · intro strict body stripped short
    refine ⟨?_, fun digits significant fewer => ?_⟩
    · rintro rfl
      obtain ⟨digits, same, nonempty, -⟩ := strict 0 (parseU128_of_body stripped)
      simp [stripped] at same
      exact nonempty same
    · by_contra clean
      simp only [not_or, not_exists, not_and] at clean
      have all : ∀ c ∈ digits, (hexDigit c).isSome = true := fun c member =>
        isSome_iff_ne_none.mpr (clean.2 c member)
      rw [byteLength_digits all] at fewer
      obtain ⟨value, parsed⟩ := parseRadix16_digits clean.1 fewer all
      have length : byteLength ('+' :: digits) = 1 + digits.length := by
        rw [byteLength_cons, byteLength_digits all]
        rfl
      obtain ⟨found, same, -, hex⟩ := strict value (by
        rw [parseU128_of_body stripped, significant, length, parsed, if_neg (by omega),
          if_neg (by omega), if_neg (by simp), okOr])
      simp only [stripped, List.cons.injEq, true_and] at same
      have plus : '+' ∈ found := same ▸
        (List.dropWhile_sublist _).subset (significant ▸ List.mem_cons_self ..)
      exact absurd (hex '+' plus) (by decide)
  · intro clean value parsed
    obtain ⟨body, prefixed, rest⟩ := bind_ok.mp parsed
    have stripped := stripHexPrefix_ok.mp prefixed
    obtain ⟨short, rest⟩ := thrown_ok.mp rest
    obtain ⟨narrow, rest⟩ := thrown_ok.mp rest
    obtain ⟨nonempty, plain⟩ := clean body stripped (by omega)
    refine ⟨body, stripped, nonempty, mem_of_dropWhile_zeros ?_⟩
    split at rest
    next zeros => simp [zeros]
    next =>
      refine parseRadix16_some (okOr_ok.mp rest) fun digits significant => ?_
      refine plain digits significant ?_
      have sign : '+'.utf8Size = 1 := rfl
      rw [significant, byteLength_cons, sign] at narrow
      omega

end Numbers

theorem decodeHexText_hexChars (bytes : List UInt8) :
    decodeHexText (hexChars bytes) = some (.ok bytes) := by
  have read : unread (hexChars bytes) = [] := by
    induction bytes with
    | nil => rfl
    | cons byte bytes ih =>
      have split : hexChars (byte :: bytes) =
          hexChar (byte.toNat / 16) :: hexChar (byte.toNat % 16) :: hexChars bytes := by
        simp [hexChars]
      simp [split, unread, hexByte_hexChar, ih]
  obtain ⟨-, narrow, pairs, -⟩ := unread_nil read
  rw [decodeHexText_eq (by omega), readPairs_eq (by omega), if_pos read, decodeHex_hexChars]

/-- Reading is strict and does not trap exactly for these texts; what was written is read. -/
theorem hex_reading_iff (text : List Char) (bytes : List UInt8) :
    (DecodesStrictly text ∧ ParsesStrictly text ↔ DecodesCleanly text ∧ ParsesCleanly text) ∧
      decodeHexText (hexChars bytes) = some (.ok bytes) :=
  ⟨and_congr (decodesStrictly_iff text) (parsesStrictly_iff text), decodeHexText_hexChars bytes⟩

/-- A pair that ends inside a character traps; signs are read, and no digits are read as zero. -/
theorem hex_reading_lax :
    decodeHexText ['a', '€'] = none ∧ decodeHexText ['+', 'f'] = some (.ok [15]) ∧
      parseU128 ['0', 'x'] = .ok 0 ∧ parseU128 ['0', 'x', '+', '1'] = .ok 1 := by
  decide

end KinicBridge
