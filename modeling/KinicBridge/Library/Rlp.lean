import KinicBridge.Library.Bytes

/-! Recursive length prefixes: byte strings and nested lists of them as one byte string. The
decoder is strict: it takes only the one encoding each item has. -/
namespace KinicBridge.Rlp

open Bytes UInt8

inductive Item where
  | bytes (content : List UInt8)
  | list (items : List Item)

def header (short long : UInt8) (length : Nat) : List UInt8 :=
  if length ≤ 55 then [short + UInt8.ofNat length]
  else
    let size := trim (ofNat 8 length)
    (long + UInt8.ofNat size.length) :: size

def isPlain : List UInt8 → Bool
  | [byte] => byte < 0x80
  | _ => false

def encodeBytes (content : List UInt8) : List UInt8 :=
  if isPlain content then content else header 0x80 0xb7 content.length ++ content

def encodePayload (payload : List UInt8) : List UInt8 := header 0xc0 0xf7 payload.length ++ payload

mutual

def Item.encode : Item → List UInt8
  | .bytes content => encodeBytes content
  | .list items => encodePayload (encodeAll items)

def encodeAll : List Item → List UInt8
  | [] => []
  | item :: items => item.encode ++ encodeAll items

end

theorem encodeAll_append (items others : List Item) :
    encodeAll (items ++ others) = encodeAll items ++ encodeAll others := by
  induction items with
  | nil => rfl
  | cons item items next => simp only [List.cons_append, encodeAll, next, List.append_assoc]

def split (length : Nat) (bytes : List UInt8) : Option (List UInt8 × List UInt8) :=
  if length ≤ bytes.length then some (bytes.take length, bytes.drop length) else none

def splitLong (size : Nat) (bytes : List UInt8) : Option (List UInt8 × List UInt8) :=
  (split size bytes).bind fun parts =>
    if parts.1.head? = some 0 ∨ toNat parts.1 ≤ 55 then none
    else split (toNat parts.1) parts.2

inductive Kind where
  | bytes
  | list
  deriving DecidableEq

/-- What the first item is, its payload and what comes behind it. -/
def splitItem : List UInt8 → Option (Kind × List UInt8 × List UInt8)
  | [] => none
  | first :: rest =>
    if first < 0x80 then some (.bytes, [first], rest)
    else if first ≤ 0xb7 then
      (split (first.toNat - 0x80) rest).bind fun parts =>
        if isPlain parts.1 then none else some (.bytes, parts)
    else if first < 0xc0 then (splitLong (first.toNat - 0xb7) rest).map fun parts => (.bytes, parts)
    else if first ≤ 0xf7 then (split (first.toNat - 0xc0) rest).map fun parts => (.list, parts)
    else (splitLong (first.toNat - 0xf7) rest).map fun parts => (.list, parts)

mutual

def decodeItem : Nat → List UInt8 → Option (Item × List UInt8)
  | 0, _ => none
  | fuel + 1, bytes =>
    match splitItem bytes with
    | none => none
    | some (.bytes, payload, rest) => some (.bytes payload, rest)
    | some (.list, payload, rest) =>
      (decodeAll fuel payload).map fun items => (.list items, rest)

def decodeAll : Nat → List UInt8 → Option (List Item)
  | _, [] => some []
  | 0, _ :: _ => none
  | fuel + 1, bytes =>
    (decodeItem fuel bytes).bind fun first =>
      (decodeAll fuel first.2).map fun items => first.1 :: items

end

def decode (bytes : List UInt8) : Option Item :=
  match decodeItem (2 * bytes.length) bytes with
  | some (item, []) => some item
  | _ => none

def Fits (payload : List UInt8) : Prop := payload.length < 256 ^ 8

mutual

def Item.Sized : Item → Prop
  | .bytes content => Fits content
  | .list items => Fits (encodeAll items) ∧ AllSized items

def AllSized : List Item → Prop
  | [] => True
  | item :: items => item.Sized ∧ AllSized items

end

mutual

def Item.cost : Item → Nat
  | .bytes _ => 1
  | .list items => costAll items + 1

def costAll : List Item → Nat
  | [] => 0
  | item :: items => max item.cost (costAll items) + 1

end

theorem split_append (payload rest : List UInt8) :
    split payload.length (payload ++ rest) = some (payload, rest) := by
  simp [split]

variable {payload : List UInt8}

theorem splitLong_append (fits : Fits payload) (long : 55 < payload.length) (rest : List UInt8) :
    splitLong (trim (ofNat 8 payload.length)).length
      (trim (ofNat 8 payload.length) ++ (payload ++ rest)) = some (payload, rest) := by
  have size : toNat (trim (ofNat 8 payload.length)) = payload.length := by
    rw [toNat_trim, toNat_ofNat fits]
  rw [splitLong, split_append, Option.bind_some]
  simp only [size]
  rw [if_neg, split_append]
  exact not_or.mpr ⟨head_trim _, Nat.not_le.mpr long⟩

theorem toNat_first {offset : UInt8} (below : offset.toNat + length < 256) :
    (offset + UInt8.ofNat length).toNat = offset.toNat + length := by
  rw [UInt8.toNat_add, UInt8.toNat_ofNat']
  omega

theorem length_size_le (length : Nat) : (trim (ofNat 8 length)).length ≤ 8 :=
  (length_trim_le _).trans_eq (length_ofNat ..)

theorem length_size_pos (fits : Fits payload) (long : 55 < payload.length) :
    0 < (trim (ofNat 8 payload.length)).length := by
  refine List.length_pos_iff.mpr (trim_ne_nil ?_)
  rw [toNat_ofNat fits]
  omega

theorem header_cases (fits : Fits payload) (short long : UInt8)
    (room : short.toNat + 55 < 256) (room' : long.toNat + 8 < 256) (rest : List UInt8) :
    ∃ first tail, header short long payload.length ++ payload ++ rest = first :: tail ∧
      ((first.toNat ≤ short.toNat + 55 ∧ short.toNat ≤ first.toNat ∧
          split (first.toNat - short.toNat) tail = some (payload, rest) ∧
          first.toNat = short.toNat + payload.length) ∨
        (long.toNat < first.toNat ∧ first.toNat ≤ long.toNat + 8 ∧
          splitLong (first.toNat - long.toNat) tail = some (payload, rest))) := by
  by_cases small : payload.length ≤ 55
  · have first : (short + UInt8.ofNat payload.length).toNat = short.toNat + payload.length :=
      toNat_first (by omega)
    refine ⟨_, _, by rw [header, if_pos small]; rfl, .inl ?_⟩
    rw [first, Nat.add_sub_cancel_left]
    exact ⟨by omega, by omega, split_append payload rest, rfl⟩
  · have large : 55 < payload.length := Nat.lt_of_not_le small
    have wide := length_size_le payload.length
    have positive := length_size_pos fits large
    refine ⟨_, _, by rw [header, if_neg small, List.append_assoc]; rfl, .inr ?_⟩
    rw [toNat_first (by omega), Nat.add_sub_cancel_left]
    exact ⟨by omega, by omega, splitLong_append fits large rest⟩

theorem splitItem_payload (fits : Fits payload) (rest : List UInt8) :
    splitItem (encodePayload payload ++ rest) = some (.list, payload, rest) := by
  obtain ⟨first, tail, shape, cases⟩ := header_cases fits 0xc0 0xf7 (by decide) (by decide) rest
  rw [encodePayload, shape]
  simp only [splitItem, lt_iff_toNat_lt, le_iff_toNat_le, reduceToNat] at cases ⊢
  rcases cases with ⟨below, above, found, _⟩ | ⟨above, below, found⟩
  · rw [if_neg (by omega), if_neg (by omega), if_neg (by omega), if_pos (by omega), found]
    rfl
  · rw [if_neg (by omega), if_neg (by omega), if_neg (by omega), if_neg (by omega), found]
    rfl

theorem splitItem_bytes {content : List UInt8} (fits : Fits content) (rest : List UInt8) :
    splitItem (encodeBytes content ++ rest) = some (.bytes, content, rest) := by
  unfold encodeBytes
  split
  next plain =>
    unfold isPlain at plain
    split at plain
    · have below := of_decide_eq_true plain
      simp [splitItem, below]
    · cases plain
  next plain =>
    obtain ⟨first, tail, shape, cases⟩ := header_cases fits 0x80 0xb7 (by decide) (by decide) rest
    rw [shape]
    simp only [splitItem, lt_iff_toNat_lt, le_iff_toNat_le, reduceToNat]
      at cases ⊢
    rcases cases with ⟨below, above, found, _⟩ | ⟨above, below, found⟩
    · rw [if_neg (by omega), if_pos (by omega), found, Option.bind_some, if_neg plain]
    · rw [if_neg (by omega), if_neg (by omega), if_pos (by omega), found]
      rfl

theorem encode_ne_nil (item : Item) : item.encode ≠ [] := by
  have headed : ∀ short long length payload, header short long length ++ payload ≠ [] := by
    intro short long length payload
    unfold header
    split <;> simp
  cases item with
  | bytes content =>
    simp only [Item.encode, encodeBytes]
    split
    next plain =>
      intro empty
      rw [empty] at plain
      cases plain
    · exact headed 0x80 0xb7 _ _
  | list items => exact headed 0xc0 0xf7 _ _

theorem decodes (fuel : Nat) : (∀ item rest, Item.Sized item → item.cost ≤ fuel →
      decodeItem fuel (item.encode ++ rest) = some (item, rest)) ∧
    (∀ items, AllSized items → costAll items ≤ fuel →
      decodeAll fuel (encodeAll items) = some items) := by
  induction fuel with
  | zero =>
    constructor
    · intro item rest sized enough
      cases item <;> simp [Item.cost] at enough
    · intro items sized enough
      cases items with
      | nil => rfl
      | cons item items => simp [costAll] at enough
  | succ fuel ih =>
    obtain ⟨one, all⟩ := ih
    constructor
    · intro item rest sized enough
      cases item with
      | bytes content =>
        rw [Item.encode, decodeItem, splitItem_bytes sized]
      | list items =>
        obtain ⟨fits, sized⟩ := sized
        rw [Item.encode, decodeItem, splitItem_payload fits]
        dsimp only
        rw [all items sized (Nat.le_of_succ_le_succ enough)]
        rfl
    · intro items sized enough
      cases items with
      | nil => rfl
      | cons item items =>
        obtain ⟨first, others⟩ := sized
        simp only [costAll] at enough
        obtain ⟨byte, bytes, shape⟩ := List.exists_cons_of_ne_nil
          (List.append_ne_nil_of_left_ne_nil (encode_ne_nil item) (encodeAll items))
        rw [encodeAll, shape, decodeAll, ← shape, one item _ first (by omega), Option.bind_some,
          all items others (by omega)]
        · rfl
        · simp

mutual

theorem cost_le : (item : Item) → item.cost + 1 ≤ 2 * item.encode.length
  | .bytes content => by
    have long := List.length_pos_iff.mpr (encode_ne_nil (.bytes content))
    simp only [Item.cost]
    omega
  | .list items => by
    have inner := costAll_le items
    have headed : 0 < (header 0xc0 0xf7 (encodeAll items).length).length := by
      unfold header
      split <;> simp
    simp only [Item.cost, Item.encode, encodePayload, List.length_append]
    omega

theorem costAll_le : (items : List Item) → costAll items ≤ 2 * (encodeAll items).length
  | [] => by simp [costAll]
  | item :: items => by
    have first := cost_le item
    have others := costAll_le items
    simp only [costAll, encodeAll, List.length_append]
    omega

end

theorem decode_encode {item : Item} (sized : item.Sized) : decode item.encode = some item := by
  have read := (decodes (2 * item.encode.length)).1 item [] sized (Nat.le_of_succ_le (cost_le item))
  rw [List.append_nil] at read
  rw [decode, read]

theorem length_encodeBytes_le (content : List UInt8) :
    (encodeBytes content).length ≤ content.length + 9 := by
  have size := length_size_le content.length
  unfold encodeBytes header
  split_ifs <;> simp
  omega

def Item.ofNumber (width value : Nat) : Item := .bytes (trim (ofNat width value))

def Item.toNumber : Item → Option Nat
  | .bytes content => if content.head? = some 0 then none else some (toNat content)
  | .list _ => none

theorem toNumber_trim (content : List UInt8) :
    (Item.bytes (trim content)).toNumber = some (toNat content) := by
  rw [Item.toNumber, if_neg (head_trim _), toNat_trim]

theorem toNumber_ofNumber (fits : value < 256 ^ width) :
    (Item.ofNumber width value).toNumber = some value := by
  rw [Item.ofNumber, toNumber_trim, toNat_ofNat fits]

end KinicBridge.Rlp
