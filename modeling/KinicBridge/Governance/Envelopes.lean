import KinicBridge.Governance.Store
import KinicBridge.Library.Rlp

/-! The bytes of a governance transaction: what is hashed and signed, and what is relayed with
the signature. Both are read back as the fields of an EIP-1559 transaction. -/
namespace KinicBridge

open Bytes Checked List Rlp Rlp.Item

/-! Integers and lists as the signer writes them. -/

def trimInteger (bytes : List UInt8) : List UInt8 := bytes.dropWhile (· = 0)

def lengthPrefix (length : Nat) (shortOffset longOffset : UInt8) : List UInt8 :=
  if length ≤ 55 then [shortOffset + UInt8.ofNat length]
  else
    let bytes := trimInteger (ofNat 8 length)
    (longOffset + UInt8.ofNat bytes.length) :: bytes

def rlpBytes (value : List UInt8) : List UInt8 :=
  match value with
  | [byte] => if byte < 0x80 then [byte] else lengthPrefix 1 0x80 0xb7 ++ [byte]
  | _ => lengthPrefix value.length 0x80 0xb7 ++ value

def rlpList (items : List (List UInt8)) : List UInt8 :=
  lengthPrefix (items.map length).sum 0xc0 0xf7 ++ items.flatten

def rlpU64 (value : Nat) : List UInt8 := rlpBytes (trimInteger (ofNat 8 value))

def rlpU128 (value : Nat) : List UInt8 := rlpBytes (trimInteger (ofNat 16 value))

structure SignatureScheme (Key Signature : Type) where
  keyFromSec1 : List UInt8 → Option Key
  fromSlice : List UInt8 → Option Signature
  normalizeS : Signature → Option Signature
  recoverFromPrehash : Bytes32 → Signature → Bool → Option Key
  toBytes : Signature → List UInt8
  length_toBytes : ∀ signature, (toBytes signature).length = 64

inductive SignerError where
  | invalidPublicKey
  | invalidSignature
  | recoveryFailed
  deriving DecidableEq

namespace SignatureScheme

variable {Key Signature : Type} [DecidableEq Key] (scheme : SignatureScheme Key Signature)

/-- The signature with a small `s`, and the parity that recovers the signer's key from it. -/
def recoverableSignature (signingHash : Bytes32) (expected : Key) (rawSignature : List UInt8) :
    Except SignerError (Signature × Bool) := do
  let parsed ← okOr .invalidSignature (scheme.fromSlice rawSignature)
  let signature := (scheme.normalizeS parsed).getD parsed
  match [false, true].find? fun odd =>
      scheme.recoverFromPrehash signingHash signature odd = some expected with
  | some odd => .ok (signature, odd)
  | none => .error .recoveryFailed

end SignatureScheme

namespace GovernanceTransactionEnvelope

variable (envelope : GovernanceTransactionEnvelope)

def signedFields : List (List UInt8) :=
  [rlpU64 envelope.chainId, rlpU64 envelope.nonce, rlpU128 envelope.maxPriorityFeePerGas,
    rlpU128 envelope.maxFeePerGas, rlpU128 envelope.gasLimit,
    rlpBytes (ofNat 20 envelope.contract.toNat), rlpBytes [], rlpBytes envelope.calldata,
    rlpList []]

def unsignedTransaction : List UInt8 :=
  0x02 :: rlpList envelope.signedFields

def assembleSigned {Key Signature : Type} [DecidableEq Key]
    (scheme : SignatureScheme Key Signature) (envelope : GovernanceTransactionEnvelope)
    (signingHash : Bytes32) (publicKey rawSignature : List UInt8) :
    Except SignerError (List UInt8) := do
  let expected ← okOr .invalidPublicKey (scheme.keyFromSec1 publicKey)
  let (signature, parity) ← scheme.recoverableSignature signingHash expected rawSignature
  let bytes := scheme.toBytes signature
  return 0x02 :: rlpList (envelope.signedFields ++
    [rlpU64 parity.toNat, rlpBytes (trimInteger (bytes.take 32)),
      rlpBytes (trimInteger (bytes.drop 32))])

/-- The ranges of the envelope's integer types and the longest vector there can be. -/
structure Typed (envelope : GovernanceTransactionEnvelope) : Prop where
  chainId : envelope.chainId ≤ limit 64
  nonce : envelope.nonce ≤ limit 64
  maxPriorityFeePerGas : envelope.maxPriorityFeePerGas ≤ limit 128
  maxFeePerGas : envelope.maxFeePerGas ≤ limit 128
  gasLimit : envelope.gasLimit ≤ limit 128
  calldata : envelope.calldata.length < 2 ^ 63

end GovernanceTransactionEnvelope

/-! The transaction as a node reads it. -/

structure Eip1559Transaction where
  chainId : Nat
  nonce : Nat
  maxPriorityFeePerGas : Nat
  maxFeePerGas : Nat
  gasLimit : Nat
  destination : List UInt8
  amount : Nat
  data : List UInt8
  accessList : List Rlp.Item

namespace Eip1559Transaction

def ofItems : List Rlp.Item → Option Eip1559Transaction
  | [chainId, nonce, priority, fee, gas, .bytes destination, amount, .bytes data,
      .list accessList] => do
    return ⟨← chainId.toNumber, ← nonce.toNumber, ← priority.toNumber, ← fee.toNumber,
      ← gas.toNumber, destination, ← amount.toNumber, data, accessList⟩
  | _ => none

def items : List UInt8 → Option (List Rlp.Item)
  | type :: payload =>
    if type ≠ 0x02 then none
    else match decode payload with
      | some (.list items) => some items
      | _ => none
  | [] => none

variable (bytes : List UInt8)

def decodeUnsigned : Option Eip1559Transaction := (items bytes).bind ofItems

def decodeSigned : Option (Eip1559Transaction × Nat × Nat × Nat) := do
  let items ← items bytes
  match items.drop 9 with
  | [parity, r, s] =>
    return (← ofItems (items.take 9), ← parity.toNumber, ← r.toNumber, ← s.toNumber)
  | _ => none

end Eip1559Transaction

/-- The transaction an envelope stands for: no value is sent, and the access list is empty. -/
def GovernanceTransactionEnvelope.transaction (envelope : GovernanceTransactionEnvelope) :
    Eip1559Transaction where
  chainId := envelope.chainId
  nonce := envelope.nonce
  maxPriorityFeePerGas := envelope.maxPriorityFeePerGas
  maxFeePerGas := envelope.maxFeePerGas
  gasLimit := envelope.gasLimit
  destination := ofNat 20 envelope.contract.toNat
  amount := 0
  data := envelope.calldata
  accessList := []

/-! The signer's encoding is the encoding of these items. -/

theorem rlpBytes_eq (value : List UInt8) : rlpBytes value = (bytes value).encode := by
  rw [encode, encodeBytes]
  rcases value with _ | ⟨byte, _ | ⟨_, _⟩⟩
  · rfl
  · simp [rlpBytes, isPlain, header, lengthPrefix]
  · rfl

theorem rlpList_eq (items : List Rlp.Item) : rlpList (items.map encode) = (list items).encode := by
  have flat : (items.map encode).flatten = encodeAll items := by
    induction items with
    | nil => rfl
    | cons item items next => rw [List.map_cons, List.flatten_cons, next, encodeAll]
  rw [rlpList, ← List.length_flatten, flat]
  rfl

namespace GovernanceTransactionEnvelope

section

variable (envelope : GovernanceTransactionEnvelope)

def items : List Rlp.Item :=
  [.ofNumber 8 envelope.chainId, .ofNumber 8 envelope.nonce,
    .ofNumber 16 envelope.maxPriorityFeePerGas, .ofNumber 16 envelope.maxFeePerGas,
    .ofNumber 16 envelope.gasLimit, .bytes (ofNat 20 envelope.contract.toNat), .bytes [],
    .bytes envelope.calldata, .list []]

theorem signedFields_eq : envelope.signedFields = envelope.items.map encode := by
  simp only [signedFields, rlpU64, rlpU128, rlpBytes_eq]
  rfl

theorem unsignedTransaction_eq :
    envelope.unsignedTransaction = 0x02 :: (list envelope.items).encode := by
  rw [unsignedTransaction, signedFields_eq, rlpList_eq]

end

def signatureItems (parity : Bool) (signature : List UInt8) : List Rlp.Item :=
  [.ofNumber 8 parity.toNat, .bytes (trim (signature.take 32)), .bytes (trim (signature.drop 32))]

theorem length_encode_trim_le (content : List UInt8) :
    (bytes (trim content)).encode.length ≤ content.length + 9 := by
  have trimmed := length_trim_le content
  have encoded := length_encodeBytes_le (trim content)
  rw [encode]
  omega

theorem sized_trim {content : List UInt8} (fits : Rlp.Fits content) :
    (bytes (trim content)).Sized :=
  Nat.lt_of_le_of_lt (length_trim_le content) fits

theorem sized_ofNumber (width value : Nat) (narrow : width ≤ 32) : (ofNumber width value).Sized :=
  sized_trim (by rw [Rlp.Fits, length_ofNat]; omega)

namespace Typed

variable {envelope : GovernanceTransactionEnvelope}

theorem length_encodeAll (typed : envelope.Typed) :
    (encodeAll envelope.items).length < 2 ^ 63 + 256 := by
  have short := typed.calldata
  have number (width value : Nat) : (ofNumber width value).encode.length ≤ width + 9 := by
    have encoded := length_encode_trim_le (ofNat width value)
    rwa [length_ofNat] at encoded
  have chainId := number 8 envelope.chainId
  have nonce := number 8 envelope.nonce
  have priority := number 16 envelope.maxPriorityFeePerGas
  have fee := number 16 envelope.maxFeePerGas
  have gas := number 16 envelope.gasLimit
  have destination := length_encodeBytes_le (ofNat 20 envelope.contract.toNat)
  have amount := length_encodeBytes_le []
  have data := length_encodeBytes_le envelope.calldata
  have access : (list []).encode.length = 1 := by decide
  simp only [items, encodeAll, length_append, length_nil, access]
  simp only [encode] at *
  simp only [length_ofNat, length_nil] at destination amount
  omega

theorem allSized (typed : envelope.Typed) (more : Rlp.AllSized rest) :
    Rlp.AllSized (envelope.items ++ rest) := by
  have short : Rlp.Fits envelope.calldata := by
    have := typed.calldata
    unfold Rlp.Fits
    omega
  have destination : Rlp.Fits (ofNat 20 envelope.contract.toNat) := by
    rw [Rlp.Fits, length_ofNat]
    decide
  have empty : Rlp.Fits [] := by simp [Rlp.Fits]
  refine ⟨sized_ofNumber _ _ ?_, sized_ofNumber _ _ ?_, sized_ofNumber _ _ ?_,
    sized_ofNumber _ _ ?_, sized_ofNumber _ _ ?_, destination, empty, short, ⟨empty, trivial⟩,
    more⟩ <;>
    decide

theorem sized (typed : envelope.Typed) (more : Rlp.AllSized rest)
    (short : (encodeAll rest).length ≤ 256) : (list (envelope.items ++ rest)).Sized := by
  refine ⟨?_, typed.allSized more⟩
  have own := typed.length_encodeAll
  rw [encodeAll_append, Rlp.Fits, length_append]
  omega

theorem ofItems (typed : envelope.Typed) :
    Eip1559Transaction.ofItems envelope.items = some envelope.transaction := by
  have wide {value : Nat} (bounded : value ≤ limit 64) :=
    toNumber_ofNumber (Nat.lt_of_le_of_lt bounded (by decide) : value < 256 ^ 8)
  have wider {value : Nat} (bounded : value ≤ limit 128) :=
    toNumber_ofNumber (Nat.lt_of_le_of_lt bounded (by decide) : value < 256 ^ 16)
  have nothing : (bytes []).toNumber = some 0 := by
    simpa [trim, Bytes.toNat] using toNumber_trim []
  simp only [items, Eip1559Transaction.ofItems, wide typed.chainId, wide typed.nonce,
    wider typed.maxPriorityFeePerGas, wider typed.maxFeePerGas, wider typed.gasLimit, nothing]
  rfl

end Typed

theorem items_encode {items : List Rlp.Item} (sized : (list items).Sized) :
    Eip1559Transaction.items (0x02 :: (list items).encode) = some items := by
  simp [Eip1559Transaction.items, decode_encode sized]

theorem decodeUnsigned_unsignedTransaction {envelope : GovernanceTransactionEnvelope}
    (typed : envelope.Typed) :
    Eip1559Transaction.decodeUnsigned envelope.unsignedTransaction = some envelope.transaction := by
  have sized : (list (envelope.items ++ [])).Sized :=
    typed.sized trivial (by simp [encodeAll])
  rw [append_nil] at sized
  rw [Eip1559Transaction.decodeUnsigned, unsignedTransaction_eq, items_encode sized]
  exact typed.ofItems

section Signed

variable {Key Signature : Type} [DecidableEq Key] {scheme : SignatureScheme Key Signature}
  {envelope : GovernanceTransactionEnvelope} {signingHash : Bytes32}
  {publicKey rawSignature bytes : List UInt8}

theorem assembleSigned_ok
    (assembled : envelope.assembleSigned scheme signingHash publicKey rawSignature = .ok bytes) :
    ∃ expected signature parity, scheme.keyFromSec1 publicKey = some expected ∧
      scheme.recoverableSignature signingHash expected rawSignature = .ok (signature, parity) ∧
      bytes = 0x02 :: (list
        (envelope.items ++ signatureItems parity (scheme.toBytes signature))).encode := by
  obtain ⟨expected, key, assembled⟩ := found_ok.mp assembled
  obtain ⟨⟨signature, parity⟩, recovered, assembled⟩ := bind_ok.mp assembled
  refine ⟨expected, signature, parity, key, recovered, ?_⟩
  cases assembled
  rw [← rlpList_eq, map_append, ← signedFields_eq, rlpU64, rlpBytes_eq, rlpBytes_eq, rlpBytes_eq]
  rfl

theorem signatureItems_sized (parity : Bool) {signature : List UInt8}
    (length : signature.length = 64) : Rlp.AllSized (signatureItems parity signature) ∧
      (encodeAll (signatureItems parity signature)).length ≤ 256 := by
  have first : (signature.take 32).length = 32 := by simp [length]
  have second : (signature.drop 32).length = 32 := by simp [length]
  constructor
  · refine ⟨sized_ofNumber _ _ (by decide), sized_trim ?_, sized_trim ?_, trivial⟩
    · rw [Rlp.Fits, first]
      decide
    · rw [Rlp.Fits, second]
      decide
  · have odd := length_encode_trim_le (ofNat 8 parity.toNat)
    have r := length_encode_trim_le (signature.take 32)
    have s := length_encode_trim_le (signature.drop 32)
    rw [first] at r
    rw [second] at s
    rw [length_ofNat] at odd
    simp only [signatureItems, encodeAll, ofNumber, length_append, length_nil]
    omega

theorem decodeSigned_assembleSigned (typed : envelope.Typed) (parity : Bool)
    {signature : List UInt8} (length : signature.length = 64) :
    Eip1559Transaction.decodeSigned (0x02 :: (list
        (envelope.items ++ signatureItems parity signature)).encode) =
      some (envelope.transaction, parity.toNat, toNat (signature.take 32),
        toNat (signature.drop 32)) := by
  obtain ⟨sized, short⟩ := signatureItems_sized parity length
  have odd : (ofNumber 8 parity.toNat).toNumber = some parity.toNat :=
    toNumber_ofNumber (Nat.lt_of_le_of_lt parity.toNat_le (by decide))
  have front : (envelope.items ++ signatureItems parity signature).take 9 = envelope.items := rfl
  have back : (envelope.items ++ signatureItems parity signature).drop 9 =
    signatureItems parity signature := rfl
  simp only [Eip1559Transaction.decodeSigned, items_encode (typed.sized sized short),
    Option.bind_eq_bind, Option.bind_some, front, back, typed.ofItems]
  simp only [signatureItems, odd, toNumber_trim, Option.bind_some]
  rfl

end Signed

theorem transaction_eq_iff {envelope other : GovernanceTransactionEnvelope} :
    envelope.transaction = other.transaction ↔
      envelope.chainId = other.chainId ∧ envelope.nonce = other.nonce ∧
      envelope.maxPriorityFeePerGas = other.maxPriorityFeePerGas ∧
      envelope.maxFeePerGas = other.maxFeePerGas ∧ envelope.gasLimit = other.gasLimit ∧
      envelope.contract = other.contract ∧ envelope.calldata = other.calldata := by
  have same : ofNat 20 envelope.contract.toNat = ofNat 20 other.contract.toNat ↔
      envelope.contract = other.contract := by
    rw [ofNat_inj (by omega) (by omega), BitVec.toNat_inj]
  simp [transaction, same]

theorem unsignedTransaction_eq_iff {envelope other : GovernanceTransactionEnvelope}
    (typed : envelope.Typed) (typed' : other.Typed) :
    envelope.unsignedTransaction = other.unsignedTransaction ↔
      envelope.transaction = other.transaction := by
  constructor
  · intro same
    have read := decodeUnsigned_unsignedTransaction typed
    rw [same, decodeUnsigned_unsignedTransaction typed'] at read
    exact (Option.some.inj read).symm
  · intro same
    obtain ⟨chainId, nonce, priority, fee, gas, contract, data⟩ := transaction_eq_iff.mp same
    simp only [unsignedTransaction, signedFields, chainId, nonce, priority, fee, gas, contract,
      data]

/-- The bytes that are signed and the bytes that are relayed are read back as the envelope's
transaction, and only the fields of that transaction decide the bytes. -/
theorem encoding_faithful {Key Signature : Type} [DecidableEq Key]
    (scheme : SignatureScheme Key Signature) {envelope : GovernanceTransactionEnvelope}
    (typed : envelope.Typed) :
    Eip1559Transaction.decodeUnsigned envelope.unsignedTransaction = some envelope.transaction ∧
    (∀ signingHash publicKey rawSignature bytes,
      envelope.assembleSigned scheme signingHash publicKey rawSignature = .ok bytes →
      ∃ expected signature parity, scheme.keyFromSec1 publicKey = some expected ∧
        scheme.recoverableSignature signingHash expected rawSignature = .ok (signature, parity) ∧
        Eip1559Transaction.decodeSigned bytes = some (envelope.transaction, parity.toNat,
          toNat ((scheme.toBytes signature).take 32),
          toNat ((scheme.toBytes signature).drop 32))) ∧
    ∀ other : GovernanceTransactionEnvelope, other.Typed →
      (envelope.unsignedTransaction = other.unsignedTransaction ↔
        envelope.chainId = other.chainId ∧ envelope.nonce = other.nonce ∧
        envelope.maxPriorityFeePerGas = other.maxPriorityFeePerGas ∧
        envelope.maxFeePerGas = other.maxFeePerGas ∧ envelope.gasLimit = other.gasLimit ∧
        envelope.contract = other.contract ∧ envelope.calldata = other.calldata) := by
  refine ⟨decodeUnsigned_unsignedTransaction typed, ?_, ?_⟩
  · intro signingHash publicKey rawSignature bytes assembled
    obtain ⟨expected, signature, parity, key, recovered, rfl⟩ := assembleSigned_ok assembled
    exact ⟨expected, signature, parity, key, recovered,
      decodeSigned_assembleSigned typed parity (scheme.length_toBytes signature)⟩
  · intro other typed'
    rw [unsignedTransaction_eq_iff typed typed', transaction_eq_iff]

def sample : GovernanceTransactionEnvelope where
  payloadHash := 7
  nonce := 0
  chainId := 8453
  contract := 0xc0
  calldata := replicate 60 0xab
  gasLimit := 150000
  maxFeePerGas := 2 ^ 128 - 1
  maxPriorityFeePerGas := 128
  signedTransactions := []

def sampleKey : List UInt8 :=
  2 :: ofNat 32 0x79be667ef9dcbbac55a06295ce870b07029bfcdb2dce28d959f2815b16f81798

def sampleSignature : List UInt8 := 0 :: replicate 63 1

def oneKey : SignatureScheme Unit Unit where
  keyFromSec1 bytes := if bytes = sampleKey then some () else none
  fromSlice bytes := if bytes = sampleSignature then some () else none
  normalizeS _ := none
  recoverFromPrehash _ _ odd := if odd then some () else none
  toBytes _ := sampleSignature
  length_toBytes _ := by decide

theorem sample_typed : sample.Typed := by constructor <;> decide +kernel

theorem encoding_faithful_sample :
    sample.Typed ∧
    Eip1559Transaction.decodeUnsigned sample.unsignedTransaction = some sample.transaction ∧
    (sample.assembleSigned oneKey 5 sampleKey sampleSignature).isOk ∧
    ∃ bytes r s, sample.assembleSigned oneKey 5 sampleKey sampleSignature = .ok bytes ∧
      Eip1559Transaction.decodeSigned bytes = some (sample.transaction, 1, r, s) := by
  have faithful := encoding_faithful oneKey sample_typed
  have assembled : (sample.assembleSigned oneKey 5 sampleKey sampleSignature).isOk := by
    decide +kernel
  obtain ⟨bytes, stored⟩ := isOk_iff.mp assembled
  obtain ⟨_, signature, parity, -, recovered, read⟩ := faithful.2.1 _ _ _ _ stored
  have odd : parity = true := by
    have known : oneKey.recoverableSignature 5 () sampleSignature = .ok ((), true) := rfl
    rw [known] at recovered
    injection recovered with same
    exact ((Prod.mk.inj same).2).symm
  exact ⟨sample_typed, faithful.1, assembled, bytes, _, _, stored, by rw [read, odd]; rfl⟩

/-- The operation's hash and the earlier signatures are not part of the bytes. -/
theorem distinct_envelopes_same_bytes :
    ∃ envelope other : GovernanceTransactionEnvelope, envelope.Typed ∧ other.Typed ∧
      envelope ≠ other ∧ envelope.unsignedTransaction = other.unsignedTransaction :=
  ⟨sample, { sample with payloadHash := 8 }, sample_typed, by constructor <;> decide +kernel,
    fun same => absurd (congrArg payloadHash same) (by decide), rfl⟩

end GovernanceTransactionEnvelope

end KinicBridge
