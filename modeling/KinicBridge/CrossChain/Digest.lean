import KinicBridge.Core.Authorization
import KinicBridge.Library.Bytes

/-! The digest of a mint authorization, as the canister and as the contract compute it. The contract
leaves the domain to a base contract, a parameter with the law of EIP-712; nothing is assumed of the
hash function. -/
namespace KinicBridge

open Bytes List

abbrev Keccak := List UInt8 → Bytes32

def Collision (hash : List UInt8 → Bytes32) (first second : List UInt8) : Prop :=
  first ≠ second ∧ hash first = hash second

/-- Every byte string that is hashed on the way to a digest, the last one included. -/
structure DigestInputs where
  domainType : List UInt8
  name : List UInt8
  version : List UInt8
  domain : List UInt8
  authorizationType : List UInt8
  authorization : List UInt8
  message : List UInt8
  deriving DecidableEq

def asBytes (text : String) : List UInt8 := text.toUTF8.toList

def wordBytes (word : Bytes32) : List UInt8 := ofNat 32 word.toNat

section Canister

def domainType : List UInt8 := asBytes
  "EIP712Domain(string name,string version,uint256 chainId,address verifyingContract)"

def authorizationType : List UInt8 := asBytes
  "MintAuthorization(bytes32 depositId,address recipient,uint256 grossAmount,uint256 maxServiceFee,uint256 chargedServiceFee,uint256 deadline,uint256 authorizationEpoch)"

def MintAuthorizationDomain.bridge (chainId : Nat) (verifyingContract : Bytes20) :
    MintAuthorizationDomain := ⟨"KINIC Bridge", "1", chainId, verifyingContract⟩

def concatWords (words : List (List UInt8)) : List UInt8 := words.flatten

def uintWord (value : Nat) : List UInt8 := replicate 16 0 ++ ofNat 16 value

def addressWord (address : Bytes20) : List UInt8 :=
  replicate 12 0 ++ ofNat 20 address.toNat

def MintAuthorization.digestInputs (keccak : Keccak) (domain : MintAuthorizationDomain)
    (authorization : MintAuthorization) : DigestInputs :=
  let domainBytes := concatWords [wordBytes (keccak domainType),
    wordBytes (keccak (asBytes domain.name)), wordBytes (keccak (asBytes domain.version)),
    uintWord domain.chainId, addressWord domain.verifyingContract]
  let structBytes := concatWords [wordBytes (keccak authorizationType),
    wordBytes authorization.depositId, addressWord authorization.recipient,
    uintWord authorization.grossAmount, uintWord authorization.maxServiceFee,
    uintWord authorization.chargedServiceFee, uintWord authorization.deadline,
    uintWord authorization.authorizationEpoch]
  { domainType := domainType
    name := asBytes domain.name
    version := asBytes domain.version
    domain := domainBytes
    authorizationType := authorizationType
    authorization := structBytes
    message := [0x19, 0x01] ++ wordBytes (keccak domainBytes) ++ wordBytes (keccak structBytes) }

def MintAuthorization.digest (keccak : Keccak) (domain : MintAuthorizationDomain)
    (authorization : MintAuthorization) : Bytes32 :=
  keccak (authorization.digestInputs keccak domain).message

end Canister

section Contract

def eip712Type : List UInt8 := asBytes
  "EIP712Domain(string name,string version,uint256 chainId,address verifyingContract)"

def mintAuthorizationType : List UInt8 := asBytes
  "MintAuthorization(bytes32 depositId,address recipient,uint256 grossAmount,uint256 maxServiceFee,uint256 chargedServiceFee,uint256 deadline,uint256 authorizationEpoch)"

def abiEncode (words : List Nat) : List UInt8 := (words.map (ofNat 32)).flatten

def eip712Domain (keccak : Keccak) (domain : MintAuthorizationDomain) : List UInt8 :=
  abiEncode [(keccak eip712Type).toNat, (keccak (asBytes domain.name)).toNat,
    (keccak (asBytes domain.version)).toNat, domain.chainId, domain.verifyingContract.toNat]

def typedData (separator structHash : Bytes32) : List UInt8 :=
  [0x19, 0x01] ++ ofNat 32 separator.toNat ++ ofNat 32 structHash.toNat

/-- The base contract that the bridge gets `_hashTypedDataV4` from, with its law. -/
structure Eip712 (keccak : Keccak) where
  hashTypedDataV4 : MintAuthorizationDomain → Bytes32 → Bytes32
  hashTypedDataV4_eq : ∀ domain structHash, hashTypedDataV4 domain structHash =
    keccak (typedData (keccak (eip712Domain keccak domain)) structHash)

instance : Inhabited (Eip712 keccak) := ⟨⟨_, fun _ _ => rfl⟩⟩

variable {keccak : Keccak} (eip712 : Eip712 keccak) (chainId : Nat) (contract : Bytes20)

/-- The bridge is deployed as an `EIP712("KINIC Bridge", "1")`. -/
def eip712Bridge : MintAuthorizationDomain := ⟨"KINIC Bridge", "1", chainId, contract⟩

variable (keccak) in
def mintAuthorizationStruct (authorization : MintAuthorization) : List UInt8 :=
  abiEncode [(keccak mintAuthorizationType).toNat, authorization.depositId.toNat,
    authorization.recipient.toNat, authorization.grossAmount, authorization.maxServiceFee,
    authorization.chargedServiceFee, authorization.deadline, authorization.authorizationEpoch]

def mintAuthorizationDigest (authorization : MintAuthorization) : Bytes32 :=
  eip712.hashTypedDataV4 (eip712Bridge chainId contract)
    (keccak (mintAuthorizationStruct keccak authorization))

variable (keccak) in
def mintAuthorizationDigestInputs (authorization : MintAuthorization) : DigestInputs where
  domainType := eip712Type
  name := asBytes (eip712Bridge chainId contract).name
  version := asBytes (eip712Bridge chainId contract).version
  domain := eip712Domain keccak (eip712Bridge chainId contract)
  authorizationType := mintAuthorizationType
  authorization := mintAuthorizationStruct keccak authorization
  message := typedData (keccak (eip712Domain keccak (eip712Bridge chainId contract)))
    (keccak (mintAuthorizationStruct keccak authorization))

theorem mintAuthorizationDigest_eq (authorization : MintAuthorization) :
    mintAuthorizationDigest eip712 chainId contract authorization =
      keccak (mintAuthorizationDigestInputs keccak chainId contract authorization).message :=
  eip712.hashTypedDataV4_eq _ _

end Contract

structure CanisterDomain where
  chainId : Nat
  verifyingContract : Bytes20
  fits : chainId < 2 ^ 64

structure CanisterAuthorization extends MintAuthorization where
  amounts : grossAmount < 2 ^ 128 ∧ maxServiceFee < 2 ^ 128 ∧ chargedServiceFee < 2 ^ 128
  times : deadline < 2 ^ 64 ∧ authorizationEpoch < 2 ^ 64

/-- Where a contract is deployed, and an authorization that it can be called with: all of its
numbers are 256-bit words. -/
structure ContractCall where
  chainId : Nat
  contract : Bytes20
  authorization : MintAuthorization
  words : ∀ value ∈ [chainId, authorization.grossAmount, authorization.maxServiceFee,
    authorization.chargedServiceFee, authorization.deadline, authorization.authorizationEpoch],
    value < 2 ^ 256

theorem uintWord_eq (fits : value < 2 ^ 128) : uintWord value = ofNat 32 value := by
  have fits : value < 256 ^ 16 := by norm_num at fits ⊢; exact fits
  exact (ofNat_add 16 fits).symm

theorem addressWord_eq (address : Bytes20) : addressWord address = ofNat 32 address.toNat := by
  have fits : address.toNat < 256 ^ 20 := by
    have := address.isLt
    norm_num at this ⊢
    exact this
  exact (ofNat_add 12 fits).symm

theorem digestInputs_eq (keccak : Keccak) (domain : CanisterDomain)
    (authorization : CanisterAuthorization) :
    authorization.digestInputs keccak (.bridge domain.chainId domain.verifyingContract) =
      mintAuthorizationDigestInputs keccak domain.chainId domain.verifyingContract
        authorization.toMintAuthorization := by
  have small : ∀ value, value < 2 ^ 64 → value < 2 ^ 128 := fun value fits => by omega
  obtain ⟨gross, maximum, charged⟩ := authorization.amounts
  obtain ⟨deadline, epoch⟩ := authorization.times
  simp only [MintAuthorization.digestInputs, MintAuthorizationDomain.bridge, concatWords,
    uintWord_eq gross, uintWord_eq maximum, uintWord_eq charged, uintWord_eq (small _ deadline),
    uintWord_eq (small _ epoch), uintWord_eq (small _ domain.fits), addressWord_eq]
  rfl

theorem digest_eq (eip712 : Eip712 keccak) (domain : CanisterDomain)
    (authorization : CanisterAuthorization) :
    authorization.digest keccak (.bridge domain.chainId domain.verifyingContract) =
      mintAuthorizationDigest eip712 domain.chainId domain.verifyingContract
        authorization.toMintAuthorization := by
  rw [MintAuthorization.digest, digestInputs_eq, mintAuthorizationDigest_eq]

theorem toNat_word (fits : value < 2 ^ 256) : toNat (ofNat 32 value) = value := by
  have wide : (2 : Nat) ^ 256 = 256 ^ 32 := by norm_num
  rw [wide] at fits
  exact toNat_ofNat fits

theorem map_toNat_words {words : List Nat} (fits : ∀ word ∈ words, word < 2 ^ 256) :
    (words.map (ofNat 32)).map toNat = words := by
  induction words with
  | nil => rfl
  | cons word words ih =>
    rw [map_cons, map_cons, toNat_word (fits word (mem_cons_self ..)),
      ih fun other present => fits other (mem_cons_of_mem _ present)]

theorem abiEncode_inj {words others : List Nat} (same : abiEncode words = abiEncode others)
    (length : words.length = others.length) (fits : ∀ word ∈ words, word < 2 ^ 256)
    (fits' : ∀ word ∈ others, word < 2 ^ 256) : words = others := by
  have sized : ∀ words : List Nat, ∀ word ∈ words.map (ofNat 32), word.length = 32 := by
    intro words word present
    obtain ⟨value, _, rfl⟩ := mem_map.mp present
    exact length_ofNat ..
  have encoded := flatten_inj (by rw [length_map, length_map, length])
    (sized words) (sized others) same
  rw [← map_toNat_words fits, encoded, map_toNat_words fits']

namespace ContractCall

variable {keccak : Keccak} {first second : ContractCall}

def digestInputs (keccak : Keccak) (call : ContractCall) : DigestInputs :=
  mintAuthorizationDigestInputs keccak call.chainId call.contract call.authorization

theorem narrow (address : Bytes20) : address.toNat < 2 ^ 256 :=
  Nat.lt_trans address.isLt (Nat.pow_lt_pow_right (by decide) (by decide))

theorem eq_of_domain (same : eip712Domain keccak (eip712Bridge first.chainId first.contract) =
      eip712Domain keccak (eip712Bridge second.chainId second.contract)) :
    first.chainId = second.chainId ∧ first.contract = second.contract := by
  have fits : ∀ call : ContractCall, ∀ word ∈ [(keccak eip712Type).toNat,
      (keccak (asBytes "KINIC Bridge")).toNat, (keccak (asBytes "1")).toNat, call.chainId,
      call.contract.toNat], word < 2 ^ 256 := by
    intro call word present
    have chain := call.words call.chainId (mem_cons_self ..)
    simp only [mem_cons, not_mem_nil, or_false] at present
    rcases present with rfl | rfl | rfl | rfl | rfl
    · exact BitVec.isLt _
    · exact BitVec.isLt _
    · exact BitVec.isLt _
    · exact chain
    · exact narrow _
  have words := abiEncode_inj same rfl (fits first) (fits second)
  simp only [eip712Bridge, cons.injEq, true_and, and_true] at words
  exact ⟨words.1, BitVec.eq_of_toNat_eq words.2⟩

theorem eq_of_struct (same : mintAuthorizationStruct keccak first.authorization =
      mintAuthorizationStruct keccak second.authorization) :
    first.authorization = second.authorization := by
  have fits : ∀ call : ContractCall, ∀ word ∈ [(keccak mintAuthorizationType).toNat,
      call.authorization.depositId.toNat, call.authorization.recipient.toNat,
      call.authorization.grossAmount, call.authorization.maxServiceFee,
      call.authorization.chargedServiceFee, call.authorization.deadline,
      call.authorization.authorizationEpoch], word < 2 ^ 256 := by
    intro call word present
    rcases mem_cons.mp present with rfl | present
    · exact BitVec.isLt _
    rcases mem_cons.mp present with rfl | present
    · exact BitVec.isLt _
    rcases mem_cons.mp present with rfl | present
    · exact narrow _
    · exact call.words word (mem_cons_of_mem _ present)
  have words := abiEncode_inj same rfl (fits first) (fits second)
  simp only [cons.injEq, true_and, and_true] at words
  obtain ⟨deposit, recipient, gross, maximum, charged, deadline, epoch⟩ := words
  generalize first.authorization = one at *
  generalize second.authorization = other at *
  cases one
  cases other
  simp only [MintAuthorization.mk.injEq]
  exact ⟨BitVec.eq_of_toNat_eq deposit, BitVec.eq_of_toNat_eq recipient, gross, maximum, charged,
    deadline, epoch⟩

theorem ext_of_structs
    (domain : (first.digestInputs keccak).domain = (second.digestInputs keccak).domain)
    (authorization : (first.digestInputs keccak).authorization =
      (second.digestInputs keccak).authorization) : first = second := by
  obtain ⟨chain, contract⟩ := eq_of_domain domain
  have same := eq_of_struct authorization
  cases first
  cases second
  simp only [ContractCall.mk.injEq]
  exact ⟨chain, contract, same⟩

theorem structs_ne (different : first ≠ second) :
    (first.digestInputs keccak).domain ≠ (second.digestInputs keccak).domain ∨
      (first.digestInputs keccak).authorization ≠ (second.digestInputs keccak).authorization := by
  by_cases domain : (first.digestInputs keccak).domain = (second.digestInputs keccak).domain
  · exact .inr fun authorization => different (ext_of_structs domain authorization)
  · exact .inl domain

end ContractCall

theorem ofNat_word_inj {one other : Bytes32}
    (same : ofNat 32 one.toNat = ofNat 32 other.toNat) : one = other := by
  refine BitVec.eq_of_toNat_eq ?_
  rw [← toNat_word one.isLt, same, toNat_word other.isLt]

theorem typedData_inj {separator separator' structHash structHash' : Bytes32}
    (same : typedData separator structHash = typedData separator' structHash') :
    separator = separator' ∧ structHash = structHash' := by
  obtain ⟨first, second⟩ := append_inj same (by simp)
  obtain ⟨_, first⟩ := append_inj first rfl
  exact ⟨ofNat_word_inj first, ofNat_word_inj second⟩

/-- Whatever the hash function, the canister and the contract hash the same byte strings, and so
to the same digest. The strings of two different pairs of a domain and an authorization differ,
for every pair that the contract can be called with. The last string holds two hashes: it is the
same for different pairs only where the two encoded domains or the two encoded authorizations
collide. -/
theorem digest_agreement (keccak : Keccak) (eip712 : Eip712 keccak) :
    (∀ (domain : CanisterDomain) (authorization : CanisterAuthorization),
      authorization.digestInputs keccak (.bridge domain.chainId domain.verifyingContract) =
        mintAuthorizationDigestInputs keccak domain.chainId domain.verifyingContract
          authorization.toMintAuthorization ∧
      authorization.digest keccak (.bridge domain.chainId domain.verifyingContract) =
        mintAuthorizationDigest eip712 domain.chainId domain.verifyingContract
          authorization.toMintAuthorization) ∧
    (∀ call : ContractCall,
      mintAuthorizationDigest eip712 call.chainId call.contract call.authorization =
        keccak (call.digestInputs keccak).message) ∧
    (∀ first second : ContractCall, first ≠ second →
      (first.digestInputs keccak).domain ≠ (second.digestInputs keccak).domain ∨
      (first.digestInputs keccak).authorization ≠ (second.digestInputs keccak).authorization) ∧
    ∀ first second : ContractCall, first ≠ second →
      (first.digestInputs keccak).message = (second.digestInputs keccak).message →
      Collision keccak (first.digestInputs keccak).domain (second.digestInputs keccak).domain ∨
      Collision keccak (first.digestInputs keccak).authorization
        (second.digestInputs keccak).authorization := by
  refine ⟨fun domain authorization => ?_, fun call => mintAuthorizationDigest_eq eip712 _ _ _,
    fun _ _ different => ContractCall.structs_ne different, fun first second different same => ?_⟩
  · exact ⟨digestInputs_eq keccak domain authorization, digest_eq eip712 domain authorization⟩
  · obtain ⟨domain, authorization⟩ := typedData_inj same
    rcases ContractCall.structs_ne different with apart | apart
    · exact .inl ⟨apart, domain⟩
    · exact .inr ⟨apart, authorization⟩

end KinicBridge
