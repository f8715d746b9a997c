import KinicBridge.CrossChain.Digest
import KinicBridge.Governance.Envelopes
import KinicBridge.Jobs.Scheduler

/-! The signature of a mint authorization, from the answer of threshold signing to the check of the
contract. ECDSA and the two libraries that compute with it are parameters with the laws they are
used for. -/
namespace KinicBridge

open Bytes SignatureScheme

/-- `recover` answers for a nonce point of the given parity whose x-coordinate is `r`, which is
what `belowOrder` says of a signature. -/
structure Ecdsa (Key : Type) where
  order : Nat
  order_le : order ≤ 2 ^ 256
  verifies : Key → Bytes32 → Nat → Nat → Prop
  belowOrder : Key → Bytes32 → Nat → Nat → Prop
  recover : Bytes32 → Nat → Nat → Bool → Option Key
  address : Key → Bytes20
  recover_neg : ∀ digest r s odd, 0 < s → s < order →
    recover digest r (order - s) odd = recover digest r s (!odd)
  recover_valid : ∀ key digest r s, verifies key digest r s → belowOrder key digest r s →
    ∃ odd, recover digest r s odd = some key

structure EcdsaSignature (order : Nat) where
  r : Nat
  s : Nat
  bounds : (0 < r ∧ r < order) ∧ 0 < s ∧ s < order

namespace EcdsaSignature

variable (signature : EcdsaSignature order)

def bytes : List UInt8 := ofNat 32 signature.r ++ ofNat 32 signature.s

def Low : Prop := signature.s ≤ order / 2

def negated : EcdsaSignature order where
  r := signature.r
  s := order - signature.s
  bounds := ⟨signature.bounds.1, by
    have := signature.bounds
    omega⟩

end EcdsaSignature

variable {Key : Type}

/-- What the canister relies on in the `k256` crate. Recovery is used only where `s` is small. -/
structure K256 (ecdsa : Ecdsa Key) (scheme : SignatureScheme Key (EcdsaSignature ecdsa.order)) :
    Prop where
  toBytes : ∀ signature, scheme.toBytes signature = signature.bytes
  fromSlice : ∀ bytes signature,
    scheme.fromSlice bytes = some signature ↔ signature.bytes = bytes
  normalizeS_low : ∀ signature, signature.Low → scheme.normalizeS signature = none
  normalizeS_high : ∀ signature, ¬signature.Low →
    scheme.normalizeS signature = some signature.negated
  recovers : ∀ digest signature odd, signature.Low →
    scheme.recoverFromPrehash digest signature odd =
      ecdsa.recover digest signature.r signature.s odd

/-- What the contract relies on in OpenZeppelin's `tryRecoverCalldata`, which has no value here
where it reports an error: a canonical signature gives the address of the key that is recovered,
unless that is the zero address. -/
def TryRecovers (ecdsa : Ecdsa Key) (tryRecover : Bytes32 → List UInt8 → Option Bytes20) : Prop :=
  ∀ digest (signature : EcdsaSignature ecdsa.order) odd key, signature.Low →
    ecdsa.recover digest signature.r signature.s odd = some key → ecdsa.address key ≠ 0 →
      tryRecover digest (signature.bytes ++ [if odd then 28 else 27]) = some (ecdsa.address key)

namespace SignatureScheme

variable {Signature : Type} [DecidableEq Key] (scheme : SignatureScheme Key Signature)

def canonicalEthereumSignature (signingHash : Bytes32) (publicKey rawSignature : List UInt8) :
    Except SignerError (List UInt8) := do
  let expected ← Checked.okOr .invalidPublicKey (scheme.keyFromSec1 publicKey)
  let (signature, odd) ← scheme.recoverableSignature signingHash expected rawSignature
  return scheme.toBytes signature ++ [if odd then 28 else 27]

def recoveryParity : List UInt8 → Except SignerError Bool
  | [27] => .ok false
  | [28] => .ok true
  | _ => .error .invalidSignature

omit [DecidableEq Key] in
def recoverEthereumAddress (address : Key → Bytes20) (signingHash : Bytes32)
    (signature : List UInt8) : Except SignerError Bytes20 := do
  if signature.length ≠ 65 then throw .invalidSignature
  let parsed ← Checked.okOr .invalidSignature (scheme.fromSlice (signature.take 64))
  if (scheme.normalizeS parsed).isSome then throw .invalidSignature
  let odd ← recoveryParity (signature.drop 64)
  let recovered ← Checked.okOr .recoveryFailed (scheme.recoverFromPrehash signingHash parsed odd)
  return address recovered

/-- The part of `advance_deposit` between the answer of threshold signing and the signature that
is installed. -/
def installableSignature (address : Key → Bytes20) (expectedSigner : Bytes20)
    (digest : Bytes32) (publicKey rawSignature : List UInt8) :
    Except SettlementStopReason (List UInt8) :=
  match scheme.canonicalEthereumSignature digest publicKey rawSignature with
  | .error _ => .error .signingUnavailable
  | .ok signature =>
    if scheme.recoverEthereumAddress address digest signature = .ok expectedSigner then
      .ok signature
    else .error .bridgeSignerMismatch

theorem recoveryParity_ok {tail : List UInt8} (read : recoveryParity tail = .ok odd) :
    tail = [if odd then 28 else 27] := by
  unfold recoveryParity at read
  split at read <;> cases read <;> rfl

end SignatureScheme

namespace K256

variable {ecdsa : Ecdsa Key} {scheme : SignatureScheme Key (EcdsaSignature ecdsa.order)}
  {digest : Bytes32} {signature : EcdsaSignature ecdsa.order}

section

variable (laws : K256 ecdsa scheme)

include laws

theorem fromSlice_bytes (signature : EcdsaSignature ecdsa.order) :
    scheme.fromSlice signature.bytes = some signature := (laws.fromSlice _ _).mpr rfl

theorem low_of_normal (normal : ¬(scheme.normalizeS signature).isSome = true) : signature.Low := by
  by_contra high
  exact normal (by rw [laws.normalizeS_high _ high]; rfl)

theorem tryRecover_of_recoverEthereumAddress {bytes : List UInt8} {signer : Bytes20}
    {tryRecover : Bytes32 → List UInt8 → Option Bytes20} (recovers : TryRecovers ecdsa tryRecover)
    (nonzero : signer ≠ 0)
    (recovered : scheme.recoverEthereumAddress ecdsa.address digest bytes = .ok signer) :
    tryRecover digest bytes = some signer := by
  obtain ⟨_, rest⟩ := guarded_ok.mp recovered
  obtain ⟨parsed, read, rest⟩ := found_ok.mp rest
  obtain ⟨normal, rest⟩ := guarded_ok.mp rest
  obtain ⟨odd, parity, rest⟩ := bind_ok.mp rest
  obtain ⟨key, found, rest⟩ := found_ok.mp rest
  cases pure_ok.mp rest
  have low := laws.low_of_normal normal
  rw [laws.recovers _ _ _ low] at found
  have whole : bytes = parsed.bytes ++ [if odd then 28 else 27] := by
    rw [(laws.fromSlice _ _).mp read, ← recoveryParity_ok parity, List.take_append_drop]
  rw [whole]
  exact recovers digest parsed odd key low found nonzero

theorem recoverEthereumAddress_canonical {key : Key} (low : signature.Low)
    (found : ecdsa.recover digest signature.r signature.s odd = some key) :
    scheme.recoverEthereumAddress ecdsa.address digest
      (signature.bytes ++ [if odd then 28 else 27]) = .ok (ecdsa.address key) := by
  have length : signature.bytes.length = 64 := by simp [EcdsaSignature.bytes]
  have parity : recoveryParity [if odd then 28 else 27] = .ok odd := by
    cases odd <;> rfl
  simp [recoverEthereumAddress, length, List.take_left' length, List.drop_left' length,
    laws.fromSlice_bytes, laws.normalizeS_low _ low, parity, laws.recovers _ _ _ low, found,
    ok_bind]

/-- A signature and the one with the opposite `s` are recovered alike, so the normal one of a
valid signature has a parity. -/
theorem normal_recovers {key : Key} (valid : ecdsa.verifies key digest signature.r signature.s)
    (below : ecdsa.belowOrder key digest signature.r signature.s) :
    ∃ odd, ((scheme.normalizeS signature).getD signature).Low ∧
      ecdsa.recover digest ((scheme.normalizeS signature).getD signature).r
        ((scheme.normalizeS signature).getD signature).s odd = some key := by
  obtain ⟨parity, found⟩ := ecdsa.recover_valid key digest _ _ valid below
  have bounds := signature.bounds
  by_cases low : signature.Low
  · rw [laws.normalizeS_low _ low]
    exact ⟨parity, low, found⟩
  · rw [laws.normalizeS_high _ low]
    refine ⟨!parity, ?_, ?_⟩
    · simp only [EcdsaSignature.Low, EcdsaSignature.negated, Option.getD_some] at low ⊢
      omega
    · simp only [EcdsaSignature.negated, Option.getD_some]
      rw [ecdsa.recover_neg _ _ _ _ bounds.2.1 bounds.2.2, Bool.not_not, found]

theorem recoverableSignature_valid [DecidableEq Key] {key : Key}
    (valid : ecdsa.verifies key digest signature.r signature.s)
    (below : ecdsa.belowOrder key digest signature.r signature.s) :
    ∃ normal odd, scheme.recoverableSignature digest key signature.bytes = .ok (normal, odd) ∧
      normal.Low ∧ ecdsa.recover digest normal.r normal.s odd = some key := by
  obtain ⟨odd, low, found⟩ := laws.normal_recovers valid below
  simp only [recoverableSignature, laws.fromSlice_bytes, Checked.okOr_some, ok_bind]
  generalize (scheme.normalizeS signature).getD signature = normal at low found ⊢
  cases search : [false, true].find? fun odd =>
      scheme.recoverFromPrehash digest normal odd = some key with
  | none =>
    have missed := List.find?_eq_none.mp search odd (by cases odd <;> simp)
    simp [laws.recovers _ _ _ low, found] at missed
  | some first =>
    have hit := List.find?_some search
    rw [laws.recovers _ _ _ low] at hit
    exact ⟨normal, first, rfl, low, of_decide_eq_true hit⟩

theorem installableSignature_valid [DecidableEq Key] {key : Key} {publicKey : List UInt8}
    (known : scheme.keyFromSec1 publicKey = some key)
    (valid : ecdsa.verifies key digest signature.r signature.s)
    (below : ecdsa.belowOrder key digest signature.r signature.s) :
    ∃ installed, scheme.installableSignature ecdsa.address (ecdsa.address key) digest publicKey
      signature.bytes = .ok installed := by
  obtain ⟨normal, odd, searched, low, found⟩ := laws.recoverableSignature_valid valid below
  have canonical : scheme.canonicalEthereumSignature digest publicKey signature.bytes =
      .ok (normal.bytes ++ [if odd then 28 else 27]) := by
    simp [SignatureScheme.canonicalEthereumSignature, known, searched, ok_bind, laws.toBytes]
  refine ⟨normal.bytes ++ [if odd then 28 else 27], ?_⟩
  simp only [installableSignature, canonical, laws.recoverEthereumAddress_canonical low found,
    if_true]

end

/-- The contract recovers the expected signer from every signature that the canister installs,
over its own digest of the authorization. A valid signature by the expected signer is installed,
in whichever half of the order its `s` is. -/
theorem mint_signatures_work [DecidableEq Key] {keccak : Keccak} (laws : K256 ecdsa scheme)
    (eip712 : Eip712 keccak) {tryRecover : Bytes32 → List UInt8 → Option Bytes20}
    (recovers : TryRecovers ecdsa tryRecover) (domain : CanisterDomain)
    (authorization : CanisterAuthorization) (expectedSigner : Bytes20)
    (publicKey : List UInt8) :
    let digest := authorization.digest keccak (.bridge domain.chainId domain.verifyingContract)
    (∀ rawSignature signature, expectedSigner ≠ 0 →
      scheme.installableSignature ecdsa.address expectedSigner digest publicKey rawSignature =
        .ok signature →
      tryRecover (mintAuthorizationDigest eip712 domain.chainId domain.verifyingContract
        authorization.toMintAuthorization) signature = some expectedSigner) ∧
    ∀ key (raw : EcdsaSignature ecdsa.order), scheme.keyFromSec1 publicKey = some key →
      ecdsa.address key = expectedSigner → ecdsa.verifies key digest raw.r raw.s →
      ecdsa.belowOrder key digest raw.r raw.s →
      ∃ signature, scheme.installableSignature ecdsa.address expectedSigner digest publicKey
        raw.bytes = .ok signature := by
  intro digest
  constructor
  · intro rawSignature signature nonzero installed
    rw [← digest_eq]
    unfold installableSignature at installed
    split at installed
    · cases installed
    · split at installed
      next recovered =>
        cases installed
        exact laws.tryRecover_of_recoverEthereumAddress recovers nonzero recovered
      next => cases installed
  · rintro key raw known rfl valid below
    exact laws.installableSignature_valid known valid below

end K256

/-! The authorization, digest and signature of `mint-authorization-vector.json`. Of the hash
function and of ECDSA on secp256k1 the vector fixes these values; the signature that threshold
signing answers with here is the one with the large `s`. -/
namespace MintVector

def domain : CanisterDomain :=
  ⟨8453, 0x1111111111111111111111111111111111111111, by decide⟩

def authorization : CanisterAuthorization where
  depositId := 0x2222222222222222222222222222222222222222222222222222222222222222
  recipient := 0x3333333333333333333333333333333333333333
  grossAmount := 1100
  maxServiceFee := 100
  chargedServiceFee := 10
  deadline := 1800000000
  authorizationEpoch := 7
  amounts := by decide
  times := by decide

def digest : Bytes32 := 0x9bbe1de9ee66a63bf944f3e6c84a3ce9762cf2bba8e779ee3ed261b5981a0540

def signer : Bytes20 := 0xe05fcc23807536bee418f142d19fa0d21bb0cff7

def publicKey : List UInt8 :=
  2 :: ofNat 32 0xa64db41e2968c849c2a5615ba0d6e816734a6d3e6ea6ecd6f3acb7d59daa9102

def order : Nat := 0xfffffffffffffffffffffffffffffffebaaedce6af48a03bbfd25e8cd0364141

def signature : EcdsaSignature order where
  r := 0x783ac659fd8cd9a4b93b448b1929c6f32f4eca066a9a8463b4f409e60318bce1
  s := 0x1663260c69094af030f65d839bd29ad6353bf163c7dcf526809a9b27188bbfd0
  bounds := by decide

def keccak : Keccak := fun bytes =>
  match bytes.length with
  | 1 => 0xc89efdaa54c0f20c7adf612882df0950f5a951637e0307cdcb4c672f298b8bc6
  | 12 => 0xaa7be177d621570a8bc7372283e6ef36bba4f453301af5e2ff214523f38b029f
  | 66 => digest
  | 82 => 0x8b73c3c69bb8fe3d512ecc4cf759cc79239f7b179b0ffacaa9a75d522b39400f
  | 160 => 0x3462ec2b77203bae52fc6361fe549d08138a02459a8ea0353399f2f8e6c2d364
  | 166 => 0x723ba61f726f90e47fb478699fab5ca598f7b0a19ec8016f9886579f6ccec1ad
  | 256 => 0x01fe555807f9cf36836576a13eb2d6878183840f26cd56b7fb8378c52091bc03
  | _ => 0

/-- The nonce point of the vector's signature has an odd y-coordinate, that of the opposite
signature an even one. -/
def Recovered (prehash : Bytes32) (r s : Nat) (odd : Bool) : Prop :=
  prehash = digest ∧ r = signature.r ∧ s = if odd then signature.s else signature.negated.s

instance (prehash : Bytes32) : Decidable (Recovered prehash r s odd) :=
  inferInstanceAs (Decidable (_ ∧ _ ∧ _))

theorem recovered_neg {prehash : Bytes32} (small : s < order) :
    Recovered prehash r (order - s) odd ↔ Recovered prehash r s (!odd) := by
  have bounds := signature.bounds
  have swapped : order - s = (if odd then signature.s else signature.negated.s) ↔
      s = if !odd then signature.s else signature.negated.s := by
    cases odd <;> simp only [EcdsaSignature.negated, Bool.not_false, Bool.not_true, if_true,
      Bool.false_eq_true, if_false] <;> omega
  simp only [Recovered, swapped]

def ecdsa : Ecdsa (List UInt8) where
  order := order
  order_le := by decide
  verifies key prehash r s := key = publicKey ∧ ∃ odd, Recovered prehash r s odd
  belowOrder key prehash r s := key = publicKey ∧ ∃ odd, Recovered prehash r s odd
  recover prehash r s odd := if Recovered prehash r s odd then some publicKey else none
  address _ := signer
  recover_neg _ _ _ _ _ small := if_congr (recovered_neg small) rfl rfl
  recover_valid _ _ _ _ valid _ := by
    obtain ⟨rfl, odd, recovered⟩ := valid
    exact ⟨odd, if_pos recovered⟩

def scheme : SignatureScheme (List UInt8) (EcdsaSignature order) where
  keyFromSec1 bytes := if bytes = publicKey then some bytes else none
  fromSlice bytes :=
    let r := toNat (bytes.take 32)
    let s := toNat (bytes.drop 32)
    if valid : bytes.length = 64 ∧ (0 < r ∧ r < order) ∧ 0 < s ∧ s < order then
      some ⟨r, s, valid.2⟩
    else none
  normalizeS parsed := if parsed.s ≤ order / 2 then none else some parsed.negated
  recoverFromPrehash prehash parsed odd := ecdsa.recover prehash parsed.r parsed.s odd
  toBytes := EcdsaSignature.bytes
  length_toBytes := by simp [EcdsaSignature.bytes]

theorem k256 : K256 ecdsa scheme where
  toBytes _ := rfl
  fromSlice bytes parsed := by
    have bounds := parsed.bounds
    have wide : order ≤ 2 ^ 256 := ecdsa.order_le
    constructor
    · intro read
      simp only [scheme] at read
      split at read
      next valid =>
        cases read
        have halves : (bytes.take 32).length = 32 ∧ (bytes.drop 32).length = 32 := by
          simp [valid.1]
        simp only [EcdsaSignature.bytes]
        rw [ofNat_toNat halves.1, ofNat_toNat halves.2, List.take_append_drop]
      next => cases read
    · rintro rfl
      have r := toNat_word (Nat.lt_of_lt_of_le bounds.1.2 wide)
      have s := toNat_word (Nat.lt_of_lt_of_le bounds.2.2 wide)
      simp only [scheme, EcdsaSignature.bytes, List.take_left' (length_ofNat _ _),
        List.drop_left' (length_ofNat _ _), r, s]
      exact dif_pos ⟨by simp, bounds⟩
  normalizeS_low _ low := if_pos low
  normalizeS_high _ high := if_neg high
  recovers _ _ _ _ := rfl

def tryRecover (prehash : Bytes32) (bytes : List UInt8) : Option Bytes20 :=
  if prehash = digest ∧ bytes = signature.bytes ++ [28] then some signer else none

theorem tryRecovers : TryRecovers ecdsa tryRecover := by
  intro prehash parsed odd key low found _
  have recovered : Recovered prehash parsed.r parsed.s odd := by
    by_contra missed
    cases (if_neg missed).symm.trans found
  obtain ⟨rfl, r, s⟩ := recovered
  cases odd with
  | false =>
    -- the opposite signature is in the upper half
    have high : order / 2 < signature.negated.s := by decide
    rw [if_neg Bool.false_ne_true] at s
    exact absurd low (Nat.not_le.mpr (s ▸ high))
  | true =>
    rw [if_pos rfl] at s
    exact if_pos ⟨rfl, by simp only [EcdsaSignature.bytes, r, s, if_true]⟩

def eip712 : Eip712 keccak := default

def signedDigest : Bytes32 :=
  authorization.digest keccak (.bridge domain.chainId domain.verifyingContract)

theorem signedDigest_eq : signedDigest = digest := by
  have length : (authorization.digestInputs keccak
      (.bridge domain.chainId domain.verifyingContract)).message.length = 66 := by
    simp [MintAuthorization.digestInputs, wordBytes]
  simp only [signedDigest, MintAuthorization.digest, keccak, length]

/-- The signature with the large `s` is installed, and the contract recovers the vector's signer
from what is. -/
theorem mint_signatures_work_vector : signedDigest = digest ∧ ∃ installed,
    scheme.installableSignature ecdsa.address signer signedDigest publicKey
      signature.negated.bytes = .ok installed ∧
    tryRecover (mintAuthorizationDigest eip712 domain.chainId domain.verifyingContract
      authorization.toMintAuthorization) installed = some signer := by
  obtain ⟨works, installs⟩ := k256.mint_signatures_work eip712 tryRecovers domain authorization
    signer publicKey
  have valid : ecdsa.verifies publicKey signedDigest signature.negated.r signature.negated.s := by
    rw [signedDigest_eq]
    exact ⟨rfl, false, rfl, rfl, rfl⟩
  obtain ⟨installed, done⟩ := installs publicKey signature.negated (if_pos rfl) rfl valid valid
  exact ⟨signedDigest_eq, installed, done, works _ _ (by decide) done⟩

end MintVector

end KinicBridge
