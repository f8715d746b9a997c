import KinicBridge.Core.Admin
import KinicBridge.CrossChain.Digest

/-! What deposit ids are the hash of. Nothing says how long the two principals are: bytes can move
from the fields behind the canister id into it while as many move out of the caller. -/
namespace KinicBridge

open Bytes

/-- A principal has at most 29 bytes. -/
@[ext] structure DepositIdFields where
  canisterId : Principal
  baseChainId : BitVec 64
  bridgeContract : Bytes20
  deploymentInstanceId : Bytes32
  caller : Principal
  ownerSequence : BitVec 64
  canisterId_short : canisterId.length ≤ 29
  caller_short : caller.length ≤ 29
  deriving DecidableEq

def hashConcat (sha256 : List UInt8 → Bytes32) (parts : List (List UInt8)) : Bytes32 :=
  sha256 parts.flatten

namespace DepositIdFields

section

variable (fields : DepositIdFields)

def parts : List (List UInt8) :=
  [asBytes "KINIC-DEPOSIT-ID-V3", fields.canisterId, ofNat 8 fields.baseChainId.toNat,
    ofNat 20 fields.bridgeContract.toNat, wordBytes fields.deploymentInstanceId,
    fields.caller, ofNat 8 fields.ownerSequence.toNat]

def deriveDepositIdV3 (sha256 : List UInt8 → Bytes32) (fields : DepositIdFields) : Bytes32 :=
  hashConcat sha256 fields.parts

def preimage : List UInt8 := fields.parts.flatten

def install : List UInt8 :=
  ofNat 8 fields.baseChainId.toNat ++ ofNat 20 fields.bridgeContract.toNat ++
    wordBytes fields.deploymentInstanceId

end

/-- The other canister id goes on with bytes that stand behind this one, and the other fields
are read that much later. -/
def Shifted (fields other : DepositIdFields) : Prop :=
  ∃ moved, moved ≠ [] ∧ other.canisterId = fields.canisterId ++ moved ∧
    fields.install ++ fields.caller = moved ++ (other.install ++ other.caller) ∧
    fields.ownerSequence = other.ownerSequence

def Separated (fields other : DepositIdFields) : Prop :=
  fields ≠ other → fields.preimage ≠ other.preimage ∧
    ∀ sha256, deriveDepositIdV3 sha256 fields = deriveDepositIdV3 sha256 other →
      Collision sha256 fields.preimage other.preimage

variable {fields other : DepositIdFields}

@[simp] theorem length_install (fields : DepositIdFields) : fields.install.length = 60 := by
  simp [install, wordBytes]

theorem preimage_eq (fields : DepositIdFields) : fields.preimage =
    asBytes "KINIC-DEPOSIT-ID-V3" ++ (fields.canisterId ++
      (fields.install ++ fields.caller) ++ ofNat 8 fields.ownerSequence.toNat) := by
  simp [preimage, parts, install]

theorem ofNat_toNat_inj {first second : BitVec (8 * width)} :
    ofNat width first.toNat = ofNat width second.toNat ↔ first = second := by
  have word (value : BitVec (8 * width)) : value.toNat < 256 ^ width := by
    rw [show 256 = 2 ^ 8 from rfl, ← Nat.pow_mul]
    exact value.isLt
  rw [ofNat_inj (word first) (word second), BitVec.toNat_inj]

theorem install_inj (same : fields.install = other.install) :
    fields.baseChainId = other.baseChainId ∧ fields.bridgeContract = other.bridgeContract ∧
      fields.deploymentInstanceId = other.deploymentInstanceId := by
  obtain ⟨front, instanceId⟩ := List.append_inj' same (by simp [wordBytes])
  obtain ⟨chain, contract⟩ := List.append_inj' front (by simp)
  exact ⟨ofNat_toNat_inj.mp chain, ofNat_toNat_inj.mp contract, ofNat_toNat_inj.mp instanceId⟩

theorem preimage_eq_iff : fields.preimage = other.preimage ↔
    fields.canisterId ++ (fields.install ++ fields.caller) =
      other.canisterId ++ (other.install ++ other.caller) ∧
    fields.ownerSequence = other.ownerSequence := by
  rw [preimage_eq, preimage_eq, List.append_cancel_left_eq]
  constructor
  · intro same
    obtain ⟨front, sequence⟩ := List.append_inj' same (by simp)
    exact ⟨front, ofNat_toNat_inj.mp sequence⟩
  · rintro ⟨front, sequence⟩
    rw [front, sequence]

theorem eq_of_canisterId_length (same : fields.preimage = other.preimage)
    (length : fields.canisterId.length = other.canisterId.length) : fields = other := by
  obtain ⟨front, sequence⟩ := preimage_eq_iff.mp same
  obtain ⟨canister, rest⟩ := List.append_inj front length
  obtain ⟨install, caller⟩ := List.append_inj rest (by simp)
  obtain ⟨chain, contract, instanceId⟩ := install_inj install
  exact DepositIdFields.ext canister chain contract instanceId caller sequence

theorem preimage_eq_cases : fields.preimage = other.preimage ↔
    fields = other ∨ fields.Shifted other ∨ other.Shifted fields := by
  constructor
  · intro same
    obtain ⟨front, sequence⟩ := preimage_eq_iff.mp same
    rcases List.append_eq_append_iff.mp front with ⟨moved, longer, rest⟩ | ⟨moved, longer, rest⟩
    · by_cases none : moved = []
      · exact .inl (eq_of_canisterId_length same (by simp [longer, none]))
      · exact .inr (.inl ⟨moved, none, longer, rest, sequence⟩)
    · by_cases none : moved = []
      · exact .inl (eq_of_canisterId_length same (by simp [longer, none]))
      · exact .inr (.inr ⟨moved, none, longer, rest, sequence.symm⟩)
  · rintro (rfl | ⟨moved, _, longer, rest, sequence⟩ | ⟨moved, _, longer, rest, sequence⟩)
    · rfl
    all_goals simp [preimage_eq_iff, longer, rest, sequence]

theorem Shifted.length_lt (shifted : fields.Shifted other) :
    fields.canisterId.length < other.canisterId.length := by
  obtain ⟨moved, some_, longer, _⟩ := shifted
  have positive := List.length_pos_iff.mpr some_
  rw [longer, List.length_append]
  omega

/-- Ids are separate unless one tuple is the other one shifted, which canister ids of one length
exclude: one install never gives two callers, or one caller twice, the same id. -/
theorem deposit_ids_separated_iff (fields other : DepositIdFields) :
    (Separated fields other ↔ ¬fields.Shifted other ∧ ¬other.Shifted fields) ∧
    (fields.canisterId.length = other.canisterId.length → Separated fields other) := by
  have exact_ : Separated fields other ↔ ¬fields.Shifted other ∧ ¬other.Shifted fields := by
    rw [← not_or]
    constructor
    · rintro separated shifted
      have different : fields ≠ other := by
        rintro rfl
        rcases shifted with shifted | shifted <;> exact absurd shifted.length_lt (lt_irrefl _)
      exact (separated different).1 (preimage_eq_cases.mpr (.inr shifted))
    · intro unshifted different
      have apart : fields.preimage ≠ other.preimage := fun same =>
        (preimage_eq_cases.mp same).elim different unshifted
      exact ⟨apart, fun _ same => ⟨apart, same⟩⟩
  refine ⟨exact_, fun length => exact_.mpr ⟨fun shifted => ?_, fun shifted => ?_⟩⟩
  · exact absurd length (Nat.ne_of_lt shifted.length_lt)
  · exact absurd length (Nat.ne_of_gt shifted.length_lt)

def installed : DepositIdFields :=
  ⟨[0, 0, 0, 0, 0, 0, 0, 1, 1, 1], 8453, 0x2105000000000000000000000001, 1,
    [0, 0, 0, 0, 0, 0, 0, 2, 1, 1], 0, by decide, by decide⟩

def shiftedInstall : DepositIdFields :=
  ⟨[0, 0, 0, 0, 0, 0, 0, 1, 1, 1, 0, 0, 0, 0, 0, 0, 0x21, 0x05], 8453, 0x10000000000000000,
    0x10000000000000002, [1, 1], 0, by decide, by decide⟩

theorem deposit_ids_shared :
    installed ≠ shiftedInstall ∧ installed.preimage = shiftedInstall.preimage ∧
    ∀ sha256, deriveDepositIdV3 sha256 installed = deriveDepositIdV3 sha256 shiftedInstall := by
  have shifted : installed.Shifted shiftedInstall :=
    ⟨[0, 0, 0, 0, 0, 0, 0x21, 0x05], by decide, rfl, by decide +kernel, rfl⟩
  have same := preimage_eq_cases.mpr (.inr (.inl shifted))
  exact ⟨by decide, same, fun sha256 => congrArg sha256 same⟩

end DepositIdFields

end KinicBridge
