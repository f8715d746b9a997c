import KinicBridge.Library.Sha256
import KinicBridge.Settlement.Store

/-! The keys of saved scans. Of a deposit id only eight bytes of a digest are left, so two funding
attempts can share a key, and with it each other's scan. -/
namespace KinicBridge

def reconciliationScanKey (sha256 : List UInt8 → Bytes32) (target : ReconciliationTarget) :
    List UInt8 :=
  let (tag, id) : UInt8 × Nat := match target with
    | .hold id => (0, id)
    | .feePayout id => (1, id)
    | .fundingAttempt id => (2, ((sha256 (memoBytes id)).extractLsb' 192 64).toNat)
  tag :: Bytes.ofNat 8 id

inductive ScanWrite where
  | put (progress : ReconciliationScanProgress)
  | commit (progress : ReconciliationScanProgress)
  | update (previous next : ReconciliationScanProgress)
  | remove (target : ReconciliationTarget)

namespace ScanWrite

def target : ScanWrite → ReconciliationTarget
  | .put progress | .commit progress | .update progress _ => progress.target
  | .remove target => target

def row (old : Option ReconciliationScanProgress) : ScanWrite → Option ReconciliationScanProgress
  | .put progress => if old.any (·.transfer != progress.transfer) then old else some progress
  | .commit progress => some (old.getD progress)
  | .update previous next =>
    if previous.target ≠ next.target ∨ previous.transfer ≠ next.transfer ∨ old ≠ some previous then
      old
    else some next
  | .remove _ => none

end ScanWrite

def ReconciliationTarget.Fits : ReconciliationTarget → Prop
  | .hold id | .feePayout id => id < 2 ^ 64
  | .fundingAttempt _ => True

abbrev ScanTable (key : ReconciliationTarget → Key) :=
  Table fun progress : ReconciliationScanProgress => key progress.target

variable {target other : ReconciliationTarget} {write : ScanWrite} {writes : List ScanWrite}

namespace ScanTable

variable {Key : Type} {key : ReconciliationTarget → Key}

def reconciliationScan (scans : ScanTable key) (target : ReconciliationTarget) :
    Option ReconciliationScanProgress :=
  scans.get (key target)

variable [DecidableEq Key]

section

variable (scans : ScanTable key)

/-- `put_reconciliation_scan`, the `INSERT` of a payout's first scan, the `UPDATE` of its progress
and the `DELETE` of a scan that is over. What is checked of the payout before is left out. -/
def perform : ScanWrite → Except StorageError (ScanTable key)
  | .put progress =>
    if (scans.reconciliationScan progress.target).any (·.transfer != progress.transfer) then
      .error (.core .conflictingReplay)
    else .ok (scans.put progress)
  | .commit progress =>
    match scans.reconciliationScan progress.target with
    | some previous =>
      if previous = progress then .ok scans else .error (.core .conflictingReplay)
    | none => .ok (scans.put progress)
  | .update previous next =>
    if previous.target ≠ next.target ∨ previous.transfer ≠ next.transfer ∨
        scans.reconciliationScan previous.target ≠ some previous then
      .error (.core .conflictingReplay)
    else .ok (scans.put next)
  | .remove target => .ok (scans.remove (key target))

def step (write : ScanWrite) : ScanTable key :=
  (scans.perform write).toOption.getD scans

def run (writes : List ScanWrite) : ScanTable key :=
  writes.foldl step scans

end

variable {scans : ScanTable key}

theorem get_step : (scans.step write).get = Function.update scans.get (key write.target)
    (write.row (scans.reconciliationScan write.target)) := by
  have refused {row} (kept : row = scans.reconciliationScan write.target) :
      scans.get = Function.update scans.get (key write.target) row := by
    rw [kept]
    exact (Function.update_eq_self _ _).symm
  have written {row progress} (stored : row = some progress)
      (own : progress.target = write.target) :
      (scans.put progress).get = Function.update scans.get (key write.target) row := by
    rw [stored, ← own]
    rfl
  unfold step
  cases write with
  | put progress =>
    simp only [perform]
    split
    next differs => exact refused (if_pos differs)
    next agrees => exact written (if_neg agrees) rfl
  | commit progress =>
    simp only [perform]
    split
    next found =>
      split <;> exact refused (by simp [ScanWrite.row, ScanWrite.target, found])
    next unknown => exact written (by simp [ScanWrite.row, ScanWrite.target, unknown]) rfl
  | update previous next =>
    simp only [perform]
    split
    next differs => exact refused (if_pos differs)
    next agrees => exact written (if_neg agrees) (not_not.mp (not_or.mp agrees).1).symm
  | remove => rfl

theorem run_keeps (apart : ∀ write ∈ writes, key other ≠ key write.target) :
    (scans.run writes).reconciliationScan other = scans.reconciliationScan other := by
  induction writes generalizing scans with
  | nil => rfl
  | cons write writes ih =>
    obtain ⟨first, rest⟩ := List.forall_mem_cons.mp apart
    refine (ih rest).trans ?_
    rw [reconciliationScan, get_step]
    exact Function.update_of_ne first _ _

end ScanTable

variable {sha256 : List UInt8 → Bytes32}

/-- The digests of two deposit ids agree on their first eight bytes. -/
def ReconciliationTarget.Collides (sha256 : List UInt8 → Bytes32) :
    ReconciliationTarget → ReconciliationTarget → Prop
  | .fundingAttempt id, .fundingAttempt other =>
    (sha256 (memoBytes id)).extractLsb' 192 64 = (sha256 (memoBytes other)).extractLsb' 192 64
  | _, _ => False

theorem scanKey_eq_iff (different : target ≠ other) (fits : target.Fits) (fits' : other.Fits) :
    reconciliationScanKey sha256 target = reconciliationScanKey sha256 other ↔
      target.Collides sha256 other := by
  have word {value : Nat} (bound : value < 2 ^ 64) : value < 256 ^ 8 := bound
  cases target <;> cases other <;>
    simp only [reconciliationScanKey, List.cons.injEq, ReconciliationTarget.Collides,
      ne_eq, ReconciliationTarget.hold.injEq, ReconciliationTarget.feePayout.injEq] at different ⊢
  case hold.hold | feePayout.feePayout =>
    simpa [Bytes.ofNat_inj (word fits) (word fits')] using different
  case fundingAttempt.fundingAttempt id other =>
    rw [Bytes.ofNat_inj (word (BitVec.isLt _)) (word (BitVec.isLt _)), ← BitVec.toNat_inj]
    simp
  all_goals simp

/-- Unless digests of the attempts in use collide, the table refines one keyed by the target
itself, as the scans of a `SettlementStore` are. -/
theorem run_refines {scans : ScanTable (reconciliationScanKey sha256)} {ideal : ScanTable id}
    {used : Set ReconciliationTarget} (fits : ∀ target ∈ used, target.Fits)
    (apart : used.Pairwise fun target other => ¬target.Collides sha256 other)
    (own : ∀ write ∈ writes, write.target ∈ used)
    (same : ∀ target ∈ used, scans.reconciliationScan target = ideal.reconciliationScan target) :
    ∀ target ∈ used, (scans.run writes).reconciliationScan target =
      (ideal.run writes).reconciliationScan target := by
  induction writes generalizing scans ideal with
  | nil => exact same
  | cons write writes ih =>
    obtain ⟨first, rest⟩ := List.forall_mem_cons.mp own
    refine ih rest fun target member => ?_
    unfold ScanTable.reconciliationScan
    rw [ScanTable.get_step, ScanTable.get_step]
    by_cases equal : target = write.target
    · rw [equal, Function.update_self, Function.update_self, same _ first]
    · have keys : reconciliationScanKey sha256 target ≠ reconciliationScanKey sha256 write.target :=
        mt (scanKey_eq_iff equal (fits _ member) (fits _ first)).mp (apart member first equal)
      rw [Function.update_of_ne keys]
      exact (same target member).trans (Function.update_of_ne equal _ _).symm

theorem run_refines_numbered : ∃ progress : ReconciliationScanProgress,
    (ScanTable.run (.empty : ScanTable (reconciliationScanKey Sha256.hash))
      [.put progress, .remove (.feePayout 1)]).reconciliationScan (.hold 1) = some progress := by
  have fits : ∀ target ∈ ({.hold 1, .feePayout 1} : Set ReconciliationTarget), target.Fits := by
    rintro _ (rfl | rfl) <;> exact Nat.one_lt_two_pow (by decide)
  let ideal : ScanTable id := .empty
  refine ⟨.new (.hold 1) ⟨.pullDeposit, 0, 7, 1, 1, ⟨[1], 0, owner_one_valid⟩, ⟨[9], 0, owner_nine_valid⟩, none⟩,
    (run_refines fits ?_ ?_ (fun _ _ => (rfl : _ = ideal.reconciliationScan _)) _ (.inl rfl)).trans
      rfl⟩
  · rintro _ (rfl | rfl) _ _ _ ⟨⟩
  · simp [ScanWrite.target, ReconciliationScanProgress.new]

/-- The keys differ, and no run of writes for one target reads or changes the scan of the other. -/
def ScansApart (sha256 : List UInt8 → Bytes32) (target other : ReconciliationTarget) : Prop :=
  reconciliationScanKey sha256 target ≠ reconciliationScanKey sha256 other ∧
  ∀ (scans : ScanTable (reconciliationScanKey sha256)) writes,
    (∀ write ∈ writes, write.target = target) →
    (scans.run writes).reconciliationScan other = scans.reconciliationScan other ∧
    ∀ progress, (scans.run writes).reconciliationScan target = some progress →
      progress.target ≠ other

theorem scans_apart_iff (different : target ≠ other) (fits : target.Fits) (fits' : other.Fits) :
    ScansApart sha256 target other ↔ ¬target.Collides sha256 other := by
  rw [← scanKey_eq_iff different fits fits']
  refine ⟨fun apart => apart.1, fun apart => ⟨apart, fun scans writes own => ⟨?_, ?_⟩⟩⟩
  · refine ScanTable.run_keeps fun write member => ?_
    rw [own write member]
    exact Ne.symm apart
  · rintro progress found rfl
    exact apart ((scans.run writes).keyed _ _ found).symm

theorem scans_apart_small : ScansApart Sha256.hash (.fundingAttempt 1) (.fundingAttempt 2) := by
  have apart : ¬ReconciliationTarget.Collides Sha256.hash (.fundingAttempt 1)
      (.fundingAttempt 2) := by
    unfold ReconciliationTarget.Collides
    decide +kernel
  exact (scans_apart_iff (by decide) (by trivial) (by trivial)).mpr apart

def sharedAttempt : ReconciliationTarget := .fundingAttempt 0x892def688390a7ce

def sharingAttempt : ReconciliationTarget := .fundingAttempt 0xd35b4053d726c345

/-- Both digests start with 77f277cad6edeb39. Once the scan of one attempt is stored, it is also
read for the other, and deleted with it. -/
theorem scans_shared :
    sharedAttempt ≠ sharingAttempt ∧
    reconciliationScanKey Sha256.hash sharedAttempt =
      reconciliationScanKey Sha256.hash sharingAttempt ∧
    ∀ transfer, ∃ scans : ScanTable (reconciliationScanKey Sha256.hash),
      scans = ScanTable.run .empty [.put (.new sharedAttempt transfer)] ∧
      scans.reconciliationScan sharingAttempt = some (.new sharedAttempt transfer) ∧
      (scans.run [.remove sharingAttempt]).reconciliationScan sharedAttempt = none := by
  have same : reconciliationScanKey Sha256.hash sharedAttempt =
      reconciliationScanKey Sha256.hash sharingAttempt := by
    decide +kernel
  refine ⟨by decide, same, fun transfer => ⟨_, rfl, ?_, ?_⟩⟩
  · unfold ScanTable.reconciliationScan
    rw [← same]
    exact Table.get_put_self
  · unfold ScanTable.reconciliationScan
    rw [same]
    exact Table.get_remove_self

end KinicBridge
