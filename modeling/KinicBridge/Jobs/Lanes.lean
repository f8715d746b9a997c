import KinicBridge.Jobs.Scheduler
import KinicBridge.Library.Keyed

/-! How many leases of a lane are unexpired. Claims are granted only below the lane's
capacity; a renewal is not checked, so a lease that ran out and whose place was given away
comes back beside its successor. -/
namespace KinicBridge

open Scheduler SettlementLeaseLane

namespace JobStore

def counted (nowNs : Nat) (lane : SettlementLeaseLane) (row : JobRow) : Bool :=
  row.phase.active nowNs && row.leaseLane == lane

theorem length_filter_kerase [DecidableEq κ] (rows : AList fun _ : κ => β) (key : κ)
    (chosen : (Sigma fun _ : κ => β) → Bool) :
    (rows.entries.filter chosen).length = ((rows.entries.kerase key).filter chosen).length +
      ((rows.lookup key).elim 0 fun row => (chosen ⟨key, row⟩).toNat) := by
  cases found : rows.lookup key with
  | none =>
    have absent : key ∉ rows.entries.keys := AList.lookup_eq_none.mp found
    simp [List.kerase_of_notMem_keys absent]
  | some row =>
    rw [((Keyed.entries_perm rows key found).filter chosen).length_eq]
    cases holds : chosen ⟨key, row⟩ <;> simp [holds]

section Written

variable {before after : JobStore} {key : JobKey} {row : JobRow}

theorem activeInLane_insert (written : after.jobs = before.jobs.insert key row) (nowNs : Nat)
    (lane : SettlementLeaseLane) : after.activeInLane nowNs lane +
        ((before.jobs.lookup key).elim 0 fun old => (counted nowNs lane old).toNat) =
      before.activeInLane nowNs lane + (counted nowNs lane row).toNat := by
  have kept := length_filter_kerase before.jobs key fun entry => counted nowNs lane entry.2
  simp only [activeInLane, written, AList.entries_insert]
  simp only [counted] at kept ⊢
  rw [kept]
  cases holds : row.phase.active nowNs && row.leaseLane == lane
  · simp [holds]
  · simp [holds]
    omega

theorem activeInLane_insert_idle (written : after.jobs = before.jobs.insert key row)
    (idle : row.phase.isLeased = false) (nowNs : Nat) (lane : SettlementLeaseLane) :
    after.activeInLane nowNs lane ≤ before.activeInLane nowNs lane := by
  have balance := activeInLane_insert written nowNs lane
  have uncounted : counted nowNs lane row = false := by
    cases phase : row.phase <;> simp_all [counted, JobPhase.active, JobPhase.isLeased]
  rw [uncounted] at balance
  simp only [Bool.toNat_false] at balance
  omega

theorem activeInLane_erase (written : after.jobs = before.jobs.erase key) (nowNs : Nat)
    (lane : SettlementLeaseLane) :
    after.activeInLane nowNs lane ≤ before.activeInLane nowNs lane := by
  unfold activeInLane
  rw [written]
  exact ((List.kerase_sublist key before.jobs.entries).filter _).length_le

def WithinCapacity (store : JobStore) (nowNs : Nat) : Prop :=
  ∀ lane, store.activeInLane nowNs lane ≤ lane.capacity

theorem WithinCapacity.of_le (within : before.WithinCapacity nowNs)
    (fewer : ∀ lane, after.activeInLane nowNs lane ≤ before.activeInLane nowNs lane) :
    after.WithinCapacity nowNs :=
  fun lane => (fewer lane).trans (within lane)

/-- A lease may be written where there is room, or over an unexpired one of its lane. -/
theorem WithinCapacity.insert (within : before.WithinCapacity nowNs)
    (written : after.jobs = before.jobs.insert key row)
    (room : before.activeInLane nowNs row.leaseLane < row.leaseLane.capacity ∨
      ∃ old, before.jobs.lookup key = some old ∧ counted nowNs row.leaseLane old = true) :
    after.WithinCapacity nowNs := by
  intro lane
  have balance := activeInLane_insert written nowNs lane
  have before := within lane
  by_cases own : row.leaseLane = lane
  · subst own
    have most := Bool.toNat_le (counted nowNs row.leaseLane row)
    rcases room with room | ⟨old, found, active⟩
    · omega
    · simp only [found, Option.elim_some, active, Bool.toNat_true] at balance
      omega
  · have uncounted : counted nowNs lane row = false := by simp [counted, own]
    rw [uncounted] at balance
    simp only [Bool.toNat_false] at balance
    omega

end Written

theorem activeInLane_anti (store : JobStore) (lane : SettlementLeaseLane) (later : nowNs ≤ thenNs) :
    store.activeInLane thenNs lane ≤ store.activeInLane nowNs lane := by
  refine (List.monotone_filter_right _ ?_).length_le
  intro entry active
  cases phase : entry.2.phase <;> simp_all [JobPhase.active]
  omega

def LeasesAutomatic (before after : JobStore) : Prop :=
  after = before ∨ ∃ key row, row.leaseLane = .automatic ∧
    after = { before with jobs := before.jobs.insert key row }

variable {store next : JobStore}

theorem grantAutomatic_leases
    (granted : store.grantAutomatic key row nowNs leaseUntilNs = .ok (outcome, next)) :
    store.LeasesAutomatic next := by
  obtain ⟨fresh, counted, ⟨⟩⟩ := returned_ok.mp granted
  exact .inr ⟨key, _, rfl, rfl⟩

theorem claimSpecific_leases
    (claimed : store.claimSpecificDueSettlementJob key nowNs leaseUntilNs = .ok (outcome, next)) :
    store.LeasesAutomatic next := by
  unfold claimSpecificDueSettlementJob at claimed
  split at claimed
  · cases claimed
    exact .inl rfl
  split at claimed
  · split at claimed
    · cases claimed
      exact .inl rfl
    · exact grantAutomatic_leases claimed
  · split at claimed
    · exact grantAutomatic_leases claimed
    · cases claimed
      exact .inl rfl
  · cases claimed
    exact .inl rfl

theorem claimDue_leases
    (claimed : store.claimDueSettlementJob nowNs leaseUntilNs maximum = .ok (outcome, next)) :
    next = store ∨ store.activeInLane nowNs .automatic < maximum ∧ store.LeasesAutomatic next := by
  unfold claimDueSettlementJob at claimed
  split at claimed
  · contradiction
  split at claimed
  · cases claimed
    exact .inl rfl
  rename_i room
  split at claimed
  · cases claimed
    exact .inl rfl
  · exact .inr ⟨Nat.lt_of_not_le room, grantAutomatic_leases claimed⟩

theorem LeasesAutomatic.admission (leases : store.LeasesAutomatic next) :
    next.admission = store.admission := by
  rcases leases with rfl | ⟨key, row, -, rfl⟩ <;> rfl

theorem claimRefusal_room {store : JobStore} {claim : ManualClaim}
    (allowed : store.claimRefusal claim = none) :
    store.activeInLane claim.nowNs claim.lane < claim.lane.capacity := by
  unfold claimRefusal at allowed
  split at allowed
  · contradiction
  split at allowed
  · contradiction
  next idle =>
    by_contra full
    exact idle (by simp [Kernel.leaseLaneClaimDecision, Nat.le_of_not_lt full])

namespace WithinCapacity

variable {store next : JobStore}

theorem same (within : store.WithinCapacity nowNs) (kept : next.jobs = store.jobs) :
    next.WithinCapacity nowNs :=
  within.of_le fun lane => by rw [activeInLane, activeInLane, kept]

theorem automatic (within : store.WithinCapacity nowNs) (leases : store.LeasesAutomatic next)
    (room : store.activeInLane nowNs .automatic < automatic.capacity) :
    next.WithinCapacity nowNs := by
  rcases leases with rfl | ⟨key, row, lane, rfl⟩
  · exact within
  · exact within.insert rfl (.inl (by rwa [lane]))

theorem manualClaim (within : store.WithinCapacity claim.nowNs)
    (claimed : store.claimSettlementJobTransaction claim = .ok (outcome, next)) :
    next.WithinCapacity claim.nowNs := by
  cases claimSettlementJobTransaction_step claimed with
  | denied => exact within
  | granted allowed => exact within.insert rfl (.inl (claimRefusal_room allowed))

theorem finish (within : store.WithinCapacity nowNs) (job : SettlementJob) (outcome : JobOutcome) :
    (store.finish job outcome).WithinCapacity nowNs := by
  rcases finish_cases store job outcome with same | ⟨row, stopReasons, -, next⟩
  · rwa [same]
  rw [next]
  cases finished : finishedRow row outcome with
  | none => exact within.of_le fun lane => activeInLane_erase rfl nowNs lane
  | some left =>
    have idle := (finishedRow_cases finished).2
    exact within.of_le fun lane => activeInLane_insert_idle rfl idle nowNs lane

end WithinCapacity

variable (store : JobStore)

def RenewsInPlace (job : SettlementJob) (nowNs : Nat) : Prop :=
  ∀ row, store.heldRow job = some row → row.phase.active nowNs = true ∨
      store.activeInLane nowNs row.leaseLane < row.leaseLane.capacity

theorem renewSettlementLease_jobs {store : JobStore} {job : SettlementJob}
    (held : store.heldRow job = some row) (nowNs leaseUntilNs : Nat) :
    (store.renewSettlementLease job nowNs leaseUntilNs).2.2.jobs =
      store.jobs.insert job.key (extendLease row nowNs leaseUntilNs) := by
  simp [renewSettlementLease, held]

theorem WithinCapacity.renew {store : JobStore} {job : SettlementJob}
    (within : store.WithinCapacity nowNs) (inPlace : store.RenewsInPlace job nowNs)
    (leaseUntilNs : Nat) :
    (store.renewSettlementLease job nowNs leaseUntilNs).2.2.WithinCapacity nowNs := by
  cases held : store.heldRow job with
  | none => exact within.same (by simp [renewSettlementLease, held])
  | some row =>
    refine within.insert (renewSettlementLease_jobs held nowNs leaseUntilNs) ?_
    rcases inPlace row held with active | room
    · exact .inr ⟨row, (heldRow_eq_some.mp held).1, by simp [counted, active, extendLease]⟩
    · exact .inl room

/-- What an operation must meet for the lanes to stay within their capacity. Manual claims
check it themselves, and so does the automatic claim for the number it is given. -/
def KeepsRoom : JobOperation → Prop
  | .claimDue _ _ maxActiveLeases => maxActiveLeases ≤ automatic.capacity
  | .claimSpecific _ nowNs _ =>
    store.activeInLane nowNs .automatic < automatic.capacity
  | .renew job nowNs _ => store.RenewsInPlace job nowNs
  | _ => True

end JobStore

def JobOperation.time : JobOperation → Option Nat
  | .enqueue _ nowNs | .claimDue nowNs _ _ | .claimSpecific _ nowNs _ | .renew _ nowNs _ =>
    some nowNs
  | .manualClaim claim => some claim.nowNs
  | .finish _ outcome => some outcome.nowNs
  | .writeRecord _ _ => none

theorem JobStore.WithinCapacity.perform {store : JobStore} {operation : JobOperation}
    (within : store.WithinCapacity nowNs) (timed : ∀ time ∈ operation.time, time = nowNs)
    (room : store.KeepsRoom operation) : (store.perform operation).1.WithinCapacity nowNs := by
  cases operation with
  | enqueue key time =>
    exact within.of_le fun lane => activeInLane_insert_idle rfl rfl nowNs lane
  | manualClaim claim =>
    obtain rfl := timed claim.nowNs rfl
    simp only [JobStore.perform]
    split
    next claimed =>
      exact within.manualClaim claimed
    · exact within
  | claimDue time leaseUntilNs maximum =>
    obtain rfl := timed time rfl
    simp only [JobStore.perform]
    split
    next claimed =>
      rcases claimDue_leases claimed with rfl | ⟨below, leases⟩
      · exact within
      · exact within.automatic leases (Nat.lt_of_lt_of_le below room)
    · exact within
  | claimSpecific key time leaseUntilNs =>
    obtain rfl := timed time rfl
    simp only [JobStore.perform]
    split
    next claimed =>
      exact within.automatic (claimSpecific_leases claimed) room
    · exact within
  | renew job time leaseUntilNs =>
    obtain rfl := timed time rfl
    exact within.renew room leaseUntilNs
  | finish job outcome => exact within.finish job outcome
  | writeRecord key stopReason => exact within.same rfl

namespace JobRun

def Ordered (run : JobRun) : Prop := Runs.Ordered JobOperation.time run.operations

def Reached (run : JobRun) (n nowNs : Nat) : Prop :=
  Runs.Reached JobOperation.time run.operations n nowNs

instance (run : JobRun) : Decidable run.Ordered :=
  inferInstanceAs (Decidable (Runs.Ordered _ _))

instance (run : JobRun) (n nowNs : Nat) : Decidable (run.Reached n nowNs) :=
  inferInstanceAs (Decidable (Runs.Reached _ _ _ _))

/-- While every operation keeps room, no lane ever holds more unexpired leases than its
capacity, at any time at or after the last operation. -/
theorem lanes_within_capacity (run : JobRun) (ordered : run.Ordered)
    (room : ∀ i operation, run.operations[i]? = some operation →
      (run.store i).KeepsRoom operation) :
    ∀ n nowNs, run.Reached n nowNs → (run.store n).WithinCapacity nowNs := by
  refine Runs.Ordered.induction (P := fun nowNs (store : JobStore) => store.WithinCapacity nowNs)
    ordered ?_ ?_ ?_
  · intro nowNs lane
    simp [JobStore.activeInLane, run.empty]
  · intro store nowNs later passed within lane
    exact (store.activeInLane_anti lane passed).trans (within lane)
  · intro n operation nowNs input timed within
    exact within.perform timed (room n operation input)

end JobRun

/-! Four public claims run out, a fifth takes the place that became free, and the worker of
the first returns from its call and renews. -/

variable (settlementId : Bytes32)

def laneClaim (nowNs : Nat) : ManualClaim :=
  JobStore.manualClaim nowNs ⟨.deposit, settlementId⟩ [1] none

def laneHandle (leaseUntilNs nowNs : Nat) : SettlementJob :=
  ⟨⟨.deposit, settlementId⟩, ⟨.leased leaseUntilNs, 0, 1, .publicManual, none, nowNs⟩⟩

def crowdedRun : JobRun where
  start := ⟨∅, ⟨0, 0, ∅, ∅⟩, fun _ => some none⟩
  empty := reclaimRun.empty
  operations := [
    .manualClaim (laneClaim 1 0), .manualClaim (laneClaim 2 1), .manualClaim (laneClaim 3 1),
    .manualClaim (laneClaim 4 1), .manualClaim (laneClaim 5 manualLeaseNs),
    .renew (laneHandle 1 manualLeaseNs 0) manualLeaseNs
      (manualLeaseNs + leaseNs)]

theorem crowdedRun_exceeds_capacity :
    ¬∀ run : JobRun, run.Ordered → ∀ n nowNs, run.Reached n nowNs →
      (run.store n).WithinCapacity nowNs := by
  intro always
  have bound := always crowdedRun (by decide +kernel) 6 manualLeaseNs
    (by decide +kernel) .publicManual
  revert bound
  decide +kernel

def spacedRun : JobRun :=
  { crowdedRun with operations := crowdedRun.operations.take 5 ++
      [.renew (laneHandle 2 (manualLeaseNs + 1) 1) manualLeaseNs
        (manualLeaseNs + leaseNs)] }

theorem spacedRun_renews_in_place : (spacedRun.store 5).RenewsInPlace
    (laneHandle 2 (manualLeaseNs + 1) 1) manualLeaseNs := by
  have active : ((spacedRun.store 5).heldRow (laneHandle 2 (manualLeaseNs + 1) 1)).all
      (fun row => row.phase.active manualLeaseNs) = true := by decide +kernel
  intro row held
  rw [held] at active
  exact .inl active

theorem lanes_within_capacity_spaced :
    spacedRun.Ordered ∧ spacedRun.Reached 6 manualLeaseNs ∧
      (spacedRun.store 6).WithinCapacity manualLeaseNs ∧
      (spacedRun.store 6).activeInLane manualLeaseNs .publicManual = 4 := by
  have ordered : spacedRun.Ordered := by decide +kernel
  have reached : spacedRun.Reached 6 manualLeaseNs := by decide +kernel
  refine ⟨ordered, reached, ?_, by decide +kernel⟩
  refine spacedRun.lanes_within_capacity ordered ?_ 6 _ reached
  intro i operation input
  match i with
  | 0 | 1 | 2 | 3 | 4 =>
    cases input
    trivial
  | 5 =>
    cases input
    exact spacedRun_renews_in_place
  | _ + 6 => cases input

end KinicBridge
