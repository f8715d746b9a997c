import KinicBridge.Jobs.Store
import KinicBridge.Library.Runs

/-! Lease fencing over whole runs of the job table. Within one life of a row every claim
raises the generation, so older handles stop working; a row that is deleted and created
again starts over at generation zero. -/
namespace KinicBridge

open AList JobStore

inductive JobOperation where
  | enqueue (key : JobKey) (nowNs : Nat)
  | manualClaim (claim : ManualClaim)
  | claimDue (nowNs leaseUntilNs maxActiveLeases : Nat)
  | claimSpecific (key : JobKey) (nowNs leaseUntilNs : Nat)
  | renew (job : SettlementJob) (nowNs leaseUntilNs : Nat)
  | finish (job : SettlementJob) (outcome : JobOutcome)
  | writeRecord (key : JobKey) (stopReason : Option (Option String))

def ManualClaimTransaction.grantedJob : ManualClaimTransaction → Option SettlementJob
  | .claimed job => some job
  | _ => none

def SettlementJobClaim.grantedJob : SettlementJobClaim → Option SettlementJob
  | .claimed job => some job
  | .activeLease _ | .none => Option.none

namespace JobStore

variable (store : JobStore)

def perform : JobOperation → JobStore × Option SettlementJob
  | .enqueue key nowNs => (store.enqueueSettlementJob key nowNs, none)
  | .manualClaim claim =>
    match store.claimSettlementJobTransaction claim with
    | .ok (outcome, next) => (next, outcome.grantedJob)
    | .error _ => (store, none)
  | .claimDue nowNs leaseUntilNs maxActiveLeases =>
    match store.claimDueSettlementJob nowNs leaseUntilNs maxActiveLeases with
    | .ok (outcome, next) => (next, outcome.grantedJob)
    | .error _ => (store, none)
  | .claimSpecific key nowNs leaseUntilNs =>
    match store.claimSpecificDueSettlementJob key nowNs leaseUntilNs with
    | .ok (outcome, next) => (next, outcome.grantedJob)
    | .error _ => (store, none)
  | .renew job nowNs leaseUntilNs => ((store.renewSettlementLease job nowNs leaseUntilNs).2.2, none)
  | .finish job outcome =>
    match store.finishSettlementJob job outcome with
    | .ok next => (next, none)
    | .error _ => (store, none)
  | .writeRecord key stopReason =>
    ({ store with stopReasons := Function.update store.stopReasons key stopReason }, none)

variable (key : JobKey)

def completes : JobOperation → Bool
  | .finish job outcome =>
    decide (job.key = key) && (store.stopReasons key).isSome && (store.heldRow job).isSome &&
      outcome.stopError.isNone && outcome.nextRunAtNs.isNone
  | _ => false

def generation : Nat :=
  ((store.jobs.lookup key).map (·.leaseGeneration)).getD 0

def isLeased : Bool :=
  (store.jobs.lookup key).any (·.phase.isLeased)

end JobStore

/-- What one operation can do to the row of one settlement. The flag says whether the
operation completed it. -/
inductive RowStep (before after : JobStore) (key : JobKey) :
    Bool → Option SettlementJob → Prop where
  | kept (other : ∀ job, granted = some job → job.key ≠ key)
      (row : after.jobs.lookup key = before.jobs.lookup key) :
      RowStep before after key false granted
  | parked (generation : after.generation key = before.generation key)
      (unleased : after.isLeased key = false) : RowStep before after key false none
  | renewed (generation : after.generation key = before.generation key)
      (held : before.isLeased key = true) : RowStep before after key false none
  | claimed (named : job.key = key)
      (generation : after.generation key = before.generation key + 1)
      (handle : job.row.leaseGeneration = after.generation key)
      (leased : after.isLeased key = true) : RowStep before after key false (some job)
  | deleted (held : before.isLeased key = true) (gone : after.jobs.lookup key = none) :
      RowStep before after key true none

theorem heldRow_eq_some {store : JobStore} {job : SettlementJob} :
    store.heldRow job = some row ↔ store.jobs.lookup job.key = some row ∧
      row.phase.isLeased = true ∧ row.leaseGeneration = job.row.leaseGeneration := by
  simp [heldRow, Option.filter_eq_some_iff]

section

variable (store : JobStore)

theorem enqueue_rowStep (target key : JobKey) (nowNs : Nat) :
    RowStep store (store.enqueueSettlementJob target nowNs) key false none := by
  by_cases same : key = target
  · subst same
    refine .parked ?_ ?_ <;> simp [enqueueSettlementJob, generation, isLeased, JobPhase.isLeased]
  · exact .kept (by simp) (lookup_insert_ne same)

theorem renew_rowStep (job : SettlementJob) (key : JobKey) (nowNs leaseUntilNs : Nat) :
    RowStep store (store.renewSettlementLease job nowNs leaseUntilNs).2.2 key false none := by
  unfold renewSettlementLease
  split
  · exact .kept (by simp) rfl
  next row held =>
    obtain ⟨found, leased, _⟩ := heldRow_eq_some.mp held
    by_cases same : key = job.key
    · subst same
      refine .renewed ?_ ?_
      · simp [generation, found, extendLease]
      · simp [isLeased, found, leased]
    · exact .kept (by simp) (lookup_insert_ne same)

theorem insert_rowStep {store : JobStore} {row handle : JobRow} (target key : JobKey)
    (admission : SettlementAdmissionControl) (leased : row.phase.isLeased = true)
    (next : row.leaseGeneration = store.generation target + 1)
    (same : handle.leaseGeneration = row.leaseGeneration) :
    RowStep store { store with jobs := store.jobs.insert target row, admission } key false
      (some ⟨target, handle⟩) := by
  by_cases named : key = target
  · subst named
    refine .claimed rfl ?_ ?_ ?_
    · simp [generation] at next ⊢
      exact next
    · simp [generation, same]
    · simp [isLeased, leased]
  · refine .kept ?_ (lookup_insert_ne named)
    rintro job ⟨⟩
    exact Ne.symm named

theorem targetRefusal_grants_nothing (refused : targetRefusal claim row = some refusal) :
    refusal.grantedJob = none := by
  unfold targetRefusal at refused
  dsimp only at refused
  split at refused
  · cases refused
    split <;> rfl
  · cases refused
    rfl
  · split at refused <;> cases refused
    rfl

theorem claimRefusal_grants_nothing {store : JobStore}
    (refused : store.claimRefusal claim = some refusal) : refusal.grantedJob = none := by
  unfold claimRefusal at refused
  split at refused
  next found =>
    cases refused
    obtain ⟨row, _, target⟩ := Option.bind_eq_some_iff.mp found
    exact targetRefusal_grants_nothing target
  · split at refused <;> cases refused
    rfl

def JobStore.manualLease (claim : ManualClaim) : JobRow where
  phase := .leased claim.leaseUntilNs
  attempts := ((store.jobs.lookup claim.key).map (·.attempts)).getD 0
  leaseGeneration := store.generation claim.key + 1
  leaseLane := claim.lane
  lastError := none
  updatedAtNs := claim.nowNs

end

inductive ManualClaimStep (store : JobStore) (claim : ManualClaim) :
    ManualClaimTransaction → JobStore → Prop where
  | denied (nothing : outcome.grantedJob = none) : ManualClaimStep store claim outcome store
  | granted (allowed : store.claimRefusal claim = none)
      (charged : store.chargeQuota claim = .ok (.inr left)) :
      ManualClaimStep store claim (.claimed ⟨claim.key, store.manualLease claim⟩)
        { store with
          jobs := store.jobs.insert claim.key (store.manualLease claim)
          admission := left }

section

variable {store next : JobStore} {claim : ManualClaim} {job : SettlementJob}

theorem claimSettlementJobTransaction_step
    (claimed : store.claimSettlementJobTransaction claim = .ok (outcome, next)) :
    ManualClaimStep store claim outcome next := by
  unfold claimSettlementJobTransaction at claimed
  split at claimed
  next refused =>
    cases claimed
    exact .denied (claimRefusal_grants_nothing refused)
  next allowed =>
    obtain ⟨charged, paid, rest⟩ := bind_ok.mp claimed
    split at rest
    · cases pure_ok.mp rest
      exact .denied rfl
    · obtain ⟨fresh, counted, rest⟩ := found_ok.mp rest
      cases pure_ok.mp rest
      have next := (Checked.add_eq_some.mp counted).1
      subst next
      exact .granted allowed paid

theorem manualClaim_rowStep (key : JobKey)
    (claimed : store.claimSettlementJobTransaction claim = .ok (outcome, next)) :
    RowStep store next key false outcome.grantedJob := by
  cases claimSettlementJobTransaction_step claimed with
  | denied nothing =>
    rw [nothing]
    exact .kept (by simp) rfl
  | granted => exact insert_rowStep claim.key key _ rfl rfl rfl

theorem grantAutomatic_rowStep (key : JobKey) (found : store.jobs.lookup target = some row)
    (granted : store.grantAutomatic target row nowNs leaseUntilNs = .ok (outcome, next)) :
    RowStep store next key false outcome.grantedJob := by
  obtain ⟨fresh, counted, rest⟩ := found_ok.mp granted
  cases pure_ok.mp rest
  have successor := (Checked.succ_eq_some.mp counted).2
  refine insert_rowStep target key store.admission rfl ?_ rfl
  simp [generation, found, successor]

theorem firstDue_mem (selected : firstDue candidates = some candidate) :
    candidate ∈ candidates := by
  induction candidates generalizing candidate with
  | nil => cases selected
  | cons first rest ih =>
    simp only [firstDue] at selected
    split at selected
    · cases selected
      exact List.mem_cons_self
    next other found =>
      cases selected
      split
      · exact List.mem_cons_self
      · exact List.mem_cons_of_mem _ (ih found)

theorem dueCandidates_lookup (due : candidate ∈ store.dueCandidates nowNs) :
    store.jobs.lookup candidate.key = some candidate.row := by
  obtain ⟨⟨key, row⟩, member, asks⟩ := List.mem_filterMap.mp due
  obtain ⟨deadline, _, rfl⟩ := Option.map_eq_some_iff.mp asks
  exact mem_lookup_iff.mpr member

variable (key : JobKey)

theorem claimDue_rowStep
    (claimed : store.claimDueSettlementJob nowNs leaseUntilNs maximum = .ok (outcome, next)) :
    RowStep store next key false outcome.grantedJob := by
  unfold claimDueSettlementJob at claimed
  split at claimed
  · contradiction
  split at claimed
  · cases claimed
    exact .kept (by simp [SettlementJobClaim.grantedJob]) rfl
  split at claimed
  · cases claimed
    exact .kept (by simp [SettlementJobClaim.grantedJob]) rfl
  next selected =>
    exact grantAutomatic_rowStep key (dueCandidates_lookup (firstDue_mem selected)) claimed

theorem claimSpecific_rowStep
    (claimed : store.claimSpecificDueSettlementJob target nowNs leaseUntilNs =
      .ok (outcome, next)) : RowStep store next key false outcome.grantedJob := by
  have idle : RowStep store store key false none := .kept (by simp) rfl
  unfold claimSpecificDueSettlementJob at claimed
  split at claimed
  · cases claimed
    exact idle
  next found =>
    split at claimed
    · split at claimed
      · cases claimed
        exact idle
      · exact grantAutomatic_rowStep key found claimed
    · split at claimed
      · exact grantAutomatic_rowStep key found claimed
      · cases claimed
        exact idle
    · cases claimed
      exact idle

theorem finishedRow_cases (finished : finishedRow row outcome = some left) :
    left.leaseGeneration = row.leaseGeneration ∧ left.phase.isLeased = false := by
  unfold finishedRow at finished
  split at finished <;> cases finished <;> exact ⟨rfl, rfl⟩

theorem finishedRow_eq_none :
    finishedRow row outcome = none ↔ outcome.stopError = none ∧ outcome.nextRunAtNs = none := by
  unfold finishedRow
  split <;> simp_all

theorem finish_rowStep (finished : store.finishSettlementJob job outcome = .ok next) :
    RowStep store next key (store.completes key (.finish job outcome)) none := by
  unfold finishSettlementJob at finished
  split at finished
  · contradiction
  rename_i previous recorded
  split at finished
  next lost =>
    cases finished
    have incomplete : store.completes key (.finish job outcome) = false := by
      simp [completes, lost]
    rw [incomplete]
    exact .kept (by simp) rfl
  rename_i row held
  obtain ⟨found, leased, _⟩ := heldRow_eq_some.mp held
  cases finished
  by_cases named : key = job.key
  · subst named
    cases left : finishedRow row outcome with
    | some parked =>
      have incomplete : store.completes job.key (.finish job outcome) = false := by
        refine Bool.eq_false_iff.mpr fun complete => ?_
        simp only [completes, Bool.and_eq_true, Option.isNone_iff_eq_none] at complete
        have gone : finishedRow row outcome = none :=
          finishedRow_eq_none.mpr ⟨complete.1.2, complete.2⟩
        simp [left] at gone
      rw [incomplete]
      obtain ⟨generation, unleased⟩ := finishedRow_cases left
      refine .parked ?_ ?_
      · simp [JobStore.generation, found, generation]
      · simp [isLeased, unleased]
    | none =>
      obtain ⟨stop, next⟩ := finishedRow_eq_none.mp left
      have complete : store.completes job.key (.finish job outcome) = true := by
        simp [completes, recorded, held, stop, next]
      rw [complete]
      exact .deleted (by simp [isLeased, found, leased]) (lookup_erase _ _)
  · have incomplete : store.completes key (.finish job outcome) = false := by
      simp [completes, Ne.symm named]
    rw [incomplete]
    refine .kept (by simp) ?_
    dsimp only
    split
    · exact lookup_insert_ne named
    · exact lookup_erase_ne named

theorem failed_incomplete
    (failed : store.finishSettlementJob job outcome = .error error) (key : JobKey) :
    store.completes key (.finish job outcome) = false := by
  unfold finishSettlementJob at failed
  split at failed
  next missing =>
    by_cases named : job.key = key
    · subst named
      simp [completes, missing]
    · simp [completes, named]
  · split at failed <;> contradiction

theorem perform_rowStep (store : JobStore) (key : JobKey) (operation : JobOperation) :
    RowStep store (store.perform operation).1 key (store.completes key operation)
      (store.perform operation).2 := by
  have idle : RowStep store store key false none := .kept (by simp) rfl
  cases operation with
  | enqueue target nowNs => exact enqueue_rowStep store target key nowNs
  | manualClaim claim =>
    simp only [perform, completes]
    split
    · exact manualClaim_rowStep key (by assumption)
    · exact idle
  | claimDue nowNs leaseUntilNs maximum =>
    simp only [perform, completes]
    split
    · exact claimDue_rowStep key (by assumption)
    · exact idle
  | claimSpecific target nowNs leaseUntilNs =>
    simp only [perform, completes]
    split
    · exact claimSpecific_rowStep key (by assumption)
    · exact idle
  | renew job nowNs leaseUntilNs => exact renew_rowStep store job key nowNs leaseUntilNs
  | finish job outcome =>
    simp only [perform]
    split
    · exact finish_rowStep key (by assumption)
    next failed =>
      rw [failed_incomplete failed]
      exact idle
  | writeRecord target stopReason => exact .kept (by simp [perform]) rfl

end

namespace RowStep

variable {before after : JobStore} {key : JobKey} {completed : Bool}

theorem generation_of_row (row : after.jobs.lookup key = before.jobs.lookup key) :
    after.generation key = before.generation key := by
  rw [generation, row, generation]

theorem leased_of_row (row : after.jobs.lookup key = before.jobs.lookup key) :
    after.isLeased key = before.isLeased key := by
  rw [isLeased, row, isLeased]

theorem generation_le (step : RowStep before after key false granted) :
    before.generation key ≤ after.generation key := by
  cases step with
  | kept _ row => exact (generation_of_row row).ge
  | parked same => exact same.ge
  | renewed same => exact same.ge
  | claimed _ next => omega

theorem claim (step : RowStep before after key completed (some job)) (named : job.key = key) :
    after.generation key = before.generation key + 1 ∧
    job.row.leaseGeneration = after.generation key ∧ after.isLeased key = true := by
  cases step with
  | kept other => exact absurd named (other job rfl)
  | claimed _ next handle leased => exact ⟨next, handle, leased⟩

theorem completion (step : RowStep before after key true granted) :
    before.isLeased key = true ∧ after.isLeased key = false ∧ after.generation key = 0 ∧
    granted = none := by
  cases step with
  | deleted held gone => exact ⟨held, by simp [isLeased, gone], by simp [generation, gone], rfl⟩

theorem lease_granted (step : RowStep before after key completed granted)
    (leased : after.isLeased key = true) :
    before.isLeased key = true ∨ ∃ job, granted = some job ∧ job.key = key := by
  cases step with
  | kept _ row => exact .inl ((leased_of_row row).symm.trans leased)
  | parked _ unleased => simp [unleased] at leased
  | renewed _ held => exact .inl held
  | claimed named => exact .inr ⟨_, rfl, named⟩
  | deleted held => exact .inl held

theorem stays_zero (step : RowStep before after key completed granted)
    (ungranted : ∀ job, granted = some job → job.key ≠ key)
    (zero : before.generation key = 0) : after.generation key = 0 := by
  cases step with
  | kept _ row => rw [generation_of_row row, zero]
  | parked same => rw [same, zero]
  | renewed same => rw [same, zero]
  | claimed named => exact absurd named (ungranted _ rfl)
  | deleted _ gone => simp [generation, gone]

end RowStep

/-- A handle is refused everywhere it could be used, and the store stays as it was. -/
structure JobStore.Rejects (store : JobStore) (job : SettlementJob) : Prop where
  renew : ∀ nowNs leaseUntilNs,
    store.renewSettlementLease job nowNs leaseUntilNs = (false, job, store)
  current : store.settlementLeaseIsCurrent job = false
  finish : ∀ outcome, store.finishSettlementJob job outcome = .ok store ∨
    store.finishSettlementJob job outcome = .error .recordNotFound

theorem settlementLeaseIsCurrent_eq (store : JobStore) (job : SettlementJob) :
    store.settlementLeaseIsCurrent job = (store.heldRow job).isSome := by
  cases found : store.jobs.lookup job.key with
  | none => simp [settlementLeaseIsCurrent, heldRow, found]
  | some row =>
    by_cases leased : row.phase.isLeased = true <;>
      by_cases same : row.leaseGeneration = job.row.leaseGeneration <;>
      simp [settlementLeaseIsCurrent, heldRow, found, leased, same, Option.filter_some,
        Kernel.leaseOutcomeIsCurrent]

theorem rejects_of_lost {store : JobStore} (lost : store.heldRow job = none) :
    store.Rejects job where
  renew nowNs leaseUntilNs := by simp [renewSettlementLease, lost]
  current := by simp [settlementLeaseIsCurrent_eq, lost]
  finish outcome := by
    simp only [finishSettlementJob, lost]
    split
    · exact .inr rfl
    · exact .inl rfl

theorem heldRow_isSome {store : JobStore} {job : SettlementJob} :
    (store.heldRow job).isSome ↔ store.isLeased job.key = true ∧
      store.generation job.key = job.row.leaseGeneration := by
  cases found : store.jobs.lookup job.key with
  | none => simp [heldRow, isLeased, found]
  | some row =>
    by_cases leased : row.phase.isLeased = true <;>
      by_cases same : row.leaseGeneration = job.row.leaseGeneration <;>
      simp [heldRow, isLeased, generation, found, leased, same, Option.filter_some]

structure JobRun where
  start : JobStore
  empty : start.jobs = ∅
  operations : List JobOperation

namespace JobRun

variable (run : JobRun)

def store (run : JobRun) (n : Nat) : JobStore :=
  Runs.stateAt (fun store operation => (store.perform operation).1) run.start run.operations n

def granted (i : Nat) : Option SettlementJob :=
  run.operations[i]?.bind fun operation => ((run.store i).perform operation).2

variable (key : JobKey)

def completed (i : Nat) : Bool :=
  run.operations[i]?.any fun operation => (run.store i).completes key operation

def Claims (i : Nat) : Prop :=
  ∃ job, run.granted i = some job ∧ job.key = key

theorem rowStep (i : Nat) :
    RowStep (run.store i) (run.store (i + 1)) key (run.completed key i) (run.granted i) := by
  cases input : run.operations[i]? with
  | none =>
    have same : run.store (i + 1) = run.store i := Runs.stateAt_done input
    simp only [same, granted, completed, input]
    exact .kept (by simp) rfl
  | some operation =>
    have next : run.store (i + 1) = ((run.store i).perform operation).1 := Runs.stateAt_succ input
    simp only [next, granted, completed, input]
    exact perform_rowStep (run.store i) key operation

theorem start_generation : (run.store 0).generation key = 0 := by
  simp [store, generation, run.empty]

theorem start_unleased : (run.store 0).isLeased key = false := by
  simp [store, isLeased, run.empty]

theorem generation_mono (later : i ≤ j) (alive : ∀ c, i ≤ c → c < j → run.completed key c = false) :
    (run.store i).generation key ≤ (run.store j).generation key := by
  induction j, later using Nat.le_induction with
  | base => exact le_rfl
  | succ j later ih =>
    have step := run.rowStep key j
    rw [alive j later (Nat.lt_succ_self j)] at step
    exact (ih fun c from_ below => alive c from_ (by omega)).trans step.generation_le

theorem stays_unleased (later : i ≤ j) (unclaimed : ∀ c, i ≤ c → c < j → ¬run.Claims key c)
    (unleased : (run.store i).isLeased key = false) : (run.store j).isLeased key = false := by
  induction j, later using Nat.le_induction with
  | base => exact unleased
  | succ j later ih =>
    refine Bool.eq_false_iff.mpr fun leased => ?_
    rcases (run.rowStep key j).lease_granted leased with held | claim
    · simp [ih fun c from_ below => unclaimed c from_ (by omega)] at held
    · exact unclaimed j later (Nat.lt_succ_self j) claim

theorem stays_zero (later : i ≤ j) (unclaimed : ∀ c, i ≤ c → c < j → ¬run.Claims key c)
    (zero : (run.store i).generation key = 0) : (run.store j).generation key = 0 := by
  induction j, later using Nat.le_induction with
  | base => exact zero
  | succ j later ih =>
    refine (run.rowStep key j).stays_zero ?_ (ih fun c from_ below => unclaimed c from_ (by omega))
    intro job granted named
    exact unclaimed j later (Nat.lt_succ_self j) ⟨job, granted, named⟩

theorem claim_generation (granted : run.granted i = some job) :
    (run.store (i + 1)).generation job.key = (run.store i).generation job.key + 1 ∧
    job.row.leaseGeneration = (run.store (i + 1)).generation job.key ∧
    (run.store (i + 1)).isLeased job.key = true := by
  have step := run.rowStep job.key i
  rw [granted] at step
  exact step.claim rfl

/-- Once a later claim is granted, every handle of an earlier one is refused for good.
Renewal changes a handle's times but not its generation. -/
def Fenced : Prop :=
  ∀ i j n earlier later handle, run.granted i = some earlier → run.granted j = some later →
    earlier.key = key → later.key = key → i < j → j < n → handle.key = earlier.key →
    handle.row.leaseGeneration = earlier.row.leaseGeneration → (run.store n).Rejects handle

/-- A claim was granted after the settlement had been completed and its row deleted. -/
def ClaimedAfterCompletion : Prop :=
  ∃ c j, c < j ∧ run.completed key c = true ∧ run.Claims key j

theorem fenced_of_no_reclaim (once : ¬run.ClaimedAfterCompletion key) : run.Fenced key := by
  intro i j n earlier later handle first second named named' order after sameKey sameGeneration
  refine rejects_of_lost (Option.not_isSome_iff_eq_none.mp fun held => ?_)
  obtain ⟨leased, current⟩ := heldRow_isSome.mp held
  rw [sameKey, named] at leased current
  by_cases ended : ∃ c, c < n ∧ run.completed key c = true
  · -- the row was deleted: nothing leased it again
    obtain ⟨c, below, complete⟩ := ended
    have step := run.rowStep key c
    rw [complete] at step
    obtain ⟨_, unleased, _, ungranted⟩ := step.completion
    have unclaimed : ∀ d, c + 1 ≤ d → d < n → ¬run.Claims key d := fun d from_ _ claim =>
      once ⟨c, d, by omega, complete, claim⟩
    have quiet := run.stays_unleased key (by omega) unclaimed unleased
    simp [quiet] at leased
  · -- one life of the row: the generation passed the handle's when the later claim came
    have alive : ∀ c, c < n → run.completed key c = false := fun c below =>
      Bool.eq_false_iff.mpr fun complete => ended ⟨c, below, complete⟩
    obtain ⟨_, handed, _⟩ := run.claim_generation first
    obtain ⟨raised, _, _⟩ := run.claim_generation second
    rw [named] at handed
    rw [named'] at raised
    have toLater := run.generation_mono key order fun c _ below => alive c (by omega)
    have toEnd := run.generation_mono key after fun c _ below => alive c below
    simp only [Nat.succ_eq_add_one] at toLater toEnd
    omega

theorem not_fenced_of_reclaim (again : run.ClaimedAfterCompletion key) : ¬run.Fenced key := by
  classical
  -- the first claim that follows a completion, and the first claim of all
  have reclaimed : ∃ j, run.Claims key j ∧ ∃ c, c < j ∧ run.completed key c = true := by
    obtain ⟨c, j, order, complete, claim⟩ := again
    exact ⟨j, claim, c, order, complete⟩
  obtain ⟨⟨later, granted', named'⟩, c, order, complete⟩ := Nat.find_spec reclaimed
  have noneBetween : ∀ d, c + 1 ≤ d → d < Nat.find reclaimed → ¬run.Claims key d :=
    fun d from_ below claim => Nat.find_min reclaimed below ⟨claim, c, by omega, complete⟩
  have ending := run.rowStep key c
  rw [complete] at ending
  obtain ⟨held, _, zero, _⟩ := ending.completion
  have earlierClaim : ∃ i, i < c ∧ run.Claims key i := by
    by_contra absent
    have unleased := run.stays_unleased key (Nat.zero_le c)
      (fun d _ below claim => absent ⟨d, below, claim⟩) (run.start_unleased key)
    simp [unleased] at held
  have claimed : ∃ i, run.Claims key i := earlierClaim.imp fun _ both => both.2
  obtain ⟨earlier, granted, named⟩ := Nat.find_spec claimed
  have first : Nat.find claimed < c := by
    obtain ⟨i, below, claim⟩ := earlierClaim
    exact (Nat.find_min' claimed claim).trans_lt below
  have startsZero := run.stays_zero key (Nat.zero_le (Nat.find claimed))
    (fun d _ below => Nat.find_min claimed below) (run.start_generation key)
  have restartsZero := run.stays_zero key order noneBetween zero
  obtain ⟨raised, handed, _⟩ := run.claim_generation granted
  obtain ⟨raised', _, leased'⟩ := run.claim_generation granted'
  rw [named] at raised handed
  rw [named'] at raised' leased'
  intro fenced
  have rejected := fenced _ _ _ earlier later earlier granted granted' named named'
    (first.trans order) (Nat.lt_succ_self _) rfl rfl
  -- both lives hand out generation one, so the first handle is live again
  have live : ((run.store (Nat.find reclaimed + 1)).heldRow earlier).isSome :=
    heldRow_isSome.mpr (by rw [named]; exact ⟨leased', by omega⟩)
  have current := rejected.current
  rw [settlementLeaseIsCurrent_eq, live] at current
  contradiction

/-- Leases of a settlement are fenced exactly when no claim of it is granted after a finish
has deleted its row. -/
theorem fenced_iff (run : JobRun) (key : JobKey) :
    run.Fenced key ↔ ¬run.ClaimedAfterCompletion key :=
  ⟨fun fenced again => run.not_fenced_of_reclaim key again fenced, run.fenced_of_no_reclaim key⟩

end JobRun

/-! A worker's callback is delayed past its lease, a second claim completes the job, and
the settlement is claimed again: the delayed callback holds the new lease. -/

def reclaimKey : JobKey := ⟨.deposit, 7⟩

def reclaimHandle (generation leaseUntilNs nowNs : Nat) : SettlementJob :=
  ⟨reclaimKey, ⟨.leased leaseUntilNs, 0, generation, .automatic, none, nowNs⟩⟩

def reclaimRun : JobRun where
  start := ⟨∅, ⟨0, 0, ∅, ∅⟩, fun _ => some none⟩
  empty := rfl
  operations := [ .enqueue reclaimKey 0, .claimDue 10 20 4, .claimDue 30 40 4,
    .finish (reclaimHandle 2 40 30) ⟨none, 0, none, none, 35⟩,
    .manualClaim ⟨reclaimKey, [1], 50, 60, 0, none, .publicManual⟩]

/-- After the third claim the handle of the first one is current again. -/
theorem reclaimRun_not_fenced : ¬∀ run : JobRun, ∀ key, run.Fenced key := by
  intro always
  have rejected := always reclaimRun reclaimKey 1 4 5 (reclaimHandle 1 20 10)
    ⟨reclaimKey, ⟨.leased 60, 0, 1, .publicManual, none, 50⟩⟩ (reclaimHandle 1 20 10)
    (by decide +kernel) (by decide +kernel) rfl rfl (by decide) (by decide) rfl rfl
  have current : (reclaimRun.store 5).settlementLeaseIsCurrent (reclaimHandle 1 20 10) = true := by
    decide +kernel
  rw [rejected.current] at current
  contradiction

end KinicBridge
