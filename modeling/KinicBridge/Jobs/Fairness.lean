import KinicBridge.Jobs.Scheduler
import Mathlib.Data.Prod.Lex

/-! Automatic claims take the job that has waited longest. What the scheduler writes is due no
earlier than it is written, so every grant that passes a waiting job by uses up one that was ahead
of it. -/
namespace KinicBridge

open AList Checked JobKey JobStore

/-- The order of the due queries: deadline, then kind, then settlement id. -/
def JobKey.rank (key : JobKey) (deadlineNs : Nat) : Nat ×ₗ Nat ×ₗ Nat :=
  toLex (deadlineNs, toLex (key.kind.sql, key.settlementId.toNat))

def JobPhase.deadline : JobPhase → Option Nat
  | .scheduled deadlineNs | .leased deadlineNs => some deadlineNs
  | .stopped => none

theorem JobPhase.due_eq_some {phase : JobPhase} :
    phase.due now = some deadlineNs ↔ phase.deadline = some deadlineNs ∧ deadlineNs ≤ now := by
  cases phase <;> simp [due, deadline] <;> grind

theorem SettlementJobKind.sql_inj {a b : SettlementJobKind} (same : a.sql = b.sql) : a = b := by
  cases a <;> cases b <;> simp_all [sql]

theorem JobKey.rank_inj {a b : JobKey} (same : a.rank s = b.rank t) : a = b := by
  simp only [rank, EmbeddingLike.apply_eq_iff_eq, Prod.mk.injEq] at same
  obtain ⟨_, kind, id⟩ := same
  obtain ⟨aKind, aId⟩ := a
  obtain ⟨bKind, bId⟩ := b
  simp only at kind id
  rw [SettlementJobKind.sql_inj kind, BitVec.eq_of_toNat_eq id]

theorem JobKey.rank_lt_of_lt {a b : JobKey} (earlier : s < t) : a.rank s < b.rank t :=
  Prod.Lex.toLex_lt_toLex.mpr (.inl earlier)

namespace JobStore

theorem DueSettlementCandidate.before_iff {a b : DueSettlementCandidate} :
    a.before b = true ↔ a.key.rank a.deadlineNs ≤ b.key.rank b.deadlineNs := by
  simp only [before, rank, Prod.Lex.toLex_le_toLex, Bool.or_eq_true, Bool.and_eq_true,
    decide_eq_true_eq, beq_iff_eq, BitVec.le_def]

theorem firstDue_le (selected : firstDue candidates = some candidate) (other : rival ∈ candidates) :
    candidate.key.rank candidate.deadlineNs ≤ rival.key.rank rival.deadlineNs := by
  induction candidates generalizing candidate with
  | nil => cases other
  | cons first rest ih =>
    simp only [firstDue] at selected
    split at selected
    next nothing =>
      cases selected
      rcases List.mem_cons.mp other with rfl | other
      · exact le_rfl
      · cases rest with
        | nil => cases other
        | cons => simp only [firstDue] at nothing; split at nothing <;> cases nothing
    next best found =>
      cases selected
      -- the winner is the smaller of the first candidate and the best of the rest
      split
      next first_before =>
        have ahead := DueSettlementCandidate.before_iff.mp first_before
        rcases List.mem_cons.mp other with rfl | other
        · exact le_rfl
        · exact ahead.trans (ih found other)
      next not_before =>
        have ahead := lt_of_not_ge (mt DueSettlementCandidate.before_iff.mpr not_before)
        rcases List.mem_cons.mp other with rfl | other
        · exact ahead.le
        · exact ih found other

theorem firstDue_eq_none (nothing : firstDue candidates = none) : candidates = [] := by
  cases candidates with
  | nil => rfl
  | cons first rest =>
    simp only [firstDue] at nothing
    split at nothing <;> cases nothing

/-! The two ordered queries of the transaction and their merge. -/

def queryDueSettlementCandidate (store : JobStore) (nowNs : Nat) (status : JobPhase → Bool) :
    Option DueSettlementCandidate :=
  firstDue ((store.dueCandidates nowNs).filter fun candidate => status candidate.row.phase)

def mergeDue : Option DueSettlementCandidate → Option DueSettlementCandidate →
    Option DueSettlementCandidate
  | some scheduled, some expired => some (if scheduled.before expired then scheduled else expired)
  | some candidate, none | none, some candidate => some candidate
  | none, none => none

def nextDue (store : JobStore) (nowNs : Nat) : Option DueSettlementCandidate :=
  mergeDue (store.queryDueSettlementCandidate nowNs JobPhase.isScheduled)
    (store.queryDueSettlementCandidate nowNs JobPhase.isLeased)

variable {store : JobStore}

theorem mem_dueCandidates : candidate ∈ store.dueCandidates nowNs ↔
    store.jobs.lookup candidate.key = some candidate.row ∧
      candidate.row.phase.due nowNs = some candidate.deadlineNs := by
  constructor
  · intro due
    refine ⟨dueCandidates_lookup due, ?_⟩
    obtain ⟨_, _, asks⟩ := List.mem_filterMap.mp due
    obtain ⟨deadline, since, rfl⟩ := Option.map_eq_some_iff.mp asks
    exact since
  · rintro ⟨found, since⟩
    refine List.mem_filterMap.mpr ⟨⟨candidate.key, candidate.row⟩, ?_, ?_⟩
    · exact mem_lookup_iff.mp found
    · exact Option.map_eq_some_iff.mpr ⟨_, since, rfl⟩

structure LeastDue (store : JobStore) (nowNs : Nat) (candidate : DueSettlementCandidate) :
    Prop where
  found : store.jobs.lookup candidate.key = some candidate.row
  due : candidate.row.phase.due nowNs = some candidate.deadlineNs
  least : ∀ key row deadlineNs, store.jobs.lookup key = some row →
    row.phase.due nowNs = some deadlineNs →
    candidate.key.rank candidate.deadlineNs ≤ key.rank deadlineNs

theorem leastDue_of_mem (member : candidate ∈ store.dueCandidates nowNs)
    (least : ∀ rival ∈ store.dueCandidates nowNs,
      candidate.key.rank candidate.deadlineNs ≤ rival.key.rank rival.deadlineNs) :
    store.LeastDue nowNs candidate := by
  obtain ⟨found, due⟩ := mem_dueCandidates.mp member
  refine ⟨found, due, fun key row deadlineNs other since => ?_⟩
  exact least ⟨deadlineNs, key, row⟩ (mem_dueCandidates.mpr ⟨other, since⟩)

theorem LeastDue.unique (first : store.LeastDue nowNs a)
    (second : store.LeastDue nowNs b) : a = b := by
  have same := le_antisymm (first.least _ _ _ second.found second.due)
    (second.least _ _ _ first.found first.due)
  obtain ⟨aDeadline, aKey, aRow⟩ := a
  obtain ⟨bDeadline, bKey, bRow⟩ := b
  cases rank_inj same
  cases first.found.symm.trans second.found
  cases first.due.symm.trans second.due
  rfl

theorem due_scheduled_or_leased {phase : JobPhase} (due : phase.due nowNs = some deadlineNs) :
    phase.isScheduled = true ∨ phase.isLeased = true := by
  cases phase with
  | scheduled => exact .inl rfl
  | leased => exact .inr rfl
  | stopped => cases due

theorem query_least (selected : store.queryDueSettlementCandidate nowNs status = some candidate) :
    candidate ∈ store.dueCandidates nowNs ∧ ∀ rival ∈ store.dueCandidates nowNs,
      status rival.row.phase = true →
        candidate.key.rank candidate.deadlineNs ≤ rival.key.rank rival.deadlineNs :=
  ⟨(List.mem_filter.mp (firstDue_mem selected)).1, fun _ member listed =>
    firstDue_le selected (List.mem_filter.mpr ⟨member, listed⟩)⟩

theorem query_eq_none (nothing : store.queryDueSettlementCandidate nowNs status = none) :
    ∀ rival ∈ store.dueCandidates nowNs, ¬status rival.row.phase = true :=
  List.filter_eq_nil_iff.mp (firstDue_eq_none nothing)

theorem nextDue_least (selected : store.nextDue nowNs = some candidate) :
    store.LeastDue nowNs candidate := by
  unfold nextDue at selected
  cases scheduled : store.queryDueSettlementCandidate nowNs JobPhase.isScheduled with
  | none =>
    cases expired : store.queryDueSettlementCandidate nowNs JobPhase.isLeased with
    | none => simp [scheduled, expired, mergeDue] at selected
    | some late =>
      simp only [scheduled, expired, mergeDue, Option.some.injEq] at selected
      subst selected
      obtain ⟨member, least⟩ := query_least expired
      refine leastDue_of_mem member fun rival other => least rival other ?_
      have open_ := due_scheduled_or_leased (mem_dueCandidates.mp other).2
      exact open_.resolve_left (query_eq_none scheduled rival other)
  | some waiting =>
    obtain ⟨waits, leastWaiting⟩ := query_least scheduled
    cases expired : store.queryDueSettlementCandidate nowNs JobPhase.isLeased with
    | none =>
      simp only [scheduled, expired, mergeDue, Option.some.injEq] at selected
      subst selected
      refine leastDue_of_mem waits fun rival other => leastWaiting rival other ?_
      have open_ := due_scheduled_or_leased (mem_dueCandidates.mp other).2
      exact open_.resolve_right (query_eq_none expired rival other)
    | some late =>
      obtain ⟨lapsed, leastLapsed⟩ := query_least expired
      simp only [scheduled, expired, mergeDue, Option.some.injEq] at selected
      -- each query is least among its own rows; the merge is least among both
      have least (rival) (other : rival ∈ store.dueCandidates nowNs) :=
        (due_scheduled_or_leased (mem_dueCandidates.mp other).2).imp
          (leastWaiting rival other) (leastLapsed rival other)
      by_cases ahead : waiting.before late = true
      · rw [if_pos ahead] at selected
        subst selected
        refine leastDue_of_mem waits fun rival other => ?_
        exact (least rival other).elim id (DueSettlementCandidate.before_iff.mp ahead).trans
      · rw [if_neg ahead] at selected
        subst selected
        have behind := (lt_of_not_ge (mt DueSettlementCandidate.before_iff.mpr ahead)).le
        refine leastDue_of_mem lapsed fun rival other => ?_
        exact (least rival other).elim behind.trans id

theorem firstDue_least (selected : firstDue (store.dueCandidates nowNs) = some candidate) :
    store.LeastDue nowNs candidate :=
  leastDue_of_mem (firstDue_mem selected) fun _ other => firstDue_le selected other

theorem nextDue_eq_none (nothing : store.nextDue nowNs = none) :
    store.dueCandidates nowNs = [] := by
  unfold nextDue at nothing
  cases scheduled : store.queryDueSettlementCandidate nowNs JobPhase.isScheduled with
  | some => cases expired : store.queryDueSettlementCandidate nowNs JobPhase.isLeased <;>
      simp [scheduled, expired, mergeDue] at nothing
  | none =>
    cases expired : store.queryDueSettlementCandidate nowNs JobPhase.isLeased with
    | some => simp [scheduled, expired, mergeDue] at nothing
    | none =>
      refine List.eq_nil_iff_forall_not_mem.mpr fun rival other => ?_
      exact (due_scheduled_or_leased (mem_dueCandidates.mp other).2).elim
        (query_eq_none scheduled rival other) (query_eq_none expired rival other)

/-- `claim_due_settlement_job` as its transaction runs it. -/
def claimDueByQueries (store : JobStore) (nowNs leaseUntilNs maxActiveLeases : Nat) :
    Except DbError (SettlementJobClaim × JobStore) :=
  if maxActiveLeases = 0 then
    .error (.constraint "automatic settlement concurrency must be positive")
  else if maxActiveLeases ≤ store.activeInLane nowNs .automatic then
    .ok (.activeLease ((store.earliestAutomaticLease nowNs).getD 0), store)
  else match store.nextDue nowNs with
    | none => .ok (.none, store)
    | some candidate => store.grantAutomatic candidate.key candidate.row nowNs leaseUntilNs

def GrantsNothing (store : JobStore) (claim : Except DbError (SettlementJobClaim × JobStore)) :
    Prop :=
  ∀ outcome next, claim = .ok (outcome, next) → outcome.grantedJob = none ∧ next = store

def leasedRow (row : JobRow) (nowNs leaseUntilNs : Nat) : JobRow :=
  { row with
    phase := .leased leaseUntilNs
    leaseGeneration := row.leaseGeneration + 1
    leaseLane := .automatic
    updatedAtNs := nowNs }

structure ClaimsLeast (store : JobStore) (nowNs leaseUntilNs maxActiveLeases : Nat) : Prop where
  full : maxActiveLeases ≤ store.activeInLane nowNs .automatic →
    store.GrantsNothing (store.claimDueByQueries nowNs leaseUntilNs maxActiveLeases)
  idle : (∀ key row, store.jobs.lookup key = some row → row.phase.due nowNs = none) →
    store.GrantsNothing (store.claimDueByQueries nowNs leaseUntilNs maxActiveLeases)
  chooses : (∃ key row deadlineNs, store.jobs.lookup key = some row ∧
    row.phase.due nowNs = some deadlineNs) → ∃ candidate, store.LeastDue nowNs candidate
  grants : store.activeInLane nowNs .automatic < maxActiveLeases →
    ∀ candidate, store.LeastDue nowNs candidate → candidate.row.leaseGeneration ≠ limit 64 →
      store.claimDueByQueries nowNs leaseUntilNs maxActiveLeases = .ok (.claimed ⟨candidate.key,
            { leasedRow candidate.row nowNs leaseUntilNs with lastError := none }⟩,
          { store with
            jobs := store.jobs.insert candidate.key
              (leasedRow candidate.row nowNs leaseUntilNs) })
  /-- A generation is never reused: a row that has had the last one is not leased again. -/
  spent : store.activeInLane nowNs .automatic < maxActiveLeases →
    ∀ candidate, store.LeastDue nowNs candidate → candidate.row.leaseGeneration = limit 64 →
      store.claimDueByQueries nowNs leaseUntilNs maxActiveLeases =
        .error (.constraint "lease generation overflow")

theorem nextDue_of_least (least : store.LeastDue nowNs candidate) :
    store.nextDue nowNs = some candidate := by
  cases next : store.nextDue nowNs with
  | none =>
    have member := mem_dueCandidates.mpr ⟨least.found, least.due⟩
    rw [nextDue_eq_none next] at member
    cases member
  | some other => rw [(nextDue_least next).unique least]

/-- Merging the two queries gives the first of all due rows. -/
theorem nextDue_eq_firstDue (store : JobStore) (nowNs : Nat) :
    store.nextDue nowNs = firstDue (store.dueCandidates nowNs) := by
  cases first : firstDue (store.dueCandidates nowNs) with
  | some candidate => exact nextDue_of_least (firstDue_least first)
  | none =>
    cases next : store.nextDue nowNs with
    | none => rfl
    | some candidate =>
      have least := nextDue_least next
      have member := mem_dueCandidates.mpr ⟨least.found, least.due⟩
      rw [firstDue_eq_none first] at member
      cases member

/-- The two forms of the claim, by queries and over all rows, are one function. -/
theorem claimDueByQueries_eq (store : JobStore) (nowNs leaseUntilNs maxActiveLeases : Nat) :
    store.claimDueByQueries nowNs leaseUntilNs maxActiveLeases =
      store.claimDueSettlementJob nowNs leaseUntilNs maxActiveLeases := by
  unfold claimDueByQueries
  rw [nextDue_eq_firstDue]
  rfl

theorem claimDueByQueries_open (room : store.activeInLane nowNs .automatic < maxActiveLeases)
    (least : store.LeastDue nowNs candidate) (leaseUntilNs : Nat) :
    store.claimDueByQueries nowNs leaseUntilNs maxActiveLeases =
      store.grantAutomatic candidate.key candidate.row nowNs leaseUntilNs := by
  have positive : maxActiveLeases ≠ 0 := by omega
  simp only [claimDueByQueries, positive, if_false, not_le.mpr room, nextDue_of_least least]

theorem claims_least (store : JobStore) (nowNs leaseUntilNs maxActiveLeases : Nat) :
    store.ClaimsLeast nowNs leaseUntilNs maxActiveLeases where
  full := by
    intro full outcome next claimed
    unfold claimDueByQueries at claimed
    split at claimed
    · contradiction
    · cases claimed
      exact ⟨rfl, rfl⟩
  idle := by
    intro idle outcome next claimed
    have nothing : store.nextDue nowNs = none := by
      cases selected : store.nextDue nowNs with
      | none => rfl
      | some candidate =>
        have least := nextDue_least selected
        cases (idle _ _ least.found).symm.trans least.due
    unfold claimDueByQueries at claimed
    rw [nothing] at claimed
    split at claimed
    · contradiction
    split at claimed <;> cases claimed <;> exact ⟨rfl, rfl⟩
  chooses := by
    rintro ⟨key, row, deadlineNs, found, due⟩
    cases selected : store.nextDue nowNs with
    | some candidate => exact ⟨candidate, nextDue_least selected⟩
    | none =>
      have member : ⟨deadlineNs, key, row⟩ ∈ store.dueCandidates nowNs :=
        mem_dueCandidates.mpr ⟨found, due⟩
      rw [nextDue_eq_none selected] at member
      cases member
  grants := by
    intro room candidate least fresh
    rw [claimDueByQueries_open room least]
    simp [grantAutomatic, Kernel.leaseGenerationNext, succ, fresh, okOr,
      leasedRow, ok_bind, pure, Except.pure]
  spent := by
    intro room candidate least spent
    rw [claimDueByQueries_open room least]
    simp [grantAutomatic, Kernel.leaseGenerationNext, succ, spent, okOr]

/-- The row of `key` asks for nothing before `time`. -/
def PutOff (time : Nat) (store : JobStore) (key : JobKey) : Prop :=
  ∀ row deadlineNs, store.jobs.lookup key = some row →
    row.phase.deadline = some deadlineNs → time ≤ deadlineNs

theorem PutOff.kept {before after : JobStore} (late : before.PutOff time key)
    (same : after.jobs.lookup key = before.jobs.lookup key) : after.PutOff time key :=
  fun row deadlineNs found => late row deadlineNs (same.symm.trans found)

/-- Only the row of `key` is written, and it is then put off. -/
structure Postpones (time : Nat) (before after : JobStore) (key : JobKey) : Prop where
  others : ∀ other, other ≠ key → after.jobs.lookup other = before.jobs.lookup other
  written : after.jobs.lookup key = before.jobs.lookup key ∨ after.PutOff time key

theorem Postpones.same (time : Nat) (same : after.jobs = before.jobs) (key : JobKey) :
    Postpones time before after key := by
  constructor
  · intro other _
    rw [same]
  · exact .inl (by rw [same])

theorem Postpones.insert {row : JobRow} (key : JobKey)
    (later : ∀ deadlineNs, row.phase.deadline = some deadlineNs → time ≤ deadlineNs)
    (written : after.jobs = store.jobs.insert key row) : Postpones time store after key := by
  constructor
  · intro other different
    rw [written, lookup_insert_ne different]
  · refine .inr fun found deadlineNs stored asks => ?_
    rw [written, lookup_insert] at stored
    cases stored
    exact later deadlineNs asks

theorem Postpones.trans {first second third : JobStore} (one : Postpones time first second key)
    (two : Postpones time second third key) : Postpones time first third key := by
  constructor
  · intro other different
    rw [two.others other different, one.others other different]
  · rcases two.written with same | late
    · exact one.written.imp same.trans fun late => late.kept same
    · exact .inr late

def JobOutcome.NotBefore (time : Nat) (outcome : JobOutcome) : Prop :=
  ∀ next, outcome.nextRunAtNs = some next → time ≤ next

theorem finishedRow_later (later : outcome.NotBefore time)
    (left : finishedRow row outcome = some finished)
    (asks : finished.phase.deadline = some deadlineNs) : time ≤ deadlineNs := by
  unfold finishedRow at left
  split at left <;> cases left
  · cases asks
  next next _ scheduled =>
    cases asks
    exact later _ scheduled

variable (store : JobStore) (job : SettlementJob)

theorem finish_postpones (later : (store.heldRow job).isSome = true → outcome.NotBefore time) :
    Postpones time store (store.finish job outcome) job.key := by
  rcases store.finish_cases job outcome with same | ⟨row, stopReasons, held, settled⟩
  · exact .same time (by rw [same]) job.key
  have later := later (by rw [held]; rfl)
  cases left : finishedRow row outcome with
  | some parked =>
    refine .insert job.key (fun _ asks => finishedRow_later later left asks) ?_
    rw [settled, left]
    rfl
  | none =>
    have erased : (store.finish job outcome).jobs = store.jobs.erase job.key := by
      rw [settled, left]
      rfl
    constructor
    · intro other different
      rw [erased, lookup_erase_ne different]
    · refine .inr fun row deadlineNs stored => ?_
      rw [erased, lookup_erase] at stored
      cases stored

theorem renew_postpones (nowNs : Nat) (later : time ≤ leaseUntilNs) :
    Postpones time store (store.renewSettlementLease job nowNs leaseUntilNs).2.2 job.key := by
  unfold renewSettlementLease
  split
  · exact .same time rfl job.key
  · refine .insert job.key (fun deadlineNs asks => ?_) rfl
    cases asks
    exact later

theorem enqueue_postpones (key : JobKey) (nowNs : Nat) :
    Postpones nowNs store (store.enqueueSettlementJob key nowNs) key := by
  refine .insert key (fun deadlineNs asks => ?_) rfl
  cases asks
  exact le_rfl

theorem manualClaim_postpones (claim : ManualClaim) (later : time ≤ claim.leaseUntilNs) :
    Postpones time store (store.perform (.manualClaim claim)).1 claim.key := by
  simp only [perform]
  split
  next outcome next claimed =>
    cases claimSettlementJobTransaction_step claimed with
    | denied => exact .same time rfl claim.key
    | granted =>
      refine .insert claim.key (fun deadlineNs asks => ?_) rfl
      cases asks
      exact later
  · exact .same time rfl claim.key

end JobStore

namespace Scheduler

theorem le_saturatingAdd (clock : now ≤ limit 64) (delay : Nat) :
    now ≤ saturatingAdd 64 now delay := by
  unfold saturatingAdd
  omega

theorem again_notBefore (later : time ≤ next) : (again now next attempts).NotBefore time := by
  intro scheduled same
  rw [← Option.some.inj same]
  exact later

theorem stop_notBefore (time now : Nat) (job : SettlementJob) (code detail : String)
    (reason : Option String) : (stop now job code detail reason).NotBefore time := by
  intro next scheduled
  cases scheduled

section Outcomes

variable (clock : now ≤ limit 64)

include clock

theorem retryOrPark_notBefore (job : SettlementJob) (interval : Nat) (detail : String)
    (reason : Option String) : (retryOrPark now job interval detail reason).NotBefore now := by
  intro next scheduled
  unfold retryOrPark at scheduled
  dsimp only at scheduled
  split at scheduled
  · rw [← Option.some.inj scheduled]
    exact le_saturatingAdd clock _
  · cases scheduled

section

variable (store : JobStore) (job : SettlementJob)

include store job

theorem depositBusy_notBefore : (depositBusy now store job).NotBefore now := by
  intro next scheduled
  unfold depositBusy at scheduled
  split at scheduled
  · exact again_notBefore (le_saturatingAdd clock _) next scheduled
  · cases scheduled

theorem guardBusy_notBefore : (guardBusy now store job).NotBefore now := by
  intro next scheduled
  unfold guardBusy at scheduled
  split at scheduled
  · exact depositBusy_notBefore clock store job next scheduled
  · cases scheduled
  · exact again_notBefore (le_saturatingAdd clock _) next scheduled

theorem depositOutcome_notBefore (deferred : ∀ state next, result = .ok (.deferred state next) →
      next = saturatingAdd 64 now capacityRetryNs) :
    (depositOutcome now interval store job result).NotBefore now := by
  intro next scheduled
  unfold depositOutcome at scheduled
  split at scheduled
  · split at scheduled
    · exact retryOrPark_notBefore clock job _ _ _ next scheduled
    · cases scheduled
  · exact again_notBefore (le_saturatingAdd clock _) next scheduled
  · rw [deferred _ _ rfl] at scheduled
    exact again_notBefore (le_saturatingAdd clock _) next scheduled
  · cases scheduled
  · exact depositBusy_notBefore clock store job next scheduled
  · exact retryOrPark_notBefore clock job _ _ _ next scheduled
  · cases scheduled

end

omit clock in
theorem finishManualWithdrawal_notBefore (job : SettlementJob) :
    (finishManualWithdrawal now job result).NotBefore now := by
  intro next scheduled
  unfold finishManualWithdrawal at scheduled
  split at scheduled <;> cases scheduled

theorem feePayoutOutcome_notBefore (job : SettlementJob) (idle : result ≠ .error .busy) :
    (feePayoutOutcome started now interval job result).NotBefore now := by
  intro next scheduled
  unfold feePayoutOutcome at scheduled
  split at scheduled
  · split at scheduled
    · cases scheduled
    split at scheduled
    · cases scheduled
    · exact again_notBefore (le_saturatingAdd clock _) next scheduled
    · split at scheduled
      · exact retryOrPark_notBefore clock job _ _ _ next scheduled
      · cases scheduled
  · exact absurd rfl idle
  · exact retryOrPark_notBefore clock job _ _ _ next scheduled
  · cases scheduled

end Outcomes

end Scheduler

namespace JobStore

open Scheduler

/-- What the tasks return. A deposit is deferred from the message that finds no room, and a
payout is busy only when its lease is lost. -/
def Permits (store : JobStore) (now : Nat) : SchedulerEvent → Prop
  | .settlementReturned _ (.ok (.deferred _ nextRunAtNs)) =>
    nextRunAtNs = saturatingAdd 64 now capacityRetryNs
  | .feePayoutReturned job _ (.error .busy) => store.heldRow job = none
  | _ => True

variable {store next : JobStore}

theorem claimDue_granted {job : SettlementJob}
    (granted : store.perform (.claimDue nowNs leaseUntilNs maximum) = (next, some job)) :
    ∃ candidate row, store.LeastDue nowNs candidate ∧ candidate.key = job.key ∧
      next.jobs = store.jobs.insert job.key row ∧ row.phase = .leased leaseUntilNs ∧
      job.row.attempts = candidate.row.attempts ∧ job.row.leaseLane = .automatic := by
  simp only [perform] at granted
  split at granted
  next outcome leased claimed =>
    obtain ⟨rfl, named⟩ := Prod.mk.inj granted
    unfold claimDueSettlementJob at claimed
    split at claimed
    · contradiction
    split at claimed
    · cases claimed
      cases named
    split at claimed
    · cases claimed
      cases named
    next candidate selected =>
      obtain ⟨_, _, ⟨⟩⟩ := returned_ok.mp claimed
      cases named
      exact ⟨candidate, _, firstDue_least selected, rfl, rfl, rfl, rfl, rfl⟩
  · cases granted

theorem claimDue_idle
    (granted : store.perform (.claimDue nowNs leaseUntilNs maximum) = (next, none)) :
    next = store := by
  simp only [perform] at granted
  split at granted
  next outcome leased claimed =>
    obtain ⟨rfl, nothing⟩ := Prod.mk.inj granted
    unfold claimDueSettlementJob at claimed
    split at claimed
    · contradiction
    split at claimed
    · cases claimed
      rfl
    split at claimed
    · cases claimed
      rfl
    · obtain ⟨_, _, ⟨⟩⟩ := returned_ok.mp claimed
      cases nothing
  · cases granted
    rfl

theorem dispatchDue_cases (clock : now ≤ limit 64) (store : JobStore) :
    store.dispatchDue now = (store, none) ∨ ∃ candidate after job,
      store.dispatchDue now = (after, some job) ∧ store.LeastDue now candidate ∧
      candidate.key = job.key ∧ Postpones now store after job.key ∧ after.PutOff now job.key := by
  unfold dispatchDue
  cases granted : store.perform (.claimDue now (saturatingAdd 64 now leaseNs)
      maxAutomaticSettlements) with
  | mk leased handle =>
  cases handle with
  | none =>
    rw [claimDue_idle granted]
    exact .inl rfl
  | some job =>
    obtain ⟨candidate, row, least, named, inserted, phase, _⟩ := claimDue_granted granted
    have leaseEnd : ∀ deadlineNs, row.phase.deadline = some deadlineNs → now ≤ deadlineNs := by
      intro deadlineNs asks
      rw [phase] at asks
      rw [← Option.some.inj asks]
      exact le_saturatingAdd clock _
    have taken : Postpones now store leased job.key := .insert job.key leaseEnd inserted
    have late : leased.PutOff now job.key := by
      intro stored deadlineNs found
      rw [inserted, lookup_insert] at found
      cases found
      exact leaseEnd deadlineNs
    refine .inr ?_
    dsimp only
    split
    · exact ⟨candidate, leased, job, rfl, least, named, taken, late⟩
    · refine ⟨candidate, _, job, rfl, least, named, ?_⟩
      -- parking the withdrawal writes the same row once more
      have parked (code detail : String) (reason : Option String) :=
        leased.finish_postpones job fun _ => stop_notBefore now now job code detail reason
      exact ⟨taken.trans (parked _ _ _), (parked _ _ _).written.elim late.kept id⟩

/-- The jobs that would be claimed before `key`, were they all due. -/
def ahead (store : JobStore) (key : JobKey) (deadlineNs : Nat) : Finset JobKey :=
  store.jobs.keys.toFinset.filter fun rival =>
    ((store.jobs.lookup rival).bind (·.phase.deadline)).any fun since =>
      decide (rival.rank since < key.rank deadlineNs)

theorem mem_ahead : rival ∈ store.ahead key deadlineNs ↔
    ∃ row since, store.jobs.lookup rival = some row ∧ row.phase.deadline = some since ∧
      rival.rank since < key.rank deadlineNs := by
  simp only [ahead, Finset.mem_filter, List.mem_toFinset, Option.any_eq_true,
    Option.bind_eq_some_iff, decide_eq_true_eq]
  constructor
  · rintro ⟨_, since, ⟨row, found, asks⟩, before⟩
    exact ⟨row, since, found, asks, before⟩
  · rintro ⟨row, since, found, asks, before⟩
    refine ⟨?_, since, ⟨row, found, asks⟩, before⟩
    exact mem_keys.mp (lookup_isSome.mp (by rw [found]; rfl))

theorem Postpones.ahead_subset {before after : JobStore}
    (postpones : Postpones time before after key) (waiting : JobKey) (later : deadlineNs < time) :
    after.ahead waiting deadlineNs ⊆ before.ahead waiting deadlineNs := by
  intro rival listed
  obtain ⟨row, since, found, asks, first⟩ := mem_ahead.mp listed
  by_cases same : rival = key
  · subst same
    rcases postpones.written with kept | put
    · exact mem_ahead.mpr ⟨row, since, kept.symm.trans found, asks, first⟩
    · have late := put row since found asks
      exact absurd first (rank_lt_of_lt (later.trans_le late)).asymm
  · exact mem_ahead.mpr ⟨row, since, (postpones.others rival same).symm.trans found, asks, first⟩

theorem occur_postpones (clock : now ≤ limit 64)
    (permits : store.Permits now event) (interval : Nat) :
    ∃ key, Postpones now store (store.occur interval now event).1 key := by
  cases event with
  | dispatchDue =>
    rcases dispatchDue_cases clock store with same | ⟨_, after, job, done, _, _, put, _⟩
    · exact ⟨⟨.deposit, 0⟩, .same now (by simp only [occur, same]) _⟩
    · exact ⟨job.key, by simp only [occur, done]; exact put⟩
  | enqueue key => exact ⟨key, enqueue_postpones store key now⟩
  | claimManual key caller limits =>
    exact ⟨key, manualClaim_postpones store (manualClaim now key caller limits)
      (le_saturatingAdd clock _)⟩
  | renew job => exact ⟨job.key, renew_postpones store job now (le_saturatingAdd clock _)⟩
  | guardBusy job =>
    exact ⟨job.key, finish_postpones store job fun _ => guardBusy_notBefore clock store job⟩
  | settlementReturned job result =>
    refine ⟨job.key, ?_⟩
    simp only [occur]
    split
    · refine finish_postpones store job fun _ => depositOutcome_notBefore clock store job ?_
      rintro state next rfl
      exact permits
    · exact finish_postpones store job fun _ => finishManualWithdrawal_notBefore job
    · exact .same now rfl job.key
  | feePayoutReturned job startedNs result =>
    refine ⟨job.key, finish_postpones store job fun held => ?_⟩
    refine feePayoutOutcome_notBefore clock job ?_
    -- a busy payout has lost its lease, so its result finds no row
    rintro rfl
    rw [show store.heldRow job = none from permits] at held
    cases held
  | recordWritten key stopReason => exact ⟨key, .same now (by rfl) key⟩

structure Waits (store : JobStore) (key : JobKey) (row : JobRow) (deadlineNs : Nat) : Prop where
  found : store.jobs.lookup key = some row
  asks : row.phase.deadline = some deadlineNs

theorem occur_granted (clock : now ≤ limit 64)
    (granted : (store.occur interval now event).2 = some job) :
    ∃ candidate, store.LeastDue now candidate ∧ candidate.key = job.key ∧
      (store.occur interval now event).1.PutOff now job.key := by
  cases event with
  | dispatchDue =>
    simp only [occur] at granted ⊢
    rcases dispatchDue_cases clock store with same | ⟨candidate, after, handle, done, least, named,
        _, late⟩
    · rw [same] at granted
      cases granted
    · rw [done] at granted ⊢
      cases granted
      exact ⟨candidate, least, named, late⟩
  | settlementReturned handle result =>
    simp only [occur] at granted
    split at granted <;> cases granted
  | enqueue | claimManual | renew | guardBusy | feePayoutReturned | recordWritten => cases granted

theorem granted_ahead (clock : now ≤ limit 64)
    (waits : store.Waits key row deadlineNs) (later : deadlineNs < now)
    (granted : (store.occur interval now event).2 = some job) (other : job.key ≠ key) :
    job.key ∈ store.ahead key deadlineNs ∧
      job.key ∉ (store.occur interval now event).1.ahead key deadlineNs := by
  obtain ⟨candidate, least, named, late⟩ := occur_granted clock granted
  have first := least.least key row deadlineNs waits.found
    (JobPhase.due_eq_some.mpr ⟨waits.asks, later.le⟩)
  constructor
  · refine mem_ahead.mpr ⟨candidate.row, candidate.deadlineNs, named ▸ least.found,
      (JobPhase.due_eq_some.mp least.due).1, ?_⟩
    rw [← named]
    exact first.lt_of_ne fun same => other (named ▸ rank_inj same)
  · intro listed
    obtain ⟨stored, since, found, asks, before⟩ := mem_ahead.mp listed
    exact (rank_lt_of_lt (later.trans_le (late stored since found asks))).asymm before

theorem occur_ahead (clock : now ≤ limit 64)
    (waits : store.Waits key row deadlineNs) (later : deadlineNs < now)
    (permits : store.Permits now event)
    (passed : ∀ job, (store.occur interval now event).2 = some job → job.key ≠ key) :
    ((store.occur interval now event).1.ahead key deadlineNs).card +
      ((store.occur interval now event).2.isSome).toNat ≤ (store.ahead key deadlineNs).card := by
  obtain ⟨target, postpones⟩ := occur_postpones clock permits interval
  have fewer := postpones.ahead_subset key later
  cases granted : (store.occur interval now event).2 with
  | none => exact Finset.card_le_card fewer
  | some job =>
    obtain ⟨member, gone⟩ := granted_ahead clock waits later granted (passed job granted)
    exact Finset.card_lt_card (Finset.ssubset_iff_subset_ne.mpr
      ⟨fewer, fun same => gone (same ▸ member)⟩)

end JobStore

def JobStore.tableAt (interval : Nat) (start : JobStore) (events : List (Nat × SchedulerEvent))
    (n : Nat) : JobStore :=
  Runs.stateAt (fun store event => (store.occur interval event.1 event.2).1) start events n

structure SchedulerRun (interval : Nat) where
  start : JobStore
  events : List (Nat × SchedulerEvent)
  increasing : events.Pairwise (·.1 < ·.1)
  clock : ∀ event ∈ events, event.1 ≤ limit 64
  permitted : ∀ n time event, events[n]? = some (time, event) →
    (start.tableAt interval events n).Permits time event

namespace SchedulerRun

variable {interval : Nat} (run : SchedulerRun interval)

def table (n : Nat) : JobStore :=
  run.start.tableAt interval run.events n

def granted (n : Nat) : Option SettlementJob :=
  run.events[n]?.bind fun event => ((run.table n).occur interval event.1 event.2).2

def grants (n : Nat) : Nat :=
  ((List.range n).filter fun i => (run.granted i).isSome).length

theorem grants_succ (n : Nat) :
    run.grants (n + 1) = run.grants n + ((run.granted n).isSome).toNat := by
  unfold grants
  rw [List.range_succ, List.filter_append, List.length_append]
  cases granted : (run.granted n).isSome <;> simp [granted]

/-- The job waits unchanged through the first `n` messages, all later than its deadline. -/
structure Waits (run : SchedulerRun interval) (key : JobKey) (row : JobRow)
    (deadlineNs n : Nat) : Prop where
  waits : ∀ m ≤ n, (run.table m).Waits key row deadlineNs
  later : ∀ event ∈ run.events, deadlineNs < event.1

theorem ahead_succ {run : SchedulerRun interval} (waits : (run.table n).Waits key row deadlineNs)
    (later : ∀ event ∈ run.events, deadlineNs < event.1)
    (passed : ∀ job, run.granted n = some job → job.key ≠ key) :
    ((run.table (n + 1)).ahead key deadlineNs).card + ((run.granted n).isSome).toNat ≤
      ((run.table n).ahead key deadlineNs).card := by
  cases happens : run.events[n]? with
  | none =>
    have idle : run.table (n + 1) = run.table n := Runs.stateAt_done happens
    simp [granted, happens, idle]
  | some event =>
    have moved : run.table (n + 1) = ((run.table n).occur interval event.1 event.2).1 :=
      Runs.stateAt_succ happens
    have member := List.mem_of_getElem? happens
    simp only [granted, happens, Option.bind_some] at passed ⊢
    rw [moved]
    exact occur_ahead (run.clock event member) waits (later event member)
      (run.permitted n event.1 event.2 happens) passed

theorem passed_of_waits {run : SchedulerRun interval}
    (waits : (run.table (n + 1)).Waits key row deadlineNs)
    (later : ∀ event ∈ run.events, deadlineNs < event.1)
    (granted : run.granted n = some job) : job.key ≠ key := by
  rintro rfl
  obtain ⟨event, happens, granted⟩ := Option.bind_eq_some_iff.mp granted
  have moved : run.table (n + 1) = ((run.table n).occur interval event.1 event.2).1 :=
    Runs.stateAt_succ happens
  have member := List.mem_of_getElem? happens
  obtain ⟨_, _, _, late⟩ := occur_granted (run.clock event member) granted
  rw [← moved] at late
  exact absurd (later event member) (not_lt.mpr (late row deadlineNs waits.found waits.asks))

theorem grants_bounded {run : SchedulerRun interval} (waits : run.Waits key row deadlineNs n) :
    ((run.table n).ahead key deadlineNs).card + run.grants n ≤
      (run.start.ahead key deadlineNs).card := by
  induction n with
  | zero => exact le_rfl
  | succ n ih =>
    have before := ih ⟨fun m earlier => waits.waits m (by omega), waits.later⟩
    have step := ahead_succ (waits.waits n (by omega)) waits.later fun job granted =>
      passed_of_waits (waits.waits (n + 1) le_rfl) waits.later granted
    rw [grants_succ]
    omega

theorem passing_lt {run : SchedulerRun interval} (waits : run.Waits key row deadlineNs n)
    (granted : run.granted n = some job) (other : job.key ≠ key) :
    run.grants n < (run.start.ahead key deadlineNs).card := by
  have sofar := grants_bounded waits
  have step := ahead_succ (waits.waits n le_rfl) waits.later fun handle same => by
    cases granted.symm.trans same
    exact other
  simp only [granted, Option.isSome_some, Bool.toNat_true] at step
  omega

theorem least_of_passed {run : SchedulerRun interval} (waits : run.Waits key row deadlineNs n)
    (used : run.grants n = (run.start.ahead key deadlineNs).card) (due : deadlineNs ≤ nowNs) :
    (run.table n).LeastDue nowNs ⟨deadlineNs, key, row⟩ := by
  have sofar := grants_bounded waits
  have none : (run.table n).ahead key deadlineNs = ∅ := Finset.card_eq_zero.mp (by omega)
  have here := waits.waits n le_rfl
  refine ⟨here.found, JobPhase.due_eq_some.mpr ⟨here.asks, due⟩, ?_⟩
  intro rival stored since found asks
  refine not_lt.mp fun first => ?_
  have listed : rival ∈ (run.table n).ahead key deadlineNs :=
    mem_ahead.mpr ⟨stored, since, found, (JobPhase.due_eq_some.mp asks).1, first⟩
  rw [none] at listed
  cases listed

/-- The fate of a job that waits unchanged through `n` messages. -/
structure Served (run : SchedulerRun interval) (key : JobKey) (row : JobRow)
    (deadlineNs n : Nat) : Prop where
  /-- No more grants have passed it by than jobs were ahead of it. -/
  bounded : run.grants n ≤ (run.start.ahead key deadlineNs).card
  /-- The next grant is its own once that many have. -/
  granted : ∀ job, run.granted n = some job →
    run.grants n = (run.start.ahead key deadlineNs).card → job.key = key
  /-- From then on every automatic claim finds it first. -/
  next : run.grants n = (run.start.ahead key deadlineNs).card → ∀ nowNs, deadlineNs ≤ nowNs →
    (run.table n).LeastDue nowNs ⟨deadlineNs, key, row⟩

end SchedulerRun

/-- Automatic claiming takes the least due job of any table, unless the lane is full or that
job has had every lease generation; and it does not starve: in every run a job that waits is
granted after at most as many grants as there were jobs ahead of it. -/
theorem automatic_claims_never_starve :
    (∀ (store : JobStore) (nowNs leaseUntilNs maxActiveLeases : Nat),
      store.ClaimsLeast nowNs leaseUntilNs maxActiveLeases) ∧
    ∀ (interval : Nat) (run : SchedulerRun interval) (key : JobKey) (row : JobRow)
      (deadlineNs n : Nat), run.Waits key row deadlineNs n → run.Served key row deadlineNs n := by
  refine ⟨claims_least, fun interval run key row deadlineNs n waits => ?_⟩
  have sofar := SchedulerRun.grants_bounded waits
  refine ⟨by omega, ?_, fun used nowNs due => SchedulerRun.least_of_passed waits used due⟩
  intro job granted used
  by_contra other
  exact absurd used (SchedulerRun.passing_lt waits granted other).ne

def waitingRow (deadlineNs generation : Nat) : JobRow :=
  ⟨.scheduled deadlineNs, 0, generation, .automatic, none, 0⟩

def sampleJobs : JobStore where
  jobs := (insert ⟨.deposit, 1⟩ (waitingRow 5 0) ∅).insert ⟨.deposit, 2⟩ (waitingRow 6 0)
  admission := ⟨0, 0, ∅, ∅⟩
  stopReasons := fun _ => none

def sampleDispatches : SchedulerRun 60 where
  start := sampleJobs
  events := [(7, .dispatchDue), (8, .dispatchDue)]
  increasing := by decide
  clock := by decide
  permitted := by
    intro n time event happens
    have member := List.mem_of_getElem? happens
    simp only [List.mem_cons, Prod.mk.injEq, List.not_mem_nil, or_false] at member
    rcases member with ⟨rfl, rfl⟩ | ⟨rfl, rfl⟩ <;> trivial

theorem automatic_claims_never_starve_sample :
    sampleDispatches.grants 1 = 1 ∧
      sampleDispatches.Served ⟨.deposit, 2⟩ (waitingRow 6 0) 6 1 := by
  refine ⟨by decide +kernel, automatic_claims_never_starve.2 60 sampleDispatches _ _ 6 1 ?_⟩
  refine ⟨fun m before => ?_, by decide⟩
  interval_cases m <;> exact ⟨by decide +kernel, rfl⟩

def exhaustedJobs : JobStore where
  jobs := insert ⟨.deposit, 1⟩ (waitingRow 5 (limit 64)) ∅
  admission := ⟨0, 0, ∅, ∅⟩
  stopReasons := fun _ => none

theorem exhausted_job_not_granted :
    exhaustedJobs.LeastDue 7 ⟨5, ⟨.deposit, 1⟩, waitingRow 5 (limit 64)⟩ ∧
      exhaustedJobs.activeInLane 7 .automatic = 0 ∧
      exhaustedJobs.claimDueByQueries 7 (7 + Scheduler.leaseNs) Scheduler.maxAutomaticSettlements =
        .error (.constraint "lease generation overflow") := by
  have least : exhaustedJobs.LeastDue 7
      ⟨5, ⟨.deposit, 1⟩, waitingRow 5 (limit 64)⟩ := by
    refine ⟨by decide +kernel, rfl, fun key row deadlineNs found due => ?_⟩
    by_cases same : key = ⟨.deposit, 1⟩
    · subst same
      rw [show exhaustedJobs.jobs.lookup ⟨.deposit, 1⟩ = some (waitingRow 5 (limit 64))
        from AList.lookup_insert _] at found
      cases found
      cases due
      exact le_rfl
    · rw [exhaustedJobs, AList.lookup_insert_ne same] at found
      cases found
  have idle : exhaustedJobs.activeInLane 7 .automatic = 0 := by decide +kernel
  refine ⟨least, idle, (JobStore.claims_least _ _ _ _).spent ?_ _ least rfl⟩
  rw [idle]
  decide

end KinicBridge
