import KinicBridge.Jobs.Fairness

/-! Retries of an automatic run. Each transient failure either schedules the job
again, later than the failures before it would, or stops it; the failures are counted in the
row, so a job that keeps failing stops. -/
namespace KinicBridge

open Checked JobStore Scheduler

/-- The results that leave the decision to `retry_or_park`. -/
def Scheduler.transientFailure : Except SettlementActionError SettlementActionResult → Bool
  | .ok (.stopped _ reason) => transientStop reason
  | .error .insufficientCycles => true
  | _ => false

def Scheduler.transientPayoutFailure : Except SettlementActionError FeePayoutActionResult → Bool
  | .ok (.stopped phase reason) =>
    !terminalFeePayoutResult (.stopped phase reason) && transientStop reason
  | .error .insufficientCycles => true
  | _ => false

/-- What a transient failure makes of a job: a deposit's, or a fee payout's. Withdrawals do
not run by themselves. -/
inductive TransientOutcome (now interval : Nat) (store : JobStore) (job : SettlementJob) :
    JobOutcome → Prop where
  | deposit (failure : transientFailure result = true) :
      TransientOutcome now interval store job (depositOutcome now interval store job result)
  | feePayout (failure : transientPayoutFailure result = true) :
      TransientOutcome now interval store job (feePayoutOutcome started now interval job result)

inductive RunHandle (job : SettlementJob) : SettlementJob → Prop where
  | claimed : RunHandle job job
  | renewed {store : JobStore} (earlier : RunHandle job handle)
      (done : store.renewSettlementLease handle nowNs leaseUntilNs = (true, next, after)) :
      RunHandle job next

/-- One automatic run of a job that fails transiently with its lease held: the row
it was claimed from, the time of the failure and the row that is left. Anything may happen
between the claim and the failure. -/
inductive TransientRound (interval : Nat) (key : JobKey) (row : JobRow) (now : Nat) :
    Option JobRow → Prop where
  | failed {store leased later : JobStore} {job handle : SettlementJob}
      (found : store.jobs.lookup key = some row)
      (granted : store.perform (.claimDue claimedNs leaseUntilNs maximum) = (leased, some job))
      (named : job.key = key) (run : RunHandle job handle)
      (held : (later.heldRow handle).isSome = true)
      (recorded : (later.stopReasons handle.key).isSome = true)
      (failure : TransientOutcome now interval later handle outcome) :
      TransientRound interval key row now ((later.finish handle outcome).jobs.lookup key)

inductive FailingRun (interval : Nat) (key : JobKey) (first : JobRow) :
    List (Nat × JobRow) → JobRow → Prop where
  | start : FailingRun interval key first [] first
  | failed (earlier : FailingRun interval key first rounds row)
      (round : TransientRound interval key row now (some next)) :
      FailingRun interval key first ((now, next) :: rounds) next

def Rescheduled (round : Nat × JobRow) (delayNs : Nat) : Prop :=
  round.2.phase = .scheduled (saturatingAdd 64 round.1 delayNs)

/-- The failures of a run: all but the last are followed by another try, after delays that
never shrink and stay bounded; the last may stop the job. -/
structure BoundedRetries (rounds : List (Nat × JobRow)) (delays : List Nat) : Prop where
  count : delays.length < maxConsecutiveAutomaticFailures
  grows : delays.Pairwise (· ≥ ·)
  bounded : ∀ delayNs ∈ delays, delayNs ≤ maxTransientRetryNs
  rounds : List.Forall₂ Rescheduled rounds delays ∨
    ∃ now stopped earlier, rounds = (now, stopped) :: earlier ∧ stopped.phase = .stopped ∧
      List.Forall₂ Rescheduled earlier delays

namespace Scheduler

theorem transientRetryDelayNs_le (interval attempts : Nat) :
    transientRetryDelayNs interval attempts ≤ maxTransientRetryNs :=
  Nat.min_le_right _ _

theorem transientRetryDelayNs_mono (interval : Nat) (fewer : attempts ≤ more) :
    transientRetryDelayNs interval attempts ≤ transientRetryDelayNs interval more := by
  have exponent : min attempts 4 ≤ min more 4 := by omega
  have power : 2 ^ min attempts 4 ≤ 2 ^ min more 4 := Nat.pow_le_pow_right (by decide) exponent
  simp only [transientRetryDelayNs]
  gcongr

theorem transientOutcome_eq {store : JobStore} {job : SettlementJob}
    (failure : TransientOutcome now interval store job outcome) :
    ∃ detail reason, outcome = retryOrPark now job interval detail reason := by
  cases failure with
  | deposit failure =>
    unfold transientFailure at failure
    split at failure
    · exact ⟨_, _, if_pos failure⟩
    · exact ⟨_, _, rfl⟩
    · cases failure
  | feePayout failure =>
    unfold transientPayoutFailure at failure
    split at failure
    next phase reason =>
      obtain ⟨open_, transient⟩ := Bool.and_eq_true_iff.mp failure
      refine ⟨reason.debug, none, ?_⟩
      simp only [feePayoutOutcome]
      rw [if_neg (by simpa using open_), if_pos transient]
    · exact ⟨_, _, rfl⟩
    · cases failure

theorem finishedRow_retryOrPark {job : SettlementJob} (lane : job.row.leaseLane = .automatic)
    (row : JobRow) (now interval : Nat) (detail : String) (reason : Option String) :
    ∃ left, finishedRow row (retryOrPark now job interval detail reason) = some left ∧
      (left.phase = .stopped ∨ left.attempts = job.row.attempts + 1 ∧
        left.attempts < maxConsecutiveAutomaticFailures ∧
        Rescheduled (now, left) (transientRetryDelayNs interval job.row.attempts)) := by
  have automatic : (job.row.leaseLane == .automatic) = true := by rw [lane]; rfl
  simp only [retryOrPark, automatic]
  split
  next allowed =>
    have few : saturatingAdd 8 job.row.attempts 1 < maxConsecutiveAutomaticFailures := by
      simpa [Kernel.automaticRetryAllowed, Kernel.settlementFailureCount] using allowed
    have counted : saturatingAdd 8 job.row.attempts 1 = job.row.attempts + 1 := by
      simp only [saturatingAdd, limit, maxConsecutiveAutomaticFailures] at few ⊢
      omega
    refine ⟨_, rfl, .inr ⟨counted, ?_, rfl⟩⟩
    exact few
  · exact ⟨_, rfl, .inl rfl⟩

end Scheduler

theorem RunHandle.keeps {job handle : SettlementJob} (run : RunHandle job handle) :
    handle.key = job.key ∧ handle.row.attempts = job.row.attempts ∧
      handle.row.leaseLane = job.row.leaseLane := by
  induction run with
  | claimed => exact ⟨rfl, rfl, rfl⟩
  | renewed earlier done ih =>
    unfold renewSettlementLease at done
    split at done <;> cases done
    exact ih

theorem claimDue_row {store leased : JobStore} {job : SettlementJob}
    (granted : store.perform (.claimDue nowNs leaseUntilNs maximum) = (leased, some job)) :
    ∃ row, store.jobs.lookup job.key = some row ∧ row.phase ≠ .stopped ∧
      job.row.attempts = row.attempts ∧ job.row.leaseLane = .automatic := by
  obtain ⟨candidate, _, least, named, _, _, attempts, lane⟩ := claimDue_granted granted
  refine ⟨candidate.row, named ▸ least.found, fun stopped => ?_, attempts, lane⟩
  have due := least.due
  rw [stopped] at due
  cases due

theorem TransientRound.leaves {row : JobRow} (round : TransientRound interval key row now left) :
    row.phase ≠ .stopped ∧ ∃ next, left = some next ∧ (next.phase = .stopped ∨
        next.attempts = row.attempts + 1 ∧ next.attempts < maxConsecutiveAutomaticFailures ∧
        Rescheduled (now, next) (transientRetryDelayNs interval row.attempts)) := by
  obtain ⟨found, granted, named, run, held, recorded, failure⟩ := round
  obtain ⟨claimed, stored, waits, attempts, lane⟩ := claimDue_row granted
  rw [named] at stored
  cases found.symm.trans stored
  obtain ⟨sameKey, sameAttempts, sameLane⟩ := run.keeps
  obtain ⟨current, current_eq⟩ := Option.isSome_iff_exists.mp held
  obtain ⟨previous, previous_eq⟩ := Option.isSome_iff_exists.mp recorded
  obtain ⟨detail, reason, rfl⟩ := transientOutcome_eq failure
  obtain ⟨next, finished, settled⟩ :=
    finishedRow_retryOrPark (sameLane.trans lane) current now interval detail reason
  refine ⟨waits, next, ?_, ?_⟩
  · rw [← named, ← sameKey]
    simp [finish, perform, finishSettlementJob, previous_eq, current_eq, finished]
  · rwa [sameAttempts, attempts] at settled

theorem FailingRun.bounded {first row : JobRow}
    (run : FailingRun interval key first rounds row) : ∃ delays, BoundedRetries rounds delays := by
  -- the count in the row bounds the delays so far, and their number
  suffices invariant : ∃ delays, BoundedRetries rounds delays ∧
      (row.phase ≠ .stopped → List.Forall₂ Rescheduled rounds delays ∧
        delays.length ≤ row.attempts ∧
        ∀ delayNs ∈ delays, delayNs ≤ transientRetryDelayNs interval row.attempts) by
    obtain ⟨delays, bounded, _⟩ := invariant
    exact ⟨delays, bounded⟩
  induction run with
  | start =>
    refine ⟨[], ⟨by decide, .nil, nofun, .inl .nil⟩, fun _ => ⟨.nil, Nat.zero_le _, nofun⟩⟩
  | @failed rounds row now next earlier round ih =>
    obtain ⟨delays, bounded, waiting⟩ := ih
    obtain ⟨waits, left, same, settled⟩ := round.leaves
    cases same
    obtain ⟨rescheduled, length, below⟩ := waiting waits
    rcases settled with stopped | ⟨attempts, few, again⟩
    · refine ⟨delays, ⟨bounded.count, bounded.grows, bounded.bounded,
        .inr ⟨now, next, rounds, rfl, stopped, rescheduled⟩⟩, fun waits => absurd stopped waits⟩
    · have rounds' := List.Forall₂.cons again rescheduled
      refine ⟨transientRetryDelayNs interval row.attempts :: delays, ⟨?_, ?_, ?_, .inl rounds'⟩,
        fun _ => ⟨rounds', ?_, ?_⟩⟩
      · rw [List.length_cons]
        omega
      · exact List.pairwise_cons.mpr ⟨below, bounded.grows⟩
      · intro delayNs member
        rcases List.mem_cons.mp member with rfl | member
        · exact transientRetryDelayNs_le _ _
        · exact bounded.bounded _ member
      · rw [List.length_cons]
        omega
      · have more : row.attempts ≤ next.attempts := by omega
        have grown := transientRetryDelayNs_mono interval more
        intro delayNs member
        rcases List.mem_cons.mp member with rfl | member
        · exact grown
        · exact Nat.le_trans (below _ member) grown

end KinicBridge
