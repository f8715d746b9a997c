import KinicBridge.Deposits.Tending
import KinicBridge.Funding.NeverForgotten
import KinicBridge.Jobs.Retries

/-! Unfinished deposit work is never lost. However promotions, claims, runs cut at any call, refunds
and notices interleave, every deposit with work left has a row. -/
namespace KinicBridge

open JobStore Scheduler SettlementCanister

namespace SettlementCanister

/-- `admit_deposit` for an attempt whose pull was answered: by its block, or ambiguously. The
job is written with the record. -/
def promote (canister : SettlementCanister) (now : Nat) (attempt : DepositFundingAttempt)
    (block : Option Nat) : Except StorageError SettlementCanister := do
  let funding ← match block with
    | some block => canister.funding.promoteFundingSuccess attempt block
    | none => canister.funding.promoteFundingAmbiguous attempt
  let jobs :=
    if (canister.settlement.deposits.get attempt.id).isSome then canister.jobs
    else canister.jobs.enqueueSettlementJob ⟨.deposit, attempt.id⟩ now
  return { funding, jobs }

/-- `claim_refund_start`: the refund and the claim of its job commit together or not at all. -/
def claimRefundStart (config : BridgeConfig) (now : Nat) (canister : SettlementCanister)
    (id : Bytes32) (reason : DepositRefundReason) (expiryEvidence : Option MintExpiryEvidence)
    (caller : List UInt8) (limits : Option SettlementQuotaLimits) :
    Except StorageError SettlementCanister := do
  let settlement ← config.prepareDepositRefund now canister.settlement id reason expiryEvidence
  match canister.jobs.claimSettlementJobTransaction
      (manualClaim now ⟨.deposit, id⟩ caller limits) with
  | .ok (.claimed _, jobs) => return { canister.withSettlement settlement with jobs }
  | _ => return canister

end SettlementCanister

def SchedulerEvent.key : SchedulerEvent → Option JobKey
  | .dispatchDue | .recordWritten .. => none
  | .enqueue key | .claimManual key .. => some key
  | .renew job | .guardBusy job | .settlementReturned job _ | .feePayoutReturned job .. =>
    some job.key

def StoreChange.ofWithdrawal : StoreChange → Bool
  | .withdrawalObserved _ | .withdrawalParked _ | .withdrawalHold .. => true
  | .withdrawal _ event => event.phaseCode ≠ 3
  | _ => false

structure WorkWorld where
  now : Nat
  canister : SettlementCanister
  tasks : List DepositTask

namespace WorkWorld

section

variable (world : WorkWorld)

structure Initial (world : WorkWorld) : Prop where
  settlement : world.canister.settlement = .empty
  jobs : world.canister.jobs.jobs = ∅
  tasks : world.tasks = []

def withCanister (canister : SettlementCanister) : WorkWorld :=
  { world with canister }

def withJobs (jobs : JobStore) : WorkWorld :=
  { world with canister := { world.canister with jobs } }

def withSettlement (settlement : SettlementStore) : WorkWorld :=
  { world with canister := world.canister.withSettlement settlement }

def message (interval : Nat) (advance : Advance) : WorkWorld :=
  let (canister, task) := world.canister.settle interval world.now advance
  { world with canister, tasks := task.toList ++ world.tasks }

end

/-- Everything that may happen next. A run may start from any handle of a deposit job, at any
time and next to other runs of the deposit: guards and leases only rule some of this out. -/
inductive Step (config : BridgeConfig) (interval : Nat) (world : WorkWorld) :
    WorkWorld → Prop where
  | tick (later : world.now ≤ time) : Step config interval world { world with now := time }
  | promoted (done : world.canister.promote world.now attempt block = .ok written) :
      Step config interval world (world.withCanister written)
  | attempted {written : FundingStore} (same : written.settlement = world.canister.settlement) :
      Step config interval world
        { world with canister := { world.canister with funding := written } }
  | begun (kind : job.key.kind = .deposit) (reads : MessageReads) (time : reads.now = world.now) :
      Step config interval world (world.message interval (.turn reads world.canister job))
  | answered (waiting : task ∈ world.tasks) (kept : rest ⊆ world.tasks)
      (answer : DepositAnswer) (reads : MessageReads) (time : reads.now = world.now) :
      Step config interval world
        ({ world with tasks := rest }.message interval
          (.resume reads world.canister config task answer))
  | lost (kept : rest ⊆ world.tasks) : Step config interval world { world with tasks := rest }
  | busy (kind : job.key.kind = .deposit) :
      Step config interval world (world.withJobs (world.canister.jobs.finish job
        (depositBusy world.now world.canister.jobs job)))
  | claimed (key : JobKey) (caller : List UInt8) (limits : Option SettlementQuotaLimits) :
      Step config interval world (world.withJobs (world.canister.jobs.occur interval world.now
        (.claimManual key caller limits)).1)
  | refundStarted {id : Bytes32} (done : world.canister.claimRefundStart config world.now id reason
        expiryEvidence caller limits = .ok written) :
      Step config interval world (world.withCanister written)
  | offered {id : Bytes32} (done : world.canister.settlement.applyDeposit id
        (.markRefundAvailable reason timestamp) = .ok written) :
      Step config interval world (world.withSettlement written)
  | minted {id : Bytes32} (done : world.canister.settlement.applyDeposit id
        (.mintReconciled evidence) = .ok written) :
      Step config interval world (world.withSettlement written)
  | elsewhere (event : SchedulerEvent)
      (other : ∀ key, event.key = some key → key.kind ≠ .deposit) :
      Step config interval world
        (world.withJobs (world.canister.jobs.occur interval world.now event).1)
  | withdrawal (change : world.canister.settlement.Change label written)
      (other : label.ofWithdrawal = true) : Step config interval world (world.withSettlement written)
  | feePayout {settlement : SettlementStore}
      (deposits : settlement.deposits = world.canister.settlement.deposits)
      (withdrawals : settlement.withdrawals = world.canister.settlement.withdrawals)
      (holds : settlement.holds = world.canister.settlement.holds) :
      Step config interval world (world.withSettlement settlement)

inductive Reaches (config : BridgeConfig) (interval : Nat) : WorkWorld → Prop where
  | start (initial : Initial world) : Reaches config interval world
  | step (reached : Reaches config interval world) (next : Step config interval world world') :
      Reaches config interval world'

end WorkWorld

namespace JobStore

variable (store : JobStore)

theorem manualClaim_rows (claim : ManualClaim) (key : JobKey)
    (present : (store.jobs.lookup key).isSome = true) :
    ((store.perform (.manualClaim claim)).1.jobs.lookup key).isSome = true := by
  simp only [perform]
  split
  next outcome next claimed =>
    unfold claimSettlementJobTransaction at claimed
    split at claimed
    · cases claimed
      exact present
    · obtain ⟨charged, _, rest⟩ := bind_ok.mp claimed
      split at rest
      · cases pure_ok.mp rest
        exact present
      · obtain ⟨_, _, ⟨⟩⟩ := returned_ok.mp rest
        exact lookup_insert_isSome _ _ present
  · exact present

theorem manualClaim_claimed {store next : JobStore} {claim : ManualClaim}
    (claimed : store.claimSettlementJobTransaction claim = .ok (.claimed job, next)) :
    (next.jobs.lookup claim.key).isSome = true := by
  unfold claimSettlementJobTransaction at claimed
  split at claimed
  next refused =>
    cases claimed
    cases claimRefusal_grants_nothing refused
  · obtain ⟨charged, _, rest⟩ := bind_ok.mp claimed
    split at rest
    · cases pure_ok.mp rest
    · obtain ⟨_, _, ⟨⟩⟩ := returned_ok.mp rest
      rw [AList.lookup_insert]
      rfl

theorem dispatchDue_rows (now : Nat) (key : JobKey)
    (present : (store.jobs.lookup key).isSome = true) :
    ((store.dispatchDue now).1.jobs.lookup key).isSome = true := by
  unfold dispatchDue
  cases granted : store.perform (.claimDue now (Checked.saturatingAdd 64 now leaseNs)
      maxAutomaticSettlements) with
  | mk leased handle =>
  cases handle with
  | none =>
    rw [claimDue_idle granted]
    exact present
  | some job =>
    obtain ⟨_, row, _, _, inserted, _⟩ := claimDue_granted granted
    have present : (leased.jobs.lookup key).isSome = true := by
      rw [inserted]
      exact lookup_insert_isSome _ _ present
    dsimp only
    split
    · exact present
    · rcases leased.finish_rows job _ key present with kept | ⟨_, row, deleted⟩
      · exact kept
      · cases deleted

theorem occur_rows (interval now : Nat) (event : SchedulerEvent)
    (other : ∀ target, event.key = some target → target ≠ key)
    (present : (store.jobs.lookup key).isSome = true) :
    ((store.occur interval now event).1.jobs.lookup key).isSome = true := by
  have finished (job : SettlementJob) (outcome : JobOutcome) (different : job.key ≠ key) :
      ((store.finish job outcome).jobs.lookup key).isSome = true :=
    (store.finish_rows job outcome key present).resolve_right fun same => different same.1.symm
  cases event with
  | dispatchDue => exact dispatchDue_rows store now key present
  | recordWritten target stopReason => exact present
  | enqueue target => exact lookup_insert_isSome _ _ present
  | claimManual target caller limits => exact manualClaim_rows store _ key present
  | renew job =>
    simp only [occur, renewSettlementLease]
    split
    · exact present
    · exact lookup_insert_isSome _ _ present
  | guardBusy job => exact finished job _ (other _ rfl)
  | settlementReturned job result =>
    simp only [occur]
    split
    · exact finished job _ (other _ rfl)
    · exact finished job _ (other _ rfl)
    · exact present
  | feePayoutReturned job startedNs result => exact finished job _ (other _ rfl)

end JobStore

namespace FundingStore

structure Inserted (store : FundingStore) (record : DepositRecord)
    (hold : Option ReconciliationHoldRecord) (written : FundingStore) : Prop where
  free : store.settlement.deposits.get record.id = none
  fresh : ∀ opened, hold = some opened → store.settlement.holds.get opened.id = none
  deposits : written.settlement.deposits = store.settlement.deposits.put record
  withdrawals : written.settlement.withdrawals = store.settlement.withdrawals
  holds : written.settlement.holds = putHold store.settlement.holds hold

theorem admitDeposit_inserted {store written : FundingStore} {record : DepositRecord}
    {attempt : DepositFundingAttempt}
    (done : store.admitDeposit record attempt hold = .ok written) :
    written = store ∨ store.Inserted record hold written := by
  unfold admitDeposit at done
  split at done
  · split at done <;> cases done
    exact .inl rfl
  rename_i free
  split at done
  · cases done
  split at done
  · cases done
  obtain ⟨_, _, rest⟩ := bind_ok.mp done
  obtain ⟨numbered, _, rest⟩ := bind_ok.mp rest
  obtain ⟨counters, _, rest⟩ := bind_ok.mp rest
  obtain ⟨_, rest⟩ := thrown_ok.mp rest
  obtain ⟨current, rest⟩ := thrown_ok.mp rest
  cases pure_ok.mp rest
  refine .inr ⟨free, ?_, rfl, rfl, rfl⟩
  rintro opened rfl
  have unused := (not_or.mp current).2
  simpa using unused

end FundingStore

namespace SettlementCanister

variable {canister written : SettlementCanister}

theorem inserted_held {store funding : FundingStore} {record : DepositRecord}
    (held : store.settlement.Held) (inserted : store.Inserted record hold funding)
    (terms : ∀ holdId request transfer, record.holding = some (holdId, request, transfer) →
      hold = some (.opened holdId request transfer)) :
    funding.settlement.Held ∧ store.settlement.HoldsKept funding.settlement := by
  have kept : store.settlement.HoldsKept funding.settlement := by
    cases hold with
    | none =>
      intro id old found
      exact ⟨old, by rw [inserted.holds]; exact found, rfl, rfl⟩
    | some opened =>
      refine SettlementStore.holdsKept_put inserted.holds fun old found => ?_
      cases (inserted.fresh opened rfl).symm.trans found
  refine ⟨held.putDeposit kept inserted.deposits inserted.withdrawals ?_, kept⟩
  cases waits : record.holding with
  | none => trivial
  | some asked =>
    obtain ⟨holdId, request, transfer⟩ := asked
    have opened := terms holdId request transfer waits
    subst opened
    refine ⟨.opened holdId request transfer, ?_, rfl, rfl⟩
    rw [inserted.holds]
    exact Table.get_put_self

theorem admit_follows (sound : canister.Sound) {funding : FundingStore} {record : DepositRecord}
    {attempt : DepositFundingAttempt} (named : record.id = attempt.id)
    (terms : ∀ holdId request transfer, record.holding = some (holdId, request, transfer) →
      hold = some (.opened holdId request transfer))
    (done : canister.funding.admitDeposit record attempt hold = .ok funding) (now : Nat) :
    Follows canister {
        funding
        jobs := if (canister.settlement.deposits.get attempt.id).isSome then canister.jobs
          else canister.jobs.enqueueSettlementJob ⟨.deposit, attempt.id⟩ now } := by
  have rows (key : JobKey) (present : (canister.jobs.jobs.lookup key).isSome = true) :
      ((if (canister.settlement.deposits.get attempt.id).isSome then canister.jobs
        else canister.jobs.enqueueSettlementJob ⟨.deposit, attempt.id⟩ now).jobs.lookup
          key).isSome = true := by
    split
    · exact present
    · exact lookup_insert_isSome _ _ present
  rcases FundingStore.admitDeposit_inserted done with rfl | inserted
  · exact .ofRows sound rows
  obtain ⟨held, kept⟩ := inserted_held sound.held inserted terms
  refine ⟨⟨held, fun id deposit found works => ?_⟩, kept, rows⟩
  have found : funding.settlement.deposits.get id = some deposit := found
  rw [inserted.deposits] at found
  rcases Table.get_put_cases found with ⟨rfl, rfl⟩ | ⟨_, old⟩
  · have free : canister.settlement.deposits.get attempt.id = none := named ▸ inserted.free
    have enqueued (free : ¬(canister.settlement.deposits.get attempt.id).isSome = true) :
        ((if (canister.settlement.deposits.get attempt.id).isSome then canister.jobs
          else canister.jobs.enqueueSettlementJob ⟨.deposit, attempt.id⟩ now).jobs.lookup
            ⟨.deposit, attempt.id⟩).isSome = true := by
      rw [if_neg free, enqueueSettlementJob, AList.lookup_insert]
      rfl
    rw [named]
    exact enqueued (by simp [free])
  · exact rows _ (sound.tended id deposit old works)

theorem promote_follows (sound : canister.Sound)
    (done : canister.promote now attempt block = .ok written) : Follows canister written := by
  cases block
  all_goals
    obtain ⟨funding, promoted, rfl⟩ := returned_ok.mp done
    obtain ⟨record, made, admitted⟩ := bind_ok.mp promoted
    obtain ⟨named, _, _, _, applied⟩ := FundingStore.fundedRecord_ok made
    refine admit_follows sound named (fun holdId request transfer waits => ?_) admitted now
    cases applied
    cases waits
  -- only an ambiguous answer leaves a record that waits
  rfl

theorem claimRefundStart_follows {config : BridgeConfig} {id : Bytes32} (sound : canister.Sound)
    (done : canister.claimRefundStart config now id reason expiryEvidence caller limits
      = .ok written) : Follows canister written := by
  obtain ⟨settlement, prepared, rest⟩ := bind_ok.mp done
  obtain ⟨deposit, _, prepared⟩ := bind_ok.mp prepared
  obtain ⟨amount, _, prepared⟩ := bind_ok.mp prepared
  dsimp only at rest
  split at rest
  next job jobs claimed =>
    cases pure_ok.mp rest
    have rows (key : JobKey) (present : (canister.jobs.jobs.lookup key).isSome = true) :
        (jobs.jobs.lookup key).isSome = true := by
      have kept := manualClaim_rows canister.jobs
        (manualClaim now ⟨.deposit, id⟩ caller limits) key present
      simpa only [perform, claimed] using kept
    have claimed := Follows.ofRows sound rows
    refine claimed.trans (.ofChange claimed.sound (SettlementStore.applyDeposit_change prepared)
      (by simp [SettlementStore.Sanctioned, DepositEvent.code]) fun target opens => ?_)
    cases opens
    exact manualClaim_claimed ‹_›
  · cases pure_ok.mp rest
    exact .refl sound

theorem Follows.ofSame (sound : canister.Sound) {funding : FundingStore}
    (deposits : funding.settlement.deposits = canister.settlement.deposits)
    (withdrawals : funding.settlement.withdrawals = canister.settlement.withdrawals)
    (holds : funding.settlement.holds = canister.settlement.holds) :
    Follows canister { canister with funding } := by
  have kept : canister.settlement.HoldsKept funding.settlement := by
    intro id hold found
    exact ⟨hold, holds ▸ found, rfl, rfl⟩
  have parked {asked : Option (Nat × RequestReference × LedgerTransferIdentity)}
      (parked : canister.settlement.Parked asked) : funding.settlement.Parked asked := by
    unfold SettlementStore.Parked at parked ⊢
    rwa [holds]
  refine ⟨⟨⟨fun id deposit found => ?_, fun id withdrawal found => ?_⟩,
    fun id deposit found => ?_⟩, kept, fun _ present => present⟩
  · exact parked (sound.held.deposits id deposit (deposits ▸ found))
  · exact parked (sound.held.withdrawals id withdrawal (withdrawals ▸ found))
  · exact sound.tended id deposit (deposits ▸ found)

end SettlementCanister

namespace WorkWorld

variable {world world' : WorkWorld}

structure Inv (world : WorkWorld) : Prop where
  sound : world.canister.Sound
  linked : ∀ task ∈ world.tasks, task.Linked world.canister

theorem Inv.follow (inv : world.Inv) {canister : SettlementCanister}
    (follows : world.canister.Follows canister) : (world.withCanister canister).Inv :=
  ⟨follows.sound, fun task waits => (inv.linked task waits).kept follows.holds⟩

theorem Inv.message (inv : world.Inv) {advance : Advance}
    (safe : advance.Safe world.canister) : (world.message interval advance).Inv := by
  obtain ⟨sound, holds, fresh⟩ := settle_sound inv.sound safe
  refine ⟨sound, fun task waits => ?_⟩
  rcases List.mem_append.mp waits with started | waits
  · exact fresh task (Option.mem_toList.mp started)
  · exact (inv.linked task waits).kept holds

theorem Inv.rows (inv : world.Inv) {jobs : JobStore}
    (rows : ∀ id, (world.canister.jobs.jobs.lookup ⟨.deposit, id⟩).isSome = true →
      (jobs.jobs.lookup ⟨.deposit, id⟩).isSome = true) : (world.withJobs jobs).Inv := by
  refine ⟨⟨inv.sound.held, fun id deposit found works => ?_⟩, fun task waits => ?_⟩
  · exact rows id (inv.sound.tended id deposit found works)
  · exact (inv.linked task waits).kept (.refl _)

theorem Inv.forget (inv : world.Inv) (kept : rest ⊆ world.tasks) :
    Inv { world with tasks := rest } :=
  ⟨inv.sound, fun task waits => inv.linked task (kept waits)⟩

theorem Inv.step {config : BridgeConfig} (inv : world.Inv)
    (next : Step config interval world world') : world'.Inv := by
  cases next with
  | tick => exact ⟨inv.sound, inv.linked⟩
  | promoted done => exact inv.follow (promote_follows inv.sound done)
  | attempted same =>
    exact inv.follow (.ofSame inv.sound (by rw [same]) (by rw [same]) (by rw [same]))
  | begun kind reads time => exact inv.message (Advance.turn_safe inv.sound kind)
  | answered waiting kept answer reads time =>
    exact (inv.forget kept).message (Advance.resume_safe inv.sound (inv.linked _ waiting) answer)
  | lost kept => exact inv.forget kept
  | busy kind =>
    refine inv.rows fun id present => ?_
    rcases world.canister.jobs.finish_rows _ _ _ present with kept | ⟨_, row, deleted⟩
    · exact kept
    · exact absurd deleted (depositBusy_stays _ _ _ _)
  | claimed key caller limits =>
    exact inv.rows fun id present => manualClaim_rows _ _ _ present
  | refundStarted done =>
    exact inv.follow (claimRefundStart_follows inv.sound done)
  | offered done =>
    exact inv.follow (Advance.apply_follows inv.sound done (by simp [DepositEvent.code]) rfl)
  | minted done =>
    exact inv.follow (Advance.apply_follows inv.sound done (by simp [DepositEvent.code]) rfl)
  | elsewhere event other =>
    refine inv.rows fun id present => occur_rows _ _ _ _ (fun target named => ?_) present
    rintro rfl
    exact other _ named rfl
  | withdrawal change other =>
    rename_i label written
    refine inv.follow (.ofChange inv.sound change ?_ fun id opens => ?_)
    · cases label with
      | withdrawal id event =>
        have phase : event.phaseCode ≠ 3 := by simpa [StoreChange.ofWithdrawal] using other
        exact phase
      | withdrawalHold id holdId resolution =>
        cases resolution <;> first | trivial | exact fun _ _ => trivial
      | withdrawalObserved | withdrawalParked => trivial
      | _ => cases other
    · cases label <;> first | (cases opens; done) | cases other
  | feePayout deposits withdrawals holds =>
    exact inv.follow (.ofSame inv.sound deposits withdrawals holds)

theorem Reaches.inv {config : BridgeConfig} (reached : Reaches config interval world) :
    world.Inv := by
  induction reached with
  | start initial =>
    have empty := initial.settlement
    refine ⟨⟨⟨?_, ?_⟩, ?_⟩, ?_⟩
    · intro id deposit found
      rw [empty] at found
      cases found
    · intro id withdrawal found
      rw [empty] at found
      cases found
    · intro id deposit found
      rw [empty] at found
      cases found
    · intro task waits
      rw [initial.tasks] at waits
      cases waits
  | step _ next ih => exact ih.step next

/-- Deposits with work left keep their job, however the messages interleave; transient failures
of automatic runs keep the row, and stop the job after a fixed number of tries. -/
theorem deposit_work_never_lost (config : BridgeConfig) (interval : Nat) (world : WorkWorld)
    (reached : Reaches config interval world) :
    (∀ id deposit, world.canister.settlement.deposits.get id = some deposit →
      deposit.state.working = true →
      ∃ row, world.canister.jobs.jobs.lookup ⟨.deposit, id⟩ = some row ∧
        ((∃ nextRunAtNs, row.phase = .scheduled nextRunAtNs) ∨
          (∃ leaseUntilNs, row.phase = .leased leaseUntilNs) ∨ row.phase = .stopped)) ∧
    (∀ key row now left, TransientRound interval key row now left → left.isSome = true) ∧
    ∀ key first rounds row, FailingRun interval key first rounds row →
      ∃ delays, BoundedRetries rounds delays := by
  refine ⟨fun id deposit found works => ?_, fun key row now left round => ?_,
    fun key first rounds row run => run.bounded⟩
  · obtain ⟨row, present⟩ :=
      Option.isSome_iff_exists.mp (reached.inv.sound.tended id deposit found works)
    refine ⟨row, present, ?_⟩
    cases row.phase with
    | scheduled nextRunAtNs => exact .inl ⟨nextRunAtNs, rfl⟩
    | leased leaseUntilNs => exact .inr (.inl ⟨leaseUntilNs, rfl⟩)
    | stopped => exact .inr (.inr rfl)
  · obtain ⟨_, next, rfl, _⟩ := round.leaves
    rfl

/-! A promoted deposit whose automatic runs run out of cycles three times. -/

open FundingWorld

def dispatchedWorld : WorkWorld where
  now := 0
  canister := ⟨dispatchedStore, ⟨∅, ⟨0, 0, ∅, ∅⟩, fun _ => some none⟩⟩
  tasks := []

def promotedKey : JobKey := ⟨.deposit, 3⟩

def promotedJobs (row : JobRow) : JobStore :=
  ⟨(∅ : AList fun _ : JobKey => JobRow).insert promotedKey row, ⟨0, 0, ∅, ∅⟩, fun _ => some none⟩

theorem starvedRound {row leased next : JobRow} {now : Nat}
    (granted : (promotedJobs row).perform (.claimDue now now 1) =
      (promotedJobs leased, some ⟨promotedKey, leased⟩))
    (held : ((promotedJobs leased).heldRow ⟨promotedKey, leased⟩).isSome = true)
    (left : ((promotedJobs leased).finish ⟨promotedKey, leased⟩
      (depositOutcome now 60 (promotedJobs leased) ⟨promotedKey, leased⟩
        (.error .insufficientCycles))).jobs.lookup promotedKey = some next) :
    TransientRound 60 promotedKey row now (some next) := by
  have found : (promotedJobs row).jobs.lookup promotedKey = some row := AList.lookup_insert _
  exact left ▸ .failed found granted rfl .claimed held rfl (.deposit rfl)

theorem starvedRun : ∃ rounds stopped,
    FailingRun 60 promotedKey ⟨.scheduled 0, 0, 0, .automatic, none, 0⟩ rounds stopped ∧
      rounds.length = 3 ∧ stopped.phase = .stopped := by
  have first : TransientRound 60 promotedKey ⟨.scheduled 0, 0, 0, .automatic, none, 0⟩ 0
      (some ⟨.scheduled 60000000000, 1, 1, .automatic, none, 0⟩) := starvedRound rfl rfl rfl
  have second : TransientRound 60 promotedKey ⟨.scheduled 60000000000, 1, 1, .automatic, none, 0⟩
      60000000000 (some ⟨.scheduled 180000000000, 2, 2, .automatic, none, 60000000000⟩) :=
    starvedRound rfl rfl rfl
  obtain ⟨stopped, third, phase⟩ : ∃ stopped, TransientRound 60 promotedKey
      ⟨.scheduled 180000000000, 2, 2, .automatic, none, 60000000000⟩ 180000000000
      (some stopped) ∧ stopped.phase = .stopped := ⟨_, starvedRound rfl rfl rfl, rfl⟩
  exact ⟨_, stopped, ((FailingRun.start.failed first).failed second).failed third, rfl, phase⟩

theorem deposit_work_never_lost_promoted :
    ∃ world deposit row rounds stopped delays, Reaches samplePull.config 60 world ∧
      world.canister.settlement.deposits.get 3 = some deposit ∧
      deposit.state = .escrowedUnquoted 0 ∧
      world.canister.jobs.jobs.lookup promotedKey = some row ∧
      FailingRun 60 promotedKey row rounds stopped ∧ stopped.phase = .stopped ∧
      BoundedRetries rounds delays := by
  have start : Reaches samplePull.config 60 dispatchedWorld := .start ⟨rfl, rfl, rfl⟩
  obtain ⟨written, promoted, recorded⟩ : ∃ written,
      dispatchedWorld.canister.promote 0 sampleAttempt (some 0) = .ok written ∧
      (written.settlement.deposits.get 3).map (·.state) = some (.escrowedUnquoted 0) ∧
      written.jobs.jobs.lookup promotedKey = some ⟨.scheduled 0, 0, 0, .automatic, none, 0⟩ :=
    ⟨_, rfl, rfl, rfl⟩
  have reached : Reaches samplePull.config 60 _ := start.step (.promoted promoted)
  obtain ⟨recorded, enqueued⟩ := recorded
  obtain ⟨deposit, found, escrowed⟩ := Option.map_eq_some_iff.mp recorded
  obtain ⟨tended, _, retries⟩ := deposit_work_never_lost _ _ _ reached
  obtain ⟨row, present, _⟩ := tended 3 deposit found (by rw [escrowed]; rfl)
  obtain ⟨rounds, stopped, run, _, phase⟩ := starvedRun
  obtain ⟨delays, bounded⟩ := retries _ _ _ _ run
  cases present.symm.trans enqueued
  exact ⟨_, deposit, _, rounds, stopped, delays, reached, found, escrowed, present, run, phase,
    bounded⟩

end WorkWorld

end KinicBridge
