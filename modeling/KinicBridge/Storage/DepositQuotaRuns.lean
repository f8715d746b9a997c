import KinicBridge.Storage.DepositQuota
import KinicBridge.Storage.Frames
import KinicBridge.Library.Runs

/-! The quota of new deposits over whole runs of the store. Every reservation belongs to a live
attempt, so that each admission is charged and each failed attempt can be taken back. -/
namespace KinicBridge

open DepositAdmissionControl List

structure Reserved (attempts : Table DepositFundingAttempt.id)
    (reservations : List DepositFundingReservation) : Prop where
  distinct : (reservations.map (·.depositId)).Nodup
  attempt : ∀ reservation ∈ reservations, ∃ attempt,
    attempts.get reservation.depositId = some attempt ∧ attempt.intent.caller = reservation.caller
  reservation : ∀ id attempt, attempts.get id = some attempt →
    ∃ reservation ∈ reservations, reservation.depositId = id

namespace StableStore

open DepositAdmissionControl

variable {store next : StableStore}

def admissions (store : StableStore) : StoreOperation → List Charge
  | .prepareAttempt owner attempt quota cyclesSuffice =>
    match store.prepareDepositFundingAttempt owner attempt quota cyclesSuffice with
    | .ok (_, .inserted) => [⟨windowOf quota, owner⟩]
    | _ => []
  | .admitDeposit owner intent record (some quota) none =>
    match store.admitDeposit owner intent record (some quota) none with
    | .ok (_, .inserted) => [⟨windowOf quota, owner⟩]
    | _ => []
  | _ => []

/-- The admission that the end of a failed attempt takes back, in the window it was made in. -/
def returns (store : StableStore) : StoreOperation → List Charge
  | .removeAttempt owner attempt =>
    match store.removeDepositFundingAttempt owner attempt with
    | .ok _ =>
      ((store.admission.fundingReservations.find? (isReservation owner attempt.id)).map
        fun reservation => ⟨reservation.quotaWindowId, owner⟩).toList
    | .error _ => []
  | _ => []

/-- What an operation does to the rate limits, with the admissions it makes and takes back:
nothing, an admission with or without an attempt, the end of a failed attempt, or the promotion
of one. -/
inductive AdmissionStep (store next : StableStore) :
    StoreOperation → List Charge → List Charge → Prop where
  | kept (same : next.admission = store.admission) (attempts : next.attempts = store.attempts) :
      AdmissionStep store next operation [] []
  | updated (same : next.admission = store.admission)
      (stored : store.attempts.get previous.id = some previous)
      (intent : attempt.intent = previous.intent)
      (attempts : next.attempts = store.attempts.put attempt) :
      AdmissionStep store next (.updateAttempt previous attempt) [] []
  | prepared (absent : store.attempts.get attempt.id = none)
      (caller : attempt.intent.caller = owner)
      (reserved : store.admission.consumeDepositQuotaAndReserveFunding owner attempt.id
        attempt.grossAmount quota = .ok next.admission)
      (attempts : next.attempts = store.attempts.put attempt) :
      AdmissionStep store next (.prepareAttempt owner attempt quota cycles)
        [⟨windowOf quota, owner⟩] []
  | removed (stored : store.attempts.get attempt.id = some attempt)
      (found : store.admission.fundingReservations.find? (isReservation owner attempt.id) =
        some reservation)
      (returned : store.admission.rollbackFailedDepositAdmission owner attempt.id =
        .ok next.admission)
      (attempts : next.attempts = store.attempts.remove attempt.id) :
      AdmissionStep store next (.removeAttempt owner attempt) []
        [⟨reservation.quotaWindowId, owner⟩]
  | promoted (stored : store.attempts.get promotion.1.id = some promotion.1)
      (released : store.admission.releaseDepositFundingReservation owner promotion.1.id =
        .ok next.admission)
      (attempts : next.attempts = store.attempts.remove promotion.1.id) :
      AdmissionStep store next (.admitDeposit owner intent record (some quota) (some promotion))
        [] []
  | admitted (charged : store.admission.consumeDepositQuota owner quota = .ok next.admission)
      (attempts : next.attempts = store.attempts) :
      AdmissionStep store next (.admitDeposit owner intent record (some quota) none)
        [⟨windowOf quota, owner⟩] []

theorem prepare_inserted {funding after : FundingStore}
    (prepared : funding.prepareDepositFundingAttempt owner attempt = .ok (after, .inserted)) :
    funding.attempts.get attempt.id = none ∧ attempt.intent.caller = owner ∧
      after.attempts = funding.attempts.put attempt := by
  unfold FundingStore.prepareDepositFundingAttempt at prepared
  split at prepared
  · cases prepared
  split at prepared
  · split at prepared <;> cases prepared
  rename_i absent
  split at prepared
  · cases prepared
  rename_i agrees
  split at prepared
  · cases prepared
  split at prepared
  · cases prepared
  obtain ⟨_, -, written⟩ := map_ok.mp prepared
  cases written
  simp only [not_or, not_not] at agrees
  exact ⟨absent, agrees.1, rfl⟩

theorem prepare_step
    (written : store.prepareDepositFundingAttempt owner attempt quota cycles = .ok (next, outcome)) :
    AdmissionStep store next (.prepareAttempt owner attempt quota cycles)
      (store.admissions (.prepareAttempt owner attempt quota cycles)) [] := by
  have answer := written
  simp only [prepareDepositFundingAttempt, bind_ok] at written
  obtain ⟨_, -, ⟨funding, _⟩, prepared, written⟩ := written
  simp only at written
  split at written
  · cases pure_ok.mp written
    rw [admissions, answer]
    exact .kept rfl rfl
  · simp only [bind_ok, pure_ok] at written
    obtain ⟨admission, reserved, _, -, _, -, _, -, written⟩ := written
    cases written
    obtain ⟨absent, caller, attempts⟩ := prepare_inserted prepared
    rw [admissions, answer]
    exact .prepared absent caller reserved attempts

theorem rollback_found {control after : DepositAdmissionControl}
    (returned : control.rollbackFailedDepositAdmission owner depositId = .ok after) :
    ∃ reservation, control.fundingReservations.find? (isReservation owner depositId) =
      some reservation := by
  obtain ⟨reservation, found, -⟩ := bind_ok.mp returned
  exact ⟨reservation, okOr_ok.mp found⟩

theorem remove_step (written : store.removeDepositFundingAttempt owner attempt = .ok next) :
    AdmissionStep store next (.removeAttempt owner attempt) []
      (store.returns (.removeAttempt owner attempt)) := by
  have answer := written
  simp only [removeDepositFundingAttempt, bind_ok, pure_ok] at written
  obtain ⟨admission, returned, funding, removed, _, -, _, -, rfl⟩ := written
  obtain ⟨stored, rfl⟩ := FundingStore.removeDepositFundingAttempt_ok removed
  obtain ⟨reservation, found⟩ := rollback_found returned
  simp only [returns, answer, found]
  exact .removed stored found returned rfl

theorem update_step (written : store.updateDepositFundingAttempt previous attempt = .ok next) :
    AdmissionStep store next (.updateAttempt previous attempt) [] [] := by
  simp only [updateDepositFundingAttempt, bind_ok, pure_ok] at written
  obtain ⟨funding, updated, rfl⟩ := written
  have intent : attempt.intent = previous.intent := by
    unfold FundingStore.updateDepositFundingAttempt at updated
    split at updated
    · cases updated
    next agrees =>
      exact (not_not.mp (not_or.mp agrees).1).symm
  obtain ⟨-, -, -, stored, rfl⟩ := FundingStore.updateDepositFundingAttempt_ok updated
  exact .updated rfl stored intent rfl

theorem writeAdmission_same {promotion : Option Promotion} {admission : DepositAdmissionControl}
    (absent : store.settlement.deposits.get record.id = none)
    (named : ∀ attempt ∈ promotion.map Prod.fst, attempt.id = record.id)
    (written : store.writeAdmission intent record promotion admission = .ok next) :
    next.admission = admission ∧ match promotion with
      | none => next.attempts = store.attempts
      | some promotion => store.attempts.get promotion.1.id = some promotion.1 ∧
          next.attempts = store.attempts.remove promotion.1.id := by
  simp only [writeAdmission, bind_ok, pure_ok] at written
  obtain ⟨funding, admitted, _, -, _, -, _, -, _, -, _, -, rfl⟩ := written
  refine ⟨rfl, ?_⟩
  cases promotion with
  | none =>
    simp only [writeAdmitted, writeUnfunded, bind_ok, pure_ok] at admitted
    obtain ⟨_, -, _, -, _, -, rfl⟩ := admitted
    rfl
  | some promotion =>
    have promoted := FundingStore.writePromotion_ok (named promotion.1 rfl) absent admitted
    exact ⟨promoted.current, promoted.attempts⟩

theorem admit_step
    (written : store.admitDeposit owner intent record quota promotion = .ok (next, outcome)) :
    AdmissionStep store next (.admitDeposit owner intent record quota promotion)
      (store.admissions (.admitDeposit owner intent record quota promotion)) [] := by
  have answer := written
  unfold admitDeposit at written
  split at written
  · split at written <;> cases written
    have free : store.admissions (.admitDeposit owner intent record quota promotion) = [] := by
      cases promotion with
      | some promotion => cases quota <;> rfl
      | none =>
        cases quota with
        | none => rfl
        | some quota => rw [admissions, answer]
    rw [free]
    exact .kept rfl rfl
  rename_i absent
  simp only [bind_ok, pure_ok] at written
  obtain ⟨_, matching, _, fits, admission, charged, _, -, after, admitted, same⟩ := written
  cases same
  have id := (not_or.mp (refuseIf_ok.mp matching)).1
  have named : ∀ attempt ∈ promotion.map Prod.fst, attempt.id = record.id := by
    intro attempt member
    obtain ⟨pair, rfl, rfl⟩ := Option.map_eq_some_iff.mp member
    have agrees := refuseIf_ok.mp fits
    simp only [Option.any_some, Bool.or_eq_true, decide_eq_true_eq, not_or, not_not] at agrees
    rw [DepositFundingAttempt.id, agrees.1.1.1]
    exact not_not.mp id
  obtain ⟨rfl, attempts⟩ := writeAdmission_same absent named admitted
  cases promotion with
  | none =>
    cases quota with
    | none => exact .kept (Except.ok.inj charged).symm attempts
    | some quota =>
      simp only [Option.map_none, admitQuota] at charged
      split at charged
      · cases charged
      · rw [admissions, answer]
        exact .admitted charged attempts
  | some promotion =>
    cases quota with
    | none => cases charged
    | some quota => exact .promoted attempts.1 charged attempts.2

theorem transact_step {operation : StoreOperation} (written : store.transact operation = .ok next) :
    AdmissionStep store next operation (store.admissions operation) (store.returns operation) := by
  cases moves : movesAttempts operation with
  | false =>
    have same := transact_same moves written
    cases operation <;> first | exact .kept same.1 same.2 | cases moves
  | true =>
    cases operation with
    | prepareAttempt =>
      obtain ⟨⟨_, _⟩, prepared, rfl⟩ := map_ok.mp written
      exact prepare_step prepared
    | updateAttempt => exact update_step written
    | removeAttempt => exact remove_step written
    | admitDeposit =>
      obtain ⟨⟨_, _⟩, admitted, rfl⟩ := map_ok.mp written
      exact admit_step admitted
    | _ => cases moves

end StableStore

section Reserved

variable {attempts : Table DepositFundingAttempt.id} {reservations : List DepositFundingReservation}
  {attempt : DepositFundingAttempt} {owner : List UInt8}

section

variable (reserved : Reserved attempts reservations)

include reserved

theorem Reserved.absent (absent : attempts.get depositId = none) :
    ∀ reservation ∈ reservations, reservation.depositId ≠ depositId := by
  rintro reservation member rfl
  obtain ⟨attempt, stored, -⟩ := reserved.attempt reservation member
  rw [absent] at stored
  cases stored

theorem Reserved.put
    (absent : attempts.get attempt.id = none) {reservation : DepositFundingReservation}
    (named : reservation.depositId = attempt.id)
    (caller : attempt.intent.caller = reservation.caller) :
    Reserved (attempts.put attempt) (reservations ++ [reservation]) := by
  have others := reserved.absent absent
  refine ⟨?_, ?_, ?_⟩
  · rw [map_append, nodup_append]
    refine ⟨reserved.distinct, nodup_singleton _, ?_⟩
    simpa [named] using others
  · rw [forall_mem_append, forall_mem_singleton]
    refine ⟨fun other member => ?_, attempt, ?_, caller⟩
    · obtain ⟨found, stored, same⟩ := reserved.attempt other member
      exact ⟨found, by rwa [Table.get_put_of_ne (others other member)], same⟩
    · rw [named, Table.get_put_self]
  · intro id stored found
    rcases Table.get_put_cases found with ⟨rfl, rfl⟩ | ⟨other, found⟩
    · exact ⟨reservation, by simp, named⟩
    · obtain ⟨old, member, same⟩ := reserved.reservation id stored found
      exact ⟨old, mem_append_left _ member, same⟩

theorem Reserved.update {previous : DepositFundingAttempt}
    (stored : attempts.get previous.id = some previous) (intent : attempt.intent = previous.intent) :
    Reserved (attempts.put attempt) reservations := by
  have named : attempt.id = previous.id := by simp only [DepositFundingAttempt.id, intent]
  refine ⟨reserved.distinct, fun reservation member => ?_, fun id found present => ?_⟩
  · obtain ⟨old, present, same⟩ := reserved.attempt reservation member
    by_cases own : reservation.depositId = attempt.id
    · refine ⟨attempt, by rw [own, Table.get_put_self], ?_⟩
      rw [own, named, stored] at present
      cases present
      rw [intent, same]
    · exact ⟨old, by rwa [Table.get_put_of_ne own], same⟩
  · rcases Table.get_put_cases present with ⟨rfl, rfl⟩ | ⟨-, present⟩
    · rw [named]
      exact reserved.reservation previous.id previous stored
    · exact reserved.reservation id found present

theorem Reserved.remove {reservation : DepositFundingReservation} {depositId : Bytes32}
    (found : reservations.find? (isReservation owner depositId) = some reservation) :
    Reserved (attempts.remove depositId) (reservations.eraseP (isReservation owner depositId)) := by
  obtain ⟨holds, front, back, whole, before⟩ := find?_eq_some_iff_append.mp found
  have erased : reservations.eraseP (isReservation owner depositId) = front ++ back := by
    rw [whole, eraseP_append_right _ (by simpa using before), eraseP_cons_of_pos holds]
  have named : reservation.depositId = depositId := by
    simp only [isReservation, Bool.and_eq_true, decide_eq_true_eq] at holds
    exact holds.1
  have distinct := reserved.distinct
  rw [whole, map_append, map_cons, nodup_middle, ← map_append, nodup_cons, named] at distinct
  rw [erased]
  refine ⟨distinct.2, fun other member => ?_, fun id attempt present => ?_⟩
  · have apart : other.depositId ≠ depositId := fun same =>
      distinct.1 (mem_map.mpr ⟨other, member, same⟩)
    obtain ⟨attempt, stored, same⟩ := reserved.attempt other (by
      rw [whole]
      simp only [mem_append, mem_cons] at member ⊢
      tauto)
    exact ⟨attempt, by rwa [Table.get_remove_of_ne apart], same⟩
  · obtain ⟨apart, stored⟩ := Table.get_remove_cases present
    obtain ⟨other, member, same⟩ := reserved.reservation id attempt stored
    refine ⟨other, ?_, same⟩
    rw [whole, mem_append, mem_cons] at member
    have notOwn : other ≠ reservation := by
      rintro rfl
      exact apart (same.symm.trans named)
    rw [mem_append]
    tauto

end

end Reserved

structure DepositRateLimit where
  windowSeconds : Nat
  globalLimit : Nat
  perPrincipalLimit : Nat
  deriving DecidableEq

def DepositRateLimit.quotaAt (limit : DepositRateLimit) (nowNs : Nat) : DepositQuotaAdmission :=
  ⟨nowNs, limit.windowSeconds, limit.globalLimit, limit.perPrincipalLimit⟩

def StoreOperation.quota : StoreOperation → Option DepositQuotaAdmission
  | .prepareAttempt _ _ quota _ => some quota
  | .admitDeposit _ _ _ (some quota) none => some quota
  | _ => none

def StoreOperation.quotaTime (operation : StoreOperation) : Option Nat :=
  operation.quota.map (·.nowNs)

/-- The store with what was admitted so far and what was taken back. -/
structure DepositQuotaWorld where
  store : StableStore
  admitted : List DepositAdmissionControl.Charge
  returned : List DepositAdmissionControl.Charge

namespace DepositQuotaWorld

open DepositAdmissionControl StableStore

variable {limit : DepositRateLimit} {nowNs : Nat} {world : DepositQuotaWorld}

def perform (world : DepositQuotaWorld) (operation : StoreOperation) : DepositQuotaWorld :=
  match world.store.transact operation with
  | .ok next => ⟨next, world.store.admissions operation ++ world.admitted,
      world.store.returns operation ++ world.returned⟩
  | .error _ => world

structure Kept (limit : DepositRateLimit) (nowNs : Nat) (world : DepositQuotaWorld) : Prop where
  exact : Exact limit.globalLimit limit.perPrincipalLimit world.store.admission world.admitted
    world.returned
  reached : world.store.admission.windowId ≤ windowOf (limit.quotaAt nowNs)
  reserved : Reserved world.store.attempts world.store.admission.fundingReservations

variable {control : DepositAdmissionControl} {quota : DepositQuotaAdmission}
  {operation : StoreOperation}

theorem consumed_window {next : DepositAdmissionControl}
    (consumed : control.consumeDepositQuota owner quota = .ok next) :
    next.windowId = windowOf quota ∧ next.fundingReservations = control.fundingReservations := by
  obtain ⟨-, -, _, rfl, -⟩ := consumeDepositQuota_ok consumed
  refine ⟨enterWindow_windowId control _, ?_⟩
  simp only [enterWindow]
  split <;> rfl

theorem reserve_ok {next : DepositAdmissionControl}
    (unreserved : ∀ reservation ∈ control.fundingReservations, reservation.depositId ≠ depositId)
    (reserved : control.consumeDepositQuotaAndReserveFunding owner depositId mintAmount quota =
      .ok next) : ∃ consumed, control.consumeDepositQuota owner quota = .ok consumed ∧
      next = { consumed with fundingReservations := consumed.fundingReservations ++
        [⟨depositId, owner, mintAmount, consumed.windowId, true⟩] } := by
  unfold consumeDepositQuotaAndReserveFunding at reserved
  split at reserved
  next present =>
    simp only [any_eq_true, decide_eq_true_eq] at present
    obtain ⟨reservation, member, same⟩ := present
    exact absurd same (unreserved reservation member)
  · simp only [bind_ok, pure_ok] at reserved
    obtain ⟨_, -, _, -, consumed, charged, rfl⟩ := reserved
    exact ⟨consumed, charged, rfl⟩

theorem Kept.step {next : StableStore} (kept : world.Kept limit nowNs)
    (limited : ∀ quota ∈ operation.quota, quota = limit.quotaAt nowNs)
    (step : AdmissionStep world.store next operation made taken) :
    Kept limit nowNs ⟨next, made ++ world.admitted, taken ++ world.returned⟩ := by
  cases step with
  | kept same attempts =>
    refine ⟨same ▸ kept.exact, same ▸ kept.reached, ?_⟩
    rw [same, attempts]
    exact kept.reserved
  | updated same stored intent attempts =>
    refine ⟨same ▸ kept.exact, same ▸ kept.reached, ?_⟩
    rw [same, attempts]
    exact kept.reserved.update stored intent
  | prepared absent caller reserved attempts =>
    obtain rfl := limited _ rfl
    obtain ⟨consumed, charged, control⟩ := reserve_ok (kept.reserved.absent absent) reserved
    obtain ⟨window, reservations⟩ := consumed_window charged
    refine ⟨?_, ?_, ?_⟩
    · rw [control]
      exact kept.exact.reserve kept.reached charged rfl rfl rfl
    · rw [control, window]
    · rw [control, attempts, reservations]
      exact kept.reserved.put absent rfl caller
  | removed stored found returned attempts =>
    obtain ⟨control, rolled, window, reservations, exact, -⟩ := kept.exact.rollback found
    cases rolled.symm.trans returned
    refine ⟨exact, window.trans_le kept.reached, ?_⟩
    rw [attempts, reservations]
    exact kept.reserved.remove found
  | promoted stored released attempts =>
    obtain ⟨_, present, same⟩ := bind_ok.mp released
    have control := pure_ok.mp same
    obtain ⟨reservation, found⟩ : ∃ reservation,
        world.store.admission.fundingReservations.find? _ = some reservation :=
      Option.ne_none_iff_exists'.mp (by simpa using refuseIf_ok.mp present)
    refine ⟨?_, ?_, ?_⟩
    · rw [← control]
      exact kept.exact.release _
    · rw [← control]
      exact kept.reached
    · rw [attempts, ← control]
      exact kept.reserved.remove found
  | admitted charged attempts =>
    obtain rfl := limited _ rfl
    obtain ⟨window, reservations⟩ := consumed_window charged
    refine ⟨kept.exact.consume kept.reached charged, window.le, ?_⟩
    rw [attempts, reservations]
    exact kept.reserved

structure Fresh (world : DepositQuotaWorld) : Prop where
  admission : world.store.admission = .empty
  attempts : world.store.attempts = .empty
  admitted : world.admitted = []
  returned : world.returned = []

theorem Fresh.kept (fresh : world.Fresh) (limit : DepositRateLimit) (nowNs : Nat) :
    world.Kept limit nowNs := by
  refine ⟨?_, ?_, ?_⟩
  · rw [fresh.admission, fresh.admitted, fresh.returned]
    refine ⟨⟨nodup_nil, by simp [empty]⟩, rfl, by simp [Windows.Past],
      by simp [Windows.Past], rfl, fun caller => rfl, Nat.zero_le _, fun caller => Nat.zero_le _,
      by simp [empty], fun caller => le_rfl⟩
  · rw [fresh.admission]
    exact Nat.zero_le _
  · rw [fresh.admission, fresh.attempts]
    exact ⟨nodup_nil, by simp [empty], by simp [Table.empty]⟩

theorem Kept.perform (kept : world.Kept limit nowNs)
    (limited : ∀ quota ∈ operation.quota, quota = limit.quotaAt quota.nowNs)
    (timed : ∀ time ∈ operation.quotaTime, time = nowNs) :
    (world.perform operation).Kept limit nowNs := by
  unfold DepositQuotaWorld.perform
  split
  next next written =>
    refine kept.step (fun quota charged => ?_) (transact_step written)
    have now := timed quota.nowNs (Option.mem_map_of_mem _ charged)
    rw [← now]
    exact limited quota charged
  · exact kept

theorem Kept.attempt_reserved {id : Bytes32} (kept : world.Kept limit nowNs)
    (stored : world.store.attempts.get id = some attempt) :
    ∃ reservation, world.store.admission.fundingReservations.find?
      (isReservation attempt.intent.caller id) = some reservation := by
  obtain ⟨reservation, member, rfl⟩ := kept.reserved.reservation id attempt stored
  obtain ⟨found, present, caller⟩ := kept.reserved.attempt reservation member
  cases stored.symm.trans present
  refine Option.ne_none_iff_exists'.mp fun absent => ?_
  have other := find?_eq_none.mp absent reservation member
  simp [isReservation, caller] at other

/-- Over every run of the store at nondecreasing times the counts are the admissions of the
window without those of the same window that were taken back, and within the limits. A live
attempt can always be taken back, and outside its window that changes no count. -/
theorem deposit_quota_exact (limit : DepositRateLimit) (start : DepositQuotaWorld)
    (fresh : start.Fresh) (operations : List StoreOperation)
    (limited : ∀ operation ∈ operations, ∀ quota ∈ operation.quota,
      quota = limit.quotaAt quota.nowNs)
    (ordered : Runs.Ordered StoreOperation.quotaTime operations) (n nowNs : Nat)
    (reached : Runs.Reached StoreOperation.quotaTime operations n nowNs) :
    let world := Runs.stateAt perform start operations n
    let control := world.store.admission
    (control.globalCount + chargedIn control.windowId world.returned =
        chargedIn control.windowId world.admitted ∧
      (∀ caller, control.callerCount caller + chargedTo control.windowId caller world.returned =
        chargedTo control.windowId caller world.admitted) ∧
      totalOf control.callerCounts = control.globalCount ∧
      control.globalCount ≤ limit.globalLimit ∧
      ∀ caller, control.callerCount caller ≤ limit.perPrincipalLimit) ∧
    (∀ owner id, control.rollbackFailedDepositAdmission owner id = .error .recordNotFound ∨
      ∃ next, control.rollbackFailedDepositAdmission owner id = .ok next) ∧
    (∀ id attempt, world.store.attempts.get id = some attempt →
      ∃ next, control.rollbackFailedDepositAdmission attempt.intent.caller id = .ok next) ∧
    ∀ owner id reservation next,
      control.fundingReservations.find? (isReservation owner id) = some reservation →
      control.rollbackFailedDepositAdmission owner id = .ok next →
      reservation.quotaWindowId ≠ control.windowId →
      next.windowId = control.windowId ∧ next.globalCount = control.globalCount ∧
        next.callerCounts = control.callerCounts := by
  intro world control
  have kept : world.Kept limit nowNs := by
    refine Runs.Ordered.induction (P := fun nowNs world => Kept limit nowNs world) ordered
      (fresh.kept limit) ?_ ?_ n nowNs reached
    · intro world nowNs later passed kept
      exact ⟨kept.exact, kept.reached.trans (Nat.div_le_div_right passed), kept.reserved⟩
    · intro n operation nowNs input timed kept
      exact kept.perform (limited operation (List.mem_of_getElem? input)) timed
  have exact := kept.exact
  refine ⟨⟨exact.globalCount, exact.callers, exact.total, exact.globalLimit, exact.callerLimit⟩,
    fun owner id => ?_, fun id attempt stored => ?_, fun owner id reservation next found rolled
    other => ?_⟩
  · cases found : control.fundingReservations.find? (isReservation owner id) with
    | none =>
      refine .inl ?_
      simp only [rollbackFailedDepositAdmission, found]
      rfl
    | some reservation =>
      obtain ⟨next, rolled, -⟩ := exact.rollback found
      exact .inr ⟨next, rolled⟩
  · obtain ⟨reservation, found⟩ := kept.attempt_reserved stored
    obtain ⟨next, rolled, -⟩ := exact.rollback found
    exact ⟨next, rolled⟩
  · obtain ⟨after, taken, window, -, -, same⟩ := exact.rollback found
    cases taken.symm.trans rolled
    exact ⟨window, same other⟩

def retriedAttempt : DepositFundingAttempt :=
  ⟨⟨3, [1], 0, 2, 0, 7⟩, 1000, 200,
    BridgeConfig.pullIdentity ⟨⟨[9], 0, owner_nine_valid⟩, [8], 100, fun _ => 5, 8453⟩ 0
      ⟨3, [1], 0, 2, 0, 7⟩ 1000 (by decide), .prepared, 0, 0, none⟩

def retriedLimit : DepositRateLimit := ⟨60, 10, 2⟩

def retriedOperations : List StoreOperation := [
  .prepareAttempt [1] retriedAttempt (retriedLimit.quotaAt 5) true,
  .removeAttempt [1] retriedAttempt,
  .prepareAttempt [1] retriedAttempt (retriedLimit.quotaAt 9) true]

def retriedStart : DepositQuotaWorld :=
  ⟨{ StableStore.fresh with admin := ⟨false, none⟩ }, [], []⟩

theorem deposit_quota_exact_retried :
    let world := Runs.stateAt perform retriedStart retriedOperations 3
    retriedStart.Fresh ∧ world.admitted.length = 2 ∧ world.returned.length = 1 ∧
      world.store.admission.globalCount = 1 ∧
      world.store.admission.globalCount +
        chargedIn world.store.admission.windowId world.returned =
          chargedIn world.store.admission.windowId world.admitted := by
  have fresh : retriedStart.Fresh := ⟨rfl, rfl, rfl, rfl⟩
  have limited : ∀ operation ∈ retriedOperations, ∀ quota ∈ operation.quota,
      quota = retriedLimit.quotaAt quota.nowNs := by decide
  have exact := deposit_quota_exact retriedLimit retriedStart fresh retriedOperations limited
    (by decide) 3 9 (by decide)
  exact ⟨fresh, by decide +kernel, by decide +kernel, by decide +kernel, exact.1.1⟩

end DepositQuotaWorld

end KinicBridge
