import KinicBridge.Jobs.Quota
import KinicBridge.Jobs.Lanes

/-! What the settlement quota counts: in its window, the reservations and the claims that were
granted without one. Reserving and claiming later costs what claiming at once costs. -/
namespace KinicBridge

open Checked Windows

def countOf [DecidableEq κ] (counts : AList fun _ : κ => Nat) (key : κ) : Nat :=
  (counts.lookup key).getD 0

theorem bumpCount_ok [DecidableEq κ] {counts next : AList fun _ : κ => Nat}
    (bumped : bumpCount counts key message = .ok next) (other : κ) :
    countOf next other = countOf counts other + (decide (key = other)).toNat := by
  obtain ⟨count, added, rfl⟩ := map_ok.mp bumped
  have sum := (add_eq_some.mp (okOr_ok.mp added)).1
  by_cases same : key = other
  · subst same
    simp [countOf, ← sum]
  · simp [countOf, same, AList.lookup_insert_ne (Ne.symm same)]

namespace SettlementAdmissionControl

def entered (admission : SettlementAdmissionControl) (windowId : Nat) :
    SettlementAdmissionControl :=
  if admission.windowId ≠ windowId then ⟨windowId, 0, ∅, ∅⟩ else admission

variable {admission next : SettlementAdmissionControl} {limits : SettlementQuotaLimits}
  {claim : ManualClaim}

section

variable (admission : SettlementAdmissionControl)

def Full (limits : SettlementQuotaLimits) (caller : List UInt8) (key : JobKey) : Prop :=
  limits.globalLimit ≤ admission.globalCount ∨
    limits.perPrincipal ≤ countOf admission.callerCounts caller ∨
    limits.perRecord ≤ countOf admission.recordCounts key

def raised (windowId : Nat) (caller : List UInt8)
    (key : JobKey) : Except DbError SettlementAdmissionControl := do
  let globalCount ← okOr (.constraint "settlement quota overflow")
    (add 16 admission.globalCount 1)
  let callerCounts ← bumpCount admission.callerCounts caller "caller quota overflow"
  let recordCounts ← bumpCount admission.recordCounts key "record quota overflow"
  return ⟨windowId, globalCount, callerCounts, recordCounts⟩

end

theorem charge_cases (admission : SettlementAdmissionControl) (limits : SettlementQuotaLimits)
    (claim : ManualClaim) :
    let windowId := claim.nowNs / limits.windowNs
    ((admission.entered windowId).Full limits claim.caller claim.key ∧
        ∃ retryAfter, admission.charge limits claim = .ok (.inl retryAfter)) ∨
      (¬(admission.entered windowId).Full limits claim.caller claim.key ∧
        admission.charge limits claim =
          ((admission.entered windowId).raised windowId claim.caller claim.key).map .inr) := by
  intro windowId
  by_cases full : (admission.entered windowId).Full limits claim.caller claim.key
  · exact .inl ⟨full, _, if_pos full⟩
  · refine .inr ⟨full, (if_neg full).trans ?_⟩
    simp only [raised, map_bind]
    rfl

theorem charge_eq_inr (paid : admission.charge limits claim = .ok (.inr next)) :
    let windowId := claim.nowNs / limits.windowNs
    ¬(admission.entered windowId).Full limits claim.caller claim.key ∧
      (admission.entered windowId).raised windowId claim.caller claim.key = .ok next := by
  rcases charge_cases admission limits claim with ⟨-, retryAfter, answer⟩ | ⟨room, answer⟩
  · rw [answer] at paid
    cases paid
  · rw [answer] at paid
    obtain ⟨_, raised, same⟩ := map_ok.mp paid
    cases same
    exact ⟨room, raised⟩

theorem charge_congr {other : ManualClaim} (paid : admission.charge limits claim = .ok (.inr next))
    (window : claim.nowNs / limits.windowNs = other.nowNs / limits.windowNs)
    (caller : claim.caller = other.caller) (key : claim.key = other.key) :
    admission.charge limits other = .ok (.inr next) := by
  obtain ⟨room, raised⟩ := charge_eq_inr paid
  rw [window, caller, key] at room raised
  rcases charge_cases admission limits other with ⟨full, -⟩ | ⟨-, answer⟩
  · exact absurd full room
  · rw [answer, raised]
    rfl

/-- The counts are what was charged to the current window, and no window was overcharged. -/
structure Exact (limits : SettlementQuotaLimits) (admission : SettlementAdmissionControl)
    (charges : List SettlementCharge) : Prop where
  past : Windows.Past (·.windowId) admission.windowId charges
  globalCount : admission.globalCount =
    charged (·.windowId) admission.windowId (fun _ => true) charges
  callers : ∀ caller, countOf admission.callerCounts caller =
    charged (·.windowId) admission.windowId (decide <| ·.caller = caller) charges
  records : ∀ key, countOf admission.recordCounts key =
    charged (·.windowId) admission.windowId (decide <| ·.key = key) charges
  globalLimit : ∀ windowId,
    charged (·.windowId) windowId (fun _ => true) charges ≤ limits.globalLimit
  callerLimit : ∀ caller windowId,
    charged (·.windowId) windowId (decide <| ·.caller = caller) charges ≤ limits.perPrincipal
  recordLimit : ∀ key windowId,
    charged (·.windowId) windowId (decide <| ·.key = key) charges ≤ limits.perRecord

theorem Exact.enter {windowId : Nat} (exact : Exact limits admission charges)
    (later : admission.windowId ≤ windowId) :
    Exact limits (admission.entered windowId) charges := by
  by_cases same : admission.windowId = windowId
  · have stays : admission.entered windowId = admission := by simp [entered, same]
    rwa [stays]
  · have resets : admission.entered windowId = ⟨windowId, 0, ∅, ∅⟩ := by simp [entered, same]
    have newer : admission.windowId < windowId := Nat.lt_of_le_of_ne later same
    rw [resets]
    exact { exact with
      past := exact.past.later later
      globalCount := (exact.past.charged_eq_zero newer).symm
      callers := fun caller => (exact.past.charged_eq_zero newer).symm
      records := fun key => (exact.past.charged_eq_zero newer).symm }

theorem entered_windowId (admission : SettlementAdmissionControl) (windowId : Nat) :
    (admission.entered windowId).windowId = windowId := by
  unfold entered
  split
  · rfl
  next same =>
    exact not_not.mp same

theorem Exact.raised {caller : List UInt8} {key : JobKey} (exact : Exact limits admission charges)
    (room : ¬admission.Full limits caller key)
    (raised : admission.raised admission.windowId caller key = .ok next) :
    Exact limits next (⟨admission.windowId, caller, key⟩ :: charges) := by
  obtain ⟨globalCount, counted, raised⟩ := found_ok.mp raised
  obtain ⟨callerCounts, callers, raised⟩ := bind_ok.mp raised
  obtain ⟨recordCounts, records, rfl⟩ := returned_ok.mp raised
  have sum := (add_eq_some.mp counted).1
  obtain ⟨globalRoom, callerRoom, recordRoom⟩ : admission.globalCount < limits.globalLimit ∧
        countOf admission.callerCounts caller < limits.perPrincipal ∧
        countOf admission.recordCounts key < limits.perRecord := by
    simpa [Full] using room
  refine ⟨exact.past.cons le_rfl, ?_, fun other => ?_, fun other => ?_, ?_, fun other => ?_,
    fun other => ?_⟩
  · rw [charged_cons, ← exact.globalCount]
    simpa using sum.symm
  · rw [bumpCount_ok callers, charged_cons, exact.callers]
    simp
  · rw [bumpCount_ok records, charged_cons, exact.records]
    simp
  · refine charged_le_cons _ exact.globalLimit fun _ => ?_
    rwa [← exact.globalCount]
  · refine charged_le_cons _ (exact.callerLimit other) fun same => ?_
    rwa [← exact.callers, ← of_decide_eq_true same]
  · refine charged_le_cons _ (exact.recordLimit other) fun same => ?_
    rwa [← exact.records, ← of_decide_eq_true same]

theorem Exact.charge (exact : Exact limits admission charges)
    (later : admission.windowId ≤ claim.nowNs / limits.windowNs)
    (paid : admission.charge limits claim = .ok (.inr next)) :
    Exact limits next (⟨claim.nowNs / limits.windowNs, claim.caller, claim.key⟩ :: charges) := by
  obtain ⟨room, raised⟩ := charge_eq_inr paid
  have entered := exact.enter later
  have done := entered.raised room (by rwa [entered_windowId])
  rwa [entered_windowId] at done

theorem charge_windowId (paid : admission.charge limits claim = .ok (.inr next)) :
    next.windowId = claim.nowNs / limits.windowNs := by
  obtain ⟨-, raised⟩ := charge_eq_inr paid
  obtain ⟨_, -, raised⟩ := bind_ok.mp raised
  obtain ⟨_, -, raised⟩ := bind_ok.mp raised
  obtain ⟨_, -, rfl⟩ := returned_ok.mp raised
  rfl

end SettlementAdmissionControl

theorem claim_answered {store next : JobStore} {claim : ManualClaim}
    (claimed : store.claimSettlementJobTransaction claim = .ok (outcome, next))
    (answered : manualClaimOutcome outcome = .ok answer) :
    (answer.isGranted = false ∧ outcome.grantedJob = none ∧ next = store) ∨
      (answer.isGranted = true ∧ outcome.grantedJob.isSome = true ∧ ∃ left,
        store.chargeQuota claim = .ok (.inr left) ∧ next.admission = left) := by
  cases claimSettlementJobTransaction_step claimed with
  | denied nothing =>
    refine .inl ⟨?_, nothing, rfl⟩
    cases outcome with
    | claimed => cases nothing
    | rateLimited => cases answered
    | automaticProgressPending | busy =>
      cases answered
      rfl
  | granted allowed charged =>
    cases answered
    exact .inr ⟨rfl, rfl, _, charged, rfl⟩

theorem startRefund_ok {jobs next : JobStore} {records written : StableStore}
    (started : putDepositTransitionAndClaimManualJob jobs records value result context quota =
      .ok (answer, next, written)) : ∃ prepared limits outcome,
      records.prepareDeposit value (some result) = .ok prepared ∧
      quota.intoLimits context.key context.caller = .ok limits ∧
      jobs.claimSettlementJobTransaction (context.claim limits .publicManual) =
        .ok (outcome, next) ∧ manualClaimOutcome outcome = .ok answer ∧
      if outcome.grantedJob.isNone then written = records
      else prepared.commit value = .ok written := by
  obtain ⟨prepared, checked, started⟩ := bind_ok.mp started
  obtain ⟨limits, priced, started⟩ := bind_ok.mp started
  obtain ⟨⟨outcome, after⟩, transacted, started⟩ := bind_ok.mp started
  obtain ⟨reply, answered, started⟩ := bind_ok.mp started
  refine ⟨prepared, limits, outcome, orError_ok.mp checked, orError_ok.mp priced, ?_⟩
  cases denied : outcome.grantedJob.isNone with
  | true =>
    simp only [denied, if_true] at started
    obtain ⟨⟩ := pure_ok.mp started
    exact ⟨orError_ok.mp transacted, answered, rfl⟩
  | false =>
    simp only [denied] at started
    obtain ⟨_, wrote, ⟨⟩⟩ := returned_ok.mp started
    exact ⟨orError_ok.mp transacted, answered, orError_ok.mp wrote⟩

namespace QuotaWorld

variable {limits : SettlementQuotaLimits} {world : QuotaWorld} {nowNs : Nat}

section

variable (charges : List SettlementCharge)

def paidFor (reservation : PrepaidQuota) : Nat :=
  charges.countP fun charge => charge.key = reservation.key ∧ charge.caller = reservation.caller

/-- The counts are exact, and what was granted or is still reserved has been charged. -/
structure Kept (limits : SettlementQuotaLimits) (nowNs : Nat) (world : QuotaWorld) : Prop where
  exact : world.jobs.admission.Exact limits world.charges
  reached : world.jobs.admission.windowId ≤ nowNs / limits.windowNs
  paid : ∀ reservation, world.grants.count reservation + world.held.count reservation ≤
    paidFor world.charges reservation

theorem paidFor_cons (windowId : Nat) (caller : List UInt8)
    (key : JobKey) (reservation : PrepaidQuota) :
    paidFor (⟨windowId, caller, key⟩ :: charges) reservation =
      paidFor charges reservation + if ⟨key, caller⟩ = reservation then 1 else 0 := by
  have same : (key = reservation.key ∧ caller = reservation.caller) ↔
      ⟨key, caller⟩ = reservation := by
    cases reservation
    simp
  simp only [paidFor, List.countP_cons, decide_eq_true_eq, same]

end

theorem Kept.pay (kept : world.Kept limits nowNs) (payment : ClaimPayment) :
    (world.pay payment).Kept limits nowNs := by
  cases payment with
  | direct => exact kept
  | prepaid reservation =>
    refine ⟨kept.exact, kept.reached, fun other => ?_⟩
    have fewer := (List.erase_sublist (a := reservation) (l := world.held)).count_le other
    have paid := kept.paid other
    simp only [QuotaWorld.pay]
    omega

/-- A claim with a reservation takes its place; one without is charged. -/
theorem Kept.claimed {next : JobStore} {context : ManualSettlementClaimContext}
    {payment : ClaimPayment} (kept : world.Kept limits context.nowNs)
    (held : world.canPay payment = true)
    (priced : (payment.quota limits).intoLimits context.key context.caller = .ok charge)
    (claimed : world.jobs.claimSettlementJobTransaction (context.claim charge .publicManual) =
      .ok (outcome, next))
    (answered : manualClaimOutcome outcome = .ok answer) (records : StableStore) :
    ({ world.pay payment with jobs := next, records }.granted limits context payment
      answer).Kept limits context.nowNs := by
  rcases claim_answered claimed answered with ⟨denied, -, rfl⟩ | ⟨granted, -, left, charged, same⟩
  · have paid := kept.pay payment
    rw [QuotaWorld.granted, denied]
    cases payment <;> exact ⟨paid.exact, paid.reached, paid.paid⟩
  cases payment with
  | direct =>
    cases priced
    have exact := kept.exact.charge kept.reached charged
    rw [QuotaWorld.granted, granted]
    refine ⟨same ▸ exact, ?_, fun other => ?_⟩
    · exact same ▸ (SettlementAdmissionControl.charge_windowId charged).le
    · have paid := kept.paid other
      simp only [QuotaWorld.pay, QuotaWorld.charged, if_true, paidFor_cons, List.count_cons,
        beq_iff_eq]
      split <;> omega
  | prepaid reservation =>
    have own : reservation = ⟨context.key, context.caller⟩ ∧ charge = none := by
      simp only [ClaimPayment.quota, SettlementClaimQuota.intoLimits] at priced
      split at priced
      next consumed =>
        simp only [PrepaidQuota.consume, Bool.and_eq_true, beq_iff_eq] at consumed
        cases reservation
        cases priced
        exact ⟨by simp_all, rfl⟩
      · cases priced
    obtain ⟨rfl, rfl⟩ := own
    cases charged
    rw [QuotaWorld.granted, granted]
    refine ⟨?_, ?_, fun other => ?_⟩
    · exact same ▸ kept.exact
    · exact same ▸ kept.reached
    · have paid := kept.paid other
      have member : (⟨context.key, context.caller⟩ : PrepaidQuota) ∈ world.held := by
        simpa [canPay] using held
      have some := List.count_pos_iff.mpr member
      simp only [QuotaWorld.pay, if_true, List.count_cons, beq_iff_eq, List.count_erase]
      split
      next same =>
        subst same
        omega
      · omega

theorem perform_admission (store : JobStore) {operation : JobOperation}
    (unclaimed : ∀ claim, operation ≠ .manualClaim claim) :
    (store.perform operation).1.admission = store.admission := by
  cases operation with
  | manualClaim claim => exact absurd rfl (unclaimed claim)
  | enqueue | writeRecord => rfl
  | claimDue nowNs leaseUntilNs maximum =>
    simp only [JobStore.perform]
    split
    next claimed =>
      rcases JobStore.claimDue_leases claimed with rfl | ⟨-, leases⟩
      · rfl
      · exact leases.admission
    · rfl
  | claimSpecific key nowNs leaseUntilNs =>
    simp only [JobStore.perform]
    split
    next claimed =>
      exact (JobStore.claimSpecific_leases claimed).admission
    · rfl
  | renew job nowNs leaseUntilNs =>
    simp only [JobStore.perform, JobStore.renewSettlementLease]
    split <;> rfl
  | finish job outcome =>
    change (store.finish job outcome).admission = store.admission
    rcases JobStore.finish_cases store job outcome with same | ⟨row, stopReasons, -, next⟩
    · rw [same]
    · rw [next]

theorem Kept.reserved {next : JobStore} (kept : world.Kept limits nowNs)
    (reserved : world.jobs.reserveSettlementQuota key caller nowNs limits = .ok (reservation, next)) :
    ({ world with jobs := next, held := reservation :: world.held }.charged limits key caller
      nowNs).Kept limits nowNs := by
  unfold JobStore.reserveSettlementQuota at reserved
  split at reserved
  · cases reserved
  · cases reserved
  rename_i charged
  cases reserved
  refine ⟨kept.exact.charge kept.reached charged, ?_, fun other => ?_⟩
  · exact (SettlementAdmissionControl.charge_windowId charged).le
  · have paid := kept.paid other
    simp only [QuotaWorld.charged, paidFor_cons, List.count_cons, beq_iff_eq]
    split <;> omega

theorem governance_admission {store next : JobStore}
    (claimed : store.claimGovernanceSettlementJob context = .ok (answer, next)) :
    next.admission = store.admission := by
  obtain ⟨limits, unmetered, claimed⟩ := bind_ok.mp claimed
  obtain ⟨⟨outcome, written⟩, transacted, claimed⟩ := bind_ok.mp claimed
  obtain ⟨_, answered, ⟨⟩⟩ := returned_ok.mp claimed
  cases unmetered
  rcases claim_answered (orError_ok.mp transacted) answered with
    ⟨-, -, rfl⟩ | ⟨-, -, left, charged, same⟩
  · rfl
  · cases charged
    exact same

theorem Kept.perform {operation : QuotaOperation} (kept : world.Kept limits nowNs)
    (timed : ∀ time ∈ operation.time, time = nowNs) :
    (world.perform limits operation).Kept limits nowNs := by
  cases operation with
  | reserve key caller time =>
    obtain rfl := timed time rfl
    simp only [QuotaWorld.perform]
    split
    next reserved =>
      exact kept.reserved reserved
    · exact kept
  | claim context payment =>
    obtain rfl := timed context.nowNs rfl
    simp only [QuotaWorld.perform]
    split
    next held =>
      split
      next claimed =>
        obtain ⟨charge, priced, claimed⟩ := bind_ok.mp claimed
        obtain ⟨⟨outcome, next⟩, transacted, claimed⟩ := bind_ok.mp claimed
        obtain ⟨_, answered, ⟨⟩⟩ := returned_ok.mp claimed
        exact kept.claimed held priced (orError_ok.mp transacted) answered _
      · exact kept.pay payment
    · exact kept
  | startRefund value result context payment =>
    obtain rfl := timed context.nowNs rfl
    simp only [QuotaWorld.perform]
    split
    next held =>
      split
      next claimed =>
        obtain ⟨_, _, _, -, priced, transacted, answered, -⟩ := startRefund_ok claimed
        exact kept.claimed held priced transacted answered _
      · exact kept.pay payment
    · exact kept
  | claimGovernance context =>
    simp only [QuotaWorld.perform]
    split
    next claimed =>
      have same := governance_admission claimed
      exact ⟨same ▸ kept.exact, same ▸ kept.reached, kept.paid⟩
    · exact kept
  | background operation unclaimed =>
    have same := perform_admission world.jobs unclaimed
    exact ⟨same ▸ kept.exact, same ▸ kept.reached, kept.paid⟩
  | write operation => exact ⟨kept.exact, kept.reached, kept.paid⟩

section Denied

variable {jobs next : JobStore} {records written : StableStore} {quota : SettlementClaimQuota}
  {context : ManualSettlementClaimContext} {answer : ManualSettlementClaim}

theorem claim_denied {lane : SettlementLeaseLane}
    (claimed : jobs.claimSettlementJobWithMode context quota lane = .ok (answer, next))
    (denied : answer.isGranted = false) : next = jobs := by
  obtain ⟨charge, -, claimed⟩ := bind_ok.mp claimed
  obtain ⟨⟨outcome, after⟩, transacted, claimed⟩ := bind_ok.mp claimed
  obtain ⟨_, answered, ⟨⟩⟩ := returned_ok.mp claimed
  rcases claim_answered (orError_ok.mp transacted) answered with
    ⟨-, -, same⟩ | ⟨granted, -⟩
  · exact same
  · rw [denied] at granted
    cases granted

theorem startRefund_denied
    (started : putDepositTransitionAndClaimManualJob jobs records value result context quota =
      .ok (answer, next, written)) (denied : answer.isGranted = false) :
    next = jobs ∧ written = records := by
  obtain ⟨_, _, _, -, -, transacted, answered, wrote⟩ := startRefund_ok started
  rcases claim_answered transacted answered with ⟨-, nothing, same⟩ | ⟨granted, -⟩
  · rw [nothing] at wrote
    exact ⟨same, wrote⟩
  · rw [denied] at granted
    cases granted

end Denied

theorem granted_stores {payment : ClaimPayment}
    (same : (world.granted limits context payment answer).grants = world.grants) :
    answer.isGranted = false ∧ (world.granted limits context payment answer).jobs = world.jobs ∧
      (world.granted limits context payment answer).records = world.records := by
  cases granted : answer.isGranted with
  | true => cases payment <;> simp [QuotaWorld.granted, granted, QuotaWorld.charged] at same
  | false => simp [QuotaWorld.granted, granted]

theorem pay_stores (world : QuotaWorld) (payment : ClaimPayment) :
    (world.pay payment).jobs = world.jobs ∧ (world.pay payment).records = world.records ∧
      (world.pay payment).grants = world.grants := by
  cases payment <;> exact ⟨rfl, rfl, rfl⟩

theorem perform_denied {operation : QuotaOperation}
    (claim : (∃ context payment, operation = .claim context payment) ∨
      ∃ value result context payment, operation = .startRefund value result context payment)
    (denied : (world.perform limits operation).grants = world.grants) :
    (world.perform limits operation).jobs = world.jobs ∧
      (world.perform limits operation).records = world.records := by
  revert denied
  rcases claim with ⟨context, payment, rfl⟩ | ⟨value, result, context, payment, rfl⟩
  all_goals
    obtain ⟨jobs, records, grants⟩ := world.pay_stores payment
    simp only [QuotaWorld.perform]
    split
  · split
    · intro denied
      rename_i claimed
      obtain ⟨refused, same⟩ := granted_stores (denied.trans grants.symm)
      obtain rfl := claim_denied claimed refused
      exact ⟨same.1, same.2.trans records⟩
    · exact fun _ => ⟨jobs, records⟩
  · exact fun _ => ⟨rfl, rfl⟩
  · split
    · intro denied
      rename_i started
      obtain ⟨refused, same⟩ := granted_stores (denied.trans grants.symm)
      obtain ⟨rfl, rfl⟩ := startRefund_denied started refused
      exact same
    · exact fun _ => ⟨jobs, records⟩
  · exact fun _ => ⟨rfl, rfl⟩

end QuotaWorld

namespace JobStore

variable {store reserved after : JobStore} {context : ManualSettlementClaimContext}
  {limits : SettlementQuotaLimits} {reservation : PrepaidQuota} {reservedAtNs : Nat}

theorem reserveSettlementQuota_ok
    (paid : store.reserveSettlementQuota context.key context.caller reservedAtNs limits =
      .ok (reservation, reserved)) (lane : SettlementLeaseLane)
    (window : reservedAtNs / limits.windowNs = context.nowNs / limits.windowNs) :
    reservation = ⟨context.key, context.caller⟩ ∧ ∃ left,
      reserved = { store with admission := left } ∧
      store.chargeQuota (context.claim (some limits) lane) = .ok (.inr left) := by
  unfold reserveSettlementQuota at paid
  split at paid
  · cases paid
  · cases paid
  rename_i left charged
  cases paid
  exact ⟨rfl, left, rfl, SettlementAdmissionControl.charge_congr charged window rfl rfl⟩

theorem claimSettlementJobTransaction_prepaid {left : SettlementAdmissionControl}
    (charged : store.chargeQuota (context.claim (some limits) lane) = .ok (.inr left))
    (claimed : ({ store with admission := left } : JobStore).claimSettlementJobTransaction
      (context.claim none lane) = .ok (.claimed job, after)) :
    store.claimSettlementJobTransaction (context.claim (some limits) lane) =
      .ok (.claimed job, after) := by
  have refusal : ({ store with admission := left } : JobStore).claimRefusal
      (context.claim none lane) = store.claimRefusal (context.claim (some limits) lane) := rfl
  unfold claimSettlementJobTransaction at claimed ⊢
  rw [refusal] at claimed
  split at claimed
  next refused =>
    have nothing := claimRefusal_grants_nothing refused
    cases claimed
    cases nothing
  · simp only [charged]
    exact claimed

theorem intoLimits_own (key : JobKey) (caller : List UInt8) :
    (SettlementClaimQuota.prepaid ⟨key, caller⟩).intoLimits key caller = .ok none := by
  simp [SettlementClaimQuota.intoLimits, PrepaidQuota.consume]

theorem intoLimits_foreign (foreign : reservation ≠ ⟨context.key, context.caller⟩) :
    (SettlementClaimQuota.prepaid reservation).intoLimits context.key context.caller =
      .error .storage := by
  have other : reservation.consume context.key context.caller = false := by
    by_contra consumed
    cases reservation
    simp_all [PrepaidQuota.consume]
  simp [SettlementClaimQuota.intoLimits, other]

theorem manualClaimOutcome_claimed (answered : manualClaimOutcome outcome = .ok (.claimed job)) :
    outcome = .claimed job := by
  cases outcome <;> cases answered
  rfl

section

variable (paid : store.reserveSettlementQuota context.key context.caller reservedAtNs limits = .ok (reservation, reserved))
  (window : reservedAtNs / limits.windowNs = context.nowNs / limits.windowNs)

include paid window

theorem claimManual_of_prepaid
    (claimed : reserved.claimPrepaidManualSettlementJob context reservation =
      .ok (.claimed job, after)) :
    store.claimManualSettlementJob context limits = .ok (.claimed job, after) := by
  obtain ⟨rfl, left, rfl, charged⟩ := reserveSettlementQuota_ok paid .publicManual window
  obtain ⟨charge, priced, claimed⟩ := bind_ok.mp claimed
  obtain ⟨⟨outcome, next⟩, transacted, claimed⟩ := bind_ok.mp claimed
  obtain ⟨_, answered, ⟨⟩⟩ := returned_ok.mp claimed
  rw [intoLimits_own] at priced
  cases priced
  obtain rfl := manualClaimOutcome_claimed answered
  have direct := claimSettlementJobTransaction_prepaid charged (orError_ok.mp transacted)
  simp only [claimManualSettlementJob, claimSettlementJobWithMode,
    SettlementClaimQuota.intoLimits, ok_bind, direct]
  rfl

theorem startRefund_of_prepaid {records written : StableStore}
    (started : putDepositTransitionAndClaimManualJob reserved records value result context
      (.prepaid reservation) = .ok (.claimed job, after, written)) :
    putDepositTransitionAndClaimManualJob store records value result context (.charge limits) =
      .ok (.claimed job, after, written) := by
  obtain ⟨rfl, left, rfl, charged⟩ := reserveSettlementQuota_ok paid .publicManual window
  obtain ⟨prepared, _, _, checked, priced, transacted, answered, wrote⟩ :=
    startRefund_ok started
  rw [intoLimits_own] at priced
  cases priced
  obtain rfl := manualClaimOutcome_claimed answered
  have committed : prepared.commit value = .ok written := wrote
  have direct := claimSettlementJobTransaction_prepaid charged transacted
  simp only [putDepositTransitionAndClaimManualJob, checked, SettlementClaimQuota.intoLimits,
    ok_bind, orError, direct, committed]
  rfl

end

end JobStore

namespace QuotaWorld

structure Fresh (world : QuotaWorld) : Prop where
  admission : world.jobs.admission = ⟨0, 0, ∅, ∅⟩
  held : world.held = []
  charges : world.charges = []
  grants : world.grants = []

theorem Fresh.kept {world : QuotaWorld} (fresh : world.Fresh) (limits : SettlementQuotaLimits)
    (nowNs : Nat) : world.Kept limits nowNs := by
  refine ⟨?_, ?_, ?_⟩
  · rw [fresh.admission, fresh.charges]
    constructor <;> simp [Windows.Past, countOf]
  · rw [fresh.admission]
    exact Nat.zero_le _
  · simp [fresh.held, fresh.grants]

/-- Over every run at nondecreasing times the counts are what was charged to the window, no
window is charged beyond a limit, and every grant is covered by a charge of its own. Reserving
first costs the same, a denied claim costs nothing, and nobody can use another's reservation. -/
theorem settlement_quota_exact (limits : SettlementQuotaLimits) :
    (∀ (start : QuotaWorld) (operations : List QuotaOperation), start.Fresh →
      Runs.Ordered QuotaOperation.time operations →
      ∀ n nowNs, Runs.Reached QuotaOperation.time operations n nowNs →
        (Runs.stateAt (perform limits) start operations n).Kept limits nowNs) ∧
    (∀ (jobs reserved after : JobStore) (context : ManualSettlementClaimContext)
      (reservation : PrepaidQuota) (reservedAtNs : Nat) (job : SettlementJob),
      jobs.reserveSettlementQuota context.key context.caller reservedAtNs limits =
        .ok (reservation, reserved) →
      reservedAtNs / limits.windowNs = context.nowNs / limits.windowNs →
      (reserved.claimPrepaidManualSettlementJob context reservation = .ok (.claimed job, after) →
        jobs.claimManualSettlementJob context limits = .ok (.claimed job, after)) ∧
      ∀ (records written : StableStore) (value : DepositRecord) (result : ApplyResult),
        putDepositTransitionAndClaimManualJob reserved records value result context
          (.prepaid reservation) = .ok (.claimed job, after, written) →
        putDepositTransitionAndClaimManualJob jobs records value result context
          (.charge limits) = .ok (.claimed job, after, written)) ∧
    (∀ (world : QuotaWorld) (operation : QuotaOperation),
      ((∃ context payment, operation = .claim context payment) ∨
        ∃ value result context payment, operation = .startRefund value result context payment) →
      (world.perform limits operation).grants = world.grants →
      (world.perform limits operation).jobs = world.jobs ∧
        (world.perform limits operation).records = world.records) ∧
    (∀ (jobs : JobStore) (records : StableStore) (context : ManualSettlementClaimContext)
      (reservation : PrepaidQuota) (value : DepositRecord) (result : ApplyResult),
      reservation.key ≠ context.key ∨ reservation.caller ≠ context.caller →
      jobs.claimPrepaidManualSettlementJob context reservation = .error .storage ∧
      putDepositTransitionAndClaimManualJob jobs records value result context
        (.prepaid reservation) = .error .storage) := by
  refine ⟨?_, ?_, fun world operation claim denied => perform_denied claim denied, ?_⟩
  · intro start operations fresh ordered
    refine Runs.Ordered.induction (P := fun nowNs world => Kept limits nowNs world) ordered
      (fresh.kept limits) ?_ ?_
    · intro world nowNs later passed kept
      exact ⟨kept.exact, kept.reached.trans (Nat.div_le_div_right passed), kept.paid⟩
    · intro n operation nowNs _ timed kept
      exact kept.perform timed
  · intro jobs reserved after context reservation reservedAtNs job paid window
    exact ⟨JobStore.claimManual_of_prepaid paid window, fun records written value result started =>
      JobStore.startRefund_of_prepaid paid window started⟩
  · intro jobs records context reservation value result foreign
    have other : reservation ≠ ⟨context.key, context.caller⟩ := by
      rintro rfl
      simp at foreign
    have refused := JobStore.intoLimits_foreign other
    constructor
    · simp only [JobStore.claimPrepaidManualSettlementJob, JobStore.claimSettlementJobWithMode,
        refused]
      rfl
    · simp only [putDepositTransitionAndClaimManualJob, refused]
      cases records.prepareDeposit value (some result) <;> rfl

def sampleContext (settlementId : Bytes32) (nowNs : Nat) : ManualSettlementClaimContext :=
  ⟨⟨.deposit, settlementId⟩, [7], nowNs, nowNs + 120, 0⟩

def sampleQuotaOperations : List QuotaOperation := [ .reserve ⟨.deposit, 1⟩ [7] 5,
  .claim (sampleContext 2 6) .direct,
  .claim (sampleContext 1 7) (.prepaid ⟨⟨.deposit, 1⟩, [7]⟩)]

def sampleWorld : QuotaWorld :=
  ⟨⟨∅, ⟨0, 0, ∅, ∅⟩, fun _ => some none⟩, .fresh, [], [], []⟩

def sampleLimits : SettlementQuotaLimits := ⟨60, 5, 3, 2⟩

theorem settlement_quota_exact_sample :
    sampleWorld.Fresh ∧ Runs.Ordered QuotaOperation.time sampleQuotaOperations ∧
      ((Runs.stateAt (perform sampleLimits) sampleWorld sampleQuotaOperations 3).Kept
        sampleLimits 7) ∧
      (Runs.stateAt (perform sampleLimits) sampleWorld sampleQuotaOperations
        3).jobs.admission.globalCount = 2 ∧
      (Runs.stateAt (perform sampleLimits) sampleWorld sampleQuotaOperations 3).grants.length = 2 ∧
      (Runs.stateAt (perform sampleLimits) sampleWorld sampleQuotaOperations 3).held = [] := by
  have fresh : sampleWorld.Fresh := ⟨rfl, rfl, rfl, rfl⟩
  have ordered : Runs.Ordered QuotaOperation.time sampleQuotaOperations := by decide
  have kept := (settlement_quota_exact sampleLimits).1 sampleWorld sampleQuotaOperations fresh
    ordered 3 7 (by decide)
  exact ⟨fresh, ordered, kept, by decide +kernel, by decide +kernel, by decide +kernel⟩

end QuotaWorld

end KinicBridge
