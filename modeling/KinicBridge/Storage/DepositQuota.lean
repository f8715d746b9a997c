import KinicBridge.Storage.Admission
import KinicBridge.Library.Windows

/-! The quota of new deposits. Its counts are the admissions of the window that were not taken
back; an attempt that fails takes its own admission back, if the window is still the same. -/
namespace KinicBridge

open Checked Windows

namespace DepositAdmissionControl

/-! Counts by caller. -/

section

variable (entries : List DepositCallerQuota)

structure Entries (entries : List DepositCallerQuota) : Prop where
  distinct : (entries.map (·.caller)).Nodup
  positive : ∀ entry ∈ entries, 0 < entry.count

def countIn (owner : List UInt8) : Nat :=
  ((entries.find? fun entry => entry.caller = owner).map (·.count)).getD 0

def totalOf : Nat := (entries.map (·.count)).sum

end

variable {quota : DepositQuotaAdmission} {entries callerCounts : List DepositCallerQuota}
  {windowId : Nat} {reservation : DepositFundingReservation}

theorem countIn_eq_zero
    (absent : ∀ entry ∈ entries, entry.caller ≠ owner) : countIn entries owner = 0 := by
  have nothing : entries.find? (fun entry => entry.caller = owner) = none := by
    simpa [List.find?_eq_none] using absent
  rw [countIn, nothing]
  rfl

theorem exists_split (present : entries.any (fun entry => entry.caller = owner) = true) :
    ∃ front entry back, entries = front ++ entry :: back ∧ entry.caller = owner ∧
      ∀ other ∈ front, other.caller ≠ owner := by
  induction entries with
  | nil => cases present
  | cons first rest next =>
    by_cases here : first.caller = owner
    · exact ⟨[], first, rest, rfl, here, by simp⟩
    · have later : rest.any (fun entry => entry.caller = owner) = true := by
        simpa [here] using present
      obtain ⟨front, entry, back, rfl, named, before⟩ := next later
      refine ⟨first :: front, entry, back, rfl, named, ?_⟩
      simpa [here] using before

section Split

variable {front back : List DepositCallerQuota} {entry : DepositCallerQuota}
  (before : ∀ other ∈ front, other.caller ≠ entry.caller)
include before

theorem setCallerCount_split (count : Nat) :
    setCallerCount entry.caller count (front ++ entry :: back) =
      front ++ { entry with count } :: back := by
  induction front with
  | nil => simp [setCallerCount]
  | cons first rest next =>
    simp only [List.forall_mem_cons] at before
    simp [setCallerCount, before.1, next before.2]

theorem eraseP_split :
    (front ++ entry :: back).eraseP (fun other => other.caller = entry.caller) = front ++ back := by
  rw [List.eraseP_append_right, List.eraseP_cons_of_pos (by simp)]
  simpa using before

theorem countIn_split : countIn (front ++ entry :: back) entry.caller = entry.count := by
  have none_before : front.find? (fun other => other.caller = entry.caller) = none := by
    simpa [List.find?_eq_none] using before
  simp [countIn, List.find?_append, none_before]

end Split

theorem countIn_split_ne (front back : List DepositCallerQuota) {entry : DepositCallerQuota}
    (other : entry.caller ≠ owner) :
    countIn (front ++ entry :: back) owner = countIn (front ++ back) owner := by
  simp [countIn, List.find?_append, other]

structure Raises (before : List DepositCallerQuota) (owner : List UInt8)
    (after : List DepositCallerQuota) : Prop where
  entries : Entries after
  total : totalOf after = totalOf before + 1
  counts : ∀ caller, countIn after caller = countIn before caller + (decide (owner = caller)).toNat

theorem Entries.change {front back : List DepositCallerQuota} {entry : DepositCallerQuota}
    (entries : Entries (front ++ entry :: back)) (positive : 0 < count) :
    Entries (front ++ { entry with count } :: back) := by
  refine ⟨by simpa using entries.distinct, ?_⟩
  have old := entries.positive
  simp only [List.forall_mem_append, List.forall_mem_cons] at old ⊢
  exact ⟨old.1, positive, old.2.2⟩

theorem Entries.drop {front back : List DepositCallerQuota} {entry : DepositCallerQuota}
    (entries : Entries (front ++ entry :: back)) :
    Entries (front ++ back) ∧ ∀ other ∈ front ++ back, other.caller ≠ entry.caller := by
  have distinct := entries.distinct
  have positive := entries.positive
  rw [List.map_append, List.map_cons, List.nodup_middle, ← List.map_append,
    List.nodup_cons] at distinct
  refine ⟨⟨distinct.2, fun other member => positive other ?_⟩, fun other member same => ?_⟩
  · simp only [List.mem_append, List.mem_cons] at member ⊢
    tauto
  · exact distinct.1 (List.mem_map.mpr ⟨other, member, same⟩)

theorem raises_consumed {before : List DepositCallerQuota} (entries : Entries before)
    (owner : List UInt8) :
    Raises before owner (if before.any fun entry => entry.caller = owner then
      setCallerCount owner (countIn before owner + 1) before else before ++ [⟨owner, 1⟩]) := by
  split
  next present =>
    obtain ⟨front, entry, back, rfl, rfl, absent⟩ := exists_split present
    rw [countIn_split absent, setCallerCount_split absent]
    refine ⟨entries.change (Nat.succ_pos _), ?_, fun caller => ?_⟩
    · simp [totalOf]
      omega
    · by_cases own : entry.caller = caller
      · subst own
        rw [countIn_split absent]
        have changed : countIn (front ++ { entry with count := entry.count + 1 } :: back)
            entry.caller = entry.count + 1 := countIn_split absent
        simpa using changed
      · have changed : countIn (front ++ { entry with count := entry.count + 1 } :: back) caller =
            countIn (front ++ back) caller := countIn_split_ne front back own
        rw [changed, countIn_split_ne front back own]
        simp [own]
  next absent =>
    have other : ∀ entry ∈ before, entry.caller ≠ owner := by simpa using absent
    refine ⟨⟨?_, ?_⟩, by simp [totalOf], fun caller => ?_⟩
    · rw [List.map_append, List.nodup_append]
      refine ⟨entries.distinct, List.nodup_singleton _, ?_⟩
      simpa using other
    · rw [List.forall_mem_append, List.forall_mem_singleton]
      exact ⟨entries.positive, Nat.one_pos⟩
    · by_cases own : owner = caller
      · subst own
        have nothing : before.find? (fun entry => entry.caller = owner) = none := by
          simpa [List.find?_eq_none] using other
        simp [countIn, List.find?_append, nothing]
      · simp [countIn, List.find?_append, own]

theorem raises_returned {before : List DepositCallerQuota} (entries : Entries before)
    (counted : countIn before owner = count + 1) :
    Entries (if count = 0 then before.eraseP fun entry => entry.caller = owner
        else setCallerCount owner count before) ∧
      Raises (if count = 0 then before.eraseP fun entry => entry.caller = owner
        else setCallerCount owner count before) owner before := by
  have present : before.any (fun entry => entry.caller = owner) = true := by
    by_contra absent
    have nothing : countIn before owner = 0 := countIn_eq_zero (by simpa using absent)
    omega
  obtain ⟨front, entry, back, rfl, rfl, absent⟩ := exists_split present
  rw [countIn_split absent] at counted
  obtain ⟨dropped, others⟩ := entries.drop
  split
  next last =>
    rw [eraseP_split absent]
    refine ⟨dropped, entries, ?_, fun caller => ?_⟩
    · simp [totalOf]
      omega
    · by_cases own : entry.caller = caller
      · subst own
        rw [countIn_split absent, countIn_eq_zero others]
        simp
        omega
      · rw [countIn_split_ne front back own]
        simp [own]
  next more =>
    rw [setCallerCount_split absent]
    have changed := entries.change (Nat.pos_of_ne_zero more)
    refine ⟨changed, entries, ?_, fun caller => ?_⟩
    · simp [totalOf]
      omega
    · by_cases own : entry.caller = caller
      · subst own
        have left : countIn (front ++ { entry with count } :: back) entry.caller = count :=
          countIn_split absent
        rw [countIn_split absent, left, counted]
        simp
      · have left : countIn (front ++ { entry with count } :: back) caller =
            countIn (front ++ back) caller := countIn_split_ne front back own
        rw [left, countIn_split_ne front back own]
        simp [own]

/-- An admission, or the return of one, in the window of the admission. -/
structure Charge where
  windowId : Nat
  caller : List UInt8
  deriving DecidableEq

def chargedTo (windowId : Nat) (caller : List UInt8) (charges : List Charge) : Nat :=
  charged (·.windowId) windowId (decide <| ·.caller = caller) charges

def chargedIn (windowId : Nat) (charges : List Charge) : Nat :=
  charged (·.windowId) windowId (fun _ => true) charges

def reservedBy (control : DepositAdmissionControl) (caller : List UInt8) : Nat :=
  control.fundingReservations.countP fun reservation =>
    reservation.caller = caller ∧ reservation.quotaWindowId = control.windowId

/-- The counts are the admissions of the window without those taken back, and every reservation
of the window is still counted. -/
structure Exact (globalLimit perPrincipalLimit : Nat) (control : DepositAdmissionControl)
    (admitted returned : List Charge) : Prop where
  entries : Entries control.callerCounts
  total : totalOf control.callerCounts = control.globalCount
  admittedPast : Windows.Past (·.windowId) control.windowId admitted
  returnedPast : Windows.Past (·.windowId) control.windowId returned
  globalCount : control.globalCount + chargedIn control.windowId returned =
    chargedIn control.windowId admitted
  callers : ∀ caller, control.callerCount caller + chargedTo control.windowId caller returned =
    chargedTo control.windowId caller admitted
  globalLimit : control.globalCount ≤ globalLimit
  callerLimit : ∀ caller, control.callerCount caller ≤ perPrincipalLimit
  reservations : ∀ reservation ∈ control.fundingReservations,
    reservation.releasesQuotaOnFailure = true ∧ reservation.quotaWindowId ≤ control.windowId
  covered : ∀ caller, control.reservedBy caller ≤ control.callerCount caller

variable {globalLimit perPrincipalLimit : Nat} {control next : DepositAdmissionControl}
  {admitted returned : List Charge} {owner : List UInt8}

theorem enterWindow_windowId (control : DepositAdmissionControl) (windowId : Nat) :
    (control.enterWindow windowId).windowId = windowId := by
  unfold enterWindow
  split
  · assumption
  · rfl

theorem Exact.enter (exact : Exact globalLimit perPrincipalLimit control admitted returned)
    (later : control.windowId ≤ windowId) :
    Exact globalLimit perPrincipalLimit (control.enterWindow windowId) admitted returned := by
  by_cases same : control.windowId = windowId
  · simpa [enterWindow, same] using exact
  have newer : control.windowId < windowId := Nat.lt_of_le_of_ne later same
  have resets : control.enterWindow windowId =
      { control with windowId, globalCount := 0, callerCounts := [] } := by
    simp [enterWindow, same]
  rw [resets]
  have unreserved (caller : List UInt8) :
      reservedBy { control with windowId, globalCount := 0, callerCounts := [] } caller = 0 := by
    refine List.countP_eq_zero.mpr fun reservation member => ?_
    have old := (exact.reservations reservation member).2
    have other : ¬reservation.quotaWindowId = windowId := by omega
    simp [other]
  have none_admitted {p : Charge → Bool} : charged (·.windowId) windowId p admitted = 0 :=
    exact.admittedPast.charged_eq_zero newer
  have none_returned {p : Charge → Bool} : charged (·.windowId) windowId p returned = 0 :=
    exact.returnedPast.charged_eq_zero newer
  exact {
    entries := ⟨List.nodup_nil, by simp⟩
    total := rfl
    admittedPast := exact.admittedPast.later later
    returnedPast := exact.returnedPast.later later
    globalCount := by simp [chargedIn, none_admitted, none_returned]
    callers := fun caller => by simp [chargedTo, none_admitted, none_returned, callerCount]
    globalLimit := Nat.zero_le _
    callerLimit := fun caller => Nat.zero_le _
    reservations := fun reservation member =>
      ⟨(exact.reservations reservation member).1,
        (exact.reservations reservation member).2.trans later⟩
    covered := fun caller => (unreserved caller).trans_le (Nat.zero_le _) }

def windowOf (quota : DepositQuotaAdmission) : Nat :=
  quota.nowNs / min (quota.windowSeconds * 1000000000) (limit 64)

theorem consumeDepositQuota_ok (consumed : control.consumeDepositQuota owner quota = .ok next) :
    let entered := control.enterWindow (windowOf quota)
    entered.globalCount < quota.globalLimit ∧ entered.callerCount owner < quota.perPrincipalLimit ∧
      ∃ callerCounts, next = { entered with
          globalCount := entered.globalCount + 1
          callerCounts } ∧
        (Entries entered.callerCounts → Raises entered.callerCounts owner callerCounts) := by
  intro entered
  obtain ⟨_, -, consumed⟩ := bind_ok.mp consumed
  obtain ⟨_, room, consumed⟩ := bind_ok.mp consumed
  obtain ⟨globalCount, global, consumed⟩ := found_ok.mp consumed
  obtain ⟨count, caller, consumed⟩ := found_ok.mp consumed
  have sum := (add_eq_some.mp global).1
  have own := (add_eq_some.mp caller).1
  obtain ⟨globalRoom, callerRoom⟩ := not_or.mp (refuseIf_ok.mp room)
  cases pure_ok.mp consumed
  subst sum own
  exact ⟨Nat.lt_of_not_le globalRoom, Nat.lt_of_not_le callerRoom, _, rfl,
    fun entries => raises_consumed entries owner⟩

theorem Exact.raise (exact : Exact globalLimit perPrincipalLimit control admitted returned)
    (globalRoom : control.globalCount < globalLimit)
    (callerRoom : control.callerCount owner < perPrincipalLimit)
    (raises : Raises control.callerCounts owner callerCounts) : Exact globalLimit perPrincipalLimit
      { control with globalCount := control.globalCount + 1, callerCounts }
      (⟨control.windowId, owner⟩ :: admitted) returned := by
  have counts (caller : List UInt8) :
      callerCount { control with globalCount := control.globalCount + 1, callerCounts } caller =
        control.callerCount caller + (decide (owner = caller)).toNat := raises.counts caller
  refine ⟨raises.entries, ?_, exact.admittedPast.cons le_rfl, exact.returnedPast, ?_,
    fun caller => ?_, globalRoom, fun caller => ?_, exact.reservations, fun caller => ?_⟩
  · exact raises.total.trans (congrArg (· + 1) exact.total)
  · have old := exact.globalCount
    simp only [chargedIn, charged_cons, beq_self_eq_true, Bool.and_self, Bool.toNat_true] at old ⊢
    omega
  · have old := exact.callers caller
    rw [counts]
    simp only [chargedTo, charged_cons, beq_self_eq_true, Bool.true_and] at old ⊢
    omega
  · have old := exact.callerLimit caller
    rw [counts]
    by_cases own : owner = caller
    · subst own
      simpa using callerRoom
    · simpa [own] using old
  · have old := exact.covered caller
    rw [counts]
    exact Nat.le_add_right_of_le old

section

variable (exact : Exact quota.globalLimit quota.perPrincipalLimit control admitted returned)
  (later : control.windowId ≤ windowOf quota)
  (consumed : control.consumeDepositQuota owner quota = .ok next)

include exact later consumed

theorem Exact.consume :
    Exact quota.globalLimit quota.perPrincipalLimit next (⟨windowOf quota, owner⟩ :: admitted)
      returned := by
  obtain ⟨globalRoom, callerRoom, callerCounts, rfl, raises⟩ := consumeDepositQuota_ok consumed
  have entered := exact.enter later
  have raised := entered.raise globalRoom callerRoom (raises entered.entries)
  rw [enterWindow_windowId] at raised ⊢
  exact raised

theorem Exact.reserve
    (named : reservation.caller = owner) (window : reservation.quotaWindowId = next.windowId)
    (returns : reservation.releasesQuotaOnFailure = true) :
    Exact quota.globalLimit quota.perPrincipalLimit
      { next with fundingReservations := next.fundingReservations ++ [reservation] }
      (⟨windowOf quota, owner⟩ :: admitted) returned := by
  have charged := exact.consume later consumed
  refine { charged with reservations := ?_, covered := fun caller => ?_ }
  · rw [List.forall_mem_append, List.forall_mem_singleton]
    exact ⟨charged.reservations, returns, window.le⟩
  · obtain ⟨-, -, callerCounts, rfl, raises⟩ := consumeDepositQuota_ok consumed
    have entered := exact.enter later
    have old := entered.covered caller
    have counts := (raises entered.entries).counts caller
    simp only [reservedBy, callerCount, List.countP_append, List.countP_singleton, named, window,
      and_true, decide_eq_true_eq, countIn] at old counts ⊢
    by_cases own : owner = caller
    · simp only [own, if_true, decide_true, Bool.toNat_true] at counts ⊢
      omega
    · simp only [own, if_false, decide_false, Bool.toNat_false] at counts ⊢
      omega

end

theorem Exact.release (exact : Exact globalLimit perPrincipalLimit control admitted returned)
    (p : DepositFundingReservation → Bool) : Exact globalLimit perPrincipalLimit
      { control with fundingReservations := control.fundingReservations.eraseP p }
      admitted returned := by
  have fewer := List.eraseP_sublist (p := p) (l := control.fundingReservations)
  refine { exact with
    reservations := fun reservation member => exact.reservations reservation (fewer.subset member)
    covered := fun caller => fewer.countP_le.trans (exact.covered caller) }

theorem countIn_le_totalOf (entries : List DepositCallerQuota) (owner : List UInt8) :
    countIn entries owner ≤ totalOf entries := by
  unfold countIn
  cases found : entries.find? fun entry => entry.caller = owner with
  | none => exact Nat.zero_le _
  | some entry =>
    exact List.single_le_sum (by simp) _
      (List.mem_map.mpr ⟨entry, List.mem_of_find?_eq_some found, rfl⟩)

section

variable (exact : Exact globalLimit perPrincipalLimit control admitted returned)

include exact

theorem Exact.lower {globalCount : Nat}
    (counted : control.reservedBy owner < control.callerCount owner)
    (all : control.globalCount = globalCount + 1) (entries : Entries callerCounts)
    (raises : Raises callerCounts owner control.callerCounts) :
    Exact globalLimit perPrincipalLimit { control with globalCount, callerCounts } admitted
      (⟨control.windowId, owner⟩ :: returned) := by
  have counts (caller : List UInt8) : control.callerCount caller =
      callerCount { control with globalCount, callerCounts } caller +
        (decide (owner = caller)).toNat := raises.counts caller
  have sum := raises.total
  have total := exact.total
  have limit := exact.globalLimit
  refine ⟨entries, ?_, exact.admittedPast, exact.returnedPast.cons le_rfl, ?_, fun caller => ?_,
    ?_, fun caller => ?_, exact.reservations, fun caller => ?_⟩
  · simp only
    omega
  · have old := exact.globalCount
    simp only [chargedIn, charged_cons, beq_self_eq_true, Bool.and_self, Bool.toNat_true] at old ⊢
    omega
  · have old := exact.callers caller
    have count := counts caller
    simp only [chargedTo, charged_cons, beq_self_eq_true, Bool.true_and] at old ⊢
    omega
  · simp only
    omega
  · have old := exact.callerLimit caller
    have count := counts caller
    omega
  · have old := exact.covered caller
    have count := counts caller
    change control.reservedBy caller ≤ _
    by_cases own : owner = caller
    · subst own
      simp only [decide_true, Bool.toNat_true] at count
      omega
    · simp only [own, decide_false, Bool.toNat_false] at count
      omega

theorem Exact.returnQuota (counted : control.reservedBy owner < control.callerCount owner) :
    ∃ next, control.returnQuota owner = .ok next ∧ next.windowId = control.windowId ∧
      next.fundingReservations = control.fundingReservations ∧
      Exact globalLimit perPrincipalLimit next admitted
        (⟨control.windowId, owner⟩ :: returned) := by
  obtain ⟨count, own⟩ : ∃ count, countIn control.callerCounts owner = count + 1 :=
    Nat.exists_eq_succ_of_ne_zero (Nat.ne_of_gt (Nat.zero_lt_of_lt counted))
  have most := countIn_le_totalOf control.callerCounts owner
  have total := exact.total
  obtain ⟨globalCount, all⟩ : ∃ globalCount, control.globalCount = globalCount + 1 :=
    Nat.exists_eq_succ_of_ne_zero (by omega)
  obtain ⟨entries, raises⟩ := raises_returned exact.entries own
  have lowered := exact.lower counted all entries raises
  refine ⟨{ control with globalCount, callerCounts := _ }, ?_, rfl, rfl, lowered⟩
  have globalLess : sub control.globalCount 1 = some globalCount :=
    sub_eq_some.mpr (by omega)
  have callerLess : sub (control.callerCount owner) 1 = some count :=
    sub_eq_some.mpr ((Nat.add_comm 1 count).trans own.symm)
  have present : ¬(control.callerCounts.all fun entry => entry.caller ≠ owner) = true := by
    intro absent
    have nothing : countIn control.callerCounts owner = 0 := countIn_eq_zero (by simpa using absent)
    omega
  simp only [DepositAdmissionControl.returnQuota, globalLess, callerLess, constraint,
    okOr_some, ok_bind, refuseIf, if_neg present]
  rfl

theorem Exact.returnOlder (older : windowId < control.windowId) (owner : List UInt8) :
    Exact globalLimit perPrincipalLimit control admitted (⟨windowId, owner⟩ :: returned) := by
  have other : (windowId == control.windowId) = false := by
    simpa using Nat.ne_of_lt older
  refine { exact with
    returnedPast := exact.returnedPast.cons older.le
    globalCount := ?_
    callers := fun caller => ?_ }
  · have old := exact.globalCount
    simpa [chargedIn, charged_cons, other] using old
  · have old := exact.callers caller
    simpa [chargedTo, charged_cons, other] using old

theorem Exact.rollback {depositId : Bytes32}
    (found : control.fundingReservations.find? (isReservation owner depositId) = some reservation) :
    ∃ next, control.rollbackFailedDepositAdmission owner depositId = .ok next ∧
      next.windowId = control.windowId ∧ next.fundingReservations =
        control.fundingReservations.eraseP (isReservation owner depositId) ∧
      Exact globalLimit perPrincipalLimit next admitted
        (⟨reservation.quotaWindowId, owner⟩ :: returned) ∧
      (reservation.quotaWindowId ≠ control.windowId →
        next.globalCount = control.globalCount ∧ next.callerCounts = control.callerCounts) := by
  obtain ⟨returns, past⟩ := exact.reservations reservation (List.mem_of_find?_eq_some found)
  have released := exact.release (isReservation owner depositId)
  have named : reservation.caller = owner := by
    have holds := List.find?_some found
    simp only [isReservation, Bool.and_eq_true, decide_eq_true_eq] at holds
    exact holds.2
  by_cases same : reservation.quotaWindowId = control.windowId
  · have counted : reservedBy { control with
        fundingReservations := control.fundingReservations.eraseP (isReservation owner depositId) }
        owner < control.callerCount owner := by
      refine Nat.lt_of_lt_of_le ?_ (exact.covered owner)
      obtain ⟨holds, front, back, whole, before⟩ := List.find?_eq_some_iff_append.mp found
      have erased : control.fundingReservations.eraseP (isReservation owner depositId) =
          front ++ back := by
        rw [whole, List.eraseP_append_right _ (by simpa using before),
          List.eraseP_cons_of_pos holds]
      unfold reservedBy
      rw [erased, whole]
      simp only [List.countP_append, List.countP_cons, named, same, and_self, decide_true, if_true]
      omega
    obtain ⟨next, taken, window, reservations, after⟩ := released.returnQuota counted
    refine ⟨next, ?_, window, reservations, by rwa [same], fun other => absurd same other⟩
    simp only [rollbackFailedDepositAdmission, found, okOr_some, ok_bind, returns,
      same, bne_self_eq_false]
    exact taken
  · have after := released.returnOlder (Nat.lt_of_le_of_ne past same) owner
    refine ⟨{ control with fundingReservations :=
      control.fundingReservations.eraseP (isReservation owner depositId) }, ?_, rfl, rfl, after,
      fun _ => ⟨rfl, rfl⟩⟩
    have differs : (reservation.quotaWindowId != control.windowId) = true := by simpa using same
    simp only [rollbackFailedDepositAdmission, found, okOr_some, ok_bind, differs, Bool.or_true]
    rfl

end

end DepositAdmissionControl

end KinicBridge
