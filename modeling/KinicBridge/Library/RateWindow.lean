import Mathlib.Tactic

/-! A limit on what is granted in a window of time. What is granted between two resets stays within
the limit, and in an interval no longer than a window within twice the limit. -/
namespace KinicBridge

structure RateWindow where
  startedAt : Nat
  consumed : Nat
  deriving DecidableEq

structure RateGrant where
  time : Nat
  amount : Nat
  reset : Bool
  deriving DecidableEq

namespace RateGrant

def total (grants : List RateGrant) : Nat := (grants.map (·.amount)).sum

@[simp] theorem total_cons (grant : RateGrant) (grants : List RateGrant) :
    total (grant :: grants) = grant.amount + total grants := rfl

def between (first last : Nat) (grants : List RateGrant) : List RateGrant :=
  grants.filter fun grant => first ≤ grant.time && grant.time ≤ last

def since (first : Nat) (grants : List RateGrant) : List RateGrant :=
  grants.filter fun grant => first ≤ grant.time

theorem total_filter_cons_le (p : RateGrant → Bool) (grant : RateGrant) (grants : List RateGrant) :
    total ((grant :: grants).filter p) ≤ grant.amount + total (grants.filter p) := by
  rw [List.filter_cons]
  split
  · exact Nat.le_refl _
  · exact Nat.le_add_left ..

theorem total_between_le (first last : Nat) (grants : List RateGrant) :
    total (between first last grants) ≤ total (since first grants) := by
  refine List.Sublist.sum_le_sum (List.Sublist.map _ ?_) fun _ _ => Nat.zero_le _
  refine List.monotone_filter_right grants fun grant inside => ?_
  simp only [Bool.and_eq_true] at inside
  exact inside.1

end RateGrant

namespace RateWindow

open RateGrant

variable (duration limit : Nat)

structure Grants (window : RateWindow) (grant : RateGrant) (next : RateWindow) : Prop where
  later : window.startedAt ≤ grant.time
  expired : grant.reset = true ↔ window.startedAt + duration ≤ grant.time
  written : next = if grant.reset then ⟨grant.time, grant.amount⟩
    else ⟨window.startedAt, window.consumed + grant.amount⟩
  within : next.consumed ≤ limit

/-- The grants that led from `start` to a window, newest first. -/
inductive History (start : RateWindow) : List RateGrant → RateWindow → Prop
  | unused (within : start.consumed ≤ limit) : History start [] start
  | granted (before : History start grants window)
      (admits : Grants duration limit window grant next) : History start (grant :: grants) next

variable {duration limit : Nat} {start window next : RateWindow} {grant : RateGrant}
  {grants : List RateGrant}

theorem Grants.cases (granted : Grants duration limit window grant next) :
    (grant.reset = true ∧ window.startedAt + duration ≤ grant.time ∧
      next = ⟨grant.time, grant.amount⟩) ∨
    (grant.reset = false ∧ grant.time < window.startedAt + duration ∧
      next = ⟨window.startedAt, window.consumed + grant.amount⟩) := by
  have expired := granted.expired
  have written := granted.written
  cases reset : grant.reset with
  | true =>
    rw [reset] at expired written
    exact .inl ⟨rfl, expired.mp rfl, written⟩
  | false =>
    rw [reset] at expired written
    refine .inr ⟨rfl, Nat.not_le.mp fun late => ?_, written⟩
    exact absurd (expired.mpr late) (by decide)

namespace History

theorem within (history : History duration limit start grants window) :
    window.consumed ≤ limit := by
  cases history with
  | unused within => exact within
  | granted before granted => exact granted.within

section

variable (positive : 0 < duration) (history : History duration limit start grants window)

include positive history

theorem before_end : ∀ grant ∈ grants, grant.time < window.startedAt + duration := by
  induction history with
  | unused => exact fun _ none => by contradiction
  | granted before granted ih =>
    intro other present
    rcases granted.cases with ⟨_, expired, rfl⟩ | ⟨_, inside, rfl⟩
    · rcases List.mem_cons.mp present with rfl | earlier
      · exact Nat.lt_add_of_pos_right positive
      · have := ih other earlier
        dsimp only
        omega
    · rcases List.mem_cons.mp present with rfl | earlier
      · exact inside
      · exact ih other earlier

theorem since_started (started : window.startedAt ≤ first) :
    total (since first grants) ≤ window.consumed := by
  induction history with
  | unused => exact Nat.zero_le _
  | granted before granted ih =>
    refine (total_filter_cons_le ..).trans ?_
    rcases granted.cases with ⟨_, expired, rfl⟩ | ⟨_, _, rfl⟩
    · -- everything earlier belongs to the windows before
      have none : since first _ = [] := List.filter_eq_nil_iff.mpr fun other earlier => by
        have := before.before_end positive other earlier
        simp only [decide_eq_true_eq]
        dsimp only at started
        omega
      unfold since at none
      rw [none]
      exact Nat.le_refl _
    · have := ih started
      dsimp only
      unfold since at this
      omega

theorem since_near (near : window.startedAt ≤ first + duration) :
    total (since first grants) ≤ limit + window.consumed := by
  induction history with
  | unused => exact Nat.zero_le _
  | granted before granted ih =>
    refine (total_filter_cons_le ..).trans ?_
    rcases granted.cases with ⟨_, expired, rfl⟩ | ⟨_, _, rfl⟩
    · have started : _ ≤ first := Nat.le_of_add_le_add_right (Nat.le_trans expired near)
      have current := before.since_started positive started
      have bounded := before.within
      unfold since at current
      dsimp only
      omega
    · have := ih near
      unfold since at this
      dsimp only
      omega

theorem between_le (short : last ≤ first + duration) :
    total (between first last grants) ≤ 2 * limit := by
  induction history with
  | unused => exact Nat.zero_le _
  | @granted grants _ grant next before granted ih =>
    by_cases inside : grant.time ≤ last
    · -- the window was started by then, so it is near the interval's beginning
      have started : next.startedAt ≤ grant.time := by
        rcases granted.cases with ⟨_, _, rfl⟩ | ⟨_, _, rfl⟩
        · exact Nat.le_refl _
        · exact granted.later
      have near : next.startedAt ≤ first + duration := by omega
      have near := (History.granted before granted).since_near positive near
      have bounded := granted.within
      have fewer := total_between_le first last (grant :: grants)
      omega
    · unfold between at ih ⊢
      rw [List.filter_cons_of_neg (by simp [inside])]
      exact ih

end

theorem newest_le (history : History duration limit start grants window)
    (parts : grants = recent ++ older) (calm : ∀ grant ∈ recent.dropLast, grant.reset = false) :
    total recent ≤ window.consumed := by
  induction history generalizing recent with
  | unused =>
    rw [(List.append_eq_nil_iff.mp parts.symm).1]
    exact Nat.zero_le _
  | granted before granted ih =>
    cases recent with
    | nil => exact Nat.zero_le _
    | cons newest recent =>
      obtain ⟨rfl, rest⟩ := List.cons_eq_cons.mp parts
      cases recent with
      | nil =>
        rcases granted.cases with ⟨_, _, rfl⟩ | ⟨_, _, rfl⟩
        · exact Nat.le_refl _
        · exact Nat.le_add_left ..
      | cons second recent =>
        have unreset := calm _ (List.mem_cons_self ..)
        rcases granted.cases with ⟨reset, _, _⟩ | ⟨_, _, rfl⟩
        · exact absurd (reset.symm.trans unreset) (by decide)
        · have := ih rest fun other present => calm other (List.mem_cons_of_mem _ present)
          rw [total_cons]
          dsimp only
          omega

theorem stretch_le {newer stretch older : List RateGrant}
    (history : History duration limit start grants window)
    (parts : grants = newer ++ stretch ++ older)
    (calm : ∀ grant ∈ stretch.dropLast, grant.reset = false) : total stretch ≤ limit := by
  induction newer generalizing grants window with
  | nil => exact (history.newest_le parts calm).trans history.within
  | cons newest newer ih =>
    subst parts
    cases history with
    | granted before _ => exact ih before rfl

end History

end RateWindow

end KinicBridge
