import Mathlib.Tactic

/-! Append-only logs that refuse duplicates for a limited time: a stamped entry is accepted at most
once and never after its deadline. Once a deadline has passed without an entry, there will never be
one. -/
namespace KinicBridge

structure DedupRule (Entry Stamp : Type) where
  stamp : Entry → Option Stamp
  deadline : Stamp → Nat

namespace DedupRule

variable {Entry Stamp : Type} (rule : DedupRule Entry Stamp)

def Admits (now : Nat) (log : List Entry) (entry : Entry) : Prop :=
  ∀ stamp, rule.stamp entry = some stamp →
    now ≤ rule.deadline stamp ∧ ∀ earlier ∈ log, rule.stamp earlier ≠ some stamp

def Distinct (log : List Entry) : Prop :=
  log.Pairwise fun earlier later => ∀ stamp, rule.stamp earlier = some stamp →
    rule.stamp later ≠ some stamp

variable {rule} {stamp : Stamp}

theorem distinct_nil : rule.Distinct [] := List.Pairwise.nil

theorem Distinct.append (distinct : rule.Distinct log) (admits : rule.Admits now log entry) :
    rule.Distinct (log ++ [entry]) := by
  refine List.pairwise_append.mpr ⟨distinct, List.pairwise_singleton _ _, ?_⟩
  intro earlier member later single stamp stamped again
  cases List.mem_singleton.mp single
  exact (admits stamp again).2 earlier member stamped

theorem Distinct.length_filter_le_one (distinct : rule.Distinct log) {p : Entry → Bool}
    (stamped : ∀ entry ∈ log, p entry = true → rule.stamp entry = some stamp) :
    (log.filter p).length ≤ 1 := by
  induction log with
  | nil => simp
  | cons first rest ih =>
    obtain ⟨apart, distinctRest⟩ := List.pairwise_cons.mp distinct
    by_cases found : p first = true
    · have none : rest.filter p = [] := by
        refine List.filter_eq_nil_iff.mpr fun entry member holds => ?_
        exact apart entry member stamp (stamped first List.mem_cons_self found)
          (stamped entry (List.mem_cons_of_mem _ member) holds)
      simp [found, none]
    · simpa [List.filter_cons, found] using
        ih distinctRest fun entry member => stamped entry (List.mem_cons_of_mem _ member)

theorem Admits.not_expired (admits : rule.Admits now log entry)
    (expired : rule.deadline stamp < now) : rule.stamp entry ≠ some stamp := by
  intro stamped
  have := (admits stamp stamped).1
  omega

end DedupRule

end KinicBridge
