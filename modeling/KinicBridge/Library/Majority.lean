import Mathlib.Tactic

/-! Answers of a few parties to one question, listed in any order. Two parties that agree can be
found by counting, two such pairs among three parties share a party, and one of a pair is honest
when at most one party is not. -/
namespace KinicBridge.Majority

open List

variable {Party Answer : Type} {parties : Finset Party}

def Two (parties : Finset Party) (holds : Party → Prop) : Prop :=
  ∃ first ∈ parties, ∃ second ∈ parties, first ≠ second ∧ holds first ∧ holds second

theorem Two.imp {holds holds' : Party → Prop} (two : Two parties holds)
    (implies : ∀ party ∈ parties, holds party → holds' party) : Two parties holds' := by
  obtain ⟨first, present, second, present', apart, one, other⟩ := two
  exact ⟨first, present, second, present', apart, implies _ present one, implies _ present' other⟩

theorem Two.meet [DecidableEq Party] {holds holds' : Party → Prop} (few : parties.card ≤ 3)
    (two : Two parties holds) (two' : Two parties holds') :
    ∃ party ∈ parties, holds party ∧ holds' party := by
  obtain ⟨first, present, second, present', apart, one, other⟩ := two
  obtain ⟨third, seen, fourth, seen', apart', one', other'⟩ := two'
  by_contra none
  have differ : ∀ party ∈ parties, ∀ party' ∈ parties, holds party → holds' party' →
      party ≠ party' := fun party present party' _ holds holds' same =>
    none ⟨party, present, holds, same ▸ holds'⟩
  have four : ({first, second, third, fourth} : Finset Party).card = 4 := by
    rw [Finset.card_insert_of_notMem, Finset.card_insert_of_notMem, Finset.card_pair apart']
    · simp [differ second present' third seen other one', differ second present' fourth seen' other
        other']
    · simp [apart, differ first present third seen one one', differ first present fourth seen' one
        other']
  have inside : ({first, second, third, fourth} : Finset Party) ⊆ parties := by
    intro party member
    simp only [Finset.mem_insert, Finset.mem_singleton] at member
    rcases member with rfl | rfl | rfl | rfl <;> assumption
  have := Finset.card_le_card inside
  omega

theorem Two.honest {holds faulty : Party → Prop} (two : Two parties holds)
    (one : ∀ first ∈ parties, ∀ second ∈ parties, faulty first → faulty second → first = second) :
    ∃ party ∈ parties, ¬faulty party ∧ holds party := by
  obtain ⟨first, present, second, present', apart, holds, holds'⟩ := two
  by_cases lies : faulty first
  · exact ⟨second, present', fun lies' => apart (one _ present _ present' lies lies'), holds'⟩
  · exact ⟨first, present, lies, holds⟩

structure Lists (parties : Finset Party) (answer : Party → Answer)
    (entries : List (Party × Answer)) : Prop where
  once : (entries.map (·.1)).Nodup
  all : ∀ party, party ∈ entries.map (·.1) ↔ party ∈ parties
  said : ∀ entry ∈ entries, entry.2 = answer entry.1

def Cites (parties : Finset Party) (answer : Party → Answer)
    (entries : List (Party × Answer)) : Prop :=
  ∀ entry ∈ entries, entry.1 ∈ parties ∧ entry.2 = answer entry.1

variable {answer : Party → Answer} {entries others : List (Party × Answer)}

/-- As many answers as there are parties, none twice, are all of them. -/
theorem Cites.lists [DecidableEq Party] (cites : Cites parties answer entries)
    (once : (entries.map (·.1)).Nodup) (many : entries.length = parties.card) :
    Lists parties answer entries := by
  have inside : (entries.map (·.1)).toFinset ⊆ parties := by
    intro party member
    obtain ⟨entry, listed, rfl⟩ := mem_map.mp (mem_toFinset.mp member)
    exact (cites entry listed).1
  have same : (entries.map (·.1)).toFinset = parties := by
    refine Finset.eq_of_subset_of_card_le inside ?_
    rw [toFinset_card_of_nodup once, length_map, many]
  refine ⟨once, fun party => ?_, fun entry listed => (cites entry listed).2⟩
  rw [← same, mem_toFinset]

section

variable (lists : Lists parties answer entries)

include lists

theorem Lists.cites : Cites parties answer entries := fun entry listed =>
  ⟨(lists.all _).mp (mem_map_of_mem listed), lists.said entry listed⟩

theorem Lists.mem_iff {party : Party} : (party, answer party) ∈ entries ↔ party ∈ parties := by
  refine ⟨fun present => (lists.all party).mp (mem_map_of_mem present), fun present => ?_⟩
  obtain ⟨entry, listed, rfl⟩ := mem_map.mp ((lists.all party).mpr present)
  rw [← lists.said entry listed]
  exact listed

theorem Lists.length_eq [DecidableEq Party] : entries.length = parties.card := by
  have same : (entries.map (·.1)).toFinset = parties := by
    ext party
    rw [mem_toFinset]
    exact lists.all party
  rw [← same, toFinset_card_of_nodup lists.once, length_map]

theorem Lists.two_of_countP {passes : Party × Answer → Bool} (counted : 2 ≤ entries.countP passes) :
    Two parties fun party => passes (party, answer party) = true := by
  rw [countP_eq_length_filter] at counted
  have once : ((entries.filter passes).map (·.1)).Nodup :=
    lists.once.sublist (Sublist.map _ filter_sublist)
  generalize kept : entries.filter passes = passed at counted once
  match passed, counted with
  | first :: second :: rest, _ =>
    have passing : ∀ entry ∈ first :: second :: rest,
        entry.1 ∈ parties ∧ passes (entry.1, answer entry.1) = true := by
      intro entry member
      rw [← kept] at member
      obtain ⟨listed, passed⟩ := mem_filter.mp member
      rw [← lists.said entry listed]
      exact ⟨(lists.all _).mp (mem_map_of_mem listed), passed⟩
    obtain ⟨present, holds⟩ := passing first (mem_cons_self ..)
    obtain ⟨present', holds'⟩ := passing second (mem_cons_of_mem _ (mem_cons_self ..))
    refine ⟨first.1, present, second.1, present', fun same => ?_, holds, holds'⟩
    exact (nodup_cons.mp once).1 (mem_map.mpr ⟨second, mem_cons_self .., same.symm⟩)

theorem Lists.countP_of_two {passes : Party × Answer → Bool}
    (two : Two parties fun party => passes (party, answer party) = true) :
    2 ≤ entries.countP passes := by
  obtain ⟨first, present, second, present', apart, holds, holds'⟩ := two
  have pair : [(first, answer first), (second, answer second)].Subperm (entries.filter passes) := by
    refine Nodup.subperm (by simp [apart]) fun entry member => ?_
    simp only [mem_cons, not_mem_nil, or_false] at member
    rcases member with rfl | rfl
    · exact mem_filter.mpr ⟨lists.mem_iff.mpr present, holds⟩
    · exact mem_filter.mpr ⟨lists.mem_iff.mpr present', holds'⟩
  rw [countP_eq_length_filter]
  exact pair.length_le

theorem Lists.perm (lists' : Lists parties answer others) : entries.Perm others := by
  have nodup : ∀ {entries : List (Party × Answer)}, Lists parties answer entries → entries.Nodup :=
    fun lists => Nodup.of_map _ lists.once
  refine (perm_ext_iff_of_nodup (nodup lists) (nodup lists')).mpr fun entry => ?_
  have moves : ∀ {entries others : List (Party × Answer)}, Lists parties answer entries →
      Lists parties answer others → entry ∈ entries → entry ∈ others := by
    intro entries others lists lists' listed
    have present := (lists.all entry.1).mp (mem_map_of_mem listed)
    have same : entry = (entry.1, answer entry.1) := by rw [← lists.said entry listed]
    rw [same]
    exact lists'.mem_iff.mpr present
  exact ⟨moves lists lists', moves lists' lists⟩

end

end KinicBridge.Majority
