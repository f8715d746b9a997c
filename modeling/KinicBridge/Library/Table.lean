import Mathlib.Tactic

/-! Finite tables of rows that carry their own key. A table knows the finite set of its
keys, so that a quantity can be summed over all rows and followed through single writes. -/
namespace KinicBridge

structure Table {Key Row : Type} (keyOf : Row → Key) where
  get : Key → Option Row
  keys : Finset Key
  mem_keys : ∀ key, key ∈ keys ↔ (get key).isSome
  keyed : ∀ key row, get key = some row → keyOf row = key

namespace Table

variable {Key Row : Type} {keyOf : Row → Key} {table : Table keyOf} {key other : Key}
  {row seen : Row}

def empty : Table keyOf := ⟨fun _ => none, ∅, by simp, by simp⟩

variable [DecidableEq Key]

def put (table : Table keyOf) (row : Row) : Table keyOf where
  get := Function.update table.get (keyOf row) (some row)
  keys := insert (keyOf row) table.keys
  mem_keys other := by
    by_cases same : other = keyOf row
    · simp [same]
    · simp [same, table.mem_keys]
  keyed other seen found := by
    by_cases same : other = keyOf row
    · subst same
      simp only [Function.update_self, Option.some.injEq] at found
      rw [found]
    · rw [Function.update_of_ne same] at found
      exact table.keyed other seen found

def remove (table : Table keyOf) (key : Key) : Table keyOf where
  get := Function.update table.get key none
  keys := table.keys.erase key
  mem_keys other := by
    by_cases same : other = key
    · simp [same]
    · simp [same, table.mem_keys]
  keyed other seen found := by
    by_cases same : other = key
    · subst same
      simp at found
    · rw [Function.update_of_ne same] at found
      exact table.keyed other seen found

@[simp] theorem get_put_self : (table.put row).get (keyOf row) = some row := by simp [put]

@[simp] theorem get_put_of_ne (apart : other ≠ keyOf row) :
    (table.put row).get other = table.get other := by simp [put, apart]

@[simp] theorem get_remove_self : (table.remove key).get key = none := by simp [remove]

@[simp] theorem get_remove_of_ne (apart : other ≠ key) :
    (table.remove key).get other = table.get other := by simp [remove, apart]

theorem put_of_found (found : table.get (keyOf row) = some row) : table.put row = table := by
  have rows : Function.update table.get (keyOf row) (some row) = table.get := by
    rw [← found, Function.update_eq_self]
  have keys : (table.put row).keys = table.keys :=
    Finset.insert_eq_of_mem ((table.mem_keys _).mpr (by rw [found]; rfl))
  cases table
  simp only [put, mk.injEq]
  exact ⟨rows, keys⟩

theorem get_put_cases (found : (table.put row).get other = some seen) :
    (other = keyOf row ∧ seen = row) ∨ (other ≠ keyOf row ∧ table.get other = some seen) := by
  by_cases same : other = keyOf row
  · subst same
    rw [get_put_self] at found
    exact .inl ⟨rfl, (Option.some.inj found).symm⟩
  · rw [get_put_of_ne same] at found
    exact .inr ⟨same, found⟩

theorem get_remove_cases (found : (table.remove key).get other = some seen) :
    other ≠ key ∧ table.get other = some seen := by
  by_cases same : other = key
  · subst same
    simp at found
  · rw [get_remove_of_ne same] at found
    exact ⟨same, found⟩

def total (table : Table keyOf) (weight : Row → Nat) : Nat :=
  ∑ key ∈ table.keys, ((table.get key).map weight).getD 0

theorem total_put_of {weight weight' : Row → Nat} (row : Row)
    (agree : ∀ other seen, other ≠ keyOf row → table.get other = some seen →
      weight' seen = weight seen) :
    (table.put row).total weight' + ((table.get (keyOf row)).map weight).getD 0 =
      table.total weight + weight' row := by
  have others : ∑ key ∈ table.keys.erase (keyOf row), (((table.put row).get key).map weight').getD 0 =
      ∑ key ∈ table.keys.erase (keyOf row), ((table.get key).map weight).getD 0 := by
    refine Finset.sum_congr rfl fun key member => ?_
    have apart := Finset.ne_of_mem_erase member
    rw [get_put_of_ne apart]
    cases found : table.get key with
    | none => rfl
    | some seen => exact agree key seen apart found
  have inserted : (table.put row).total weight' =
      weight' row + ∑ key ∈ table.keys.erase (keyOf row), ((table.get key).map weight).getD 0 := by
    have keys : (table.put row).keys = insert (keyOf row) (table.keys.erase (keyOf row)) := by
      ext other
      by_cases same : other = keyOf row <;> simp [put, same]
    rw [total, keys, Finset.sum_insert (Finset.notMem_erase _ _), get_put_self, others]
    rfl
  rw [inserted]
  by_cases present : keyOf row ∈ table.keys
  · rw [total, ← Finset.sum_erase_add _ _ present]
    omega
  · have absent : table.get (keyOf row) = none := by simpa [table.mem_keys] using present
    rw [total, Finset.erase_eq_of_notMem present, absent]
    simp [Nat.add_comm]

theorem total_put (table : Table keyOf) (row : Row) (weight : Row → Nat) :
    (table.put row).total weight + ((table.get (keyOf row)).map weight).getD 0 =
      table.total weight + weight row :=
  total_put_of row fun _ _ _ _ => rfl

omit [DecidableEq Key] in
theorem le_total (found : table.get key = some row) (weight : Row → Nat) :
    weight row ≤ table.total weight := by
  have present : key ∈ table.keys := (table.mem_keys key).mpr (by simp [found])
  have single := Finset.single_le_sum (f := fun key => ((table.get key).map weight).getD 0)
    (fun _ _ => Nat.zero_le _) present
  simpa [total, found] using single

end Table

end KinicBridge
