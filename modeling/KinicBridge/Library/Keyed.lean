import Mathlib

/-! Rows kept under keys, counted and added up while one row is written or taken out. -/
namespace KinicBridge.Keyed

section Erased

variable [DecidableEq κ] (rows : AList fun _ : κ => β) (key : κ)

theorem entries_perm (found : rows.lookup key = some row) :
    rows.entries.Perm (⟨key, row⟩ :: rows.entries.kerase key) := by
  have member : key ∈ rows.entries.keys := List.mem_keys_of_mem (AList.mem_lookup_iff.mp found)
  obtain ⟨other, front, back, -, whole, erased⟩ := List.exists_of_kerase member
  have same : row = other := by
    have here : (⟨key, other⟩ : Sigma fun _ : κ => β) ∈ rows.entries := by simp [whole]
    exact Option.some.inj (found.symm.trans (AList.mem_lookup_iff.mpr here))
  rw [erased, whole, same]
  exact List.perm_middle

theorem sum_map_kerase (weight : (Sigma fun _ : κ => β) → Nat) :
    (rows.entries.map weight).sum = ((rows.entries.kerase key).map weight).sum +
      ((rows.lookup key).elim 0 fun row => weight ⟨key, row⟩) := by
  cases found : rows.lookup key with
  | none =>
    have absent : key ∉ rows.entries.keys := AList.lookup_eq_none.mp found
    simp [List.kerase_of_notMem_keys absent]
  | some row =>
    rw [((entries_perm rows key found).map weight).sum_nat]
    simp [Nat.add_comm]

end Erased

end KinicBridge.Keyed
