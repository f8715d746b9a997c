import Mathlib.Tactic

/-! Charges to fixed windows of time. The counter of the current window starts over when a
later window begins; what it counts is the entries of the journal that fell into its window. -/
namespace KinicBridge.Windows

variable {ε : Type u} {window : ε → Nat} {journal : List ε} {p : ε → Bool}

def charged (window : ε → Nat) (current : Nat) (p : ε → Bool) (journal : List ε) : Nat :=
  journal.countP fun entry => window entry == current && p entry

def Past (window : ε → Nat) (current : Nat) (journal : List ε) : Prop :=
  ∀ entry ∈ journal, window entry ≤ current

@[simp] theorem charged_nil : charged window current p [] = 0 := rfl

theorem charged_cons (entry : ε) : charged window current p (entry :: journal) =
    charged window current p journal + (window entry == current && p entry).toNat := by
  unfold charged
  rw [List.countP_cons]
  cases window entry == current && p entry <;> rfl

theorem Past.later (past : Past window current journal) (later : current ≤ next) :
    Past window next journal :=
  fun entry member => (past entry member).trans later

theorem Past.cons (past : Past window current journal) (now : window entry ≤ current) :
    Past window current (entry :: journal) := by
  intro other member
  rcases List.mem_cons.mp member with rfl | member
  · exact now
  · exact past other member

theorem Past.charged_eq_zero (past : Past window current journal) (newer : current < next) :
    charged window next p journal = 0 := by
  refine List.countP_eq_zero.mpr fun entry member => ?_
  have before := past entry member
  have other : ¬window entry = next := by omega
  simp [other]

theorem charged_le_cons (entry : ε) (bounded : ∀ current, charged window current p journal ≤ limit)
    (room : p entry = true → charged window (window entry) p journal < limit) :
    ∀ current, charged window current p (entry :: journal) ≤ limit := by
  intro current
  rw [charged_cons]
  have old := bounded current
  cases now : window entry == current && p entry with
  | false => exact old
  | true =>
    obtain ⟨same, counted⟩ := Bool.and_eq_true_iff.mp now
    have free := room counted
    rw [beq_iff_eq.mp same] at free
    exact free

end KinicBridge.Windows
