import Mathlib.Tactic

/-! Runs of machines. A total machine folds its inputs over a state; what one step keeps,
every later state of the run keeps. -/
namespace KinicBridge.Runs

section

variable (step : σ → ι → σ)

/-- The state of a total machine after its first `n` inputs. -/
def stateAt (start : σ) (inputs : List ι) (n : Nat) : σ :=
  (inputs.take n).foldl step start

@[simp] theorem stateAt_zero (start : σ) (inputs : List ι) :
    stateAt step start inputs 0 = start := rfl

theorem stateAt_succ {step : σ → ι → σ} {inputs : List ι} (input : inputs[n]? = some i) :
    stateAt step start inputs (n + 1) = step (stateAt step start inputs n) i := by
  simp [stateAt, List.take_add_one, input]

theorem stateAt_done {step : σ → ι → σ} {inputs : List ι} (done : inputs[n]? = none) :
    stateAt step start inputs (n + 1) = stateAt step start inputs n := by
  simp [stateAt, List.take_add_one, done]

theorem foldl_keeps {step : σ → ι → σ} {P : σ → Prop} (keeps : ∀ s i, P s → P (step s i))
    (inputs : List ι) (holds : P start) : P (inputs.foldl step start) := by
  induction inputs generalizing start with
  | nil => exact holds
  | cons input rest ih => exact ih (keeps start input holds)

theorem stateAt_add (start : σ) (inputs : List ι) (i d : Nat) : stateAt step start inputs (i + d) =
      ((inputs.drop i).take d).foldl step (stateAt step start inputs i) := by
  rw [stateAt, List.take_add, List.foldl_append, stateAt]

end

theorem stateAt_keeps {step : σ → ι → σ} {P : σ → Prop} (keeps : ∀ s i, P s → P (step s i))
    (holds : P (stateAt step start inputs i)) (later : i ≤ j) :
    P (stateAt step start inputs j) := by
  obtain ⟨d, rfl⟩ := Nat.exists_eq_add_of_le later
  rw [stateAt_add]
  exact foldl_keeps keeps _ holds

theorem stateAt_links {step : σ → ι → σ} {R : σ → σ → Prop} (idle : ∀ s, R s s)
    (links : ∀ s i, R s (step s i)) (n : Nat) :
    R (stateAt step start inputs n) (stateAt step start inputs (n + 1)) := by
  cases input : inputs[n]? with
  | none =>
    rw [stateAt_done input]
    exact idle _
  | some i =>
    rw [stateAt_succ input]
    exact links _ i

section Timed

variable {stamp : ι → Option Nat} {inputs : List ι}

def Ordered (stamp : ι → Option Nat) (inputs : List ι) : Prop :=
  (inputs.filterMap stamp).Pairwise (· ≤ ·)

def Reached (stamp : ι → Option Nat) (inputs : List ι) (n now : Nat) : Prop :=
  ∀ input ∈ inputs.take n, ∀ time ∈ stamp input, time ≤ now

instance : Decidable (Ordered stamp inputs) := inferInstanceAs (Decidable (List.Pairwise _ _))

instance (n now : Nat) : Decidable (Reached stamp inputs n now) :=
  inferInstanceAs (Decidable (∀ input ∈ inputs.take n, ∀ time ∈ stamp input, time ≤ now))

theorem Ordered.reached (ordered : Ordered stamp inputs) (input : inputs[n]? = some i)
    (timed : time ∈ stamp i) : Reached stamp inputs n time := by
  intro earlier member earlierTime stamped
  have split : inputs = inputs.take n ++ i :: inputs.drop (n + 1) := by
    obtain ⟨bound, rfl⟩ := List.getElem?_eq_some_iff.mp input
    rw [List.cons_getElem_drop_succ, List.take_append_drop]
  unfold Ordered at ordered
  rw [split, List.filterMap_append, List.pairwise_append] at ordered
  refine ordered.2.2 earlierTime (List.mem_filterMap.mpr ⟨earlier, member, stamped⟩) time ?_
  exact List.mem_filterMap.mpr ⟨i, List.mem_cons_self, timed⟩

theorem Reached.earlier (reached : Reached stamp inputs (n + 1) now) :
    Reached stamp inputs n now := by
  intro input member
  apply reached input
  rw [List.take_add_one]
  exact List.mem_append_left _ member

theorem Ordered.induction {step : σ → ι → σ} {P : Nat → σ → Prop}
    (ordered : Ordered stamp inputs) (initial : ∀ now, P now start)
    (passes : ∀ state now later, now ≤ later → P now state → P later state)
    (keeps : ∀ n i now, inputs[n]? = some i → (∀ time ∈ stamp i, time = now) →
      P now (stateAt step start inputs n) → P now (step (stateAt step start inputs n) i)) :
    ∀ n now, Reached stamp inputs n now → P now (stateAt step start inputs n) := by
  intro n
  induction n with
  | zero => exact fun now _ => initial now
  | succ n before =>
    intro now reached
    cases input : inputs[n]? with
    | none =>
      rw [stateAt_done input]
      exact before now reached.earlier
    | some i =>
      rw [stateAt_succ input]
      cases stamped : stamp i with
      | none => exact keeps n i now input (by simp [stamped]) (before now reached.earlier)
      | some time =>
        have last : i ∈ inputs.take (n + 1) := by
          rw [List.take_add_one, input]
          exact List.mem_append_right _ List.mem_cons_self
        refine passes _ time now (reached i last time stamped) ?_
        exact keeps n i time input (by simp [stamped]) (before time (ordered.reached input stamped))

end Timed

end KinicBridge.Runs
