import Mathlib.Tactic

/-! Checked and saturating arithmetic on unsigned machine words, kept as natural numbers up to
`limit w`. Fallible computations are `Except` values with inversion lemmas. -/
namespace KinicBridge

namespace Checked

/-- The largest number a word of width `w` holds. -/
def limit (w : Nat) : Nat := 2 ^ w - 1

def add (w a b : Nat) : Option Nat := if a + b ≤ limit w then some (a + b) else none

def sub (a b : Nat) : Option Nat := if b ≤ a then some (a - b) else none

def succ (w a : Nat) : Option Nat := if a = limit w then none else some (a + 1)

def saturatingAdd (w a b : Nat) : Nat := min (a + b) (limit w)

theorem add_eq_some : add w a b = some c ↔ a + b = c ∧ c ≤ limit w := by
  unfold add
  split <;> simp <;> omega

theorem sub_eq_some : sub a b = some c ↔ b + c = a := by
  unfold sub
  split <;> simp <;> omega

theorem succ_eq_some : succ w a = some c ↔ a ≠ limit w ∧ c = a + 1 := by
  unfold succ
  split <;> simp [*, eq_comm]

def okOr (error : ε) : Option α → Except ε α
  | some value => .ok value
  | none => .error error

@[simp] theorem okOr_some : okOr error (some a) = .ok a := rfl
@[simp] theorem okOr_none : okOr error (none : Option α) = .error error := rfl

def orError (error : ε) : Except δ α → Except ε α
  | .ok value => .ok value
  | .error _ => .error error

end Checked

theorem okOr_ok : Checked.okOr error o = .ok a ↔ o = some a := by
  cases o <;> simp

theorem orError_ok {x : Except δ α} {error : ε} : Checked.orError error x = .ok a ↔ x = .ok a := by
  cases x <;> simp [Checked.orError]

theorem isOk_iff {x : Except ε α} : x.isOk = true ↔ ∃ a, x = .ok a := by
  cases x <;> simp [Except.isOk, Except.toBool]

theorem toOption_eq_some {result : Except ε α} (arrived : result.toOption = some a) :
    result = .ok a := by
  cases result <;> simp_all [Except.toOption]

theorem bind_ok {x : Except ε α} {f : α → Except ε β} :
    (x >>= f) = .ok b ↔ ∃ a, x = .ok a ∧ f a = .ok b := by
  cases x with
  | error e => simp [bind, Except.bind]
  | ok a => simp [bind, Except.bind]

theorem ok_bind (value : α) (rest : α → Except ε β) : (Except.ok value >>= rest) = rest value :=
  rfl

theorem map_bind (x : Except ε α) (k : α → Except ε β) (f : β → γ) :
    (x >>= k).map f = x >>= fun a => (k a).map f := by
  cases x <;> rfl

theorem map_ok {x : Except ε α} {f : α → β} : x.map f = .ok b ↔ ∃ a, x = .ok a ∧ f a = b := by
  cases x <;> simp [Except.map]

theorem mapError_ok {x : Except ε α} {f : ε → δ} : x.mapError f = .ok a ↔ x = .ok a := by
  cases x <;> simp [Except.mapError]

@[simp] theorem throw_ne_ok {e : ε} : (throw e : Except ε α) ≠ .ok a := by
  simp [throw, throwThe, MonadExceptOf.throw]

@[simp] theorem pure_ok : (pure a : Except ε α) = .ok b ↔ a = b := by
  simp [pure, Except.pure]

theorem returned_ok {x : Except ε α} {f : α → β} :
    (x >>= fun a => pure (f a)) = .ok b ↔ ∃ a, x = .ok a ∧ f a = b := by
  simp only [bind_ok, pure_ok]

theorem found_ok {f : α → Except ε β} :
    (Checked.okOr error o >>= f) = .ok b ↔ ∃ a, o = some a ∧ f a = .ok b := by
  simp only [bind_ok, okOr_ok]

theorem guarded_ok {p : Prop} [Decidable p] {e : ε} {rest : Except ε α} :
    (if p then .error e else rest) = .ok a ↔ ¬p ∧ rest = .ok a := by
  by_cases h : p <;> simp [h]

theorem thrown_ok {p : Prop} [Decidable p] {e : ε} {rest : PUnit → Except ε α} :
    (if p then throw e >>= rest else rest ⟨⟩) = .ok a ↔ ¬p ∧ rest ⟨⟩ = .ok a := by
  by_cases h : p <;> simp [h, throw, throwThe, MonadExceptOf.throw, bind, Except.bind]

end KinicBridge
