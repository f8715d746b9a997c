import Mathlib.Tactic

/-! Retried work with at most one attempt alive. A live attempt may be replaced only once it is
dead, so of all attempts ever issued at most the newest is alive. -/
namespace KinicBridge

inductive AttemptPhase (Attempt : Type) where
  | idle
  | live (attempt : Attempt)
  | settled
  deriving DecidableEq

namespace AttemptPhase

variable {Attempt : Type}

inductive Move (dead : Attempt → Prop) : AttemptPhase Attempt → AttemptPhase Attempt → Prop where
  | stay : Move dead phase phase
  | start : Move dead .idle (.live attempt)
  | settle : Move dead (.live attempt) .settled
  | retry (gone : dead attempt) : Move dead (.live attempt) (.live next)

def track [DecidableEq Attempt] (phase : AttemptPhase Attempt) (issued : List Attempt) :
    List Attempt :=
  match phase with
  | .live attempt => if issued.head? = some attempt then issued else attempt :: issued
  | _ => issued

theorem mem_track [DecidableEq Attempt] {phase : AttemptPhase Attempt} {attempt : Attempt}
    (member : attempt ∈ issued) : attempt ∈ phase.track issued := by
  cases phase with
  | idle | settled => exact member
  | live newest =>
    simp only [track]
    split
    · exact member
    · exact List.mem_cons_of_mem _ member

structure Tracked (dead : Attempt → Prop) (phase : AttemptPhase Attempt)
    (issued : List Attempt) : Prop where
  idle : phase = .idle → issued = []
  live : ∀ attempt, phase = .live attempt → issued.head? = some attempt
  older : ∀ attempt ∈ issued.tail, dead attempt

variable {dead : Attempt → Prop} {phase phase' : AttemptPhase Attempt}

theorem tracked_nil : Tracked dead .idle [] where
  idle _ := rfl
  live _ absurdity := by cases absurdity
  older _ member := by cases member

theorem Tracked.weaken {dead' : Attempt → Prop} (tracked : Tracked dead phase issued)
    (later : ∀ attempt, dead attempt → dead' attempt) : Tracked dead' phase issued :=
  ⟨tracked.idle, tracked.live, fun attempt member => later attempt (tracked.older attempt member)⟩

theorem Tracked.move [DecidableEq Attempt] (tracked : Tracked dead phase issued)
    (move : Move dead phase phase') : Tracked dead phase' (phase'.track issued) := by
  cases move with
  | stay =>
    cases phase with
    | live attempt =>
      have newest := tracked.live attempt rfl
      simpa [track, newest] using tracked
    | idle | settled => exact tracked
  | start =>
    have none := tracked.idle rfl
    subst none
    constructor
    · intro absurdity
      cases absurdity
    · intro attempt same
      cases same
      rfl
    · intro attempt member
      simp [track] at member
  | settle =>
    constructor
    · intro absurdity
      cases absurdity
    · intro attempt absurdity
      cases absurdity
    · exact tracked.older
  | @retry attempt next gone =>
    have newest := tracked.live attempt rfl
    by_cases same : next = attempt
    · subst same
      simpa [track, newest] using tracked
    · have fresh : issued.head? ≠ some next := by
        rw [newest]
        exact fun equal => same (Option.some.inj equal).symm
      obtain ⟨older, rfl⟩ : ∃ older, issued = attempt :: older := by
        cases issued with
        | nil => cases newest
        | cons first older =>
          cases newest
          exact ⟨older, rfl⟩
      simp only [track, if_neg fresh]
      constructor
      · intro absurdity
        cases absurdity
      · intro other live
        cases live
        rfl
      · intro other member
        rcases List.mem_cons.mp member with rfl | member
        · exact gone
        · exact tracked.older other member

end AttemptPhase

end KinicBridge
