import Mathlib.Tactic

/-! Programs that wait for answers: queries of a world that may move between any two of them, noted
events and a final value. `Holds` is the weakest precondition, whatever the world answers. -/
namespace KinicBridge

inductive Dialogue (Query : Type) (Answer : Query → Type) (Event α : Type) where
  | done (value : α)
  | note (event : Event) (rest : Dialogue Query Answer Event α)
  | ask (query : Query) (next : Answer query → Dialogue Query Answer Event α)

structure Environment (World Query : Type) (Answer : Query → Type) where
  moves : World → World → Prop
  answers : World → (query : Query) → Answer query → Prop

namespace Dialogue

variable {World Query Event α β : Type} {Answer : Query → Type}
  {env : Environment World Query Answer}

inductive Runs (env : Environment World Query Answer) :
    World → Dialogue Query Answer Event α → World → α → List Event → Prop where
  | done : Runs env world (.done value) world value []
  | note (rest : Runs env world program world' value events) :
      Runs env world (.note event program) world' value (event :: events)
  | ask (answer : Answer query) (moved : env.moves world asked)
      (answered : env.answers asked query answer)
      (rest : Runs env asked (next answer) world' value events) :
      Runs env world (.ask query next) world' value events

/-- The postcondition holds after every execution from here, given the events so far. -/
def Holds (env : Environment World Query Answer) (post : World → List Event → α → Prop) :
    Dialogue Query Answer Event α → World → List Event → Prop
  | .done value, world, events => post world events value
  | .note event rest, world, events => rest.Holds env post world (events ++ [event])
  | .ask query next, world, events => ∀ asked, env.moves world asked →
      ∀ answer, env.answers asked query answer → (next answer).Holds env post asked events

theorem Runs.satisfies {program : Dialogue Query Answer Event α}
    (runs : Runs env world program world' value noted)
    (holds : program.Holds env post world events) : post world' (events ++ noted) value := by
  induction runs generalizing events with
  | done => simpa [Holds] using holds
  | note _ ih => simpa using ih holds
  | ask _ moved answered _ ih => exact ih (holds _ moved _ answered)

theorem Holds.weaken {program : Dialogue Query Answer Event α}
    (holds : program.Holds env post world events)
    (implies : ∀ world events value, post world events value → post' world events value) :
    program.Holds env post' world events := by
  induction program generalizing world events with
  | done value => exact implies _ _ _ holds
  | note event rest ih => exact ih holds
  | ask query next ih =>
    intro asked moved answer answered
    exact ih answer (holds asked moved answer answered)

def bind (program : Dialogue Query Answer Event α) (f : α → Dialogue Query Answer Event β) :
    Dialogue Query Answer Event β :=
  match program with
  | .done value => f value
  | .note event rest => .note event (rest.bind f)
  | .ask query next => .ask query fun answer => (next answer).bind f

theorem holds_bind {program : Dialogue Query Answer Event α} {f : α → Dialogue Query Answer Event β}
    (holds : program.Holds env (fun world events value => (f value).Holds env post world events)
      world events) : (program.bind f).Holds env post world events := by
  induction program generalizing world events with
  | done value => exact holds
  | note event rest ih => exact ih holds
  | ask query next ih =>
    intro asked moved answer answered
    exact ih answer (holds asked moved answer answered)

/-- Run a dialogue against a world that answers by the number of queries it has had. -/
def play (respond : Nat → (query : Query) → Answer query) :
    Dialogue Query Answer Event α → Nat → Nat × α
  | .done value, moment => (moment, value)
  | .note _ rest, moment => rest.play respond moment
  | .ask query next, moment => (next (respond moment query)).play respond (moment + 1)

theorem play_runs (program : Dialogue Query Answer Event α)
    (respond : Nat → (query : Query) → Answer query) (world : World) (stays : env.moves world world)
    (answers : ∀ moment query, env.answers world query (respond moment query)) (moment : Nat) :
    ∃ noted, Runs env world program world (program.play respond moment).2 noted := by
  induction program generalizing moment with
  | done value => exact ⟨[], .done⟩
  | note event rest ih =>
    obtain ⟨noted, runs⟩ := ih moment
    exact ⟨event :: noted, .note runs⟩
  | ask query next ih =>
    obtain ⟨noted, runs⟩ := ih (respond moment query) (moment + 1)
    exact ⟨noted, .ask _ stays (answers moment query) runs⟩

end Dialogue

end KinicBridge
