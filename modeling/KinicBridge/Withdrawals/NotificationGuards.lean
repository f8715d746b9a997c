import KinicBridge.Core.Admin
import KinicBridge.Library.Keyed
import KinicBridge.Library.Runs

/-! The cycles set aside for notifications under way. A notification holds two slots from the
moment it is let in until its guard is dropped, and while its own future is polled a flag says
that one guard's slots may be spent. -/
namespace KinicBridge

open Checked Kernel

namespace Kernel

def notificationQuotaAcquire (global caller laneLimit callerLimit : Nat) : Option (Nat × Nat) :=
  if laneLimit ≤ global ∨ callerLimit ≤ caller then none else some (global + 1, caller + 1)

def notificationQuotaRelease (count : Nat) : Nat := if count = 0 then 0 else count - 1

def notificationPollOwner (previous entering : Bool) : Bool := previous || entering

end Kernel

structure ReservePolicy where
  cyclesFloor : Nat
  settlementCycleCeiling : Nat
  deriving DecidableEq

structure CycleLiabilities where
  withdrawals : Nat
  deposits : Nat
  activeFunding : Nat
  deriving DecidableEq

inductive ExternalCall where
  | evmRpcUpdate (cycles : Nat)
  | signWithEcdsa (cost : Nat)
  | leased
  | evmRpcQuery
  | ecdsaPublicKey
  | canisterStatus
  | requestCycles
  | depositPull
  | fundingScan
  deriving DecidableEq

namespace ExternalCall

def attachedCycles : ExternalCall → Nat
  | .evmRpcUpdate cycles | .signWithEcdsa cycles => cycles
  | _ => 0

end ExternalCall

structure NotificationCells where
  inFlight : Nat
  callers : AList fun _ : Principal => Nat
  ownerPoll : Bool

namespace NotificationCells

def globalLimit : Nat := 16
def perCallerLimit : Nat := 2

def laneLimit (protectedLane : Bool) : Nat :=
  if protectedLane then globalLimit else globalLimit - 2

section

variable (cells : NotificationCells) (caller : Principal)

def callerCount : Nat :=
  (cells.callers.lookup caller).getD 0

def acquireNotification (protectedLane : Bool) : Option NotificationCells := do
  let (nextGlobal, nextCaller) ← notificationQuotaAcquire cells.inFlight
    (cells.callerCount caller) (laneLimit protectedLane) perCallerLimit
  return { cells with inFlight := nextGlobal, callers := cells.callers.insert caller nextCaller }

def releaseNotificationQuota : NotificationCells :=
  { cells with
    inFlight := notificationQuotaRelease cells.inFlight
    callers := match cells.callers.lookup caller with
      | none => cells.callers
      | some count =>
        if notificationQuotaRelease count = 0 then cells.callers.erase caller
        else cells.callers.insert caller (notificationQuotaRelease count) }

def enterPoll : Bool × NotificationCells :=
  (cells.ownerPoll, { cells with ownerPoll := notificationPollOwner cells.ownerPoll true })

def restoreNotificationPollOwner (previous : Bool) : NotificationCells :=
  { cells with ownerPoll := notificationPollOwner previous false }

variable (policy : ReservePolicy)

end

theorem acquireNotification_eq_some {cells acquired : NotificationCells}
    (done : cells.acquireNotification caller protectedLane = some acquired) :
    cells.inFlight < laneLimit protectedLane ∧ cells.callerCount caller < perCallerLimit ∧
      acquired = { cells with
        inFlight := cells.inFlight + 1
        callers := cells.callers.insert caller (cells.callerCount caller + 1) } := by
  simp only [acquireNotification, notificationQuotaAcquire] at done
  split at done
  · simp at done
  next below =>
    simp only [not_or, not_le] at below
    exact ⟨below.1, below.2, by simpa [eq_comm] using done⟩

theorem laneLimit_le (protectedLane : Bool) : laneLimit protectedLane ≤ globalLimit := by
  cases protectedLane <;> decide

section

variable (callers : AList fun _ : Principal => Nat)

def recount (caller : Principal) (count : Nat) : AList fun _ : Principal => Nat :=
  if count = 0 then callers.erase caller else callers.insert caller count

theorem releaseNotificationQuota_held {cells : NotificationCells}
    (held : cells.callerCount caller = left + 1) :
    (cells.releaseNotificationQuota caller).callers = recount cells.callers caller left := by
  unfold callerCount at held
  cases found : cells.callers.lookup caller with
  | none => simp [found] at held
  | some count =>
    simp only [found, Option.getD_some] at held
    simp [releaseNotificationQuota, found, held, notificationQuotaRelease, recount]

def Tallied (guards : List Principal) : Prop :=
  (∀ caller, (callers.lookup caller).getD 0 = guards.count caller) ∧
    (callers.entries.map Sigma.snd).sum = guards.length

end

theorem Tallied.recount {callers : AList fun _ : Principal => Nat}
    {guards remaining : List Principal} (tallied : Tallied callers guards)
    (others : ∀ other, other ≠ caller → remaining.count other = guards.count other)
    (length : remaining.length + guards.count caller = guards.length + remaining.count caller) :
    Tallied (NotificationCells.recount callers caller (remaining.count caller)) remaining := by
  have sum := Keyed.sum_map_kerase callers caller Sigma.snd
  have old : ((callers.lookup caller).elim 0 fun count => count) = guards.count caller := by
    rw [← tallied.1 caller]
    cases callers.lookup caller <;> rfl
  rw [tallied.2, old] at sum
  refine ⟨fun other => ?_, ?_⟩
  · unfold NotificationCells.recount
    by_cases same : other = caller
    · subst same
      split <;> simp [*]
    · rw [others other same, ← tallied.1 other]
      split <;> simp [AList.lookup_erase_ne, AList.lookup_insert_ne, same]
  · unfold NotificationCells.recount
    split
    · simp only [AList.erase]
      omega
    · simp only [AList.entries_insert, List.map_cons, List.sum_cons]
      omega

section Charged

variable {cells : NotificationCells} {policy : ReservePolicy} {load : CycleLiabilities}

/-- What a call needs while the slots of `guards` guards are reserved beside it. -/
def needed (policy : ReservePolicy) (load : CycleLiabilities) (guards attachedCycles : Nat) : Nat :=
  policy.cyclesFloor + policy.settlementCycleCeiling *
    (load.withdrawals + 2 * guards + (load.deposits + load.activeFunding)) + attachedCycles +
      policy.settlementCycleCeiling

def charged (cells : NotificationCells) : Nat :=
  cells.inFlight - if cells.ownerPoll then 1 else 0

section

variable (held : cells.ownerPoll = true → 0 < cells.inFlight)

include held

end

end Charged

end NotificationCells

/-- What happens to the guards and polls of notifications, in any order. A future is dropped
with its guard when its message ends or fails, polled or not; what any other message does
leaves the cells as they are. -/
inductive NotificationEvent where
  | acquire (caller : Principal) (protectedLane : Bool)
  | drop (caller : Principal)
  | enter (caller : Principal)
  | leave
  deriving DecidableEq

/-- The cells, the callers of the live guards, and the polls that are going on, innermost
first, each with the flag it found. -/
structure NotificationMessages where
  cells : NotificationCells
  guards : List Principal
  polls : List (Principal × Bool)

namespace NotificationMessages

def fresh : NotificationMessages := ⟨⟨0, ∅, false⟩, [], []⟩

def Unborrowed (state : NotificationMessages) (caller : Principal) : Prop :=
  (state.polls.map Prod.fst).count caller < state.guards.count caller

instance : Decidable (Unborrowed state caller) := inferInstanceAs (Decidable (_ < _))

def perform (state : NotificationMessages) : NotificationEvent → NotificationMessages
  | .acquire caller protectedLane =>
    match state.cells.acquireNotification caller protectedLane with
    | some cells => { state with cells, guards := caller :: state.guards }
    | none => state
  | .drop caller =>
    if state.Unborrowed caller then
      { state with
        cells := state.cells.releaseNotificationQuota caller
        guards := state.guards.erase caller }
    else state
  | .enter caller =>
    if state.Unborrowed caller then
      { state with
        cells := state.cells.enterPoll.2
        polls := (caller, state.cells.enterPoll.1) :: state.polls }
    else state
  | .leave =>
    match state.polls with
    | [] => state
    | (_, previous) :: rest =>
      { state with cells := state.cells.restoreNotificationPollOwner previous, polls := rest }

/-- The state after the events. A message that traps puts the cells back as they were, which
is how a shorter run left them. -/
def after (events : List NotificationEvent) : NotificationMessages := events.foldl perform fresh

/-- Every poll found the flag set when it was itself inside another. -/
def Nested : List (Principal × Bool) → Prop
  | [] => True
  | (_, previous) :: rest => previous = !rest.isEmpty ∧ Nested rest

structure Owned (state : NotificationMessages) : Prop where
  inFlight : state.cells.inFlight = state.guards.length
  tallied : NotificationCells.Tallied state.cells.callers state.guards
  global : state.guards.length ≤ NotificationCells.globalLimit
  perCaller : ∀ caller, state.guards.count caller ≤ NotificationCells.perCallerLimit
  borrowed : ∀ caller, (state.polls.map Prod.fst).count caller ≤ state.guards.count caller
  flag : state.cells.ownerPoll = !state.polls.isEmpty
  nested : Nested state.polls

namespace Owned

variable {state : NotificationMessages}

section

variable (owned : state.Owned)

include owned

theorem acquire {cells : NotificationCells}
    (done : state.cells.acquireNotification caller protectedLane = some cells) :
    { state with cells, guards := caller :: state.guards : NotificationMessages }.Owned := by
  obtain ⟨lane, below, rfl⟩ := NotificationCells.acquireNotification_eq_some done
  have counted : state.cells.callerCount caller = state.guards.count caller :=
    owned.tallied.1 caller
  refine ⟨by simp [owned.inFlight], ?_, ?_, fun other => ?_, fun other => ?_, owned.flag,
    owned.nested⟩
  · have others : ∀ other, other ≠ caller →
        (caller :: state.guards).count other = state.guards.count other :=
      fun other differs => List.count_cons_of_ne (Ne.symm differs)
    have tallied := owned.tallied.recount others (by simp; omega)
    simpa [NotificationCells.recount, counted] using tallied
  · have := NotificationCells.laneLimit_le protectedLane
    have := owned.inFlight
    simp only [List.length_cons]
    omega
  · by_cases same : caller = other
    · subst same
      simp only [List.count_cons_self]
      omega
    · simpa [same] using owned.perCaller other
  · exact (owned.borrowed other).trans List.count_le_count_cons

theorem release (unborrowed : state.Unborrowed caller) : { state with
      cells := state.cells.releaseNotificationQuota caller
      guards := state.guards.erase caller : NotificationMessages }.Owned := by
  have present : 0 < state.guards.count caller := Nat.zero_lt_of_lt unborrowed
  have member : caller ∈ state.guards := List.count_pos_iff.mp present
  have nonempty := List.length_pos_of_mem member
  have length := List.length_erase_of_mem member
  have own : (state.guards.erase caller).count caller = state.guards.count caller - 1 :=
    List.count_erase_self
  have others : ∀ other, other ≠ caller →
      (state.guards.erase caller).count other = state.guards.count other :=
    fun other differs => List.count_erase_of_ne differs
  refine ⟨?_, ?_, (List.length_erase_le).trans owned.global,
    fun other => (List.erase_sublist.count_le _).trans (owned.perCaller other), fun other => ?_,
    owned.flag, owned.nested⟩
  · simp only [NotificationCells.releaseNotificationQuota, notificationQuotaRelease,
      owned.inFlight, length]
    split <;> omega
  · have held : state.cells.callerCount caller = (state.guards.erase caller).count caller + 1 := by
      rw [NotificationCells.callerCount, owned.tallied.1, own]
      omega
    rw [NotificationCells.releaseNotificationQuota_held held]
    exact owned.tallied.recount others (by omega)
  · by_cases same : other = caller
    · subst same
      have : (state.polls.map Prod.fst).count other < state.guards.count other := unborrowed
      simp only [own]
      omega
    · rw [others other same]
      exact owned.borrowed other

theorem enter (unborrowed : state.Unborrowed caller) : { state with
      cells := state.cells.enterPoll.2
      polls := (caller, state.cells.enterPoll.1) :: state.polls : NotificationMessages }.Owned := by
  refine ⟨owned.inFlight, owned.tallied, owned.global, owned.perCaller, fun other => ?_, ?_,
    owned.flag, owned.nested⟩
  · by_cases same : caller = other
    · subst same
      simpa [Unborrowed] using unborrowed
    · simpa [same] using owned.borrowed other
  · simp [NotificationCells.enterPoll, notificationPollOwner]

theorem leave (polling : state.polls = (caller, previous) :: rest) : { state with
      cells := state.cells.restoreNotificationPollOwner previous
      polls := rest : NotificationMessages }.Owned := by
  have nested := owned.nested
  rw [polling] at nested
  refine ⟨owned.inFlight, owned.tallied, owned.global, owned.perCaller, fun other => ?_, ?_,
    nested.2⟩
  · have borrowed := owned.borrowed other
    rw [polling, List.map_cons] at borrowed
    exact List.count_le_count_cons.trans borrowed
  · simpa [NotificationCells.restoreNotificationPollOwner, notificationPollOwner] using nested.1

theorem perform (event : NotificationEvent) : (state.perform event).Owned := by
  cases event with
  | acquire caller protectedLane =>
    simp only [NotificationMessages.perform]
    split
    next done => exact owned.acquire done
    next => exact owned
  | drop caller =>
    simp only [NotificationMessages.perform]
    split
    next unborrowed => exact owned.release unborrowed
    next => exact owned
  | enter caller =>
    simp only [NotificationMessages.perform]
    split
    next unborrowed => exact owned.enter unborrowed
    next => exact owned
  | leave =>
    simp only [NotificationMessages.perform]
    split
    next => exact owned
    next polling => exact owned.leave polling

theorem guarded (polled : state.cells.ownerPoll = true) : 0 < state.cells.inFlight := by
  rw [owned.flag] at polled
  obtain ⟨⟨caller, previous⟩, rest, polling⟩ := List.exists_cons_of_ne_nil (by simpa using polled)
  have borrowed := owned.borrowed caller
  rw [polling, List.map_cons, List.count_cons_self] at borrowed
  have := List.count_le_length (a := caller) (l := state.guards)
  rw [owned.inFlight]
  omega

end

end Owned

def others (state : NotificationMessages) : Nat :=
  if state.polls = [] then state.guards.length else state.guards.length - 1

end NotificationMessages

end KinicBridge
