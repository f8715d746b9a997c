import KinicBridge.Core.Reconciliation
import KinicBridge.Library.Runs

/-! Whole lives of one deposit: events, hold resolutions and signature dispatches in any
order, where a rejected operation leaves the record as it was. A deposit is minted or
refunded, never both. -/
namespace KinicBridge

/-- Everything the canister may do to a stored deposit. The hold of a resolution is
arbitrary: nothing is assumed about where it came from. -/
inductive DepositOperation where
  | apply (event : DepositEvent)
  | resolveHold (hold : ReconciliationHoldRecord) (resolution : DepositHoldResolution)
  | dispatchSignature
  deriving DecidableEq

namespace DepositRecord

variable (r : DepositRecord)

def isMinted : Bool := r.state.code == 10

def refundStarted : Bool :=
  r.state.code == 6 || r.state.code == 7 || r.state.code == 8

def dispatchSignature : DepositRecord :=
  match r.mintAuthorization.bind MintAuthorizationRecord.dispatchSignature with
  | some dispatched => { r with mintAuthorization := some dispatched }
  | none => r

def perform : DepositOperation → DepositRecord
  | .apply event =>
    match r.apply event with
    | .ok (next, _) => next
    | .error _ => r
  | .resolveHold hold resolution =>
    match resolveDepositHold r hold resolution with
    | .ok (next, _, _) => next
    | .error _ => r
  | .dispatchSignature => r.dispatchSignature

@[simp] theorem dispatchSignature_state : r.dispatchSignature.state = r.state := by
  unfold dispatchSignature
  split <;> rfl

variable (operation : DepositOperation)

theorem perform_phase : (r.perform operation).state.code = r.state.code ∨
    (∃ event, Kernel.depositTransition r.state.code event = some (r.perform operation).state.code) ∨
    (r.state.code = 5 ∧ ((r.perform operation).state.code = 1 ∨
      (r.perform operation).state.code = 9)) ∨
    (r.state.code = 7 ∧ ((r.perform operation).state.code = 6 ∨
      (r.perform operation).state.code = 8)) := by
  cases operation with
  | apply event =>
    cases accepted : r.apply event with
    | error error => simp [perform, accepted]
    | ok outcome =>
      obtain ⟨next, result⟩ := outcome
      have reached : r.perform (.apply event) = next := by simp [perform, accepted]
      rw [reached]
      rcases apply_ok accepted with ⟨rfl, _⟩ | ⟨fee, _, _, applied, _⟩
      · exact .inl rfl
      · exact .inr (.inl ⟨event.code, applied.transition⟩)
  | resolveHold hold resolution =>
    cases resolved : resolveDepositHold r hold resolution with
    | error error => simp [perform, resolved]
    | ok outcome =>
      obtain ⟨next, hold', result⟩ := outcome
      have reached : r.perform (.resolveHold hold resolution) = next := by
        simp [perform, resolved]
      rw [reached]
      rcases resolveDepositHold_ok resolved with ⟨rfl, _⟩ | ⟨_, _, moved, _, _, rfl, _⟩
      · exact .inl rfl
      · exact .inr (.inr moved.transition)
  | dispatchSignature => exact .inl (congrArg DepositState.code r.dispatchSignature_state)

theorem transition_from_minted : Kernel.depositTransition 10 event ≠ some next := by
  simp [Kernel.depositTransition]

theorem transition_from_refund (phase : code = 6 ∨ code = 7 ∨ code = 8)
    (moved : Kernel.depositTransition code event = some next) : next = 7 ∨ next = 8 := by
  rcases phase with rfl | rfl | rfl <;> simp [Kernel.depositTransition] at moved
  split at moved <;> simp_all

theorem perform_isMinted (minted : r.isMinted = true) : (r.perform operation).isMinted = true := by
  have code : r.state.code = 10 := by simpa [isMinted] using minted
  rcases r.perform_phase operation with same | ⟨event, moved⟩ | held
  · simp [isMinted, same, code]
  · rw [code] at moved
    exact absurd moved transition_from_minted
  · omega

theorem perform_refundStarted
    (started : r.refundStarted = true) : (r.perform operation).refundStarted = true := by
  have code : r.state.code = 6 ∨ r.state.code = 7 ∨ r.state.code = 8 := by
    simpa [refundStarted, or_assoc] using started
  simp only [refundStarted, Bool.or_eq_true, beq_iff_eq]
  rcases r.perform_phase operation with same | ⟨event, moved⟩ | held
  · omega
  · have := transition_from_refund code moved
    omega
  · omega

end DepositRecord

structure DepositRun where
  request : DepositRequest
  start : DepositRecord
  accepted : DepositRecord.accept request = .ok start
  operations : List DepositOperation

namespace DepositRun

variable (run : DepositRun)

def record (n : Nat) : DepositRecord :=
  Runs.stateAt DepositRecord.perform run.start run.operations n

theorem start_pending : run.start.state = .fundingPending := by
  obtain ⟨_, rest⟩ := guarded_ok.mp run.accepted
  obtain ⟨_, rest⟩ := guarded_ok.mp rest
  rw [← Except.ok.inj rest]

theorem record_keeps {flag : DepositRecord → Bool}
    (keeps : ∀ r operation, flag r = true → flag (r.perform operation) = true)
    (holds : flag (run.record i) = true) (later : i ≤ j) : flag (run.record j) = true :=
  Runs.stateAt_keeps (P := fun r => flag r = true) keeps holds later

/-- No run both mints the deposit and starts its refund, in either order. -/
theorem mint_excludes_refund (run : DepositRun) (i j : Nat) :
    ((run.record i).isMinted && (run.record j).refundStarted) = false := by
  rw [Bool.eq_false_iff]
  intro both
  obtain ⟨minted, started⟩ := Bool.and_eq_true_iff.mp both
  -- carry both facts to the later of the two states, where they contradict each other
  have mintedLater : (run.record (max i j)).isMinted = true :=
    run.record_keeps DepositRecord.perform_isMinted minted (le_max_left i j)
  have startedLater : (run.record (max i j)).refundStarted = true :=
    run.record_keeps DepositRecord.perform_refundStarted started (le_max_right i j)
  simp only [DepositRecord.isMinted, beq_iff_eq] at mintedLater
  simp [DepositRecord.refundStarted, mintedLater] at startedLater

end DepositRun

end KinicBridge
