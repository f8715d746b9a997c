import KinicBridge.Withdrawals.Notification
import KinicBridge.Library.Runs

/-! Refreshes of the cached Base snapshot. One caller at a time reads the chain for all; its lock
goes stale with time, and what a late owner brings back is refused. -/
namespace KinicBridge

open Checked Kernel

def Kernel.refreshGenerationNext (current : Nat) : Option Nat := succ 64 current

def Kernel.refreshOwnerMatches (current : Option Nat) (claimant : Nat) : Bool :=
  match current with
  | some owner => owner == claimant
  | none => false

structure CachedBaseMintSnapshot where
  generation : Nat
  depositId : Option Bytes32
  observedAtNs : Nat
  snapshot : BaseMintSnapshot
  bridgeSigner : Bytes20
  mintAuthorizationEpoch : Nat
  depositsPaused : Bool
  deriving DecidableEq

structure SnapshotAdmission where
  baseSnapshot : Option CachedBaseMintSnapshot
  refreshStartedAtNs : Option Nat
  refreshGeneration : Nat
  refreshOwner : Option Nat
  nextRefreshAllowedAtNs : Nat
  deriving DecidableEq

inductive RefreshError where
  | core (error : CoreError)
  | staleSnapshotRefresh
  | databaseFailure
  deriving DecidableEq

structure SnapshotStore where
  admission : SnapshotAdmission
  progress : ExternalProgress
  deriving DecidableEq

structure ObservedSnapshot where
  observedAtNs : Nat
  snapshot : BaseMintSnapshot
  bridgeSigner : Bytes20
  mintAuthorizationEpoch : Nat
  depositsPaused : Bool
  deriving DecidableEq

namespace ObservedSnapshot

def cached (observed : ObservedSnapshot) (generation : Nat) (depositId : Option Bytes32) :
    CachedBaseMintSnapshot :=
  ⟨generation, depositId, observed.observedAtNs, observed.snapshot, observed.bridgeSigner,
    observed.mintAuthorizationEpoch, observed.depositsPaused⟩

end ObservedSnapshot

namespace SnapshotStore

variable (store : SnapshotStore)

def cachedBaseMintSnapshot (nowNs ttlNs minimumFinalizedBlock : Nat) :
    Option CachedBaseMintSnapshot :=
  store.admission.baseSnapshot.filter fun cached =>
    decide (nowNs - cached.observedAtNs ≤ ttlNs) &&
      decide (minimumFinalizedBlock ≤ cached.snapshot.finalizedHeadBlockNumber)

def usableSnapshot (nowNs ttlNs : Nat) : Option CachedBaseMintSnapshot :=
  store.cachedBaseMintSnapshot nowNs ttlNs store.progress.lastFinalizedBaseBlock

def refreshLocked (nowNs staleLockNs : Nat) : Bool :=
  store.admission.refreshStartedAtNs.any fun started => decide (nowNs - started < staleLockNs)

def beginBaseSnapshotRefresh (nowNs staleLockNs cooldownNs : Nat) :
    Except RefreshError (Option Nat × SnapshotStore) :=
  if store.refreshLocked nowNs staleLockNs ∨ nowNs < store.admission.nextRefreshAllowedAtNs then
    .ok (none, store)
  else do
    let owner ← okOr .databaseFailure
      (refreshGenerationNext store.admission.refreshGeneration)
    return (some owner, { store with admission := { store.admission with
      refreshGeneration := owner
      refreshStartedAtNs := some nowNs
      refreshOwner := some owner
      nextRefreshAllowedAtNs := saturatingAdd 64 nowNs cooldownNs } })

def unlocked (admission : SnapshotAdmission) : SnapshotAdmission :=
  { admission with refreshStartedAtNs := none, refreshOwner := none }

def finishBaseSnapshotRefresh (owner : Nat)
    (observed : ObservedSnapshot) : Except RefreshError SnapshotStore :=
  if refreshOwnerMatches store.admission.refreshOwner owner then
    .ok { store with admission := { unlocked store.admission with
      baseSnapshot := some (observed.cached owner none) } }
  else .error .staleSnapshotRefresh

/-- The refresh that production runs finish with. `audit` is the batch of audit events, which
commits with the rest or refuses it. -/
def finishBaseSnapshotRefreshWithRpcAuditAndObservation (owner : Nat)
    (observed : ObservedSnapshot) (depositId : Option Bytes32)
    (finalizedObservation : Option FinalizedObservationRecord)
    (audit : Except RefreshError Unit) : Except RefreshError SnapshotStore :=
  if refreshOwnerMatches store.admission.refreshOwner owner then do
    let progress ← match finalizedObservation with
      | some observation => (store.progress.observeFinalized observation).mapError .core
      | none => .ok store.progress
    audit
    return ⟨{ unlocked store.admission with
      baseSnapshot := some (observed.cached owner depositId) }, progress⟩
  else .error .staleSnapshotRefresh

def cacheDepositAuthorizationObservation (depositId : Bytes32)
    (observed : ObservedSnapshot) (finalizedObservation : FinalizedObservationRecord) :
    Except RefreshError SnapshotStore := do
  let progress ← (store.progress.observeFinalized finalizedObservation).mapError .core
  return ⟨{ store.admission with
    baseSnapshot := some (observed.cached store.admission.refreshGeneration (some depositId)) },
    progress⟩

/-- Both ways of failing a refresh: without audit events the batch is empty. -/
def failBaseSnapshotRefresh (owner : Nat)
    (audit : Except RefreshError Unit) : Except RefreshError SnapshotStore :=
  if refreshOwnerMatches store.admission.refreshOwner owner then do
    audit
    return { store with admission := unlocked store.admission }
  else .error .databaseFailure

end SnapshotStore

inductive SnapshotEvent where
  | begin (cooldownNs : Nat)
  | finish (owner : Nat) (observed : ObservedSnapshot)
  | finishObserved (owner : Nat) (observed : ObservedSnapshot) (depositId : Option Bytes32)
      (finalizedObservation : Option FinalizedObservationRecord)
      (audit : Except RefreshError Unit)
  | fail (owner : Nat) (audit : Except RefreshError Unit)
  | cache (depositId : Bytes32) (observed : ObservedSnapshot)
      (finalizedObservation : FinalizedObservationRecord)

namespace SnapshotStore

def written (store : SnapshotStore) (result : Except RefreshError SnapshotStore) : SnapshotStore :=
  match result with
  | .ok next => next
  | .error _ => store

variable (staleLockNs : Nat)

def perform (store : SnapshotStore) (nowNs : Nat) : SnapshotEvent → SnapshotStore
  | .begin cooldownNs =>
    store.written ((store.beginBaseSnapshotRefresh nowNs staleLockNs cooldownNs).map (·.2))
  | .finish owner observed => store.written (store.finishBaseSnapshotRefresh owner observed)
  | .finishObserved owner observed depositId finalizedObservation audit =>
    store.written (store.finishBaseSnapshotRefreshWithRpcAuditAndObservation owner observed
      depositId finalizedObservation audit)
  | .fail owner audit => store.written (store.failBaseSnapshotRefresh owner audit)
  | .cache depositId observed finalizedObservation =>
    store.written (store.cacheDepositAuthorizationObservation depositId observed
      finalizedObservation)

def granted (store : SnapshotStore) (nowNs : Nat) : SnapshotEvent → Option Nat
  | .begin cooldownNs =>
    match store.beginBaseSnapshotRefresh nowNs staleLockNs cooldownNs with
    | .ok (owner, _) => owner
    | .error _ => none
  | _ => none

end SnapshotStore

def SnapshotEvent.owner : SnapshotEvent → Option Nat
  | .finish owner _ | .finishObserved owner .. | .fail owner _ => some owner
  | .begin _ | .cache .. => none

namespace ExternalProgress

/-- A later observation: not of an older block, and of the same block only if it is the same
block under the same signer and runtime. -/
structure Agrees (earlier later : FinalizedObservationRecord) : Prop where
  forward : earlier.blockNumber ≤ later.blockNumber
  same : earlier.blockNumber = later.blockNumber → later.blockHash = earlier.blockHash ∧
    later.bridgeSigner = earlier.bridgeSigner ∧ later.runtimeSha256 = earlier.runtimeSha256

structure Later (before after : ExternalProgress) : Prop where
  block : before.lastFinalizedBaseBlock ≤ after.lastFinalizedBaseBlock
  observation : ∀ earlier, before.finalizedObservation = some earlier →
    ∃ later, after.finalizedObservation = some later ∧ Agrees earlier later

theorem Agrees.trans (first : Agrees a b) (second : Agrees b c) : Agrees a c := by
  refine ⟨first.forward.trans second.forward, fun height => ?_⟩
  have low := first.forward
  have high := second.forward
  obtain ⟨hash, signer, runtime⟩ := first.same (by omega)
  obtain ⟨hash', signer', runtime'⟩ := second.same (by omega)
  exact ⟨hash'.trans hash, signer'.trans signer, runtime'.trans runtime⟩

theorem Later.refl (progress : ExternalProgress) : Later progress progress :=
  ⟨Nat.le_refl _, fun earlier found => ⟨earlier, found, Nat.le_refl _, fun _ => ⟨rfl, rfl, rfl⟩⟩⟩

theorem Later.trans (first : Later a b) (second : Later b c) : Later a c := by
  refine ⟨first.block.trans second.block, fun earlier found => ?_⟩
  obtain ⟨middle, found, agrees⟩ := first.observation earlier found
  obtain ⟨last, found, agrees'⟩ := second.observation middle found
  exact ⟨last, found, agrees.trans agrees'⟩

theorem checkCandidate_agrees {current : FinalizedObservationRecord}
    (accepted : checkCandidate candidate (some current) = .ok ()) : Agrees current candidate := by
  simp only [checkCandidate] at accepted
  split at accepted
  · cases accepted
  split at accepted
  · cases accepted
  split at accepted
  · cases accepted
  next forward conflict =>
    refine ⟨Nat.not_lt.mp forward, fun height => ?_⟩
    have same := not_and.mp conflict height.symm
    simpa [not_or] using same

theorem observeFinalized_later {progress next : ExternalProgress}
    (observed : progress.observeFinalized candidate = .ok next) : Later progress next := by
  unfold observeFinalized at observed
  obtain ⟨forward, observed⟩ := thrown_ok.mp observed
  obtain ⟨_, accepted, rfl⟩ := returned_ok.mp observed
  refine ⟨Nat.not_lt.mp forward, fun earlier found => ?_⟩
  rw [found] at accepted
  have agrees := checkCandidate_agrees accepted
  exact ⟨_, rfl, agrees.forward, agrees.same⟩

end ExternalProgress

namespace SnapshotStore

variable {store : SnapshotStore}

/-- Every outcome of an event: it is refused, it takes the lock, its owner gives the lock
back, or it leaves the lock alone. -/
inductive Performed (staleLockNs : Nat) (store : SnapshotStore) (nowNs : Nat) :
    SnapshotEvent → SnapshotStore → Prop where
  | refused (event : SnapshotEvent)
      (nothing : store.granted staleLockNs nowNs event = none) :
      Performed staleLockNs store nowNs event store
  | begun (free : store.refreshLocked nowNs staleLockNs = false)
      (grant : store.granted staleLockNs nowNs (.begin cooldownNs) =
        some (store.admission.refreshGeneration + 1)) :
      Performed staleLockNs store nowNs (.begin cooldownNs)
        { store with admission := { store.admission with
          refreshGeneration := store.admission.refreshGeneration + 1
          refreshStartedAtNs := some nowNs
          refreshOwner := some (store.admission.refreshGeneration + 1)
          nextRefreshAllowedAtNs := saturatingAdd 64 nowNs cooldownNs } }
  | ended (ends : event.owner = some owner) (holds : store.admission.refreshOwner = some owner)
      (later : store.progress.Later next) :
      Performed staleLockNs store nowNs event
        ⟨{ unlocked store.admission with baseSnapshot := snapshot }, next⟩
  | cached (later : store.progress.Later next) :
      Performed staleLockNs store nowNs (.cache depositId observed observation)
        ⟨{ store.admission with baseSnapshot := snapshot }, next⟩

theorem owner_of_matches (same : refreshOwnerMatches current owner = true) :
    current = some owner := by
  unfold refreshOwnerMatches at same
  split at same
  · rw [beq_iff_eq.mp same]
  · cases same

section

variable (staleLockNs : Nat) (store : SnapshotStore) (nowNs : Nat) (event : SnapshotEvent)

theorem perform_cases :
    Performed staleLockNs store nowNs event (store.perform staleLockNs nowNs event) := by
  cases event with
  | begin cooldownNs =>
    by_cases refused : store.refreshLocked nowNs staleLockNs = true ∨
        nowNs < store.admission.nextRefreshAllowedAtNs
    · have same : store.beginBaseSnapshotRefresh nowNs staleLockNs cooldownNs =
          .ok (none, store) := if_pos refused
      simp only [perform, written, same, Except.map]
      exact .refused _ (by simp [granted, same])
    · have run : store.beginBaseSnapshotRefresh nowNs staleLockNs cooldownNs = _ :=
        if_neg refused
      cases counted : refreshGenerationNext store.admission.refreshGeneration with
      | none =>
        rw [counted] at run
        simp only [perform, written, run]
        exact .refused _ (by simp only [granted, run]; rfl)
      | some owner =>
        rw [counted] at run
        have next := (succ_eq_some.mp counted).2
        subst next
        simp only [perform, written, run]
        exact .begun (Bool.eq_false_iff.mpr (not_or.mp refused).1) (by simp only [granted, run]; rfl)
  | finish owner observed =>
    simp only [perform, finishBaseSnapshotRefresh]
    split
    · exact .ended rfl (owner_of_matches ‹_›) (.refl _)
    · exact .refused _ rfl
  | finishObserved owner observed depositId finalizedObservation audit =>
    simp only [perform, finishBaseSnapshotRefreshWithRpcAuditAndObservation]
    split
    next holds =>
      have holds := owner_of_matches holds
      cases finalizedObservation with
      | none =>
        cases audit with
        | error error => exact .refused _ rfl
        | ok _ => exact .ended rfl holds (.refl _)
      | some observation =>
        dsimp only
        cases seen : store.progress.observeFinalized observation with
        | error error => exact .refused _ rfl
        | ok next =>
          cases audit with
          | error error => exact .refused _ rfl
          | ok _ => exact .ended rfl holds (ExternalProgress.observeFinalized_later seen)
    · exact .refused _ rfl
  | fail owner audit =>
    simp only [perform, failBaseSnapshotRefresh]
    split
    · cases audit with
      | error error => exact .refused _ rfl
      | ok _ => exact .ended rfl (owner_of_matches ‹_›) (.refl _)
    · exact .refused _ rfl
  | cache depositId observed finalizedObservation =>
    simp only [perform, cacheDepositAuthorizationObservation]
    cases seen : store.progress.observeFinalized finalizedObservation with
    | error error => exact .refused _ rfl
    | ok next => exact .cached (ExternalProgress.observeFinalized_later seen)

theorem perform_later : store.progress.Later (store.perform staleLockNs nowNs event).progress := by
  have performed := store.perform_cases staleLockNs nowNs event
  generalize store.perform staleLockNs nowNs event = after at performed ⊢
  cases performed with
  | refused | begun => exact .refl _
  | ended _ _ later | cached later => exact later

theorem perform_generation : store.admission.refreshGeneration ≤
      (store.perform staleLockNs nowNs event).admission.refreshGeneration := by
  have performed := store.perform_cases staleLockNs nowNs event
  generalize store.perform staleLockNs nowNs event = after at performed ⊢
  cases performed with
  | begun => exact Nat.le_succ _
  | refused | ended | cached => exact Nat.le_refl _

end

theorem perform_stranger (staleLockNs nowNs : Nat) (named : event.owner = some owner)
    (stranger : store.admission.refreshOwner ≠ some owner) :
    store.perform staleLockNs nowNs event = store := by
  have performed := store.perform_cases staleLockNs nowNs event
  generalize store.perform staleLockNs nowNs event = after at performed ⊢
  cases performed with
  | refused => rfl
  | begun | cached => cases named
  | ended ends holds =>
    rw [named] at ends
    exact absurd (ends ▸ holds) stranger

theorem granted_locks (grant : store.granted staleLockNs nowNs event = some owner) :
    owner = store.admission.refreshGeneration + 1 ∧
      (store.perform staleLockNs nowNs event).admission.refreshGeneration = owner ∧
      (store.perform staleLockNs nowNs event).admission.refreshOwner = some owner ∧
      (store.perform staleLockNs nowNs event).admission.refreshStartedAtNs = some nowNs := by
  have performed := store.perform_cases staleLockNs nowNs event
  generalize store.perform staleLockNs nowNs event = after at performed ⊢
  cases performed with
  | refused _ nothing => cases nothing.symm.trans grant
  | begun _ begun =>
    cases begun.symm.trans grant
    exact ⟨rfl, rfl, rfl, rfl⟩
  | ended ends =>
    cases event <;> first | cases grant | cases ends
  | cached => cases grant

theorem perform_holds (nowNs : Nat) (event : SnapshotEvent)
    (holds : store.admission.refreshOwner = some owner)
    (started : store.admission.refreshStartedAtNs = some startedNs)
    (fresh : nowNs - startedNs < staleLockNs) :
    (store.perform staleLockNs nowNs event).admission.refreshOwner = some owner ∧
        (store.perform staleLockNs nowNs event).admission.refreshStartedAtNs = some startedNs ∨
      event.owner = some owner ∧
        (store.perform staleLockNs nowNs event).admission.refreshOwner = none := by
  have performed := store.perform_cases staleLockNs nowNs event
  generalize store.perform staleLockNs nowNs event = after at performed ⊢
  cases performed with
  | refused | cached => exact .inl ⟨holds, started⟩
  | begun free =>
    simp [refreshLocked, started] at free
    omega
  | ended ends current =>
    cases holds.symm.trans current
    exact .inr ⟨ends, rfl⟩

theorem usableSnapshot_current (usable : store.usableSnapshot nowNs ttlNs = some cached) :
    store.progress.lastFinalizedBaseBlock ≤ cached.snapshot.finalizedHeadBlockNumber := by
  have kept := (Option.filter_eq_some_iff.mp usable).2
  simp only [Bool.and_eq_true, decide_eq_true_eq] at kept
  exact kept.2

end SnapshotStore

structure SnapshotRun where
  staleLockNs : Nat
  start : SnapshotStore
  events : List (Nat × SnapshotEvent)

namespace SnapshotRun

variable (run : SnapshotRun)

def store (n : Nat) : SnapshotStore :=
  Runs.stateAt (fun store event => store.perform run.staleLockNs event.1 event.2) run.start
    run.events n

def Grants (i owner timeNs : Nat) : Prop :=
  ∃ event, run.events[i]? = some (timeNs, event) ∧
    (run.store i).granted run.staleLockNs timeNs event = some owner

def Ends (i owner : Nat) : Prop :=
  ∃ timeNs event, run.events[i]? = some (timeNs, event) ∧ event.owner = some owner ∧
    (run.store i).admission.refreshOwner = some owner ∧
    (run.store (i + 1)).admission.refreshOwner = none

def Unexpired (n nowNs owner : Nat) : Prop :=
  ∃ i startedNs, i < n ∧ run.Grants i owner startedNs ∧ nowNs - startedNs < run.staleLockNs ∧
    ∀ k, i < k → k < n → ¬run.Ends k owner

theorem store_later (i d : Nat) : (run.store i).progress.Later (run.store (i + d)).progress := by
  induction d with
  | zero => exact .refl _
  | succ d ih =>
    refine ih.trans (Runs.stateAt_links (R := fun before after : SnapshotStore =>
      before.progress.Later after.progress) (fun _ => .refl _) (fun store event => ?_) (i + d))
    exact store.perform_later _ _ _

theorem generation_le (later : i ≤ j) :
    (run.store i).admission.refreshGeneration ≤ (run.store j).admission.refreshGeneration := by
  refine Runs.stateAt_keeps (P := fun store : SnapshotStore =>
    (run.store i).admission.refreshGeneration ≤ store.admission.refreshGeneration)
    (fun store event below => ?_) (Nat.le_refl _) later
  exact below.trans (store.perform_generation _ _ _)

theorem grants_lock {run : SnapshotRun} (grant : run.Grants i owner startedNs) :
    owner = (run.store i).admission.refreshGeneration + 1 ∧
      (run.store (i + 1)).admission.refreshGeneration = owner ∧
      (run.store (i + 1)).admission.refreshOwner = some owner ∧
      (run.store (i + 1)).admission.refreshStartedAtNs = some startedNs := by
  obtain ⟨event, input, granted⟩ := grant
  have next : run.store (i + 1) = _ := Runs.stateAt_succ input
  rw [next]
  exact SnapshotStore.granted_locks granted

theorem Unexpired.holds {run : SnapshotRun} (clock : ∀ k timeNs event, k < n →
    run.events[k]? = some (timeNs, event) → timeNs ≤ nowNs)
    (unexpired : run.Unexpired n nowNs owner) :
    (run.store n).admission.refreshOwner = some owner := by
  obtain ⟨i, startedNs, before, grant, fresh, open_⟩ := unexpired
  obtain ⟨d, rfl⟩ := Nat.exists_eq_add_of_lt before
  suffices held : ∀ e ≤ d, (run.store (i + 1 + e)).admission.refreshOwner = some owner ∧
      (run.store (i + 1 + e)).admission.refreshStartedAtNs = some startedNs by
    have last := (held d (Nat.le_refl d)).1
    rwa [show i + 1 + d = i + d + 1 by omega] at last
  intro e
  induction e with
  | zero =>
    intro _
    exact ⟨(grants_lock grant).2.2.1, (grants_lock grant).2.2.2⟩
  | succ e ih =>
    intro within
    obtain ⟨holds, started⟩ := ih (by omega)
    cases input : run.events[i + 1 + e]? with
    | none =>
      have same : run.store (i + 1 + e + 1) = _ := Runs.stateAt_done input
      rw [← Nat.add_assoc, same]
      exact ⟨holds, started⟩
    | some timed =>
      obtain ⟨timeNs, event⟩ := timed
      have next : run.store (i + 1 + e + 1) = _ := Runs.stateAt_succ input
      have time := clock _ _ _ (by omega) input
      have kept := SnapshotStore.perform_holds timeNs event holds started
        (Nat.lt_of_le_of_lt (Nat.sub_le_sub_right time startedNs) fresh)
      rw [← Nat.add_assoc, next]
      rcases kept with kept | ⟨named, gone⟩
      · exact kept
      · refine absurd ⟨timeNs, event, input, named, holds, ?_⟩ (open_ (i + 1 + e) (by omega) (by omega))
        rw [next]
        exact gone

end SnapshotRun

/-- Refreshes have one owner at a time, with a new generation each, and what the store knows
of the finalized chain never goes back. -/
theorem snapshot_refresh_single_owner (run : SnapshotRun) :
    (∀ n nowNs owner owner', (∀ k timeNs event, k < n → run.events[k]? = some (timeNs, event) →
      timeNs ≤ nowNs) → run.Unexpired n nowNs owner → run.Unexpired n nowNs owner' →
      owner = owner') ∧
    (∀ i j owner owner' timeNs timeNs', i < j → run.Grants i owner timeNs →
      run.Grants j owner' timeNs' → owner < owner') ∧
    (∀ n nowNs event owner, event.owner = some owner →
      (run.store n).admission.refreshOwner ≠ some owner →
      (run.store n).perform run.staleLockNs nowNs event = run.store n) ∧
    (∀ i j, i ≤ j → (run.store i).progress.Later (run.store j).progress) ∧
    ∀ n nowNs ttlNs cached, (run.store n).usableSnapshot nowNs ttlNs = some cached →
      (run.store n).progress.lastFinalizedBaseBlock ≤
        cached.snapshot.finalizedHeadBlockNumber := by
  refine ⟨fun n nowNs owner owner' clock first second => ?_,
    fun i j owner owner' timeNs timeNs' before first second => ?_,
    fun n nowNs event owner named stranger => ?_, fun i j later => ?_,
    fun n nowNs ttlNs cached usable => SnapshotStore.usableSnapshot_current usable⟩
  · exact Option.some.inj ((first.holds clock).symm.trans (second.holds clock))
  · have generation := (SnapshotRun.grants_lock first).2.1
    have next := (SnapshotRun.grants_lock second).1
    have grown := run.generation_le (show i + 1 ≤ j from before)
    omega
  · exact SnapshotStore.perform_stranger _ _ named stranger
  · obtain ⟨d, rfl⟩ := Nat.exists_eq_add_of_le later
    exact run.store_later i d

end KinicBridge
