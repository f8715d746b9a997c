import KinicBridge.Base.Supply

/-! How the Base contract revokes authorizations. Every pause, unpause and rotation of the signer
opens a new epoch, a signer that was replaced never signs again, and neither does the signer of a
paused contract. -/
namespace KinicBridge.BridgeState

open BridgeHistory

variable (params : BridgeParameters)

def runAll (state : BridgeState) (calls : List TimedCall) : BridgeState :=
  calls.foldl (fun state timed => state.run params timed.timestamp timed.call) state

def takesEffect (state : BridgeState) (timed : TimedCall) : Bool :=
  state.effective timed.call &&
    (state.execute params timed.timestamp timed.call).toBool

section

variable {params : BridgeParameters} {timestamp : Nat} {state next : BridgeState}
  {call : BridgeCall} {timed : TimedCall} {calls : List TimedCall}

theorem Performs.epoch (performs : Performs params timestamp state call next) :
    next.mintAuthorizationEpoch =
      state.mintAuthorizationEpoch + if state.effective call then 1 else 0 := by
  cases performs with
  | paused active => simp [effective, active]
  | unpaused stopped => simp [effective, stopped]
  | rotated changed => simp [effective, changed]
  | administered administers quiet => rw [quiet]; rfl
  | minted | withdrew | transferred => rfl

theorem run_epoch (params : BridgeParameters) (state : BridgeState) (timed : TimedCall) :
    (state.run params timed.timestamp timed.call).mintAuthorizationEpoch =
      state.mintAuthorizationEpoch + if state.takesEffect params timed then 1 else 0 := by
  unfold run takesEffect
  split
  next next executed =>
    rw [(execute_performs executed).epoch, executed]
    simp [Except.toBool]
  next error executed =>
    rw [executed]
    simp [Except.toBool]

theorem runAll_epoch_le (params : BridgeParameters) (state : BridgeState) (calls : List TimedCall) :
    state.mintAuthorizationEpoch ≤ (state.runAll params calls).mintAuthorizationEpoch := by
  induction calls generalizing state with
  | nil => exact Nat.le_refl _
  | cons timed calls ih =>
    refine Nat.le_trans ?_ (ih _)
    rw [run_epoch]
    exact Nat.le_add_right ..

theorem runAll_append (state : BridgeState) (first second : List TimedCall) :
    state.runAll params (first ++ second) =
      (state.runAll params first).runAll params second := List.foldl_append ..

theorem quiet_of_epoch (state : BridgeState) {before after : List TimedCall}
    (same : (state.runAll params (before ++ timed :: after)).mintAuthorizationEpoch =
      state.mintAuthorizationEpoch) :
    (state.runAll params before).takesEffect params timed = false := by
  refine Bool.eq_false_iff.mpr fun effect => ?_
  rw [runAll_append] at same
  have first := runAll_epoch_le params state before
  have step := run_epoch params (state.runAll params before) timed
  have rest := runAll_epoch_le params
    ((state.runAll params before).run params timed.timestamp timed.call) after
  have same : (((state.runAll params before).run params timed.timestamp timed.call).runAll
    params after).mintAuthorizationEpoch = state.mintAuthorizationEpoch := same
  rw [effect, if_pos rfl] at step
  omega

/-- The signer in office is not retired, and it is somebody. -/
structure Signed (state : BridgeState) : Prop where
  inOffice : state.retiredBridgeSigners state.bridgeSigner = false
  somebody : state.bridgeSigner ≠ 0

theorem validateRoleSet_signer (roles : validateRoleSet signer administrator timelock = .ok ()) :
    signer ≠ 0 := by
  obtain ⟨somebody, _⟩ := guarded_ok.mp roles
  exact fun none => somebody (.inl none)

theorem Performs.signed (performs : Performs params timestamp state call next)
    (signed : state.Signed) : next.Signed := by
  cases performs with
  | rotated changed unused roles =>
    refine ⟨?_, validateRoleSet_signer roles⟩
    exact (Function.update_of_ne changed.symm ..).trans unused
  | _ => exact ⟨signed.inOffice, signed.somebody⟩

def Barred (signer : Bytes20) (state : BridgeState) : Prop :=
  state.retiredBridgeSigners signer = true ∨
    (state.depositMintsPaused = true ∧ state.bridgeSigner = signer ∧
      state.bridgeSignerAtLastPause = signer)

theorem Performs.retired (performs : Performs params timestamp state call next)
    (retired : state.retiredBridgeSigners signer = true) :
    next.retiredBridgeSigners signer = true := by
  cases performs with
  | rotated changed unused roles =>
    by_cases same : signer = state.bridgeSigner
    · rw [same]
      exact Function.update_self ..
    · exact (Function.update_of_ne same ..).trans retired
  | _ => exact retired

theorem Performs.barred (performs : Performs params timestamp state call next)
    (signed : state.Signed) (barred : Barred signer state) : Barred signer next := by
  rcases barred with retired | ⟨paused, office, last⟩
  · exact .inl (performs.retired retired)
  · subst office
    cases performs with
    | minted accepted => exact absurd (paused.symm.trans accepted.active) (by decide)
    | paused active => exact absurd (paused.symm.trans active) (by decide)
    | unpaused stopped replaced =>
      exact absurd ⟨by rw [last]; exact signed.somebody, last.symm⟩ replaced
    | rotated changed unused roles => exact .inl (Function.update_self ..)
    | _ => exact .inr ⟨paused, rfl, last⟩

theorem runAll_keeps (params : BridgeParameters) {holds : BridgeState → Prop}
    (keeps : ∀ timestamp state call next, Performs params timestamp state call next →
      holds state → holds next) (initially : holds state) (calls : List TimedCall) :
    holds (state.runAll params calls) := by
  induction calls generalizing state with
  | nil => exact initially
  | cons timed calls ih =>
    refine ih ?_
    dsimp only [run]
    split
    next next executed =>
      exact keeps _ _ _ _ (execute_performs executed) initially
    · exact initially

theorem deployed_signed (deployment : BridgeDeployment params) : deployment.state.Signed :=
  ⟨rfl, validateRoleSet_signer deployment.roles⟩

theorem mint_executes (executed : state.execute params timestamp
      (.mintDepositWithAuthorization authorization recovered) = .ok next) :
    recovered = some state.bridgeSigner ∧ state.depositMintsPaused = false ∧
      authorization.authorizationEpoch = state.mintAuthorizationEpoch := by
  cases execute_performs executed with
  | minted accepted => exact ⟨rfl, accepted.active, accepted.epoch⟩
  | administered administers => contradiction

theorem Performs.inOffice (performs : Performs params timestamp state call next)
    (office : state.bridgeSigner = signer ∨ state.retiredBridgeSigners signer = true) :
    next.bridgeSigner = signer ∨ next.retiredBridgeSigners signer = true := by
  rcases office with rfl | retired
  · cases performs with
    | rotated changed unused roles => exact .inr (Function.update_self ..)
    | _ => exact .inl rfl
  · exact .inr (performs.retired retired)

theorem Performs.signed_barred (performs : Performs params timestamp state call next)
    (held : state.Signed ∧ Barred signer state) : next.Signed ∧ Barred signer next :=
  ⟨performs.signed held.1, performs.barred held.1 held.2⟩

theorem barred_of_pause (signed : state.Signed) (active : state.depositMintsPaused = false)
    (pauses : state.execute params timestamp (.pauseDepositMints sender) = .ok next) :
    next.Signed ∧ Barred state.bridgeSigner next := by
  have performs := execute_performs pauses
  refine ⟨performs.signed signed, ?_⟩
  cases performs with
  | paused => exact .inr ⟨rfl, rfl, rfl⟩
  | administered administers quiet =>
    rw [effective, active] at quiet
    contradiction

/-- After every sequence of calls: a call that takes effect opens a new epoch and no other call
changes the epoch, so that an authorization for the current epoch is minted only while no call
has taken effect; a signer that was replaced never signs again; and neither does the signer under
which deposits were paused. -/
theorem authorization_epochs_revoke (deployment : BridgeDeployment params)
    (calls : List TimedCall) :
    let state := deployment.state.runAll params calls
    (∀ timestamp call next, state.execute params timestamp call = .ok next →
      if state.effective call then state.mintAuthorizationEpoch < next.mintAuthorizationEpoch
      else next.mintAuthorizationEpoch = state.mintAuthorizationEpoch) ∧
    (∀ later timestamp authorization recovered next,
      authorization.authorizationEpoch = state.mintAuthorizationEpoch →
      (state.runAll params later).execute params timestamp
        (.mintDepositWithAuthorization authorization recovered) = .ok next →
      ∀ before timed after, later = before ++ timed :: after →
        (state.runAll params before).takesEffect params timed = false) ∧
    (∀ first second, (state.runAll params first).bridgeSigner ≠ state.bridgeSigner →
      ((state.runAll params first).runAll params second).bridgeSigner ≠
        state.bridgeSigner) ∧
    ∀ timestamp sender paused, state.depositMintsPaused = false →
      state.execute params timestamp (.pauseDepositMints sender) = .ok paused →
      ∀ later mintedAt authorization next,
        (paused.runAll params later).execute params mintedAt
          (.mintDepositWithAuthorization authorization (some state.bridgeSigner)) ≠ .ok next := by
  intro state
  have signed : state.Signed := runAll_keeps params (fun _ _ _ _ performs => performs.signed)
    (deployed_signed deployment) calls
  refine ⟨fun timestamp call next executed => ?_, fun later timestamp authorization recovered next
    issued minted before timed after parts => ?_, fun first second replaced again => ?_,
    fun timestamp sender paused active pauses later mintedAt authorization next minted => ?_⟩
  · have epoch := (execute_performs executed).epoch
    split
    next effect =>
      rw [effect, if_pos rfl] at epoch
      omega
    next quiet =>
      rw [if_neg quiet] at epoch
      exact epoch
  · obtain ⟨_, _, current⟩ := mint_executes minted
    subst parts
    exact quiet_of_epoch state (current.symm.trans issued)
  · have gone := (runAll_keeps params (fun _ _ _ _ performs => performs.inOffice) (.inl rfl)
      first).resolve_left replaced
    have retired := runAll_keeps params (fun _ _ _ _ performs => performs.retired) gone second
    have office := (runAll_keeps params (fun _ _ _ _ performs => performs.signed)
      (runAll_keeps params (fun _ _ _ _ performs => performs.signed) signed first) second).inOffice
    rw [again] at office
    exact absurd (retired.symm.trans office) (by decide)
  · obtain ⟨signed, barred⟩ := runAll_keeps params
      (fun _ _ _ _ performs => performs.signed_barred) (barred_of_pause signed active pauses) later
    obtain ⟨signer, minting, _⟩ := mint_executes minted
    have same := Option.some.inj signer
    rcases barred with retired | ⟨stopped, _⟩
    · rw [same] at retired
      exact absurd (retired.symm.trans signed.inOffice) (by decide)
    · exact absurd (stopped.symm.trans minting) (by decide)

/-- Deposits are minted and then paused; the signer's other authorizations are worthless. -/
theorem authorization_epochs_revoke_sample : ∃ paused,
    (sampleDeployment.state.runAll sampleBridge
      sampleCalls).execute sampleBridge 4000 (.pauseDepositMints 12) =
        .ok paused ∧
    ∀ later mintedAt authorization next,
      (paused.runAll sampleBridge later).execute sampleBridge mintedAt
        (.mintDepositWithAuthorization authorization (some 10)) ≠ .ok next := by
  have facts := (authorization_epochs_revoke sampleDeployment
    sampleCalls).2.2.2
  have pauses : ((sampleDeployment.state.runAll sampleBridge
      sampleCalls).execute sampleBridge 4000
        (.pauseDepositMints 12)).toBool = true := by decide +kernel
  generalize executed : (sampleDeployment.state.runAll sampleBridge
    sampleCalls).execute sampleBridge 4000 (.pauseDepositMints 12) =
      result at pauses
  cases result with
  | error => contradiction
  | ok paused =>
    have signer : (sampleDeployment.state.runAll sampleBridge
      sampleCalls).bridgeSigner = 10 := by decide +kernel
    rw [signer] at facts
    exact ⟨paused, rfl, facts 4000 12 paused (by decide +kernel) executed⟩

end

end KinicBridge.BridgeState
