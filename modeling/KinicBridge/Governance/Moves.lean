import KinicBridge.Governance.Changes
import KinicBridge.Governance.World

/-! Everything a command can do to the canister and Base, with what the canister has checked.
Every invariant of the system is an argument over these moves. -/
namespace KinicBridge.GovernanceWorld

open GovernanceAdmission

variable (params : GovernanceParameters) (config : GovernanceConfig)

section

variable (world : GovernanceWorld)

structure Links (world : GovernanceWorld) (parent block : GovernanceBlock) : Prop where
  later : parent.timestamp ≤ block.timestamp
  included : ∃ inclusions, inclusions.all world.signedInclusion = true ∧
    parent.state.includeAll params block.timestamp inclusions = some block.state

def Fits (paused : Prop) : Prop :=
  ∀ flow, world.flow = some flow → flow.Fits config world.store paused

def ReadsPaused (paused : Prop) : Prop :=
  ∀ base, world.reading = some base → base.bridge.depositMintsPaused = true → paused

def callOf (transaction : GovernanceTransaction) (hash : Bytes32) : GovernanceCall :=
  ⟨hash, config.operator world.store.admission.controlPlaneKeyGeneration
    transaction.kind.nonceLane, transaction.envelope.nonce, transaction.id, transaction.kind⟩

end

inductive Moves (world : GovernanceWorld) : GovernanceCommand → GovernanceWorld → Prop where
  | quiet {flow : Option GovernanceFlow} (fits : ∀ paused, world.Fits config paused → world.ReadsPaused paused →
          ∀ next, flow = some next → next.Fits config world.store paused) :
      Moves world command { world with flow, reading := none }
  | read (head : world.head = some base) : Moves world .read { world with reading := some base }
  | opened (inFlight : world.flow = some (.affording plan transaction))
      (opens : world.store.admission.Opened transaction.kind.nonceLane plan.nonce opened) :
      Moves world (.answer answer)
        { world with store := world.store.withAdmission opened, flow := none, reading := none }
  | prepared (inFlight : world.flow = some (.affording plan transaction))
      (opens : world.store.admission.Opened transaction.kind.nonceLane plan.nonce opened)
      (prepares : opened.Prepared transaction stored)
      (authority : world.store.controllerAuthorityHolds world.controllers transaction = true) :
      Moves world (.answer answer)
        { world with
          store := world.store.withAdmission stored
          flow := some (.signing plan.caller transaction)
          reading := none
          prepared := transaction.id :: world.prepared }
  | generated {transaction : GovernanceTransaction} {hash : Bytes32}
      (held : world.store.Holds transaction)
      (safe : world.store.dangerousInEmergency transaction.kind = false)
      (fresh : ∀ call ∈ world.signed, call.hash ≠ hash)
      (updates : world.store.admission.Updated (GovernanceStore.withGeneration
        (transaction.atFee maxFee maxPriorityFee) hash generation world.now) stored) :
      Moves world (.answer (.signature hash))
        { world with
          store := world.store.withAdmission stored
          flow := none
          reading := none
          signed := world.callOf config transaction hash :: world.signed }
  | aborted {transaction : GovernanceTransaction} {flow : Option GovernanceFlow}
      (aborts : world.store.admission.Aborted transaction stored)
      (fits : ∀ next, flow = some next →
        next.Fits config (world.store.withAdmission stored) False) :
      Moves world command
        { world with store := world.store.withAdmission stored, flow, reading := none }
  | completed {hash : Bytes32} {store : GovernanceStore}
      (inFlight : world.flow = some (.confirming caller transaction hash))
      (observed : world.reading = some base) (receipt : base.receipts hash = some succeeded)
      (postcondition : succeeded = true → postconditionMatches transaction.kind base.observe = true)
      (authority : world.store.controllerAuthorityHolds world.controllers transaction = true)
      (completes : world.store.Completes
        (GovernanceStore.withReceipt transaction hash succeeded block) store) :
      Moves world (.answer .observed) { world with store, flow := none, reading := none }
  | emergency (tip : world.tip = some block)
      (paused : world.store.admin.pause caller = .ok admin) :
      Moves world (.emergencyPause caller)
        { world with
          store := ⟨world.store.admission.enqueueEmergencyBaseActions, admin⟩
          emergency := some ⟨world.store.admission.nextGovernanceOperationId,
            fun hash => (block.state.receipts hash).isSome⟩ }
  | administered {admin : AdminState}
      (governance : admin.governancePrincipal = world.store.admin.governancePrincipal)
      (paused : world.store.admin.depositsPaused = true → admin.depositsPaused = true) :
      Moves world command { world with store := ⟨world.store.admission, admin⟩ }
  | controllersSet {controllers : List Principal} : Moves world (.setControllers controllers) { world with controllers }
  | ticked {now : Nat} (later : world.now ≤ now) : Moves world (.tick now) { world with now }
  | chained {chain : FinalChain GovernanceBlock}
      (next : FinalChain.Step (world.Links params) world.chain chain) :
      Moves world command { world with chain }

structure Consistent (world : GovernanceWorld) : Prop where
  laned : world.store.Laned
  unsigned : ∀ lane transaction, (world.store.admission.lane lane).pending = some transaction →
    transaction.state = .prepared → transaction.envelope.signedTransactions = []
  fits : world.Fits config True

section Messages

variable {params : GovernanceParameters} {config : GovernanceConfig} {world : GovernanceWorld}
  {flow : GovernanceFlow} {store : GovernanceStore} {message : GovernanceMessage}
  {answer : GovernanceAnswer}

theorem nextFlow_eq_some
    (next : nextFlow message = some flow) : message.2 = .ok (.waiting flow) := by
  unfold nextFlow at next
  split at next
  next waiting =>
    cases next
    exact waiting
  · contradiction

theorem Moves.of_sound {command : GovernanceCommand}
    {result : Except GovernanceError GovernanceProgress}
    (sound : ∀ paused, world.Fits config paused → world.ReadsPaused paused →
      ∀ progress, result = .ok progress → progress.Sound config world.store paused) :
    Moves params config world command
      { world with flow := nextFlow (world.store, result), reading := none } :=
  .quiet fun paused fits reads next waiting =>
    sound paused fits reads (.waiting next) (nextFlow_eq_some waiting)

theorem prepareNextEmergency_cases (config : GovernanceConfig)
    (laned : store.Laned) (controllers : List Principal) (caller : Principal) :
    let message := store.prepareNextEmergency config controllers caller
    (message.1 = store ∨ ∃ tx stored, store.admission.Aborted tx stored ∧
      message.1 = store.withAdmission stored) ∧
    ∀ paused progress, message.2 = .ok progress → progress.Sound config message.1 paused := by
  intro message
  subst message
  unfold GovernanceStore.prepareNextEmergency
  split
  · exact ⟨.inl rfl, fun _ _ failed => by contradiction⟩
  next kind _ =>
    have prepares : ∀ (store : GovernanceStore) (paused : Prop) progress,
        (do let action ← GovernanceStore.emergencyAction kind
            store.prepare config controllers caller action) = .ok progress →
        progress.Sound config store paused := by
      intro store paused progress prepared
      obtain ⟨_, _, prepared⟩ := bind_ok.mp prepared
      exact GovernanceStore.prepare_sound prepared
    dsimp only
    split
    · exact ⟨.inl rfl, prepares store⟩
    next pending present =>
      split
      · refine ⟨.inl rfl, fun paused progress resumed => ?_⟩
        obtain ⟨_, _, rest⟩ := bind_ok.mp resumed
        obtain ⟨_, _, rest⟩ := bind_ok.mp rest
        obtain ⟨kind, _, held⟩ := Option.bind_eq_some_iff.mp present
        refine GovernanceStore.resumePending_sound ?_ rest
        rw [GovernanceStore.Holds, laned _ _ held]
        exact held
      · split
        · split
          · exact ⟨.inl rfl, fun _ _ failed => by contradiction⟩
          next stored aborted =>
            exact ⟨.inr ⟨pending, stored, abortPreparedGovernanceTransactionForEmergency_ok aborted,
              rfl⟩, prepares _⟩
        · exact ⟨.inl rfl, fun _ _ failed => by contradiction⟩

theorem start_moves (laned : world.store.Laned) (caller : Principal)
    (endpoint : GovernanceEndpoint) : Moves params config world (.call caller endpoint) { world with
        store := (world.start config caller endpoint).1
        flow := nextFlow (world.start config caller endpoint)
        reading := none } := by
  cases endpoint with
  | prepare action => exact .of_sound fun _ _ _ _ ok => GovernanceStore.prepare_sound ok
  | prepareReplacement args =>
    exact .of_sound fun _ _ _ _ ok => GovernanceStore.prepareReplacement_sound laned ok
  | confirm args => exact .of_sound fun _ _ _ _ ok => GovernanceStore.confirm_sound laned ok
  | prepareNextEmergency =>
    obtain ⟨written, sound⟩ := prepareNextEmergency_cases config laned world.controllers caller
    rw [start]
    rcases written with kept | ⟨tx, stored, aborts, written⟩
    · rw [kept] at sound ⊢
      exact .quiet fun paused _ _ next waiting =>
        sound paused (.waiting next) (nextFlow_eq_some waiting)
    · rw [written] at sound ⊢
      exact .aborted aborts fun next waiting =>
        sound False (.waiting next) (nextFlow_eq_some waiting)

theorem afforded_cases {controllers : List Principal}
    {plan : PreparePlan} {tx : GovernanceTransaction}
    (known : plan.initialized = (store.admission.lane tx.kind.nonceLane).initialized) :
    (∃ error, store.afforded controllers plan tx = (store, .error error)) ∨
    ∃ opened, store.admission.Opened tx.kind.nonceLane plan.nonce opened ∧
      ((∃ error, store.afforded controllers plan tx = (store.withAdmission opened, .error error)) ∨
        ∃ stored, opened.Prepared tx stored ∧ store.controllerAuthorityHolds controllers tx = true ∧
          store.afforded controllers plan tx =
            (store.withAdmission stored, .ok (.waiting (.signing plan.caller tx)))) := by
  unfold GovernanceStore.afforded
  split
  · exact .inl ⟨_, rfl⟩
  next authorized =>
    dsimp only
    split
    · exact .inl ⟨_, rfl⟩
    next opened first =>
      refine .inr ⟨opened, ?_, ?_⟩
      · split at first
        next initialized =>
          cases first
          exact .skipped (known ▸ initialized)
        · exact initializeGovernanceNonceFor_ok first
      · split
        · exact .inl ⟨_, rfl⟩
        next stored prepares =>
          refine .inr ⟨stored, prepareGovernanceTransaction_ok prepares, ?_, rfl⟩
          obtain ⟨_, _, controlled⟩ := bind_ok.mp authorized
          exact GovernanceStore.requireTransactionControllerAuthority_ok controlled

theorem persist_cases (store : GovernanceStore) (tx : GovernanceTransaction)
    (hash : Bytes32) (generation now : Nat) (operator : Bytes20) :
    let replaced := GovernanceStore.withGeneration tx hash generation now
    (∃ error, store.persist replaced operator = (store, .error error)) ∨
    ∃ stored view, store.admission.Updated replaced stored ∧ view.kind = tx.kind ∧
      store.persist replaced operator = (store.withAdmission stored, .ok (.returned view)) := by
  intro replaced
  unfold GovernanceStore.persist
  split
  · exact .inl ⟨_, rfl⟩
  next stored updated =>
    obtain ⟨view, viewed⟩ : ∃ view, GovernanceStore.signedView replaced operator = .ok view := by
      simp [replaced, GovernanceStore.signedView, GovernanceStore.withGeneration, Except.map]
    refine .inr ⟨stored, view, updateGovernanceTransaction_ok updated,
      (GovernanceStore.signedView_ok viewed).2.1, ?_⟩
    rw [viewed]
    rfl

theorem signed_cases (store : GovernanceStore) (controllers : List Principal) (caller : Principal)
    (tx : GovernanceTransaction) (hash : Bytes32) (now : Nat) :
    (∃ error, store.signed controllers caller tx hash now = (store, .error error)) ∨
    (∃ stored error, store.admission.Aborted tx stored ∧
      store.signed controllers caller tx hash now = (store.withAdmission stored, .error error)) ∨
    ∃ stored view, store.dangerousInEmergency tx.kind = false ∧
      store.admission.Updated (GovernanceStore.withGeneration tx hash 0 now) stored ∧
      view.kind = tx.kind ∧ store.signed controllers caller tx hash now =
        (store.withAdmission stored, .ok (.returned view)) := by
  unfold GovernanceStore.signed
  split
  · exact .inl ⟨_, rfl⟩
  next operator _ =>
    split
    · split
      · exact .inl ⟨_, rfl⟩
      next stored aborted =>
        exact .inr (.inl ⟨stored, _,
          abortPreparedGovernanceTransactionForEmergency_ok aborted, rfl⟩)
    next safe =>
      rcases persist_cases store tx hash 0 now operator with failed | ⟨stored, view, rest⟩
      · exact .inl failed
      · exact .inr (.inr ⟨stored, view, Bool.of_not_eq_true safe, rest⟩)

theorem replacementSigned_cases (store : GovernanceStore) (controllers : List Principal)
    (caller : Principal) (tx : GovernanceTransaction)
    (current : SignedGovernanceTransaction) (hash : Bytes32) (now : Nat) :
    (∃ error, store.replacementSigned controllers caller tx current hash now =
      (store, .error error)) ∨
    ∃ generation stored view, store.dangerousInEmergency tx.kind = false ∧ store.admission.Updated
        (GovernanceStore.withGeneration tx hash generation now) stored ∧
      view.kind = tx.kind ∧ store.replacementSigned controllers caller tx current hash now =
        (store.withAdmission stored, .ok (.returned view)) := by
  unfold GovernanceStore.replacementSigned
  split
  · exact .inl ⟨_, rfl⟩
  next operator _ =>
    split
    · exact .inl ⟨_, rfl⟩
    next safe =>
      split
      · exact .inl ⟨_, rfl⟩
      next generation _ =>
        rcases persist_cases store tx hash generation now operator with
          failed | ⟨stored, view, rest⟩
        · exact .inl failed
        · exact .inr ⟨generation, stored, view, Bool.of_not_eq_true safe, rest⟩

theorem receiptArrived_cases (config : GovernanceConfig) (store : GovernanceStore)
    (controllers : List Principal) (caller : Principal) (tx : GovernanceTransaction)
    (hash : Bytes32) (outcome : ReceiptOutcome) :
    let message := store.receiptArrived config controllers caller tx hash outcome
    (∀ progress, message.2 = .ok progress → ∃ confirmation, progress = .confirmed confirmation) ∧
    (message.1 = store ∨ ∃ succeeded block observed, outcome = .found succeeded block observed ∧
      (succeeded = true → postconditionMatches tx.kind observed = true) ∧
      store.controllerAuthorityHolds controllers tx = true ∧
      store.Completes (GovernanceStore.withReceipt tx hash succeeded block) message.1) := by
  intro message
  subst message
  unfold GovernanceStore.receiptArrived
  split
  · exact ⟨fun _ ok => by contradiction, .inl rfl⟩
  next authorized =>
    split
    · exact ⟨fun _ ok => by contradiction, .inl rfl⟩
    · exact ⟨fun _ ok => by contradiction, .inl rfl⟩
    next succeeded block observed =>
      split
      · exact ⟨fun _ ok => by contradiction, .inl rfl⟩
      next postcondition =>
        split
        · exact ⟨fun _ ok => by contradiction, .inl rfl⟩
        next completed completes =>
          refine ⟨fun progress ok => ?_, .inr ⟨succeeded, block, observed, rfl, ?_, ?_,
            GovernanceStore.completeWithReceipt_ok completes⟩⟩
          · cases succeeded <;> cases ok
            exact ⟨_, rfl⟩
          · rintro rfl
            simpa using postcondition
          · obtain ⟨_, _, controlled⟩ := bind_ok.mp authorized
            exact GovernanceStore.requireTransactionControllerAuthority_ok controlled

theorem resume_failed (params : GovernanceParameters) (config : GovernanceConfig)
    (world : GovernanceWorld) (flow : GovernanceFlow) :
    ∃ error, world.resume params config flow .failed = some (world.store, .error error) := by
  cases flow <;> exact ⟨_, rfl⟩

theorem answered_failed : world.answered config flow answer (store, .error error) =
      { world with store, flow := none, reading := none } := by
  cases flow <;> cases answer <;> rfl

theorem fresh_signature {hash : Bytes32} (fresh : world.fresh (.signature hash) = true) :
    ∀ call ∈ world.signed, call.hash ≠ hash := by
  intro call logged
  have differs := List.all_eq_true.mp fresh call logged
  simpa using differs

theorem resume_moves (consistent : Consistent config world) (inFlight : world.flow = some flow)
    (resumed : world.resume params config flow answer = some message)
    (fresh : world.fresh answer = true) :
    Moves params config world (.answer answer) (world.answered config flow answer message) := by
  have failing : ∀ error, Moves params config world (.answer answer)
      (world.answered config flow answer (world.store, .error error)) := by
    intro error
    rw [answered_failed]
    exact .quiet fun _ _ _ _ none => by contradiction
  have fits := consistent.fits flow inFlight
  cases answer with
  | failed =>
    obtain ⟨error, failed⟩ := resume_failed params config world flow
    rw [failed] at resumed
    cases resumed
    exact failing error
  | observed =>
    cases flow with
    | observingFee =>
      obtain ⟨_, _, rfl⟩ := Option.map_eq_some_iff.mp resumed
      exact .of_sound fun _ _ _ _ ok => GovernanceStore.feeObserved_sound ok
    | counting =>
      obtain ⟨_, _, rfl⟩ := Option.map_eq_some_iff.mp resumed
      refine .of_sound fun _ _ _ _ ok => ?_
      obtain ⟨_, _, ok⟩ := bind_ok.mp ok
      exact GovernanceStore.prepareWithNonce_sound ok
    | preflight plan =>
      obtain ⟨base, observed, rfl⟩ := Option.map_eq_some_iff.mp resumed
      exact .of_sound fun _ _ reads _ ok =>
        GovernanceStore.preflighted_sound fits (reads base observed) ok
    | confirming caller tx hash =>
      obtain ⟨base, observed, rfl⟩ := Option.map_eq_some_iff.mp resumed
      obtain ⟨ended, written⟩ := receiptArrived_cases config world.store world.controllers caller
        tx hash (world.receiptOutcome base hash)
      generalize arrived : world.store.receiptArrived config world.controllers caller tx
        hash (world.receiptOutcome base hash) = message at ended written
      have quietly : world.answered config (.confirming caller tx hash) .observed message =
          { world with store := message.1, flow := none, reading := none } := by
        have ends : nextFlow message = none := by
          unfold nextFlow
          split
          next waiting =>
            obtain ⟨_, waits⟩ := ended _ waiting
            contradiction
          · rfl
        rw [← ends]
        rfl
      rw [quietly]
      rcases written with kept | ⟨succeeded, block, seen, found, postcondition, authority, completes⟩
      · rw [kept]
        exact .quiet fun _ _ _ _ none => by contradiction
      · unfold receiptOutcome at found
        split at found
        · contradiction
        next outcome receipt =>
          cases found
          exact .completed inFlight observed receipt postcondition authority completes
    | _ => contradiction
  | done =>
    cases flow with
    | addressing plan generation =>
      cases resumed
      refine .of_sound fun paused fits _ _ ok => ?_
      cases ok
      exact GovernanceStore.addressed_sound (fits _ inFlight)
    | affording plan tx =>
      cases resumed
      have known : plan.initialized =
          (world.store.admission.lane tx.kind.nonceLane).initialized := by
        rw [fits.2.1]
        exact fits.1.known
      rcases afforded_cases known with ⟨error, failed⟩ | ⟨opened, opens, written⟩
      · rw [failed]
        exact failing error
      · rcases written with ⟨error, failed⟩ | ⟨stored, prepares, authority, written⟩
        · rw [failed, answered_failed]
          exact .opened inFlight opens
        · rw [written]
          exact .prepared inFlight opens prepares authority
    | resuming caller tx =>
      cases resumed
      exact .of_sound fun _ _ _ _ ok => GovernanceStore.resumed_sound fits.1 ok
    | replacing caller tx current =>
      cases resumed
      exact .of_sound fun _ fits _ _ ok =>
        GovernanceStore.replacementAfforded_sound (fits _ inFlight) ok
    | _ => contradiction
  | signature hash =>
    cases flow with
    | signing caller tx =>
      cases resumed
      rcases signed_cases world.store world.controllers caller tx hash world.now with
        ⟨error, failed⟩ | ⟨stored, error, aborts, written⟩ | ⟨stored, view, safe, updates, _, written⟩
      · rw [failed]
        exact failing error
      · rw [written, answered_failed]
        exact .aborted aborts fun _ none => by contradiction
      · rw [written]
        exact .generated fits.1 safe (fresh_signature fresh) updates
    | replacementSigning caller tx current =>
      cases resumed
      obtain ⟨pending, maxFee, maxPriorityFee, held, rfl, _⟩ := fits
      rcases replacementSigned_cases world.store world.controllers caller _ current hash world.now
        with ⟨error, failed⟩ | ⟨generation, stored, view, safe, updates, _, written⟩
      · rw [failed]
        exact failing error
      · have stored : Moves params config world _ _ :=
          .generated held safe (fresh_signature fresh) updates
        rw [written]
        exact stored
    | _ => contradiction

theorem step_moves (consistent : Consistent config world)
    (stepped : world.step params config command = some next) :
    Moves params config world command next := by
  cases command with
  | call caller endpoint =>
    simp only [step] at stepped
    split at stepped
    · contradiction
    · cases stepped
      exact start_moves consistent.laned caller endpoint
  | read =>
    obtain ⟨_, _, rest⟩ := Option.bind_eq_some_iff.mp stepped
    obtain ⟨base, head, rest⟩ := Option.bind_eq_some_iff.mp rest
    cases rest
    exact .read head
  | answer answer =>
    obtain ⟨flow, inFlight, rest⟩ := Option.bind_eq_some_iff.mp stepped
    obtain ⟨message, resumed, rest⟩ := Option.bind_eq_some_iff.mp rest
    split at rest
    next fresh =>
      cases rest
      exact resume_moves consistent inFlight resumed fresh
    · contradiction
  | emergencyPause caller =>
    simp only [step] at stepped
    split at stepped
    · contradiction
    next store declared =>
      obtain ⟨tip, last, rest⟩ := Option.bind_eq_some_iff.mp stepped
      cases rest
      unfold GovernanceStore.emergencyPause at declared
      split at declared
      · contradiction
      next admin paused =>
        cases declared
        exact .emergency last paused
  | pauseNewDeposits caller =>
    simp only [step] at stepped
    split at stepped
    · contradiction
    next admin paused =>
      cases stepped
      unfold AdminState.pause at paused
      split at paused
      · cases paused
        exact .administered rfl fun _ => rfl
      · contradiction
  | rotatePausePrincipal caller principal =>
    simp only [step] at stepped
    split at stepped
    · contradiction
    next store rotated =>
      cases stepped
      obtain ⟨_, rotated⟩ := guarded_ok.mp rotated
      obtain ⟨_, rotated⟩ := guarded_ok.mp rotated
      obtain ⟨_, rotated⟩ := guarded_ok.mp rotated
      cases rotated
      exact .administered rfl fun paused => paused
  | setControllers controllers =>
    cases stepped
    exact .controllersSet
  | tick now =>
    simp only [step] at stepped
    split at stepped
    next later =>
      cases stepped
      exact .ticked later
    · contradiction
  | mine timestamp inclusions =>
    obtain ⟨parent, tip, rest⟩ := Option.bind_eq_some_iff.mp stepped
    split at rest
    · contradiction
    next allowed =>
      obtain ⟨state, included, rest⟩ := Option.bind_eq_some_iff.mp rest
      cases rest
      rw [not_or, Nat.not_lt, Bool.not_eq_false] at allowed
      exact .chained (.mined tip ⟨allowed.1, inclusions, allowed.2, included⟩)
  | reorganize length =>
    simp only [step] at stepped
    split at stepped
    next kept =>
      cases stepped
      exact .chained (.reorganized kept)
    · contradiction
  | finalize length =>
    simp only [step] at stepped
    split at stepped
    next bounded =>
      split at stepped
      next grown =>
        cases stepped
        exact .chained (.finalized grown bounded)
      · contradiction
    · contradiction

end Messages

section Consistency

variable {params : GovernanceParameters} {config : GovernanceConfig}
  {world next : GovernanceWorld} {command : GovernanceCommand}

section

variable (moves : Moves params config world command next)

include moves

theorem Moves.pending_cases {lane : GovernanceNonceLane} {tx : GovernanceTransaction}
    (pending : (next.store.admission.lane lane).pending = some tx) :
    (world.store.admission.lane lane).pending = some tx ∨
    (tx.kind.nonceLane = lane ∧ ∃ plan, world.flow = some (.affording plan tx)) ∨
    ∃ held maxFee maxPriorityFee hash generation, world.store.Holds held ∧
      held.kind.nonceLane = lane ∧ tx = GovernanceStore.withGeneration
        (held.atFee maxFee maxPriorityFee) hash generation world.now := by
  cases moves with
  | opened inFlight opens => exact .inl (opens.pending.symm.trans pending)
  | prepared inFlight opens prepares =>
    rcases prepares.pending_cases pending with ⟨own, rfl⟩ | ⟨_, before⟩
    · exact .inr (.inl ⟨own.symm, _, inFlight⟩)
    · exact .inl (opens.pending.symm.trans before)
  | generated held safe fresh updates =>
    rcases updates.pending_cases pending with ⟨own, rfl⟩ | ⟨_, before⟩
    · exact .inr (.inr ⟨_, _, _, _, _, held, own.symm, rfl⟩)
    · exact .inl before
  | aborted aborts => exact .inl (aborts.still_pending pending).2
  | completed inFlight observed receipt postcondition authority completes =>
    exact .inl (completes.still_pending pending).2
  | _ => exact .inl pending

theorem Moves.fits (fits : world.Fits config paused) (reads : world.ReadsPaused paused) :
    next.Fits config paused := by
  cases moves with
  | quiet sound => exact sound paused fits reads
  | prepared inFlight opens prepares =>
    rintro flow ⟨⟩
    refine ⟨?_, ?_⟩
    · exact (congrArg LaneState.pending (prepares.lanes _)).trans (by rw [if_pos rfl])
    · rw [(fits _ inFlight).2.2.1]
      rfl
  | aborted aborts sound => exact fun flow waiting => (sound flow waiting).mono False.elim
  | emergency | administered =>
    exact fun flow waiting => (fits flow waiting).kept ⟨rfl, rfl, rfl, rfl⟩
  | read | controllersSet | ticked | chained => exact fits
  | _ => exact fun _ none => by contradiction

theorem Moves.consistent (consistent : Consistent config world) : Consistent config next := by
  refine ⟨fun lane tx pending => ?_, fun lane tx pending prepared => ?_,
    moves.fits consistent.fits fun _ _ _ => trivial⟩
  · rcases moves.pending_cases pending with before | ⟨own, _⟩ | ⟨held, _, _, _, _, _, own, rfl⟩
    · exact consistent.laned lane tx before
    · exact own
    · exact own
  · rcases moves.pending_cases pending with before | ⟨_, plan, inFlight⟩ | ⟨_, _, _, _, _, _, _, rfl⟩
    · exact consistent.unsigned lane tx before prepared
    · rw [(consistent.fits _ inFlight).2.2.1]
      rfl
    · contradiction

end

theorem Initial.consistent (initial : Initial config world) : Consistent config world := by
  refine ⟨fun lane tx pending => ?_, fun lane tx pending => ?_, fun flow waiting => ?_⟩
  · rw [initial.unused lane] at pending
    contradiction
  · rw [initial.unused lane] at pending
    contradiction
  · rw [initial.idle.1] at waiting
    contradiction

theorem Reachable.invariant {allowed : GovernanceWorld → GovernanceCommand → Bool}
    {holds : GovernanceWorld → Prop} (initially : ∀ world, Initial config world → holds world)
    (kept : ∀ world command next, Consistent config world → allowed world command = true →
      Moves params config world command next → holds world → holds next)
    (reached : Reachable params config allowed world) : Consistent config world ∧ holds world := by
  induction reached with
  | initial fresh => exact ⟨fresh.consistent, initially _ fresh⟩
  | step before meets stepped ih =>
    have moves := step_moves ih.1 stepped
    exact ⟨moves.consistent ih.1, kept _ _ _ ih.1 meets moves ih.2⟩

theorem Reachable.run {allowed : GovernanceWorld → GovernanceCommand → Bool}
    (before : Reachable params config allowed world)
    (ran : world.run params config allowed commands = some next) :
    Reachable params config allowed next := by
  induction commands generalizing world with
  | nil =>
    cases ran
    exact before
  | cons command commands ih =>
    obtain ⟨between, stepped, ran⟩ := Option.bind_eq_some_iff.mp ran
    dsimp only at stepped
    split at stepped
    next meets =>
      exact ih (before.step meets stepped) ran
    · contradiction

end Consistency

end KinicBridge.GovernanceWorld
