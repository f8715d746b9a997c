import KinicBridge.Governance.Bookkeeping

/-! Signatures during an emergency. The check for an emergency, the abort and the storing of a
new generation are one message, whichever endpoint asked for the signature. -/
namespace KinicBridge.GovernanceWorld

open GovernanceStore

variable {params : GovernanceParameters} {config : GovernanceConfig}
  {world next : GovernanceWorld} {command : GovernanceCommand} {id : Nat}
  {kind : GovernanceTransactionKind} {generation : SignedGovernanceTransaction}

inductive Sends (params : GovernanceParameters) (config : GovernanceConfig)
    (world : GovernanceWorld) : GovernanceMessage → Prop where
  | start (free : world.flow = none) (caller : Principal) (endpoint : GovernanceEndpoint) :
      Sends params config world (world.start config caller endpoint)
  | resume (inFlight : world.flow = some waiting)
      (resumed : world.resume params config waiting answer = some message) :
      Sends params config world message

variable {store : GovernanceStore} {tx : GovernanceTransaction}

theorem stores_of_lane {lane : GovernanceNonceLane}
    (slot : (store.admission.lane lane).pending = some tx ∨
      (store.admission.lane lane).completed = some tx)
    (signed : generation ∈ tx.envelope.signedTransactions) :
    store.Stores tx.id tx.kind generation :=
  ⟨lane, tx, slot, rfl, rfl, signed⟩

theorem aborted_stores {stored : GovernanceAdmission} (aborts : store.admission.Aborted tx stored)
    (held : (store.withAdmission stored).Stores id kind generation) :
    store.Stores id kind generation := by
  obtain ⟨lane, kept, slot, rfl, rfl, signed⟩ := held
  rw [withAdmission, aborts.lanes] at slot
  split at slot
  · rcases slot with none | done
    · contradiction
    · cases done
      exact stores_of_lane (.inl aborts.pending) signed
  · exact stores_of_lane slot signed

/-- A generation that is stored after a move was stored before, or is new and was checked
against the emergency. -/
theorem Moves.stores (moves : Moves params config world command next)
    (consistent : Consistent config world) (held : next.store.Stores id kind generation) :
    world.store.Stores id kind generation ∨ world.store.dangerousInEmergency kind = false := by
  cases moves with
  | opened inFlight opens =>
    obtain ⟨lane, tx, slot, rfl, rfl, signed⟩ := held
    rw [withAdmission, opens.lanes] at slot
    split at slot <;> exact .inl (stores_of_lane slot signed)
  | prepared inFlight opens prepares =>
    obtain ⟨lane, tx, slot, rfl, rfl, signed⟩ := held
    rw [withAdmission, prepares.lanes] at slot
    split at slot
    · rcases slot with new | done
      · cases new
        rw [(consistent.fits _ inFlight).2.2.1] at signed
        contradiction
      · rw [opens.lanes] at done
        split at done <;> exact .inl (stores_of_lane (.inr done) signed)
    · rw [opens.lanes] at slot
      split at slot <;> exact .inl (stores_of_lane slot signed)
  | generated pending safe fresh updates =>
    obtain ⟨lane, tx, slot, rfl, rfl, signed⟩ := held
    rw [withAdmission, updates.lanes] at slot
    split at slot
    · rcases slot with new | done
      · cases new
        exact .inr safe
      · exact .inl (stores_of_lane (.inr done) signed)
    · exact .inl (stores_of_lane slot signed)
  | aborted aborts => exact .inl (aborted_stores aborts held)
  | completed inFlight observed receipt postcondition authority completes =>
    obtain ⟨lane, tx, slot, rfl, rfl, signed⟩ := held
    obtain ⟨before, pending, id, kind, envelope⟩ := completes.pending
    rw [completes.lanes, GovernanceAdmission.completedLane_pending,
      GovernanceAdmission.completedLane_completed] at slot
    split at slot
    · rcases slot with none | done
      · contradiction
      · cases done
        rw [← envelope] at signed
        rw [← id, ← kind]
        exact .inl (stores_of_lane (.inl pending) signed)
    · exact .inl (stores_of_lane slot signed)
  | _ => exact .inl held

theorem returned_stored (config : GovernanceConfig) {view : SignedBaseGovernanceTransaction}
    (sound : (GovernanceProgress.returned view).Sound config store True) :
    store.Stores view.operationId view.kind view.signed := sound

theorem start_returned (laned : world.store.Laned) (caller : Principal)
    (endpoint : GovernanceEndpoint)
    (returned : (world.start config caller endpoint).2 = .ok (.returned view)) :
    world.store.Stores view.operationId view.kind view.signed := by
  cases endpoint with
  | prepare action => exact returned_stored config (prepare_sound returned)
  | prepareReplacement args =>
    exact returned_stored config (prepareReplacement_sound laned returned)
  | confirm args => exact returned_stored config (confirm_sound laned returned)
  | prepareNextEmergency =>
    obtain ⟨written, sound⟩ := prepareNextEmergency_cases config laned world.controllers caller
    have stored := returned_stored config (sound True _ returned)
    rcases written with kept | ⟨tx, admission, aborts, written⟩
    · rwa [kept] at stored
    · rw [written] at stored
      exact aborted_stores aborts stored

theorem resume_returned (consistent : Consistent config world) {flow : GovernanceFlow}
    {answer : GovernanceAnswer} {message : GovernanceMessage} (inFlight : world.flow = some flow)
    (resumed : world.resume params config flow answer = some message)
    (returned : message.2 = .ok (.returned view)) :
    world.store.Stores view.operationId view.kind view.signed ∨
      world.store.dangerousInEmergency view.kind = false := by
  have fits := consistent.fits flow inFlight
  cases answer with
  | failed =>
    obtain ⟨error, failed⟩ := resume_failed params config world flow
    rw [failed] at resumed
    cases resumed
    contradiction
  | observed =>
    cases flow with
    | observingFee =>
      obtain ⟨_, _, rfl⟩ := Option.map_eq_some_iff.mp resumed
      exact .inl (returned_stored config (feeObserved_sound returned))
    | counting =>
      obtain ⟨_, _, rfl⟩ := Option.map_eq_some_iff.mp resumed
      obtain ⟨_, _, returned⟩ := bind_ok.mp returned
      exact .inl (returned_stored config (prepareWithNonce_sound returned))
    | preflight plan =>
      obtain ⟨_, _, rfl⟩ := Option.map_eq_some_iff.mp resumed
      exact .inl (returned_stored config (preflighted_sound fits (fun _ => trivial) returned))
    | confirming caller tx hash =>
      obtain ⟨base, _, rfl⟩ := Option.map_eq_some_iff.mp resumed
      obtain ⟨_, confirmed⟩ := (receiptArrived_cases config world.store world.controllers caller
        tx hash (world.receiptOutcome base hash)).1 _ returned
      contradiction
    | _ => contradiction
  | done =>
    cases flow with
    | addressing plan generation =>
      cases resumed
      cases returned
    | affording plan tx =>
      cases resumed
      have known : plan.initialized =
          (world.store.admission.lane tx.kind.nonceLane).initialized := by
        rw [fits.2.1]
        exact fits.1.known
      rcases afforded_cases known with ⟨_, failed⟩ | ⟨_, _, ⟨_, failed⟩ | ⟨_, _, _, written⟩⟩
      · rw [failed] at returned
        contradiction
      · rw [failed] at returned
        contradiction
      · rw [written] at returned
        cases returned
    | resuming caller tx =>
      cases resumed
      exact .inl (returned_stored config (resumed_sound fits.1 returned))
    | replacing caller tx current =>
      cases resumed
      exact .inl (returned_stored config (replacementAfforded_sound fits returned))
    | _ => contradiction
  | signature hash =>
    cases flow with
    | signing caller tx =>
      cases resumed
      rcases signed_cases world.store world.controllers caller tx hash world.now with
        ⟨_, failed⟩ | ⟨_, _, _, failed⟩ | ⟨_, handed, safe, _, kind, written⟩
      · rw [failed] at returned
        contradiction
      · rw [failed] at returned
        contradiction
      · rw [written] at returned
        cases returned
        exact .inr (kind ▸ safe)
    | replacementSigning caller tx current =>
      cases resumed
      rcases replacementSigned_cases world.store world.controllers caller tx current hash
        world.now with ⟨_, failed⟩ | ⟨_, _, handed, safe, _, kind, written⟩
      · rw [failed] at returned
        contradiction
      · rw [written] at returned
        cases returned
        exact .inr (kind ▸ safe)
    | _ => contradiction

/-- While an emergency asks for Base actions, no step stores a new generation of a dangerous
transaction and no message hands one out. -/
theorem no_dangerous_signature_in_emergency (reached : Reachable params config allowed world)
    (emergency : world.store.admission.emergencyBaseActionsPending = true)
    (dangerous : kind.dangerous = true) :
    (∀ command next id generation, world.step params config command = some next →
      next.store.Stores id kind generation → world.store.Stores id kind generation) ∧
    ∀ message view, Sends params config world message → message.2 = .ok (.returned view) →
      view.kind = kind → world.store.Stores view.operationId kind view.signed := by
  have consistent := (reached.invariant (fun _ _ => trivial)
    (fun _ _ _ _ _ _ _ => trivial) : Consistent config world ∧ True).1
  have guarded : world.store.dangerousInEmergency kind ≠ false := by
    rw [dangerousInEmergency, dangerous, emergency]
    decide
  refine ⟨fun command next id generation stepped stored => ?_,
    fun message view sends returned same => ?_⟩
  · rcases (step_moves consistent stepped).stores consistent stored with before | safe
    · exact before
    · exact absurd safe guarded
  · subst same
    have handed : world.store.Stores view.operationId view.kind view.signed ∨
        world.store.dangerousInEmergency view.kind = false := by
      cases sends with
      | start free caller endpoint =>
        exact .inl (start_returned consistent.laned caller endpoint returned)
      | resume inFlight resumed => exact resume_returned consistent inFlight resumed returned
    exact handed.resolve_right guarded

def signing (world : GovernanceWorld) : Option GovernanceTransactionKind :=
  match world.flow with
  | some (.signing _ transaction) => some transaction.kind
  | _ => none

/-- An emergency is declared while the signature of a new service fee is on its way. -/
theorem no_dangerous_signature_in_emergency_fee :
    ∃ world, Reachable sampleParameters sampleConfig anyCommand world ∧
      world.store.admission.emergencyBaseActionsPending = true ∧
      world.signing = some (.setServiceFee 5) ∧
      ∀ hash next id generation,
        world.step sampleParameters sampleConfig (.answer (.signature hash)) = some next →
        next.store.Stores id (.setServiceFee 5) generation →
        world.store.Stores id (.setServiceFee 5) generation := by
  have ran : (sampleStart.run sampleParameters sampleConfig anyCommand
      [.call [1] (.prepare (.setServiceFee 5)), .read, .answer .observed, .read, .answer .observed,
        .answer .done, .emergencyPause [2]]).any
      (fun world => world.store.admission.emergencyBaseActionsPending &&
        world.signing == some (.setServiceFee 5)) = true := by decide +kernel
  obtain ⟨world, reached, facts⟩ := sampleStart_reaches ran
  rw [Bool.and_eq_true, beq_iff_eq] at facts
  exact ⟨world, reached, facts.1, facts.2, fun hash next id generation =>
    (no_dangerous_signature_in_emergency reached facts.1 rfl).1 _ next id generation⟩

end KinicBridge.GovernanceWorld
