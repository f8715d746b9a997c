import KinicBridge.Governance.Endpoints

/-! What an endpoint still knows while one of its calls is in flight. Only an emergency can come in
between, and it leaves the lanes, the pending operation and the rotation alone. -/
namespace KinicBridge

section

variable (store : GovernanceStore)

structure PreparePlan.Fits (store : GovernanceStore) (plan : PreparePlan) : Prop where
  free : (store.admission.lane plan.action.nonceLane).pending = none
  next : plan.id = store.admission.nextGovernanceOperationId
  known : plan.initialized = (store.admission.lane plan.action.nonceLane).initialized
  nonce : plan.initialized = true →
    plan.nonce = (store.admission.lane plan.action.nonceLane).nextNonce

variable (config : GovernanceConfig)

def GovernanceStore.Encodes (store : GovernanceStore) : GovernanceTransactionKind → Prop
  | .executeActivation _ => store.admission.pendingControlPlaneRotation = none
  | .scheduleControlPlaneRotation _ rotation =>
    rotation = GovernanceStore.addressesFor config
      (store.admission.controlPlaneKeyGeneration + 1) ∧
      store.admission.controlPlaneKeyGeneration + 1 ≤ Checked.limit 32
  | _ => True

def GovernanceStore.Holds (transaction : GovernanceTransaction) : Prop :=
  (store.admission.lane transaction.kind.nonceLane).pending = some transaction

def GovernanceStore.Laned : Prop :=
  ∀ lane transaction, (store.admission.lane lane).pending = some transaction →
    transaction.kind.nonceLane = lane

def GovernanceTransaction.atFee (transaction : GovernanceTransaction)
    (maxFeePerGas maxPriorityFeePerGas : Nat) : GovernanceTransaction :=
  { transaction with envelope := { transaction.envelope with maxFeePerGas, maxPriorityFeePerGas } }

/-- `paused` stands for what was observed of Base before an action of the timelock is encoded. -/
def GovernanceFlow.Fits (store : GovernanceStore) (paused : Prop) : GovernanceFlow → Prop
  | .observingFee .. | .counting .. => True
  | .preflight plan => plan.Fits store
  | .addressing plan generation =>
    plan.Fits store ∧ plan.action = .scheduleControlPlaneRotation ∧
      (generation = store.admission.controlPlaneKeyGeneration + 1 ∧
        generation ≤ Checked.limit 32) ∧ paused
  | .affording plan transaction =>
    plan.Fits store ∧ transaction.kind.nonceLane = plan.action.nonceLane ∧
      transaction = GovernanceStore.transactionOf config plan transaction.kind ∧
      store.Encodes config transaction.kind ∧
      (transaction.kind.nonceLane = .governance → paused)
  | .resuming _ transaction | .signing _ transaction =>
    store.Holds transaction ∧ transaction.envelope.signedTransactions = []
  | .replacing _ transaction current | .replacementSigning _ transaction current =>
    ∃ pending maxFee maxPriorityFee, store.Holds pending ∧
      transaction = pending.atFee maxFee maxPriorityFee ∧
      pending.envelope.signedTransactions.getLast? = some current
  | .confirming _ transaction hash =>
    store.Holds transaction ∧
      ∃ signed ∈ transaction.envelope.signedTransactions, signed.transactionHash = hash

theorem GovernanceFlow.Fits.mono {config : GovernanceConfig} {store : GovernanceStore}
    {flow : GovernanceFlow} (fits : flow.Fits config store paused) (implied : paused → paused') :
    flow.Fits config store paused' := by
  cases flow with
  | addressing => exact ⟨fits.1, fits.2.1, fits.2.2.1, implied fits.2.2.2⟩
  | affording =>
    obtain ⟨planned, lane, tx, encodes, observed⟩ := fits
    exact ⟨planned, lane, tx, encodes, fun governance => implied (observed governance)⟩
  | _ => exact fits

structure GovernanceStore.SamePlans (store next : GovernanceStore) : Prop where
  lanes : next.admission.lanes = store.admission.lanes
  ids : next.admission.nextGovernanceOperationId = store.admission.nextGovernanceOperationId
  rotation : next.admission.pendingControlPlaneRotation =
    store.admission.pendingControlPlaneRotation
  generation : next.admission.controlPlaneKeyGeneration = store.admission.controlPlaneKeyGeneration

theorem GovernanceFlow.Fits.kept {config : GovernanceConfig} {store next : GovernanceStore}
    {flow : GovernanceFlow} (fits : flow.Fits config store paused)
    (same : store.SamePlans next) : flow.Fits config next paused := by
  obtain ⟨⟨lanes, nextId, timelock, rotation, deposit, withdrawal, cancel, generation, operators,
    configured, bootstrap, activation⟩, admin⟩ := next
  obtain ⟨rfl, rfl, rfl, rfl⟩ := same
  have planned : ∀ plan : PreparePlan, plan.Fits store → plan.Fits
      ⟨⟨store.admission.lanes, store.admission.nextGovernanceOperationId, timelock,
        store.admission.pendingControlPlaneRotation, deposit, withdrawal, cancel,
        store.admission.controlPlaneKeyGeneration, operators, configured, bootstrap, activation⟩,
        admin⟩ :=
    fun plan fits => ⟨fits.free, fits.next, fits.known, fits.nonce⟩
  cases flow with
  | preflight plan => exact planned plan fits
  | addressing plan => exact ⟨planned plan fits.1, fits.2⟩
  | affording plan tx =>
    obtain ⟨fit, lane, assembled, encodes, observed⟩ := fits
    refine ⟨planned plan fit, lane, assembled, ?_, observed⟩
    cases kind : tx.kind <;> rw [kind] at encodes <;> exact encodes
  | _ => exact fits

def GovernanceStore.Stores (id : Nat) (kind : GovernanceTransactionKind)
    (signed : SignedGovernanceTransaction) : Prop :=
  ∃ lane transaction, ((store.admission.lane lane).pending = some transaction ∨
      (store.admission.lane lane).completed = some transaction) ∧
    transaction.id = id ∧ transaction.kind = kind ∧
    signed ∈ transaction.envelope.signedTransactions

end

def GovernanceProgress.Sound (config : GovernanceConfig) (store : GovernanceStore)
    (paused : Prop) : GovernanceProgress → Prop
  | .waiting flow => flow.Fits config store paused
  | .returned view => store.Stores view.operationId view.kind view.signed
  | .confirmed _ => True

namespace GovernanceStore

variable {config : GovernanceConfig} {store : GovernanceStore} {controllers : List Principal}
  {progress : GovernanceProgress} {paused : Prop}
  {tx : GovernanceTransaction} {plan : PreparePlan} {action : GovernanceAction}
  {kind : GovernanceTransactionKind} {args : ConfirmArgs}

theorem Holds.stores {generation : SignedGovernanceTransaction} (held : store.Holds tx)
    (present : generation ∈ tx.envelope.signedTransactions) :
    store.Stores tx.id tx.kind generation :=
  ⟨_, _, .inl held, rfl, rfl, present⟩

theorem requireTransactionControllerAuthority_ok
    (passed : store.requireTransactionControllerAuthority controllers tx = .ok u) :
    store.controllerAuthorityHolds controllers tx = true := by
  unfold requireTransactionControllerAuthority at passed
  split at passed
  · assumption
  · contradiction

theorem pendingSignatureAction_sign (unsigned : pendingSignatureAction tx = .ok .sign) :
    tx.envelope.signedTransactions = [] := by
  unfold pendingSignatureAction at unsigned
  split at unsigned
  · split at unsigned
    · assumption
    · contradiction
  · obtain ⟨_, _, rest⟩ := bind_ok.mp unsigned
    obtain ⟨_, rest⟩ := thrown_ok.mp rest
    cases pure_ok.mp rest
  · contradiction
  · contradiction

theorem signedView_ok (viewed : signedView tx operator = .ok view) :
    view.operationId = tx.id ∧ view.kind = tx.kind ∧
      tx.envelope.signedTransactions.getLast? = some view.signed := by
  obtain ⟨signed, last, rfl⟩ := map_ok.mp viewed
  exact ⟨rfl, rfl, okOr_ok.mp last⟩

theorem resumePending_sound (held : store.Holds tx)
    (resumed : store.resumePending controllers caller tx operator = .ok progress) :
    progress.Sound config store paused := by
  obtain ⟨_, _, rest⟩ := bind_ok.mp resumed
  obtain ⟨action, signature, rest⟩ := bind_ok.mp rest
  cases action with
  | sign =>
    cases pure_ok.mp rest
    exact ⟨held, pendingSignatureAction_sign signature⟩
  | returnSigned =>
    obtain ⟨view, viewed, rfl⟩ := returned_ok.mp rest
    obtain ⟨id, kind, last⟩ := signedView_ok viewed
    show store.Stores view.operationId view.kind view.signed
    rw [id, kind]
    exact held.stores (List.mem_of_getLast? last)

theorem assemble_sound (fits : plan.Fits store) (lane : kind.nonceLane = plan.action.nonceLane)
    (encodes : store.Encodes config kind) (observed : plan.action.needsPreflight = true → paused) :
    (assemble config plan kind).Sound config store paused := by
  refine ⟨fits, lane, rfl, encodes, fun governance => observed ?_⟩
  rw [GovernanceAction.needsPreflight, ← lane, beq_iff_eq]
  exact governance

theorem encodeAction_sound (fits : plan.Fits store)
    (observed : plan.action.needsPreflight = true → paused)
    (encoded : store.encodeAction config plan = .ok progress) :
    progress.Sound config store paused := by
  unfold encodeAction at encoded
  cases action : plan.action with
  | pauseDepositMints | pauseWithdrawals | setServiceFee =>
    simp only [action] at encoded
    cases encoded
    exact assemble_sound fits (by rw [action]; rfl) trivial observed
  | scheduleActivation =>
    simp only [action] at encoded
    cases encoded
    exact assemble_sound fits (by rw [action]; rfl) trivial observed
  | cancelPendingTimelock =>
    simp only [action] at encoded
    obtain ⟨pending, _, rfl⟩ := returned_ok.mp encoded
    exact assemble_sound fits (by rw [action]; rfl) trivial observed
  | executeActivation =>
    simp only [action] at encoded
    obtain ⟨unrotated, rest⟩ := thrown_ok.mp encoded
    obtain ⟨pending, _, rfl⟩ := returned_ok.mp rest
    exact assemble_sound fits (by rw [action]; rfl) (Option.not_isSome_iff_eq_none.mp unrotated)
      observed
  | scheduleControlPlaneRotation =>
    simp only [action] at encoded
    obtain ⟨generation, next, rest⟩ := found_ok.mp encoded
    cases pure_ok.mp rest
    obtain ⟨sum, bounded⟩ := Checked.add_eq_some.mp next
    exact ⟨fits, action, ⟨sum.symm, bounded⟩, observed (by rw [action]; rfl)⟩
  | executeControlPlaneRotation =>
    simp only [action] at encoded
    obtain ⟨rotation, _, rest⟩ := bind_ok.mp encoded
    obtain ⟨pending, _, rfl⟩ := returned_ok.mp rest
    exact assemble_sound fits (by rw [action]; rfl) trivial observed

theorem prepareWithNonce_sound
    (prepared : store.prepareWithNonce config controllers caller action authority observed
      = .ok progress) : progress.Sound config store paused := by
  obtain ⟨_, _, rest⟩ := bind_ok.mp prepared
  cases free : (store.admission.lane action.nonceLane).pending with
  | some pending =>
    simp only [free] at rest
    obtain ⟨_, _, rest⟩ := bind_ok.mp rest
    exact absurd rest throw_ne_ok
  | none =>
    simp only [free] at rest
    obtain ⟨nonce, stored, rest⟩ := found_ok.mp rest
    have fits : PreparePlan.Fits store ⟨caller, action, authority,
        (store.admission.lane action.nonceLane).initialized, nonce,
        store.admission.nextGovernanceOperationId⟩ := by
      refine ⟨free, rfl, rfl, fun initialized => ?_⟩
      rw [plannedNonce, if_pos initialized] at stored
      exact (Option.some.inj stored).symm
    split at rest
    · cases pure_ok.mp rest
      exact fits
    next direct =>
      exact encodeAction_sound fits (fun needed => absurd needed direct) rest

theorem matchesPending_lane
    (matching : action.matchesPending kind = true) : kind.nonceLane = action.nonceLane := by
  cases action <;> cases kind <;> first | rfl | contradiction

theorem prepareLane_sound
    (prepared : store.prepareLane config controllers caller action authority = .ok progress) :
    progress.Sound config store paused := by
  obtain ⟨operator, _, rest⟩ := bind_ok.mp prepared
  obtain ⟨_, _, rest⟩ := bind_ok.mp rest
  cases free : (store.admission.lane action.nonceLane).pending with
  | some pending =>
    simp only [free] at rest
    obtain ⟨_, _, rest⟩ := bind_ok.mp rest
    obtain ⟨other, rest⟩ := thrown_ok.mp rest
    have lane := matchesPending_lane (Bool.of_not_eq_false other)
    exact resumePending_sound (by rw [Holds, lane]; exact free) rest
  | none =>
    simp only [free] at rest
    split at rest
    · exact prepareWithNonce_sound rest
    · cases pure_ok.mp rest
      trivial

theorem prepare_sound (prepared : store.prepare config controllers caller action = .ok progress) :
    progress.Sound config store paused := by
  obtain ⟨_, _, rest⟩ := bind_ok.mp prepared
  obtain ⟨authority, _, rest⟩ := bind_ok.mp rest
  obtain ⟨_, _, rest⟩ := bind_ok.mp rest
  split at rest
  · obtain ⟨_, rest⟩ := thrown_ok.mp rest
    cases pure_ok.mp rest
    trivial
  · exact prepareLane_sound rest

theorem feeObserved_sound
    (observed : store.feeObserved config controllers caller value authority maxServiceFee
      = .ok progress) : progress.Sound config store paused := by
  obtain ⟨_, _, rest⟩ := bind_ok.mp observed
  obtain ⟨_, rest⟩ := thrown_ok.mp rest
  exact prepareLane_sound rest

theorem preflighted_sound {observed : BaseObservation}
    (fits : plan.Fits store) (pause : observed.depositsPaused = true → paused)
    (encoded : store.preflighted config controllers plan observed = .ok progress) :
    progress.Sound config store paused := by
  unfold preflighted at encoded
  obtain ⟨passed, rest⟩ := thrown_ok.mp encoded
  obtain ⟨_, _, rest⟩ := bind_ok.mp rest
  refine encodeAction_sound fits (fun _ => pause ?_) rest
  have held := Bool.of_not_eq_false passed
  simp only [activationPreflight, Kernel.activationBasePreflightMatches, Bool.and_eq_true,
    beq_iff_eq] at held
  exact held.1.1.1.1.1.1.1.1.1.2

theorem addressed_sound {generation : Nat}
    (fits : (GovernanceFlow.addressing plan generation).Fits config store paused) :
    (addressed config plan generation).Sound config store paused := by
  obtain ⟨planned, action, ⟨rfl, bounded⟩, observed⟩ := fits
  exact assemble_sound planned (by rw [action]; rfl) ⟨rfl, bounded⟩ fun _ => observed

theorem resumed_sound (held : store.Holds tx)
    (resumed : store.resumed controllers caller tx = .ok progress) :
    progress.Sound config store paused := by
  obtain ⟨_, _, rest⟩ := bind_ok.mp resumed
  obtain ⟨_, _, rest⟩ := bind_ok.mp rest
  obtain ⟨action, signature, rest⟩ := bind_ok.mp rest
  obtain ⟨sign, rest⟩ := thrown_ok.mp rest
  cases pure_ok.mp rest
  rw [not_not.mp sign] at signature
  exact ⟨held, pendingSignatureAction_sign signature⟩

theorem pendingTransaction_ok (laned : store.Laned)
    (found : store.pendingTransaction operationId = .ok tx) :
    store.Holds tx ∧ tx.id = operationId := by
  have found := okOr_ok.mp found
  obtain ⟨lane, _, pending⟩ := List.mem_filterMap.mp (List.mem_of_find?_eq_some found)
  have same := List.find?_some found
  refine ⟨?_, beq_iff_eq.mp same⟩
  rw [Holds, laned lane tx pending]
  exact pending

theorem prepareReplacement_sound {args : ReplacementArgs} (laned : store.Laned)
    (replaced : store.prepareReplacement config controllers caller args = .ok progress) :
    progress.Sound config store paused := by
  obtain ⟨_, _, rest⟩ := bind_ok.mp replaced
  obtain ⟨_, rest⟩ := thrown_ok.mp rest
  obtain ⟨tx, found, rest⟩ := bind_ok.mp rest
  obtain ⟨_, _, rest⟩ := bind_ok.mp rest
  obtain ⟨_, _, rest⟩ := bind_ok.mp rest
  obtain ⟨_, _, rest⟩ := bind_ok.mp rest
  obtain ⟨current, last, rest⟩ := found_ok.mp rest
  obtain ⟨_, rest⟩ := thrown_ok.mp rest
  obtain ⟨_, rest⟩ := thrown_ok.mp rest
  obtain ⟨_, rest⟩ := thrown_ok.mp rest
  cases pure_ok.mp rest
  exact ⟨tx, args.maxFeePerGas, args.maxPriorityFeePerGas,
    (pendingTransaction_ok laned found).1, rfl, last⟩

theorem replacementAfforded_sound {current : SignedGovernanceTransaction}
    (fits : (GovernanceFlow.replacing caller tx current).Fits config store paused)
    (afforded : store.replacementAfforded controllers caller tx current
      = .ok progress) : progress.Sound config store paused := by
  obtain ⟨_, _, rest⟩ := bind_ok.mp afforded
  obtain ⟨_, _, rfl⟩ := returned_ok.mp rest
  exact fits

theorem confirmedAgain_sound (confirmed : store.confirmedAgain args = .ok progress) :
    progress.Sound config store paused := by
  unfold confirmedAgain at confirmed
  split at confirmed
  · contradiction
  · split at confirmed
    · split at confirmed
      · cases confirmed
        trivial
      · contradiction
    · split at confirmed
      · cases confirmed
        trivial
      · contradiction
    · contradiction
    · contradiction

theorem confirm_sound (laned : store.Laned)
    (confirmed : store.confirm config controllers caller args = .ok progress) :
    progress.Sound config store paused := by
  obtain ⟨_, _, rest⟩ := bind_ok.mp confirmed
  obtain ⟨_, _, rest⟩ := bind_ok.mp rest
  split at rest
  · exact confirmedAgain_sound rest
  next tx found =>
    obtain ⟨_, _, rest⟩ := bind_ok.mp rest
    obtain ⟨present, rest⟩ := thrown_ok.mp rest
    cases pure_ok.mp rest
    obtain ⟨generation, stored, hash⟩ := List.any_eq_true.mp (Bool.of_not_eq_false present)
    exact ⟨(pendingTransaction_ok laned found).1, generation, stored, beq_iff_eq.mp hash⟩

end GovernanceStore

end KinicBridge
