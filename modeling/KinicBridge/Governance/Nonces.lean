import KinicBridge.Governance.Log

/-! The nonces of the three lanes. A lane counts on from the nonce it was opened with, an abort
gives the last nonce back, and new keys start every lane over. -/
namespace KinicBridge

open Checked GovernanceAdmission GovernanceStore

/-- The threshold keys of different lanes and generations have different addresses. -/
def GovernanceConfig.KeysDistinct (config : GovernanceConfig) : Prop :=
  ∀ generation other lane lane', generation ≤ limit 32 → other ≤ limit 32 →
    config.operator generation lane = config.operator other lane' →
    generation = other ∧ lane = lane'

namespace GovernanceAdmission

/-- The nonce of the call is behind its lane, and if the pending transaction has it then the
call is one of its generations. -/
structure Spent (admission : GovernanceAdmission) (call : GovernanceCall) : Prop where
  initialized : (admission.lane call.kind.nonceLane).initialized = true
  behind : call.nonce < (admission.lane call.kind.nonceLane).nextNonce
  own : ∀ transaction, (admission.lane call.kind.nonceLane).pending = some transaction →
    call.nonce = transaction.envelope.nonce → call.id = transaction.id

def Counted (admission : GovernanceAdmission) : Prop :=
  ∀ lane transaction, (admission.lane lane).pending = some transaction →
    (admission.lane lane).initialized = true ∧
      (admission.lane lane).nextNonce = transaction.envelope.nonce + 1

structure Sequenced (config : GovernanceConfig) (admission : GovernanceAdmission)
    (signed : List GovernanceCall) : Prop where
  counted : admission.Counted
  bounded : admission.controlPlaneKeyGeneration ≤ limit 32
  rotation : ∀ rotation, admission.pendingControlPlaneRotation = some rotation →
    rotation.generation = admission.controlPlaneKeyGeneration + 1 ∧ rotation.generation ≤ limit 32
  keys : ∀ call ∈ signed, ∃ generation ≤ admission.controlPlaneKeyGeneration,
    call.sender = config.operator generation call.kind.nonceLane ∧
      (generation = admission.controlPlaneKeyGeneration → admission.Spent call)
  once : ∀ call ∈ signed, ∀ other ∈ signed, call.sender = other.sender →
    call.nonce = other.nonce → call.id = other.id

variable {config : GovernanceConfig} {admission next : GovernanceAdmission}
  {signed : List GovernanceCall} {tx : GovernanceTransaction}

theorem Sequenced.kept (sequenced : admission.Sequenced config signed) (counted : next.Counted)
    (generation : next.controlPlaneKeyGeneration = admission.controlPlaneKeyGeneration)
    (rotation : ∀ rotation, next.pendingControlPlaneRotation = some rotation →
      admission.pendingControlPlaneRotation = some rotation)
    (spent : ∀ call ∈ signed, admission.Spent call → next.Spent call) :
    next.Sequenced config signed where
  counted := counted
  bounded := generation ▸ sequenced.bounded
  rotation := fun planned pending => generation ▸ sequenced.rotation planned (rotation _ pending)
  keys := fun call present => by
    obtain ⟨own, older, sender, current⟩ := sequenced.keys call present
    exact ⟨own, generation ▸ older, sender, fun same =>
      spent call present (current (same.trans generation))⟩
  once := sequenced.once

theorem generation_of_standing (standing : next.standing = admission.standing) :
    next.controlPlaneKeyGeneration = admission.controlPlaneKeyGeneration :=
  congrArg Standing.generation standing

theorem Opened.sequenced {lane : GovernanceNonceLane} (opens : admission.Opened lane nonce next)
    (sequenced : admission.Sequenced config signed) : next.Sequenced config signed := by
  have untouched : ∀ other, (admission.lane other).initialized = true →
      next.lane other = admission.lane other := by
    intro other initialized
    rw [opens.lanes, if_neg]
    rintro ⟨rfl, fresh⟩
    rw [initialized] at fresh
    contradiction
  refine sequenced.kept (fun other held pending => ?_) (generation_of_standing opens.standing)
    (fun _ pending => (congrArg Schedule.rotation opens.schedule).symm.trans pending)
    (fun call _ spent => ?_)
  · rw [opens.pending] at pending
    have counted := sequenced.counted other held pending
    rwa [untouched other counted.1]
  · have same := untouched _ spent.initialized
    exact ⟨same ▸ spent.initialized, same ▸ spent.behind, same ▸ spent.own⟩

theorem Prepared.sequenced (prepares : admission.Prepared tx next)
    (planned : ∀ operation rotation, tx.kind = .scheduleControlPlaneRotation operation rotation →
      rotation.generation = admission.controlPlaneKeyGeneration + 1 ∧
        rotation.generation ≤ limit 32)
    (sequenced : admission.Sequenced config signed) : next.Sequenced config signed := by
  have generation := generation_of_standing prepares.standing
  refine ⟨fun lane held pending => ?_, generation ▸ sequenced.bounded,
    fun rotation pending => ?_, fun call present => ?_, sequenced.once⟩
  · rcases prepares.pending_cases pending with ⟨rfl, rfl⟩ | ⟨other, before⟩
    · rw [prepares.lanes, if_pos rfl]
      exact ⟨rfl, rfl⟩
    · rw [prepares.lanes, if_neg other]
      exact sequenced.counted lane held before
  · rw [generation]
    have scheduled := (congrArg Schedule.rotation prepares.schedule).symm.trans pending
    cases kind : tx.kind with
    | scheduleControlPlaneRotation operation other =>
      rw [kind] at scheduled
      cases scheduled
      exact planned operation rotation kind
    | _ =>
      rw [kind] at scheduled
      exact sequenced.rotation rotation scheduled
  · obtain ⟨own, older, sender, current⟩ := sequenced.keys call present
    refine ⟨own, generation ▸ older, sender, fun same => ?_⟩
    have spent := current (same.trans generation)
    by_cases lane : call.kind.nonceLane = tx.kind.nonceLane
    · have behind := lane ▸ spent.behind
      rw [← prepares.nonce] at behind
      have state := prepares.lanes call.kind.nonceLane
      rw [if_pos lane] at state
      refine ⟨by rw [state], by rw [state]; exact Nat.lt_succ_of_lt behind, fun held pending => ?_⟩
      rw [state] at pending
      cases pending
      exact fun nonce => absurd nonce behind.ne
    · have state := prepares.lanes call.kind.nonceLane
      rw [if_neg lane] at state
      exact ⟨state ▸ spent.initialized, state ▸ spent.behind, state ▸ spent.own⟩

theorem Updated.sequenced {hash : Bytes32} (distinct : config.KeysDistinct)
    (held : (admission.lane tx.kind.nonceLane).pending = some tx)
    (updates : admission.Updated (withGeneration
      (tx.atFee maxFee maxPriorityFee) hash generation now) next)
    (sequenced : admission.Sequenced config signed) :
    next.Sequenced config (⟨hash, config.operator admission.controlPlaneKeyGeneration
      tx.kind.nonceLane, tx.envelope.nonce, tx.id, tx.kind⟩ :: signed) := by
  have same := generation_of_standing updates.standing
  have counted := sequenced.counted _ _ held
  have nonces : ∀ lane, (next.lane lane).initialized = (admission.lane lane).initialized ∧
      (next.lane lane).nextNonce = (admission.lane lane).nextNonce := by
    intro lane
    rw [updates.lanes]
    split <;> exact ⟨rfl, rfl⟩
  have shares : ∀ call ∈ signed,
      call.sender = config.operator admission.controlPlaneKeyGeneration tx.kind.nonceLane →
      call.nonce = tx.envelope.nonce → call.id = tx.id := by
    intro call present sender nonce
    obtain ⟨own, older, signer, current⟩ := sequenced.keys call present
    obtain ⟨rfl, lane⟩ := distinct _ _ _ _ (older.trans sequenced.bounded) sequenced.bounded
      (signer.symm.trans sender)
    exact (current rfl).own tx (lane ▸ held) nonce
  refine ⟨fun lane after pending => ?_, same ▸ sequenced.bounded, fun rotation pending => ?_,
    fun call present => ?_, fun call present other also sender nonce => ?_⟩
  · rw [(nonces lane).1, (nonces lane).2]
    rcases updates.pending_cases pending with ⟨rfl, rfl⟩ | ⟨_, before⟩
    · exact counted
    · exact sequenced.counted lane after before
  · rw [same]
    exact sequenced.rotation rotation
      ((congrArg Schedule.rotation updates.schedule).symm.trans pending)
  · rw [same]
    rcases List.mem_cons.mp present with rfl | logged
    · refine ⟨_, Nat.le_refl _, rfl, fun _ => ⟨(nonces _).1.trans counted.1, ?_, ?_⟩⟩
      · rw [(nonces _).2, counted.2]
        exact Nat.lt_succ_self _
      · intro after pending _
        rcases updates.pending_cases pending with ⟨_, rfl⟩ | ⟨other, _⟩
        · rfl
        · exact absurd rfl other
    · obtain ⟨own, older, sender, current⟩ := sequenced.keys call logged
      refine ⟨own, older, sender, fun now => ?_⟩
      have spent := current now
      refine ⟨(nonces _).1.trans spent.initialized, (nonces _).2.symm ▸ spent.behind, ?_⟩
      intro after pending nonce
      rcases updates.pending_cases pending with ⟨lane, rfl⟩ | ⟨_, before⟩
      · exact spent.own tx (lane ▸ held) nonce
      · exact spent.own after before nonce
  · rcases List.mem_cons.mp present with rfl | present <;>
      rcases List.mem_cons.mp also with rfl | also
    · rfl
    · exact (shares other also sender.symm nonce.symm).symm
    · exact shares call present sender nonce
    · exact sequenced.once call present other also sender nonce

theorem Aborted.sequenced (aborts : admission.Aborted tx next)
    (unused : ∀ call ∈ signed, call.id ≠ tx.id)
    (sequenced : admission.Sequenced config signed) : next.Sequenced config signed := by
  refine sequenced.kept (fun lane held pending => ?_) (generation_of_standing aborts.standing)
    (fun rotation pending => ?_) (fun call present spent => ?_)
  · obtain ⟨other, before⟩ := aborts.still_pending pending
    rw [aborts.lanes, if_neg other]
    exact sequenced.counted lane held before
  · exact Schedule.withdrawn_keeps ((congrArg Schedule.rotation aborts.schedule).symm.trans pending)
  · have state := aborts.lanes call.kind.nonceLane
    by_cases lane : call.kind.nonceLane = tx.kind.nonceLane
    · rw [if_pos lane] at state
      have behind := lane ▸ spent.behind
      rw [aborts.nonce] at behind
      have differs : call.nonce ≠ tx.envelope.nonce := fun nonce =>
        unused call present (spent.own tx (lane ▸ aborts.pending) nonce)
      refine ⟨by rw [state], ?_, fun held pending => ?_⟩
      · rw [state]
        exact Nat.lt_of_le_of_ne (Nat.le_of_lt_succ behind) differs
      · rw [state] at pending
        contradiction
    · rw [if_neg lane] at state
      exact ⟨state ▸ spent.initialized, state ▸ spent.behind, state ▸ spent.own⟩

theorem Standing.completed_generation {standing : Standing} (tx : GovernanceTransaction)
    (keeps : tx.rotates = none) :
    (standing.completed tx.kind tx.isConfirmed).generation = standing.generation := by
  unfold GovernanceTransaction.rotates at keeps
  cases kind : tx.kind <;> cases confirmed : tx.isConfirmed <;>
    simp only [kind, confirmed] at keeps <;> first | rfl | contradiction

end GovernanceAdmission

namespace GovernanceStore

variable {config : GovernanceConfig} {store next : GovernanceStore}
  {signed : List GovernanceCall} {tx : GovernanceTransaction}

theorem Completes.sequenced (completes : store.Completes tx next) (keeps : tx.rotates = none)
    (sequenced : store.admission.Sequenced config signed) :
    next.admission.Sequenced config signed := by
  have nonces : ∀ lane, (next.admission.lane lane).initialized =
      (store.admission.lane lane).initialized ∧
      (next.admission.lane lane).nextNonce = (store.admission.lane lane).nextNonce := by
    intro lane
    rw [completes.lanes, completedLane, keeps]
    by_cases own : lane = tx.kind.nonceLane <;> simp [own]
  refine sequenced.kept (fun lane held pending => ?_) ?_ (fun rotation pending => ?_)
    (fun call present spent => ?_)
  · rw [(nonces lane).1, (nonces lane).2]
    exact sequenced.counted lane held (completes.still_pending pending).2
  · exact (congrArg Standing.generation completes.standing).trans
      (Standing.completed_generation tx keeps)
  · exact Schedule.completed_keeps
      ((congrArg Schedule.rotation completes.schedule).symm.trans pending)
  · exact ⟨(nonces _).1.trans spent.initialized, (nonces _).2.symm ▸ spent.behind,
      fun held pending => spent.own held (completes.still_pending pending).2⟩

theorem Completes.sequenced_rotation {rotation : ControlPlaneRotation}
    (completes : store.Completes tx next)
    (kind : tx.kind = .executeControlPlaneRotation operation rotation)
    (confirmed : tx.isConfirmed = true) (alone : store.admission.otherLanesFree = true)
    (sequenced : store.admission.Sequenced config signed) :
    next.admission.Sequenced config signed := by
  have agrees := completes.agrees
  have schedule := completes.schedule
  have standing := congrArg Standing.generation completes.standing
  simp only [completionMismatch, kind, confirmed, Bool.true_and,
    Bool.or_eq_false_iff, bne_eq_false_iff_eq] at agrees
  rw [kind, confirmed] at schedule standing
  obtain ⟨following, bounded⟩ := sequenced.rotation rotation agrees.2
  have generation : next.admission.controlPlaneKeyGeneration = rotation.generation := standing
  refine ⟨fun lane held pending => ?_, generation ▸ bounded, fun later pending => ?_,
    fun call present => ?_, sequenced.once⟩
  · obtain ⟨other, before⟩ := completes.still_pending pending
    rw [otherLanesFree, Bool.and_eq_true, Option.isNone_iff_eq_none,
      Option.isNone_iff_eq_none] at alone
    rw [kind] at other
    cases lane with
    | governance => exact absurd rfl other
    | runtimeAdministrator =>
      rw [alone.1] at before
      contradiction
    | independentCanceller =>
      rw [alone.2] at before
      contradiction
  · have dropped := (congrArg Schedule.rotation schedule).symm.trans pending
    contradiction
  · obtain ⟨own, older, sender, _⟩ := sequenced.keys call present
    refine ⟨own, ?_, sender, fun same => ?_⟩
    · rw [generation, following]
      exact Nat.le_succ_of_le older
    · rw [same, generation, following] at older
      exact absurd older (Nat.not_succ_le_self _)

end GovernanceStore

namespace GovernanceWorld

variable {params : GovernanceParameters} {config : GovernanceConfig}
  {world next : GovernanceWorld} {command : GovernanceCommand}

/-- A successful rotation is confirmed only while the other two lanes are free. -/
def rotatesAlone (world : GovernanceWorld) (command : GovernanceCommand) : Bool :=
  match command, world.flow, world.reading with
  | .answer .observed, some (.confirming _ transaction hash), some base =>
    match transaction.kind, base.receipts hash with
    | .executeControlPlaneRotation .., some true => world.store.admission.otherLanesFree
    | _, _ => true
  | _, _, _ => true

theorem Moves.sequenced (moves : Moves params config world command next)
    (consistent : Consistent config world) (log : world.LogKept config)
    (distinct : config.KeysDistinct) (alone : world.rotatesAlone command = true)
    (sequenced : world.store.admission.Sequenced config world.signed) :
    next.store.admission.Sequenced config next.signed := by
  cases moves with
  | opened inFlight opens => exact opens.sequenced sequenced
  | prepared inFlight opens prepares =>
    refine prepares.sequenced (fun operation rotation kind => ?_) (opens.sequenced sequenced)
    have encodes := (consistent.fits _ inFlight).2.2.2.1
    rw [kind] at encodes
    obtain ⟨rfl, bounded⟩ := encodes
    rw [generation_of_standing opens.standing]
    exact ⟨rfl, bounded⟩
  | generated held safe fresh updates => exact updates.sequenced distinct held sequenced
  | aborted aborts =>
    refine aborts.sequenced (fun call logged same => ?_) sequenced
    obtain ⟨_, _, generation, signed, _⟩ := log.calls call logged _ _ aborts.pending same
    rw [consistent.unsigned _ _ aborts.pending aborts.unsigned] at signed
    contradiction
  | @completed caller tx base succeeded block hash store inFlight observed receipt
      postcondition authority completes =>
    cases rotated : (withReceipt tx hash succeeded block).rotates with
    | none => exact completes.sequenced rotated sequenced
    | some rotation =>
      unfold GovernanceTransaction.rotates at rotated
      split at rotated
      next operation rotation kind confirmed =>
        refine completes.sequenced_rotation kind confirmed ?_ sequenced
        have kind : tx.kind = .executeControlPlaneRotation operation rotation := kind
        rw [withReceipt_isConfirmed] at confirmed
        simpa only [rotatesAlone, inFlight, observed, kind, receipt, confirmed] using alone
      · contradiction
  | emergency tip paused =>
    exact sequenced.kept sequenced.counted rfl (fun _ pending => pending)
      fun _ _ spent => ⟨spent.initialized, spent.behind, spent.own⟩
  | _ => exact sequenced

theorem Initial.sequenced (initial : Initial config world) :
    world.store.admission.Sequenced config world.signed := by
  rw [initial.unsigned.1]
  refine ⟨fun lane tx pending => ?_, ?_, fun rotation pending => ?_,
    fun _ none => by contradiction, fun _ none => by contradiction⟩
  · rw [initial.unused lane] at pending
    contradiction
  · rw [initial.generation]
    exact Nat.zero_le _
  · rw [initial.unscheduled.2] at pending
    contradiction

/-- In a run that confirms its rotations while the other lanes are free, lanes count one past
their pending transaction, ids are never given out twice, and no address signs two calldata
under one nonce. -/
theorem nonce_discipline (distinct : config.KeysDistinct)
    (reached : Reachable params config rotatesAlone world) :
    (∀ lane transaction, (world.store.admission.lane lane).pending = some transaction →
      (world.store.admission.lane lane).initialized = true ∧
      (world.store.admission.lane lane).nextNonce = transaction.envelope.nonce + 1 ∧
      transaction.envelope.calldata = config.calldata transaction.kind) ∧
    world.prepared.Nodup ∧
    ∀ call ∈ world.signed, ∀ other ∈ world.signed, call.sender = other.sender →
      call.nonce = other.nonce → config.calldata call.kind = config.calldata other.kind := by
  obtain ⟨_, log, sequenced⟩ := reached.invariant
    (fun _ initial => And.intro (Initial.logKept initial) (Initial.sequenced initial))
    fun _ _ _ consistent alone moves kept => ⟨moves.logKept consistent kept.1,
      moves.sequenced consistent kept.1 distinct alone kept.2⟩
  refine ⟨fun lane transaction pending => ?_, log.nodup,
    fun call present other also sender nonce => ?_⟩
  · obtain ⟨initialized, next⟩ := sequenced.counted lane transaction pending
    exact ⟨initialized, next, log.calldata lane transaction pending⟩
  · have same := sequenced.once call present other also sender nonce
    rw [(log.kinds call present other also same).1]

theorem sampleConfig_operator (bounded : generation ≤ limit 32) (lane : GovernanceNonceLane) :
    (sampleConfig.operator generation lane).toNat = 10 * generation + sampleLane lane := by
  have limit : limit 32 = 4294967295 := by norm_num [limit]
  have lanes : sampleLane lane ≤ 13 := by cases lane <;> decide
  have small : 10 * generation + sampleLane lane < 2 ^ 160 := calc
    10 * generation + sampleLane lane ≤ 10 * 4294967295 + 13 := by omega
    _ < 2 ^ 160 := by norm_num
  exact Nat.mod_eq_of_lt small

theorem sampleConfig_keysDistinct : sampleConfig.KeysDistinct := by
  intro generation other lane lane' bounded bounded' same
  have numbers := congrArg BitVec.toNat same
  rw [sampleConfig_operator bounded, sampleConfig_operator bounded'] at numbers
  cases lane <;> cases lane' <;> simp only [sampleLane] at numbers <;>
    refine ⟨by omega, ?_⟩ <;> first | rfl | omega

def sampleRotation : ControlPlaneRotation := addressesFor sampleConfig 1

def rotationCommands : List GovernanceCommand :=
  prepareCommands [1] .scheduleControlPlaneRotation ++ [.answer (.signature 1),
    .mine 1 [.governance ⟨1, 11, 0, 0, .scheduleControlPlaneRotation
      (sampleConfig.rotationOperation sampleRotation) sampleRotation⟩ false], .finalize 2,
    .call [3] (.confirm ⟨0, 1⟩), .read, .answer .observed,
    .call [1] (.prepare .executeControlPlaneRotation), .read, .answer .observed, .answer .done,
    .answer (.signature 2)]

def rotationConfirmed : List GovernanceCommand :=
  [.mine 2 [.governance ⟨2, 11, 1, 1, .executeControlPlaneRotation
      (sampleConfig.rotationOperation sampleRotation) sampleRotation⟩ false], .finalize 3,
    .call [3] (.confirm ⟨1, 2⟩), .read, .answer .observed]

def rotatedPause : List GovernanceCommand :=
  [.call [1] (.prepare .pauseDepositMints), .read, .answer .observed, .answer .done,
    .answer (.signature 3), .call [1] (.prepareReplacement ⟨2, 3, 909, 909⟩), .answer .done,
    .answer (.signature 4)]

theorem nonce_discipline_rotation : ∃ world transaction first second rest,
    Reachable sampleParameters sampleConfig rotatesAlone world ∧
    world.store.admission.controlPlaneKeyGeneration = 1 ∧ world.prepared.Nodup ∧
    (world.store.admission.lane .runtimeAdministrator).pending = some transaction ∧
    (world.store.admission.lane .runtimeAdministrator).nextNonce =
      transaction.envelope.nonce + 1 ∧
    world.signed = second :: first :: rest ∧ first.hash ≠ second.hash ∧
    sampleConfig.calldata second.kind = sampleConfig.calldata first.kind := by
  have ran : (sampleStart.run sampleParameters sampleConfig rotatesAlone
      (rotationCommands ++ rotationConfirmed ++ rotatedPause)).any
      (fun world => world.store.admission.controlPlaneKeyGeneration == 1 &&
        (world.store.admission.lane .runtimeAdministrator).pending.isSome &&
        world.signed.map (fun call => (call.hash, call.sender, call.nonce)) ==
          [(4, 22, 0), (3, 22, 0), (2, 11, 1), (1, 11, 0)]) = true := by
    decide +kernel
  obtain ⟨world, reached, facts⟩ := sampleStart_reaches ran
  rw [Bool.and_eq_true, Bool.and_eq_true, beq_iff_eq, beq_iff_eq] at facts
  obtain ⟨⟨generation, waits⟩, logged⟩ := facts
  obtain ⟨transaction, pending⟩ := Option.isSome_iff_exists.mp waits
  obtain ⟨second, rest, signed, two, logged⟩ := List.map_eq_cons_iff.mp logged
  obtain ⟨first, rest, rfl, one, _⟩ := List.map_eq_cons_iff.mp logged
  simp only [Prod.mk.injEq] at one two
  obtain ⟨counted, fresh, once⟩ := nonce_discipline sampleConfig_keysDistinct reached
  have same := once second (by simp [signed]) first (by simp [signed])
    (two.2.1.trans one.2.1.symm) (two.2.2.trans one.2.2.symm)
  exact ⟨world, transaction, first, second, rest, reached, generation, fresh, pending,
    (counted _ _ pending).2.1, signed, by rw [one.1, two.1]; decide, same⟩

/-- A pause is prepared after the execution of a rotation was signed. The confirmed rotation
resets the pause's lane under it. -/
theorem rotation_resets_pending_lane : ∃ world transaction,
    Reachable sampleParameters sampleConfig anyCommand world ∧
    (world.store.admission.lane .runtimeAdministrator).pending = some transaction ∧
    (world.store.admission.lane .runtimeAdministrator).initialized = false := by
  have ran : (sampleStart.run sampleParameters sampleConfig anyCommand
      (rotationCommands ++ [.call [1] (.prepare .pauseDepositMints), .read, .answer .observed,
        .answer .done, .answer .failed] ++ rotationConfirmed)).any
      (fun world => (world.store.admission.lane .runtimeAdministrator).pending.isSome &&
        !(world.store.admission.lane .runtimeAdministrator).initialized) = true := by
    decide +kernel
  obtain ⟨world, reached, facts⟩ := sampleStart_reaches ran
  rw [Bool.and_eq_true, Bool.not_eq_true'] at facts
  obtain ⟨transaction, pending⟩ := Option.isSome_iff_exists.mp facts.1
  exact ⟨world, transaction, reached, pending, facts.2⟩

end GovernanceWorld

end KinicBridge
