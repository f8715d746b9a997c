import KinicBridge.Governance.Log

/-! What an emergency keeps: the local pause until an activation prepared after it, and new Base
pauses. Both rest on what was signed or included when it was declared. -/
namespace KinicBridge

open AdminState GovernanceAdmission GovernanceStore

namespace GovernanceBase

variable {params : GovernanceParameters} {base next : GovernanceBase} {timestamp : Nat}
  {hash : Bytes32}

theorem includeOne_receipts {inclusion : Inclusion}
    (included : base.includeOne params timestamp inclusion = some next)
    (receipt : (next.receipts hash).isSome = true) : (base.receipts hash).isSome = true ∨
      ∃ call outOfGas, inclusion = .governance call outOfGas ∧ call.hash = hash := by
  cases inclusion with
  | other call =>
    simp only [includeOne] at included
    split at included
    · cases included
      exact .inl receipt
    · contradiction
  | governance call outOfGas =>
    have receipts : ∃ outcome, next.receipts = Function.update base.receipts call.hash outcome := by
      simp only [includeOne, include_] at included
      split at included
      · contradiction
      · split at included <;> cases included <;> exact ⟨_, rfl⟩
    obtain ⟨outcome, written⟩ := receipts
    by_cases same : hash = call.hash
    · exact .inr ⟨call, outOfGas, rfl, same.symm⟩
    · rw [written, Function.update_of_ne same] at receipt
      exact .inl receipt

theorem includeAll_receipts {inclusions : List Inclusion}
    (included : base.includeAll params timestamp inclusions = some next)
    (receipt : (next.receipts hash).isSome = true) : (base.receipts hash).isSome = true ∨
      ∃ call outOfGas, .governance call outOfGas ∈ inclusions ∧ call.hash = hash := by
  induction inclusions generalizing base with
  | nil =>
    cases included
    exact .inl receipt
  | cons inclusion rest ih =>
    obtain ⟨between, first, included⟩ := Option.bind_eq_some_iff.mp included
    rcases ih included with before | ⟨call, outOfGas, present, same⟩
    · rcases includeOne_receipts first before with before | ⟨call, outOfGas, rfl, same⟩
      · exact .inl before
      · exact .inr ⟨call, outOfGas, List.mem_cons_self .., same⟩
    · exact .inr ⟨call, outOfGas, List.mem_cons_of_mem _ present, same⟩

end GovernanceBase

namespace GovernanceWorld

variable {params : GovernanceParameters} {config : GovernanceConfig}
  {world next : GovernanceWorld} {command : GovernanceCommand}

structure ReceiptsSigned (world : GovernanceWorld) : Prop where
  blocks : ∀ block ∈ world.chain.blocks, ∀ hash, (block.state.receipts hash).isSome = true →
    ∃ call ∈ world.signed, call.hash = hash
  marked : ∀ mark, world.emergency = some mark → ∀ hash, mark.included hash = true →
    ∃ call ∈ world.signed, call.hash = hash

theorem Moves.receiptsSigned (moves : Moves params config world command next)
    (receipts : world.ReceiptsSigned) : next.ReceiptsSigned := by
  cases moves with
  | generated held safe fresh updates =>
    refine ⟨fun block mined hash included => ?_, fun mark declared hash included => ?_⟩
    · obtain ⟨call, logged, same⟩ := receipts.blocks block mined hash included
      exact ⟨call, List.mem_cons_of_mem _ logged, same⟩
    · obtain ⟨call, logged, same⟩ := receipts.marked mark declared hash included
      exact ⟨call, List.mem_cons_of_mem _ logged, same⟩
  | emergency tip paused =>
    refine ⟨receipts.blocks, fun mark declared hash included => ?_⟩
    cases declared
    exact receipts.blocks _ (List.mem_of_getLast? tip) hash included
  | chained step =>
    refine ⟨fun block mined hash included => ?_, receipts.marked⟩
    rcases step.block_cases mined with before | ⟨parent, mined, links⟩
    · exact receipts.blocks block before hash included
    · obtain ⟨inclusions, signed, state⟩ := links.included
      rcases GovernanceBase.includeAll_receipts state included with
        before | ⟨call, outOfGas, present, same⟩
      · exact receipts.blocks parent mined hash before
      · have logged := List.all_eq_true.mp signed _ present
        exact ⟨call, List.contains_iff_mem.mp logged, same⟩
  | _ => exact ⟨receipts.blocks, receipts.marked⟩

theorem Initial.receiptsSigned (initial : Initial config world) : world.ReceiptsSigned := by
  obtain ⟨genesis, start, _, _, _, none⟩ := initial.deployed
  refine ⟨fun block mined hash included => ?_, fun mark declared => ?_⟩
  · rw [start] at mined
    cases List.mem_singleton.mp mined
    rw [none hash] at included
    contradiction
  · rw [initial.calm.2] at declared
    contradiction

def isPause : GovernanceTransactionKind → Bool
  | .pauseDepositMints | .pauseWithdrawals => true
  | _ => false

/-- An emergency is declared only while no pending pause has a generation on Base already. -/
def pausesNew (world : GovernanceWorld) (command : GovernanceCommand) : Bool :=
  match command, (world.store.admission.lane .runtimeAdministrator).pending, world.tip with
  | .emergencyPause _, some transaction, some block =>
    !isPause transaction.kind || transaction.envelope.signedTransactions.all fun generation =>
      (block.state.receipts generation.transactionHash).isNone
  | _, _, _ => true

/-- No generation of the pending pause was on Base when the emergency was declared. -/
structure PausesFresh (world : GovernanceWorld) : Prop where
  declared : world.store.admission.emergencyPauseDepositRequired = true ∨
    world.store.admission.emergencyPauseWithdrawalRequired = true → world.emergency.isSome = true
  fresh : ∀ mark transaction, world.emergency = some mark →
    (world.store.admission.lane .runtimeAdministrator).pending = some transaction →
    isPause transaction.kind = true →
    ∀ generation ∈ transaction.envelope.signedTransactions,
      mark.included generation.transactionHash = false

variable {standing : Standing} {kind : GovernanceTransactionKind}

theorem completed_flags :
    ((standing.completed kind confirmed).pauseDeposit = true → standing.pauseDeposit = true) ∧
      ((standing.completed kind confirmed).pauseWithdrawal = true →
        standing.pauseWithdrawal = true) := by
  cases kind <;> cases confirmed <;> exact ⟨fun flag => by first | exact flag | contradiction,
      fun flag => by first | exact flag | contradiction⟩

theorem PausesFresh.kept (pauses : world.PausesFresh) (emergency : next.emergency = world.emergency)
    (deposit : next.store.admission.standing.pauseDeposit = true →
      world.store.admission.standing.pauseDeposit = true)
    (withdrawal : next.store.admission.standing.pauseWithdrawal = true →
      world.store.admission.standing.pauseWithdrawal = true)
    (still : ∀ tx, (next.store.admission.lane .runtimeAdministrator).pending = some tx →
      (world.store.admission.lane .runtimeAdministrator).pending = some tx) : next.PausesFresh := by
  refine ⟨fun flags => ?_, fun mark tx declared pending => ?_⟩
  · rw [emergency]
    exact pauses.declared (flags.imp deposit withdrawal)
  · rw [emergency] at declared
    exact pauses.fresh mark tx declared (still tx pending)

theorem Moves.pausesFresh (moves : Moves params config world command next)
    (consistent : Consistent config world) (receipts : world.ReceiptsSigned)
    (new : world.pausesNew command = true) (pauses : world.PausesFresh) : next.PausesFresh := by
  cases moves with
  | opened inFlight opens =>
    have standing := opens.standing
    exact pauses.kept rfl (fun flag => standing ▸ flag) (fun flag => standing ▸ flag)
      fun _ pending => opens.pending.symm.trans pending
  | prepared inFlight opens prepares =>
    have standing := prepares.standing.trans opens.standing
    refine ⟨fun flags => pauses.declared (flags.imp
      (fun flag => (congrArg (·.pauseDeposit) standing).symm.trans flag)
      fun flag => (congrArg (·.pauseWithdrawal) standing).symm.trans flag), ?_⟩
    intro mark tx declared pending pause generation signed
    rcases prepares.pending_cases pending with ⟨_, rfl⟩ | ⟨_, before⟩
    · rw [(consistent.fits _ inFlight).2.2.1] at signed
      contradiction
    · exact pauses.fresh mark tx declared (opens.pending.symm.trans before) pause generation signed
  | @generated _ _ _ _ earlier hash held safe fresh updates =>
    refine ⟨fun flags => pauses.declared (flags.imp
      (fun flag => (congrArg (·.pauseDeposit) updates.standing).symm.trans flag)
      fun flag => (congrArg (·.pauseWithdrawal) updates.standing).symm.trans flag), ?_⟩
    intro mark tx declared pending pause generation signed
    rcases updates.pending_cases pending with ⟨own, rfl⟩ | ⟨_, before⟩
    · rcases List.mem_append.mp signed with old | new
      · have before : (world.store.admission.lane .runtimeAdministrator).pending = some earlier := by
          rw [own]
          exact held
        exact pauses.fresh mark earlier declared before pause generation old
      · -- a hash that nobody had cannot have been on Base
        cases List.mem_singleton.mp new
        refine Bool.eq_false_iff.mpr fun included => ?_
        obtain ⟨call, logged, same⟩ := receipts.marked mark declared _ included
        exact fresh call logged same
    · exact pauses.fresh mark tx declared before pause generation signed
  | aborted aborts =>
    have standing := aborts.standing
    exact pauses.kept rfl (fun flag => standing ▸ flag) (fun flag => standing ▸ flag)
      fun _ pending => (aborts.still_pending pending).2
  | completed inFlight observed receipt postcondition authority completes =>
    have standing := completes.standing
    exact pauses.kept rfl (fun flag => completed_flags.1 (standing ▸ flag))
      (fun flag => completed_flags.2 (standing ▸ flag))
      fun _ pending => (completes.still_pending pending).2
  | emergency tip paused =>
    refine ⟨fun _ => rfl, fun mark tx declared pending pause generation signed => ?_⟩
    cases declared
    have pending : (world.store.admission.lane .runtimeAdministrator).pending = some tx :=
      pending
    simp only [pausesNew, pending, tip, pause, Bool.not_true, Bool.false_or] at new
    have absent := List.all_eq_true.mp new generation signed
    simpa using absent
  | _ => exact pauses.kept rfl (fun flag => flag) (fun flag => flag) fun _ pending => pending

theorem Initial.pausesFresh (initial : Initial config world) : world.PausesFresh := by
  have calm := initial.calm.1
  simp only [emergencyBaseActionsPending, Bool.or_eq_false_iff] at calm
  refine ⟨fun flags => ?_, fun mark tx declared => ?_⟩
  · rw [calm.1.1, calm.1.2] at flags
    simp at flags
  · rw [initial.calm.2] at declared
    contradiction

def ConfirmsNew (world next : GovernanceWorld) (kind : GovernanceTransactionKind) : Prop :=
  ∃ mark caller transaction hash block, world.emergency = some mark ∧
    world.flow = some (.confirming caller transaction hash) ∧ transaction.kind = kind ∧
    (next.store.admission.lane kind.nonceLane).completed =
      some (withReceipt transaction hash true block) ∧
    mark.included hash = false

theorem completed_clears :
    (standing.pauseDeposit = true → (standing.completed kind confirmed).pauseDeposit = false →
      kind = .pauseDepositMints ∧ confirmed = true) ∧
    (standing.pauseWithdrawal = true → (standing.completed kind confirmed).pauseWithdrawal = false →
      kind = .pauseWithdrawals ∧ confirmed = true) := by
  cases kind <;> cases confirmed <;> simp +contextual [Standing.completed]

structure ClearsByNew (world next : GovernanceWorld) : Prop where
  deposit : world.store.admission.emergencyPauseDepositRequired = true →
    next.store.admission.emergencyPauseDepositRequired = false →
    ConfirmsNew world next .pauseDepositMints
  withdrawal : world.store.admission.emergencyPauseWithdrawalRequired = true →
    next.store.admission.emergencyPauseWithdrawalRequired = false →
    ConfirmsNew world next .pauseWithdrawals

theorem ClearsByNew.of_standing
    (same : next.store.admission.standing = world.store.admission.standing) :
    ClearsByNew world next := by
  have deposit : next.store.admission.emergencyPauseDepositRequired = _ :=
    congrArg Standing.pauseDeposit same
  have withdrawal : next.store.admission.emergencyPauseWithdrawalRequired = _ :=
    congrArg Standing.pauseWithdrawal same
  exact ⟨fun set cleared => absurd (set.symm.trans (deposit.symm.trans cleared)) (by decide),
    fun set cleared => absurd (set.symm.trans (withdrawal.symm.trans cleared)) (by decide)⟩

theorem Moves.clears (moves : Moves params config world command next)
    (consistent : Consistent config world) (pauses : world.PausesFresh) :
    ClearsByNew world next := by
  cases moves with
  | opened inFlight opens => exact .of_standing opens.standing
  | prepared inFlight opens prepares => exact .of_standing (prepares.standing.trans opens.standing)
  | generated held safe fresh updates => exact .of_standing updates.standing
  | aborted aborts => exact .of_standing aborts.standing
  | @completed caller tx base succeeded block hash store inFlight observed receipt
      postcondition authority completes =>
    have confirms : ∀ kind, isPause kind = true → tx.kind = kind → succeeded = true →
        world.emergency.isSome = true →
        ConfirmsNew world { world with store, flow := none, reading := none } kind := by
      rintro _ pause rfl rfl declared
      obtain ⟨mark, declared⟩ := Option.isSome_iff_exists.mp declared
      obtain ⟨held, generation, signed, rfl⟩ := consistent.fits _ inFlight
      have lane : GovernanceNonceLane.runtimeAdministrator = tx.kind.nonceLane := by
        generalize tx.kind = kind at pause
        cases kind <;> first | rfl | contradiction
      refine ⟨mark, caller, tx, _, block, declared, inFlight, rfl, ?_, ?_⟩
      · rw [completes.lanes, completedLane_completed]
        exact if_pos rfl
      · refine pauses.fresh mark tx declared ?_ pause generation signed
        rw [lane]
        exact held
    have standing := completes.standing
    rw [withReceipt_isConfirmed] at standing
    refine ⟨fun set cleared => ?_, fun set cleared => ?_⟩
    · obtain ⟨kind, confirmed⟩ := completed_clears.1 set
        ((congrArg (·.pauseDeposit) standing).symm.trans cleared)
      exact confirms _ rfl kind confirmed (pauses.declared (.inl set))
    · obtain ⟨kind, confirmed⟩ := completed_clears.2 set
        ((congrArg (·.pauseWithdrawal) standing).symm.trans cleared)
      exact confirms _ rfl kind confirmed (pauses.declared (.inr set))
  | emergency tip paused =>
    exact ⟨fun _ cleared => by contradiction, fun _ cleared => by contradiction⟩
  | _ => exact .of_standing rfl

/-- In a run whose emergencies are declared only while no pending pause is on Base already, a
flag is cleared only by a pause that Base did not have at the emergency. -/
theorem emergency_cleared_by_new_pause (reached : Reachable params config pausesNew world)
    (stepped : world.step params config command = some next) : ClearsByNew world next := by
  obtain ⟨consistent, _, pauses⟩ := reached.invariant
    (fun _ initial => And.intro (Initial.receiptsSigned initial) (Initial.pausesFresh initial))
    fun _ _ _ consistent new moves kept => ⟨moves.receiptsSigned kept.1,
      moves.pausesFresh consistent kept.1 new kept.2⟩
  exact (step_moves consistent stepped).clears consistent pauses

def confirmCommands (id : Nat) (hash : Bytes32) : List GovernanceCommand :=
  [.call [3] (.confirm ⟨id, hash⟩), .read, .answer .observed]

def pauseCommands (hash : Bytes32) : List GovernanceCommand :=
  [.call [1] (.prepare .pauseDepositMints), .read, .answer .observed, .answer .done,
    .answer (.signature hash)]

/-- The pause was asked for by the emergency and is confirmed after it. -/
theorem emergency_cleared_by_new_pause_confirmed : ∃ world next,
    Reachable sampleParameters sampleConfig pausesNew world ∧
    world.step sampleParameters sampleConfig (.answer .observed) = some next ∧
    ConfirmsNew world next .pauseDepositMints := by
  have ran : (sampleStart.run sampleParameters sampleConfig pausesNew
      ([.emergencyPause [2]] ++ pauseCommands 1 ++
        [.mine 1 [.governance ⟨1, 12, 0, 0, .pauseDepositMints⟩ false], .finalize 2] ++
        (confirmCommands 0 1).take 2)).any
      (fun world => world.store.admission.emergencyPauseDepositRequired &&
        (world.step sampleParameters sampleConfig (.answer .observed)).any fun next =>
          !next.store.admission.emergencyPauseDepositRequired) = true := by decide +kernel
  obtain ⟨world, reached, facts⟩ := sampleStart_reaches ran
  rw [Bool.and_eq_true] at facts
  obtain ⟨next, stepped, cleared⟩ := (Option.any_eq_true _ _).mp facts.2
  rw [Bool.not_eq_true'] at cleared
  exact ⟨world, next, reached, stepped, (emergency_cleared_by_new_pause reached stepped).deposit
    facts.1 cleared⟩

/-- An activation is scheduled in the given block under the given id and hash, and its execution
is signed with the next ones. -/
def activationCommands (block id hash : Nat) : List GovernanceCommand :=
  [.call [1] (.prepare .scheduleActivation), .read, .answer .observed, .read, .answer .observed,
    .answer .done, .answer (.signature (BitVec.ofNat 256 hash)),
    .mine block [.governance ⟨BitVec.ofNat 256 hash, 11, 0, id,
      .scheduleActivation (sampleConfig.activationOperation id)⟩ false], .finalize (block + 1)] ++
    confirmCommands id (BitVec.ofNat 256 hash) ++
    [.call [1] (.prepare .executeActivation), .read, .answer .observed, .answer .done,
      .answer (.signature (BitVec.ofNat 256 (hash + 1)))]

def activatedCommands (block id hash : Nat) : List GovernanceCommand :=
  [.mine block [.governance ⟨BitVec.ofNat 256 (hash + 1), 11, 1, id + 1,
      .executeActivation (sampleConfig.activationOperation id)⟩ false], .finalize (block + 1)] ++
    (confirmCommands (id + 1) (BitVec.ofNat 256 (hash + 1))).take 2

/-- A pause is signed and included, both directions are unpaused by an activation, and only
then an emergency is declared. -/
def stalePauseCommands : List GovernanceCommand :=
  pauseCommands 1 ++ [.mine 1 [.governance ⟨1, 12, 0, 0, .pauseDepositMints⟩ false], .finalize 2] ++
    activationCommands 2 1 2 ++ activatedCommands 3 1 2 ++ [.answer .observed, .emergencyPause [2]]

/-- Base includes the generation that is being confirmed since before the emergency. -/
def confirmsOld (world : GovernanceWorld) : Bool :=
  match world.flow, world.emergency with
  | some (.confirming _ _ hash), some mark => mark.included hash
  | _, _ => false

/-- The old pause clears the flag of the emergency while Base is unpaused. -/
theorem emergency_cleared_by_old_pause : ∃ world next base,
    Reachable sampleParameters sampleConfig anyCommand world ∧
    world.step sampleParameters sampleConfig (.answer .observed) = some next ∧
    world.reading = some base ∧ base.bridge.depositMintsPaused = false ∧
    ¬ ClearsByNew world next := by
  have ran : (sampleStart.run sampleParameters sampleConfig anyCommand
      (stalePauseCommands ++ (confirmCommands 0 1).take 2)).any
      (fun world => confirmsOld world && world.store.admission.emergencyPauseDepositRequired &&
        (world.reading.any fun base => !base.bridge.depositMintsPaused) &&
        (world.step sampleParameters sampleConfig (.answer .observed)).any fun next =>
          !next.store.admission.emergencyPauseDepositRequired) = true := by decide +kernel
  obtain ⟨world, reached, facts⟩ := sampleStart_reaches ran
  simp only [Bool.and_eq_true] at facts
  obtain ⟨⟨⟨old, required⟩, unpaused⟩, stepped⟩ := facts
  obtain ⟨next, stepped, cleared⟩ := (Option.any_eq_true _ _).mp stepped
  obtain ⟨base, observed, unpaused⟩ := (Option.any_eq_true _ _).mp unpaused
  rw [Bool.not_eq_true'] at cleared unpaused
  refine ⟨world, next, base, reached, stepped, observed, unpaused, fun clears => ?_⟩
  obtain ⟨mark, caller, transaction, hash, block, declared, inFlight, _, _, new⟩ :=
    clears.deposit required cleared
  rw [confirmsOld, inFlight, declared] at old
  exact absurd (old.symm.trans new) (by decide)

/-- An activation that was prepared before the latest emergency and succeeded on Base is confirmed
only while a Base pause of the emergency is still asked for. -/
def activationHeld (world : GovernanceWorld) (command : GovernanceCommand) : Bool :=
  match command, world.flow, world.reading, world.emergency with
  | .answer .observed, some (.confirming _ transaction hash), some base, some mark =>
    match transaction.kind, base.receipts hash with
    | .executeActivation _, some true => decide (mark.nextId ≤ transaction.id) ||
        world.store.admission.emergencyPauseDepositRequired ||
        world.store.admission.emergencyPauseWithdrawalRequired
    | _, _ => true
  | _, _, _, _ => true

def DeclaredSince (bound : Nat) (world : GovernanceWorld) : Prop :=
  bound ≤ world.store.admission.nextGovernanceOperationId ∧
    ∃ mark, world.emergency = some mark ∧ bound ≤ mark.nextId

theorem Moves.ids_le (moves : Moves params config world command next) :
    world.store.admission.nextGovernanceOperationId ≤
      next.store.admission.nextGovernanceOperationId := by
  cases moves with
  | opened inFlight opens => exact opens.ids.ge
  | prepared inFlight opens prepares =>
    calc world.store.admission.nextGovernanceOperationId
      _ = _ := opens.ids.symm
      _ = _ := prepares.id.symm
      _ ≤ _ := Nat.le_succ _
      _ = _ := prepares.ids.symm
  | generated held safe fresh updates => exact updates.ids.ge
  | aborted aborts => exact aborts.ids.ge
  | completed inFlight observed receipt postcondition authority completes => exact completes.ids.ge
  | _ => exact Nat.le_refl _

theorem Moves.declaredSince (moves : Moves params config world command next)
    (since : DeclaredSince bound world) : DeclaredSince bound next := by
  refine ⟨since.1.trans moves.ids_le, ?_⟩
  cases moves with
  | emergency tip paused => exact ⟨_, rfl, since.1⟩
  | _ => exact since.2

def ConfirmsActivation (world next : GovernanceWorld) (transaction : GovernanceTransaction) : Prop :=
  ∃ caller hash block operation, world.flow = some (.confirming caller transaction hash) ∧
    transaction.kind = .executeActivation operation ∧
    (next.store.admission.lane .governance).completed =
      some (withReceipt transaction hash true block)

/-- Deposits resume only with an activation that is as new as the emergency. -/
theorem Moves.resumes (moves : Moves params config world command next)
    (held : world.activationHeld command = true) (since : DeclaredSince bound world)
    (paused : world.store.admin.depositsPaused = true)
    (resumed : next.store.admin.depositsPaused = false) :
    ∃ tx, ConfirmsActivation world next tx ∧ bound ≤ tx.id := by
  cases moves with
  | @completed caller tx base succeeded block hash store inFlight observed receipt
      postcondition authority completes =>
    have admin := completes.admin
    split at admin
    next activates =>
      obtain ⟨operation, kind, rfl⟩ : ∃ operation,
          tx.kind = .executeActivation operation ∧ succeeded = true := by
        unfold GovernanceTransaction.activates at activates
        split at activates
        next operation kind confirmed =>
          exact ⟨operation, kind, (withReceipt_isConfirmed ..).symm.trans confirmed⟩
        · contradiction
      -- an activation leaves the two pauses asked for, so neither was before
      have clear : store.admission.emergencyBaseActionsPending = false :=
        (congrArg depositsPaused admin).symm.trans resumed
      have standing : store.admission.standing =
          { world.store.admission.standing with bootstrap := none } := by
        rw [completes.standing, withReceipt_isConfirmed]
        change Standing.completed _ tx.kind true = _
        rw [kind]
        rfl
      simp only [emergencyBaseActionsPending, Bool.or_eq_false_iff] at clear
      have deposit : world.store.admission.emergencyPauseDepositRequired = false :=
        (congrArg (·.pauseDeposit) standing).symm.trans clear.1.1
      have withdrawal : world.store.admission.emergencyPauseWithdrawalRequired = false :=
        (congrArg (·.pauseWithdrawal) standing).symm.trans clear.1.2
      obtain ⟨_, mark, declared, bounded⟩ := since
      simp only [activationHeld, inFlight, observed, receipt, declared, kind, deposit, withdrawal, Bool.or_false,
        decide_eq_true_eq] at held
      refine ⟨tx, ⟨caller, hash, block, operation, inFlight, kind, ?_⟩, bounded.trans held⟩
      rw [completes.lanes, completedLane_completed]
      refine if_pos ?_
      change GovernanceNonceLane.governance = tx.kind.nonceLane
      rw [kind]
      rfl
    · have kept : store.admin.depositsPaused = _ := congrArg depositsPaused admin
      exact absurd (paused.symm.trans (kept.symm.trans resumed)) (by decide)
  | emergency tip pauses =>
    unfold pause at pauses
    split at pauses
    · cases pauses
      contradiction
    · contradiction
  | administered governance still => exact absurd ((still paused).symm.trans resumed) (by decide)
  | _ => exact absurd (paused.symm.trans resumed) (by decide)

theorem run_invariant {allowed : GovernanceWorld → GovernanceCommand → Bool}
    {holds : GovernanceWorld → Prop} (kept : ∀ world command next, allowed world command = true →
      Moves params config world command next → holds world → holds next)
    (ran : world.run params config allowed commands = some next)
    (consistent : Consistent config world) (initially : holds world) :
    Consistent config next ∧ holds next := by
  induction commands generalizing world with
  | nil =>
    cases ran
    exact ⟨consistent, initially⟩
  | cons command commands ih =>
    obtain ⟨between, stepped, ran⟩ := Option.bind_eq_some_iff.mp ran
    dsimp only at stepped
    split at stepped
    next meets =>
      have moves := step_moves consistent stepped
      exact ih ran (moves.consistent consistent) (kept _ _ _ meets moves initially)
    · contradiction

theorem declared_emergency
    (declared : world.step params config (.emergencyPause caller) = some next) :
    next.store.admin.depositsPaused = true ∧
      DeclaredSince world.store.admission.nextGovernanceOperationId next := by
  simp only [step] at declared
  split at declared
  · contradiction
  next store paused =>
    obtain ⟨tip, _, rest⟩ := Option.bind_eq_some_iff.mp declared
    cases rest
    unfold emergencyPause at paused
    split at paused
    · contradiction
    next admin paused =>
      cases ‹_ = Except.ok store›
      unfold pause at paused
      split at paused
      · cases paused
        exact ⟨rfl, Nat.le_refl _, _, rfl, Nat.le_refl _⟩
      · contradiction

/-- An emergency pauses deposits. In a run that confirms older activations only while the
emergency still asks for a Base pause, the step that ends the pause confirms an activation that
was not prepared when the emergency was declared. -/
theorem emergency_pause_holds {after : GovernanceWorld}
    (reached : Reachable params config activationHeld world)
    (declared : world.step params config (.emergencyPause caller) = some after) :
    after.store.admin.depositsPaused = true ∧
    ∀ commands now command next, after.run params config activationHeld commands = some now →
      now.activationHeld command = true → now.step params config command = some next →
      now.store.admin.depositsPaused = true → next.store.admin.depositsPaused = false →
      ∃ transaction, ConfirmsActivation now next transaction ∧ transaction.id ∉ world.prepared := by
  obtain ⟨consistent, log⟩ := reached.invariant (fun _ initial => Initial.logKept initial)
    fun _ _ _ consistent _ moves log => moves.logKept consistent log
  obtain ⟨paused, since⟩ := declared_emergency declared
  refine ⟨paused, fun commands now command next ran meets stepped paused resumed => ?_⟩
  obtain ⟨consistent, since⟩ := run_invariant (fun _ _ _ _ moves => moves.declaredSince) ran
    ((step_moves consistent declared).consistent consistent) since
  obtain ⟨transaction, confirms, bounded⟩ :=
    (step_moves consistent stepped).resumes meets since paused resumed
  exact ⟨transaction, confirms, fun known => absurd (log.below _ known) bounded.not_gt⟩

def emergencyCommands (block id hash : Nat) : List GovernanceCommand :=
  pauseCommands (BitVec.ofNat 256 hash) ++
    [.mine block [.governance ⟨BitVec.ofNat 256 hash, 12, 0, id, .pauseDepositMints⟩ false],
      .finalize (block + 1)] ++ confirmCommands id (BitVec.ofNat 256 hash) ++
    [.call [1] (.prepare .pauseWithdrawals), .answer .done,
      .answer (.signature (BitVec.ofNat 256 (hash + 1))),
      .mine (block + 1) [.governance ⟨BitVec.ofNat 256 (hash + 1), 12, 1, id + 1,
        .pauseWithdrawals⟩ false], .finalize (block + 2)] ++
    confirmCommands (id + 1) (BitVec.ofNat 256 (hash + 1))

def resumesNext (world : GovernanceWorld) : Bool :=
  world.store.admin.depositsPaused &&
    (world.step sampleParameters sampleConfig (.answer .observed)).any fun next =>
      !next.store.admin.depositsPaused

/-- The activation was prepared, and scheduled, after the emergency. -/
theorem emergency_pause_holds_activation : ∃ after now next transaction,
    sampleStart.step sampleParameters sampleConfig (.emergencyPause [2]) = some after ∧
    after.run sampleParameters sampleConfig activationHeld
      (emergencyCommands 1 0 1 ++ activationCommands 3 2 3 ++ activatedCommands 4 2 3) = some now ∧
    ConfirmsActivation now next transaction ∧ transaction.id ∉ sampleStart.prepared := by
  have ran : (sampleStart.step sampleParameters sampleConfig (.emergencyPause [2])).any
      (fun after => (after.run sampleParameters sampleConfig activationHeld
        (emergencyCommands 1 0 1 ++ activationCommands 3 2 3 ++ activatedCommands 4 2 3)).any
        fun now => resumesNext now && activationHeld now (.answer .observed)) = true := by
    decide +kernel
  obtain ⟨after, declared, ran⟩ := (Option.any_eq_true _ _).mp ran
  obtain ⟨now, ran, facts⟩ := (Option.any_eq_true _ _).mp ran
  simp only [resumesNext, Bool.and_eq_true] at facts
  obtain ⟨⟨paused, resumes⟩, meets⟩ := facts
  obtain ⟨next, stepped, resumed⟩ := (Option.any_eq_true _ _).mp resumes
  rw [Bool.not_eq_true'] at resumed
  obtain ⟨transaction, confirms, new⟩ := (emergency_pause_holds (.initial sampleStart_initial)
    declared).2 _ now _ next ran meets stepped paused resumed
  exact ⟨after, now, next, transaction, declared, ran, confirms, new⟩

def confirming (world : GovernanceWorld) : Option GovernanceTransaction :=
  match world.flow with
  | some (.confirming _ transaction _) => some transaction
  | _ => none

/-- The activation was signed before the emergency. It is included after the emergency's pauses
and its confirmation ends the emergency. -/
theorem emergency_pause_ends_early : ∃ world after now next transaction,
    Reachable sampleParameters sampleConfig anyCommand world ∧
    world.step sampleParameters sampleConfig (.emergencyPause [2]) = some after ∧
    after.run sampleParameters sampleConfig anyCommand
      (emergencyCommands 2 2 3 ++ activatedCommands 4 0 1) = some now ∧
    now.step sampleParameters sampleConfig (.answer .observed) = some next ∧
    now.store.admin.depositsPaused = true ∧ next.store.admin.depositsPaused = false ∧
    now.confirming = some transaction ∧ transaction.id ∈ world.prepared := by
  have ran : (sampleStart.run sampleParameters sampleConfig anyCommand
      (activationCommands 1 0 1)).any (fun world =>
        (world.step sampleParameters sampleConfig (.emergencyPause [2])).any fun after =>
          (after.run sampleParameters sampleConfig anyCommand
            (emergencyCommands 2 2 3 ++ activatedCommands 4 0 1)).any fun now =>
              resumesNext now && now.confirming.any (world.prepared.contains ·.id)) = true := by
    decide +kernel
  obtain ⟨world, reached, rest⟩ := sampleStart_reaches ran
  obtain ⟨after, declared, rest⟩ := (Option.any_eq_true _ _).mp rest
  obtain ⟨now, later, facts⟩ := (Option.any_eq_true _ _).mp rest
  simp only [resumesNext, Bool.and_eq_true] at facts
  obtain ⟨⟨paused, resumes⟩, old⟩ := facts
  obtain ⟨next, stepped, resumed⟩ := (Option.any_eq_true _ _).mp resumes
  obtain ⟨transaction, inFlight, known⟩ := (Option.any_eq_true _ _).mp old
  rw [Bool.not_eq_true'] at resumed
  exact ⟨world, after, now, next, transaction, reached, declared, later, stepped, paused, resumed,
    inFlight, List.contains_iff_mem.mp known⟩

end GovernanceWorld

end KinicBridge
