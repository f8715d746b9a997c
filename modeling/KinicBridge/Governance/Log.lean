import KinicBridge.Governance.Bookkeeping

/-! Every generation that was ever signed and every id that was ever given out, next to the
transactions that are pending. -/
namespace KinicBridge

open List

structure Logged (config : GovernanceConfig) (admission : GovernanceAdmission)
    (signed : List GovernanceCall) (prepared : List Nat) : Prop where
  nodup : prepared.Nodup
  below : ∀ id ∈ prepared, id < admission.nextGovernanceOperationId
  known : ∀ lane transaction, (admission.lane lane).pending = some transaction →
    transaction.id ∈ prepared
  distinct : ∀ lane other transaction pending, (admission.lane lane).pending = some transaction →
    (admission.lane other).pending = some pending → transaction.id = pending.id → lane = other
  calldata : ∀ lane transaction, (admission.lane lane).pending = some transaction →
    transaction.envelope.calldata = config.calldata transaction.kind
  logged : ∀ call ∈ signed, call.id ∈ prepared
  generations : ∀ lane transaction, (admission.lane lane).pending = some transaction →
    ∀ generation ∈ transaction.envelope.signedTransactions,
      ∃ call ∈ signed, call.hash = generation.transactionHash ∧ call.id = transaction.id
  calls : ∀ call ∈ signed, ∀ lane transaction,
    (admission.lane lane).pending = some transaction → call.id = transaction.id →
      call.kind = transaction.kind ∧ call.nonce = transaction.envelope.nonce ∧
      ∃ generation ∈ transaction.envelope.signedTransactions, generation.transactionHash = call.hash
  kinds : ∀ call ∈ signed, ∀ other ∈ signed, call.id = other.id →
    call.kind = other.kind ∧ call.nonce = other.nonce
  hashes : ∀ call ∈ signed, ∀ other ∈ signed, call.hash = other.hash → call = other

namespace Logged

variable {config : GovernanceConfig} {admission next : GovernanceAdmission}
  {signed : List GovernanceCall} {prepared : List Nat} {tx : GovernanceTransaction}

theorem fewer (log : Logged config admission signed prepared)
    (ids : next.nextGovernanceOperationId = admission.nextGovernanceOperationId)
    (still : ∀ lane tx, (next.lane lane).pending = some tx →
      (admission.lane lane).pending = some tx) : Logged config next signed prepared where
  nodup := log.nodup
  below := fun id given => ids ▸ log.below id given
  known := fun lane tx pending => log.known lane tx (still _ _ pending)
  distinct := fun lane other _ _ first second =>
    log.distinct lane other _ _ (still _ _ first) (still _ _ second)
  calldata := fun lane tx pending => log.calldata lane tx (still _ _ pending)
  logged := log.logged
  generations := fun lane tx pending =>
    log.generations lane tx (still _ _ pending)
  calls := fun call present lane tx pending =>
    log.calls call present lane tx (still _ _ pending)
  kinds := log.kinds
  hashes := log.hashes

theorem prepare (log : Logged config admission signed prepared)
    (prepares : admission.Prepared tx next) (unsigned : tx.envelope.signedTransactions = [])
    (encoded : tx.envelope.calldata = config.calldata tx.kind) :
    Logged config next signed (tx.id :: prepared) := by
  have unused : tx.id ∉ prepared := by
    intro given
    have below := log.below _ given
    rw [prepares.id] at below
    exact absurd below (Nat.lt_irrefl _)
  have older : ∀ {lane pending}, (admission.lane lane).pending = some pending →
      tx.id ≠ pending.id := by
    intro lane pending present same
    exact unused (same ▸ log.known lane pending present)
  refine ⟨nodup_cons.mpr ⟨unused, log.nodup⟩, fun id given => ?_,
    fun lane after pending => ?_, fun lane other after also first second same => ?_,
    fun lane after pending => ?_, fun call present => mem_cons_of_mem _ (log.logged call present),
    fun lane after pending generation present => ?_,
    fun call present lane after pending same => ?_, log.kinds, log.hashes⟩
  · rw [prepares.ids]
    rcases mem_cons.mp given with rfl | given
    · exact Nat.lt_succ_self _
    · rw [prepares.id]
      exact Nat.lt_succ_of_lt (log.below id given)
  · rcases prepares.pending_cases pending with ⟨_, rfl⟩ | ⟨_, before⟩
    · exact mem_cons_self ..
    · exact mem_cons_of_mem _ (log.known lane after before)
  · rcases prepares.pending_cases first with ⟨own, rfl⟩ | ⟨_, first⟩ <;>
      rcases prepares.pending_cases second with ⟨own', rfl⟩ | ⟨_, second⟩
    · exact own.trans own'.symm
    · exact absurd same (older second)
    · exact absurd same.symm (older first)
    · exact log.distinct lane other after also first second same
  · rcases prepares.pending_cases pending with ⟨_, rfl⟩ | ⟨_, before⟩
    · exact encoded
    · exact log.calldata lane after before
  · rcases prepares.pending_cases pending with ⟨_, rfl⟩ | ⟨_, before⟩
    · rw [unsigned] at present
      contradiction
    · exact log.generations lane after before generation present
  · rcases prepares.pending_cases pending with ⟨_, rfl⟩ | ⟨_, before⟩
    · exact absurd (same ▸ log.logged call present) unused
    · exact log.calls call present lane after before same

theorem generate {hash : Bytes32} (log : Logged config admission signed prepared)
    (held : (admission.lane tx.kind.nonceLane).pending = some tx)
    (updates : admission.Updated (GovernanceStore.withGeneration
      (tx.atFee maxFee maxPriorityFee) hash generation now) next)
    (fresh : ∀ call ∈ signed, call.hash ≠ hash) : Logged config next
      (⟨hash, sender, tx.envelope.nonce, tx.id, tx.kind⟩ :: signed) prepared := by
  -- the transaction keeps everything but its fee, its state and its generations
  have grows : ∀ earlier ∈ tx.envelope.signedTransactions,
      earlier ∈ (GovernanceStore.withGeneration (tx.atFee maxFee maxPriorityFee) hash
        generation now).envelope.signedTransactions :=
    fun earlier present => mem_append_left _ present
  refine ⟨log.nodup, fun id given => updates.ids ▸ log.below id given,
    fun lane after pending => ?_, fun lane other after also first second same => ?_,
    fun lane after pending => ?_, fun call present => ?_,
    fun lane after pending earlier present => ?_,
    fun call present lane after pending same => ?_, fun call present other also same => ?_,
    fun call present other also same => ?_⟩
  · rcases updates.pending_cases pending with ⟨_, rfl⟩ | ⟨_, before⟩
    · exact log.known _ tx held
    · exact log.known lane after before
  · rcases updates.pending_cases first with ⟨own, rfl⟩ | ⟨_, first⟩ <;>
      rcases updates.pending_cases second with ⟨own', rfl⟩ | ⟨_, second⟩
    · exact own.trans own'.symm
    · exact own.trans (log.distinct _ other _ also held second same)
    · exact (log.distinct lane _ after _ first held same).trans own'.symm
    · exact log.distinct lane other after also first second same
  · rcases updates.pending_cases pending with ⟨_, rfl⟩ | ⟨_, before⟩
    · exact log.calldata _ tx held
    · exact log.calldata lane after before
  · rcases mem_cons.mp present with rfl | before
    · exact log.known _ _ held
    · exact log.logged call before
  · rcases updates.pending_cases pending with ⟨_, rfl⟩ | ⟨_, before⟩
    · rcases mem_append.mp present with old | new
      · obtain ⟨call, logged, facts⟩ := log.generations _ _ held earlier old
        exact ⟨call, mem_cons_of_mem _ logged, facts⟩
      · cases mem_singleton.mp new
        exact ⟨_, mem_cons_self .., rfl, rfl⟩
    · obtain ⟨call, logged, facts⟩ := log.generations lane after before earlier present
      exact ⟨call, mem_cons_of_mem _ logged, facts⟩
  · rcases updates.pending_cases pending with ⟨_, rfl⟩ | ⟨other, before⟩ <;>
      rcases mem_cons.mp present with rfl | logged
    · exact ⟨rfl, rfl, _, mem_append_right _ (mem_singleton_self _), rfl⟩
    · obtain ⟨kind, nonce, earlier, signed, hash⟩ := log.calls call logged _ _ held same
      exact ⟨kind, nonce, earlier, grows earlier signed, hash⟩
    · exact absurd (log.distinct _ lane _ after held before same).symm other
    · exact log.calls call logged lane after before same
  · rcases mem_cons.mp present with rfl | present <;> rcases mem_cons.mp also with rfl | also
    · exact ⟨rfl, rfl⟩
    · obtain ⟨kind, nonce, _⟩ := log.calls other also _ _ held same.symm
      exact ⟨kind.symm, nonce.symm⟩
    · obtain ⟨kind, nonce, _⟩ := log.calls call present _ _ held same
      exact ⟨kind, nonce⟩
    · exact log.kinds call present other also same
  · rcases mem_cons.mp present with rfl | present <;> rcases mem_cons.mp also with rfl | also
    · rfl
    · exact absurd same.symm (fresh other also)
    · exact absurd same (fresh call present)
    · exact log.hashes call present other also same

end Logged

namespace GovernanceWorld

variable {params : GovernanceParameters} {config : GovernanceConfig}
  {world next : GovernanceWorld} {command : GovernanceCommand}

def LogKept (config : GovernanceConfig) (world : GovernanceWorld) : Prop :=
  Logged config world.store.admission world.signed world.prepared

theorem Moves.logKept (moves : Moves params config world command next)
    (consistent : Consistent config world) (log : world.LogKept config) : next.LogKept config := by
  cases moves with
  | opened inFlight opens =>
    exact log.fewer opens.ids fun _ _ pending => opens.pending.symm.trans pending
  | prepared inFlight opens prepares =>
    have assembled := (consistent.fits _ inFlight).2.2.1
    refine Logged.prepare (log.fewer opens.ids fun _ _ pending => opens.pending.symm.trans pending)
      prepares ?_ ?_
    · rw [assembled]
      rfl
    · rw [assembled]
      rfl
  | generated held safe fresh updates => exact log.generate held updates fresh
  | aborted aborts => exact log.fewer aborts.ids fun _ _ pending => (aborts.still_pending pending).2
  | completed inFlight observed receipt postcondition authority completes =>
    exact log.fewer completes.ids fun _ _ pending => (completes.still_pending pending).2
  | emergency tip paused => exact log.fewer rfl fun _ _ pending => pending
  | _ => exact log

theorem Initial.logKept (initial : Initial config world) : world.LogKept config := by
  have free : ∀ lane tx, (world.store.admission.lane lane).pending ≠ some tx := by
    intro lane tx pending
    rw [initial.unused lane] at pending
    contradiction
  unfold LogKept
  rw [initial.unsigned.1, initial.unsigned.2]
  exact ⟨nodup_nil, fun _ none => by contradiction,
    fun _ _ pending => absurd pending (free _ _), fun _ _ _ _ pending => absurd pending (free _ _),
    fun _ _ pending => absurd pending (free _ _), fun _ none => by contradiction,
    fun _ _ pending => absurd pending (free _ _), fun _ none => by contradiction,
    fun _ none => by contradiction, fun _ none => by contradiction⟩

/-- No operation id is given out twice, all that is signed for an operation has one kind and nonce,
and a pending transaction calls what its kind says and has its generations in the log. -/
theorem generations_agree (reached : Reachable params config allowed world) :
    world.prepared.Nodup ∧
    (∀ call ∈ world.signed, ∀ other ∈ world.signed, call.id = other.id →
      call.kind = other.kind ∧ call.nonce = other.nonce) ∧
    ∀ lane tx, (world.store.admission.lane lane).pending = some tx →
      tx.envelope.calldata = config.calldata tx.kind ∧
      ∀ generation ∈ tx.envelope.signedTransactions,
        ∃ call ∈ world.signed, call.hash = generation.transactionHash ∧ call.id = tx.id := by
  obtain ⟨_, log⟩ := reached.invariant (fun _ => Initial.logKept)
    fun _ _ _ consistent _ moves => moves.logKept consistent
  refine ⟨log.nodup, log.kinds, fun lane tx pending => ?_⟩
  exact ⟨log.calldata lane tx pending, log.generations lane tx pending⟩

/-- A scheduled rotation is signed, and signed again at a higher fee. -/
theorem generations_agree_replaced : ∃ world first second,
    Reachable sampleParameters sampleConfig anyCommand world ∧ world.signed = [second, first] ∧
    first.hash ≠ second.hash ∧ second.kind = first.kind ∧ second.nonce = first.nonce := by
  have ran : (sampleStart.run sampleParameters sampleConfig anyCommand
      (prepareCommands [1] .scheduleControlPlaneRotation ++ [.answer (.signature 1),
        .call [1] (.prepareReplacement ⟨0, 1, 909, 909⟩), .answer .done,
        .answer (.signature 2)])).any
      (fun world => world.signed.map (fun call => (call.hash, call.id)) == [(2, 0), (1, 0)]) =
        true := by decide +kernel
  obtain ⟨world, reached, facts⟩ := sampleStart_reaches ran
  obtain ⟨second, rest, signed, two, facts⟩ := map_eq_cons_iff.mp (beq_iff_eq.mp facts)
  obtain ⟨first, rest, rfl, one, facts⟩ := map_eq_cons_iff.mp facts
  cases map_eq_nil_iff.mp facts
  obtain ⟨hash, id⟩ := Prod.mk.inj one
  obtain ⟨hash', id'⟩ := Prod.mk.inj two
  have agree := (generations_agree reached).2.1 second (by simp [signed]) first (by simp [signed])
    (id'.trans id.symm)
  exact ⟨world, first, second, reached, signed, by rw [hash, hash']; decide, agree⟩

end GovernanceWorld

end KinicBridge
