import KinicBridge.Base.Supply
import KinicBridge.Base.Transactions
import KinicBridge.Library.FinalChain

/-! Blocks of Base with their transactions. Withdrawals stay as they were created, and a hash
stands for one transaction of the chain. -/
namespace KinicBridge

variable {keccak : Keccak} {params : BridgeParameters} {timestamp : Nat}

structure MinedTransaction extends BaseTransaction where
  before : BridgeState

structure MinedBlock where
  number : Nat
  hash : Bytes32
  timestamp : Nat
  transactions : List MinedTransaction
  state : BridgeState

def MinedTransaction.after (keccak : Keccak) (params : BridgeParameters) (timestamp : Nat)
    (mined : MinedTransaction) : TransactionState :=
  mined.run keccak params timestamp mined.before

inductive Threads (keccak : Keccak) (params : BridgeParameters) (timestamp : Nat) :
    BridgeState → List MinedTransaction → BridgeState → Prop where
  | done : Threads keccak params timestamp state [] state
  | next {mined : MinedTransaction} {mineds : List MinedTransaction} {state last : BridgeState}
      (before : mined.before = state)
      (rest : Threads keccak params timestamp
        (mined.after keccak params timestamp).bridge mineds last) :
      Threads keccak params timestamp state (mined :: mineds) last

structure MinedBlock.Follows (keccak : Keccak) (params : BridgeParameters)
    (parent block : MinedBlock) : Prop where
  number : block.number = parent.number + 1
  later : parent.timestamp ≤ block.timestamp
  threads : Threads keccak params block.timestamp parent.state block.transactions block.state

/-- Transactions with the storage each of them finds, and the storage they leave. -/
def mineTransactions (keccak : Keccak) (params : BridgeParameters) (timestamp : Nat) :
    BridgeState → List BaseTransaction → List MinedTransaction × BridgeState
  | state, [] => ([], state)
  | state, transaction :: rest =>
    let mined : MinedTransaction := ⟨transaction, state⟩
    let (mineds, last) := mineTransactions keccak params timestamp
      (mined.after keccak params timestamp).bridge rest
    (mined :: mineds, last)

theorem mineTransactions_threads (state : BridgeState) (transactions : List BaseTransaction) :
    Threads keccak params timestamp state
      (mineTransactions keccak params timestamp state transactions).1
      (mineTransactions keccak params timestamp state transactions).2 := by
  induction transactions generalizing state with
  | nil => exact .done
  | cons tx rest ih => exact .next rfl (ih _)

def MinedBlock.next (keccak : Keccak) (params : BridgeParameters) (parent : MinedBlock)
    (timestamp : Nat) (hash : Bytes32) (transactions : List BaseTransaction) : MinedBlock :=
  let mined := mineTransactions keccak params timestamp parent.state transactions
  ⟨parent.number + 1, hash, timestamp, mined.1, mined.2⟩

theorem MinedBlock.next_follows {parent : MinedBlock} (later : parent.timestamp ≤ timestamp)
    (hash : Bytes32) (transactions : List BaseTransaction) : parent.Follows keccak params
      (parent.next keccak params timestamp hash transactions) :=
  ⟨rfl, later, mineTransactions_threads parent.state transactions⟩

def BridgeState.Keeps (before after : BridgeState) : Prop :=
  ∀ id withdrawal, before.withdrawals id = some withdrawal → after.withdrawals id = some withdrawal

theorem TransactionState.step_sound {state : TransactionState}
    (sound : state.bridge.Sound params timestamp) (step : TransactionStep) :
    (state.step keccak params timestamp step).bridge.Sound params timestamp := by
  unfold TransactionState.step
  split
  next next executed =>
    unfold execute at executed
    split at executed
    next sender amount maxServiceFee owner subaccount =>
      obtain ⟨_, bridge, accepted, rfl⟩ := createWithdrawal_ok executed
      have performed : state.bridge.execute params timestamp
          (.createWithdrawal sender amount maxServiceFee owner subaccount) = .ok bridge := accepted
      exact sound.execute performed
    · obtain ⟨bridge, performed, rfl⟩ := map_ok.mp executed
      exact sound.execute (liftBridge_ok.mp performed)
    · cases executed
      split <;> exact sound
  · exact sound

theorem BaseTransaction.run_sound {before : BridgeState} (sound : before.Sound params timestamp)
    (tx : BaseTransaction) :
    (tx.run keccak params timestamp before).bridge.Sound params timestamp := by
  unfold run
  split
  · exact sound
  · have started : (TransactionState.start before).bridge.Sound params timestamp := sound
    generalize TransactionState.start before = state at started
    unfold TransactionState.run
    generalize tx.steps = steps
    induction steps generalizing state with
    | nil => exact started
    | cons step steps ih => exact ih _ (TransactionState.step_sound started step)

theorem Leaves.keeps {before : BridgeState} {state : TransactionState}
    (leaves : Leaves keccak params before state created)
    (sound : before.Sound params timestamp) : before.Keeps state.bridge := by
  intro id withdrawal found
  rw [leaves.withdrawals]
  cases created with
  | none => exact found
  | some new =>
    have older := (sound.withdrawals id withdrawal found).1
    rw [Option.elim, Function.update_of_ne (Nat.ne_of_lt older)]
    exact found

theorem Leaves.found {before : BridgeState} {state : TransactionState}
    (leaves : Leaves keccak params before state (some withdrawal)) :
    state.bridge.withdrawals before.nextWithdrawalId = some withdrawal := by
  rw [leaves.withdrawals]
  simp

theorem Threads.sound (threads : Threads keccak params timestamp state mineds last)
    (sound : state.Sound params timestamp) : last.Sound params timestamp ∧ state.Keeps last ∧
      ∀ mined ∈ mineds, mined.before.nextWithdrawalId ≤ Checked.limit 256 ∧
        ∀ withdrawal, Leaves keccak params mined.before
          (mined.after keccak params timestamp) (some withdrawal) →
          last.withdrawals mined.before.nextWithdrawalId = some withdrawal := by
  induction threads with
  | done => exact ⟨sound, fun _ _ found => found, nofun⟩
  | @next mined mineds state last before rest ih =>
    subst before
    obtain ⟨lastSound, kept, created⟩ := ih (mined.run_sound sound)
    obtain ⟨own, leaves⟩ := mined.leaves mined.before
    refine ⟨lastSound, fun id withdrawal found => kept id withdrawal
      (leaves.keeps sound id withdrawal found), ?_⟩
    intro other listed
    rcases List.mem_cons.mp listed with rfl | later
    · exact ⟨sound.counted, fun withdrawal creates => kept _ _ creates.found⟩
    · exact created other later

namespace MinedBlock

structure Precedes (a b : MinedBlock) : Prop where
  number : a.number < b.number
  kept : a.state.Keeps b.state

theorem Precedes.trans (first : Precedes a b) (second : Precedes b c) : Precedes a c :=
  ⟨first.number.trans second.number,
    fun id withdrawal found => second.kept id withdrawal (first.kept id withdrawal found)⟩

structure Sound (keccak : Keccak) (params : BridgeParameters) (block : MinedBlock) : Prop where
  state : block.state.Sound params block.timestamp
  counted : ∀ mined ∈ block.transactions, mined.before.nextWithdrawalId ≤ Checked.limit 256
  created : ∀ mined ∈ block.transactions, ∀ withdrawal, Leaves keccak params mined.before
    (mined.after keccak params block.timestamp) (some withdrawal) →
    block.state.withdrawals mined.before.nextWithdrawalId = some withdrawal

theorem Follows.sound (follows : Follows keccak params parent block)
    (sound : parent.Sound keccak params) : block.Sound keccak params ∧ parent.Precedes block := by
  obtain ⟨last, kept, created⟩ := follows.threads.sound (sound.state.later follows.later)
  refine ⟨⟨last, fun mined listed => (created mined listed).1,
    fun mined listed => (created mined listed).2⟩, ?_, kept⟩
  rw [follows.number]
  exact Nat.lt_succ_self _

def deployed (deployment : BridgeDeployment params) (number : Nat) (hash : Bytes32) :
    MinedBlock := ⟨number, hash, deployment.timestamp, [], deployment.state⟩

theorem deployed_sound (deployment : BridgeDeployment params) (number : Nat) (hash : Bytes32) :
    (deployed deployment number hash).Sound keccak params where
  state := ⟨deployment.fee_bounded.2, Nat.zero_le _, Nat.mod_le _ _,
    Nat.succ_le_of_lt (by norm_num [Checked.limit]), nofun⟩
  counted := nofun
  created := nofun

end MinedBlock

structure MinedChain.Sound (keccak : Keccak) (params : BridgeParameters)
    (chain : FinalChain MinedBlock) : Prop where
  blocks : ∀ block ∈ chain.blocks, block.Sound keccak params
  ordered : chain.blocks.Pairwise MinedBlock.Precedes
  unique : ∀ a ∈ chain.blocks, ∀ b ∈ chain.blocks, ∀ first ∈ a.transactions,
    ∀ second ∈ b.transactions, first.hash = second.hash → a = b ∧ first = second

structure MinedChain.Extends (keccak : Keccak) (params : BridgeParameters)
    (chain : FinalChain MinedBlock) (block : MinedBlock) : Prop where
  follows : ∃ parent, chain.blocks.getLast? = some parent ∧ parent.Follows keccak params block
  distinct : (block.transactions.map (·.hash)).Nodup
  fresh : ∀ earlier ∈ chain.blocks, ∀ old ∈ earlier.transactions, ∀ new ∈ block.transactions,
    old.hash ≠ new.hash

namespace MinedChain

variable {chain : FinalChain MinedBlock} {block : MinedBlock}

theorem Sound.mine (sound : Sound keccak params chain)
    (extension : Extends keccak params chain block) : Sound keccak params (chain.mine block) := by
  obtain ⟨parent, tip, follows⟩ := extension.follows
  have present := List.mem_of_getLast? tip
  obtain ⟨blockSound, after⟩ := follows.sound (sound.blocks parent present)
  have blocks : ∀ other ∈ (chain.mine block).blocks, other ∈ chain.blocks ∨ other = block := by
    simp [FinalChain.mine]
  refine ⟨?_, ?_, ?_⟩
  · intro other listed
    rcases blocks other listed with old | rfl
    · exact sound.blocks other old
    · exact blockSound
  · exact (FinalChain.Step.mined tip after).ordered sound.ordered
      (fun _ _ _ first second => first.trans second) fun _ _ linked => linked
  · intro a first b second one other two another same
    rcases blocks a first with oldA | rfl <;> rcases blocks b second with oldB | rfl
    · exact sound.unique a oldA b oldB one other two another same
    · exact absurd same (extension.fresh a oldA one other two another)
    · exact absurd same.symm (extension.fresh b oldB two another one other)
    · exact ⟨rfl, List.inj_on_of_nodup_map extension.distinct other another same⟩

theorem Sound.sublist {shorter : FinalChain MinedBlock} (sound : Sound keccak params chain)
    (sub : shorter.blocks.Sublist chain.blocks) : Sound keccak params shorter :=
  ⟨fun block listed => sound.blocks block (sub.subset listed), sound.ordered.sublist sub,
    fun a first b second => sound.unique a (sub.subset first) b (sub.subset second)⟩

theorem Sound.start (sound : block.Sound keccak params) (empty : block.transactions = []) :
    Sound keccak params (.start block) := by
  refine ⟨?_, List.pairwise_singleton _ _, ?_⟩
  · intro other listed
    cases List.mem_singleton.mp listed
    exact sound
  · intro a first _ _ one other
    cases List.mem_singleton.mp first
    rw [empty] at other
    cases other

theorem Sound.keeps (sound : Sound keccak params chain) (first : a ∈ chain.blocks)
    (second : b ∈ chain.blocks) (older : a.number ≤ b.number) : a.state.Keeps b.state := by
  rcases FinalChain.compare_blocks sound.ordered first second with rfl | before | after
  · exact fun _ _ found => found
  · exact before.kept
  · exact absurd after.number (Nat.not_lt.mpr older)

theorem Sound.number_inj (sound : Sound keccak params chain) (first : a ∈ chain.blocks)
    (second : b ∈ chain.blocks) (same : a.number = b.number) : a = b := by
  rcases FinalChain.compare_blocks sound.ordered first second with equal | before | after
  · exact equal
  · exact absurd before.number (Nat.not_lt.mpr same.ge)
  · exact absurd after.number (Nat.not_lt.mpr same.le)

end MinedChain

end KinicBridge
