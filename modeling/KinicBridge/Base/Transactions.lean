import KinicBridge.Base.Encoding

/-! Whole transactions on Base. A transaction may call the contract any number of times, among
calls of other contracts; a transient flag lets one withdrawal through, and the receipt shows its
log among any others. -/
namespace KinicBridge

open BridgeState Checked

structure StoredWithdrawal.WellFormed (withdrawal : StoredWithdrawal) : Prop where
  amount : withdrawal.amount ≤ limit 128
  maximum : withdrawal.maxServiceFee ≤ limit 128
  bounded : withdrawal.chargedServiceFee ≤ withdrawal.maxServiceFee
  paid : withdrawal.chargedServiceFee < withdrawal.amount
  owner : invalidPrincipal withdrawal.owner = false

namespace StoredWithdrawal.WellFormed

variable {withdrawal : StoredWithdrawal} (formed : withdrawal.WellFormed)

include formed

theorem owner_length : 1 ≤ withdrawal.owner.length ∧ withdrawal.owner.length ≤ 29 := by
  have checked := formed.owner
  simp only [invalidPrincipal, Bool.or_eq_false_iff, decide_eq_false_iff_not] at checked
  omega

theorem charged : withdrawal.chargedServiceFee ≤ limit 128 :=
  formed.bounded.trans formed.maximum

theorem amountOut : withdrawal.amountOut ≤ limit 128 :=
  (Nat.sub_le _ _).trans formed.amount

end StoredWithdrawal.WellFormed

namespace BridgeState

structure Sound (params : BridgeParameters) (timestamp : Nat) (state : BridgeState) : Prop where
  fee : state.serviceFee ≤ params.maxServiceFee
  consumed : state.mintedInWindow ≤ params.mintWindowLimit
  started : state.mintWindowStartedAt ≤ timestamp
  counted : state.nextWithdrawalId ≤ limit 256
  withdrawals : ∀ id withdrawal, state.withdrawals id = some withdrawal →
    id < state.nextWithdrawalId ∧ withdrawal.WellFormed

variable {params : BridgeParameters} {timestamp : Nat} {state next : BridgeState}

theorem Sound.later (sound : state.Sound params earlier) (later : earlier ≤ timestamp) :
    state.Sound params timestamp :=
  { sound with started := sound.started.trans later }

theorem createWithdrawal_counted
    (executed : state.createWithdrawal params sender amount maxServiceFee owner subaccount =
      .ok next) : next.nextWithdrawalId ≤ limit 256 := by
  obtain ⟨_, -, executed⟩ := bind_ok.mp executed
  obtain ⟨id, counted, executed⟩ := found_ok.mp executed
  obtain ⟨rfl, bounded⟩ := add_eq_some.mp counted
  obtain ⟨_, _, executed⟩ := bind_ok.mp executed
  obtain ⟨_, _, rfl⟩ := returned_ok.mp executed
  exact bounded

theorem AcceptedWithdrawal.wellFormed
    (accepted : state.AcceptedWithdrawal amount maxServiceFee owner)
    (sender : Bytes20) (subaccount : Bytes32) : StoredWithdrawal.WellFormed
      ⟨sender, amount, maxServiceFee, state.serviceFee, owner, subaccount⟩ :=
  ⟨accepted.amount_fits, accepted.maximum_fits, accepted.fee_bounded, accepted.fee_paid,
    accepted.principal⟩

theorem execute_counted (executed : state.execute params timestamp call = .ok next)
    (counted : state.nextWithdrawalId ≤ limit 256) : next.nextWithdrawalId ≤ limit 256 := by
  cases call with
  | createWithdrawal => exact createWithdrawal_counted executed
  | _ =>
    cases execute_performs executed <;> exact counted

theorem Sound.execute (sound : state.Sound params timestamp)
    (executed : state.execute params timestamp call = .ok next) : next.Sound params timestamp := by
  have counted := execute_counted executed sound.counted
  cases execute_performs executed with
  | minted accepted credited =>
    refine ⟨sound.fee, accepted.within, ?_, counted, sound.withdrawals⟩
    rcases accepted.window with ⟨_, started, _⟩ | ⟨_, started, _⟩
    · exact Nat.le_of_eq started
    · rw [started]
      exact sound.started
  | withdrew accepted =>
    refine ⟨sound.fee, sound.consumed, sound.started, counted, ?_⟩
    intro id withdrawal found
    by_cases new : id = state.nextWithdrawalId
    · subst new
      simp only [Function.update_self, Option.some.injEq] at found
      subst found
      exact ⟨Nat.lt_succ_self _, accepted.wellFormed _ _⟩
    · simp only [Function.update_of_ne new] at found
      obtain ⟨older, formed⟩ := sound.withdrawals id withdrawal found
      exact ⟨Nat.lt_succ_of_lt older, formed⟩
  | administered _ _ fee =>
    refine ⟨?_, sound.consumed, sound.started, counted, sound.withdrawals⟩
    rcases fee with same | bounded
    · rw [same]
      exact sound.fee
    · exact bounded
  | _ => exact ⟨sound.fee, sound.consumed, sound.started, counted, sound.withdrawals⟩

end BridgeState

inductive TransactionError
  | bridge (error : BridgeError)
  | multipleWithdrawalsInTransaction
  deriving DecidableEq

def liftBridge (result : Except BridgeError α) : Except TransactionError α :=
  result.mapError .bridge

theorem liftBridge_ok {result : Except BridgeError α} :
    liftBridge result = .ok a ↔ result = .ok a := mapError_ok

structure TransactionState where
  bridge : BridgeState
  claimed : Bool
  logs : List ContractLog

/-- A call that reaches the contract, or a log of another contract or of another event. -/
inductive TransactionStep
  | call (call : BridgeCall)
  | log (log : ContractLog)
  deriving DecidableEq

structure BaseTransaction where
  hash : Bytes32
  steps : List TransactionStep
  reverted : Bool
  deriving DecidableEq

section Execution

variable (keccak : Keccak) (params : BridgeParameters) (timestamp : Nat)

def ContractLog.committed (bridge : Bytes20) (log : ContractLog) : Bool :=
  log.address = bridge && log.topics.head? = some (keccak withdrawalCommittedEvent)

namespace TransactionState

def start (bridge : BridgeState) : TransactionState := ⟨bridge, false, []⟩

variable (state : TransactionState)

def createWithdrawal (sender : Bytes20) (amount maxServiceFee : Nat)
    (owner : List UInt8) (subaccount : Bytes32) : Except TransactionError TransactionState := do
  liftBridge (state.bridge.checkWithdrawal amount maxServiceFee owner)
  if state.claimed then throw .multipleWithdrawalsInTransaction
  let bridge ← liftBridge
    (state.bridge.commitWithdrawal params sender amount maxServiceFee owner subaccount)
  let withdrawal : StoredWithdrawal :=
    ⟨sender, amount, maxServiceFee, state.bridge.serviceFee, owner, subaccount⟩
  return { bridge
           claimed := true
           logs := state.logs ++
             [withdrawal.committedLog keccak params.bridge state.bridge.nextWithdrawalId] }

/-- Nobody else can write the contract's own event. -/
def execute : TransactionStep → Except TransactionError TransactionState
  | .call (.createWithdrawal sender amount maxServiceFee owner subaccount) =>
    state.createWithdrawal keccak params sender amount maxServiceFee owner subaccount
  | .call call =>
    (liftBridge (state.bridge.execute params timestamp call)).map ({ state with bridge := · })
  | .log log =>
    .ok (if log.committed keccak params.bridge then state
      else { state with logs := state.logs ++ [log] })

/-- A call that reverts inside a transaction changes nothing, the claim included. -/
def step (state : TransactionState) (step : TransactionStep) : TransactionState :=
  match state.execute keccak params timestamp step with
  | .ok next => next
  | .error _ => state

def run (steps : List TransactionStep) : TransactionState :=
  steps.foldl (step keccak params timestamp) state

end TransactionState

namespace BaseTransaction

variable (transaction : BaseTransaction) (before : BridgeState)

def run : TransactionState :=
  if transaction.reverted then .start before
  else (TransactionState.start before).run keccak params timestamp transaction.steps

def Creates (id : Nat) (withdrawal : StoredWithdrawal) : Prop :=
  transaction.reverted = false ∧ ∃ earlier later state next,
    transaction.steps = earlier ++ .call (.createWithdrawal withdrawal.requester withdrawal.amount
      withdrawal.maxServiceFee withdrawal.owner withdrawal.subaccount) :: later ∧
    state = (TransactionState.start before).run keccak params timestamp earlier ∧
    state.createWithdrawal keccak params withdrawal.requester withdrawal.amount
      withdrawal.maxServiceFee withdrawal.owner withdrawal.subaccount = .ok next ∧
    id = state.bridge.nextWithdrawalId ∧
    withdrawal.chargedServiceFee = state.bridge.serviceFee

end BaseTransaction

end Execution

section Once

variable {keccak : Keccak} {params : BridgeParameters} {timestamp : Nat}
  {before : BridgeState} {state next : TransactionState} {created : Option StoredWithdrawal}

structure Leaves (keccak : Keccak) (params : BridgeParameters) (before : BridgeState)
    (state : TransactionState) (created : Option StoredWithdrawal) : Prop where
  claimed : state.claimed = created.isSome
  logs : state.logs.filter (·.committed keccak params.bridge) =
    (created.map (·.committedLog keccak params.bridge before.nextWithdrawalId)).toList
  counted : state.bridge.nextWithdrawalId = before.nextWithdrawalId + created.toList.length
  withdrawals : state.bridge.withdrawals = created.elim before.withdrawals fun withdrawal =>
    Function.update before.withdrawals before.nextWithdrawalId (some withdrawal)

theorem Leaves.start : Leaves keccak params before (.start before) none :=
  ⟨rfl, rfl, rfl, rfl⟩

theorem committedLog_committed (withdrawal : StoredWithdrawal) (bridge : Bytes20) (id : Nat) :
    (withdrawal.committedLog keccak bridge id).committed keccak bridge = true := by
  simp [ContractLog.committed, StoredWithdrawal.committedLog]

theorem createWithdrawal_ok
    (accepted : state.createWithdrawal keccak params sender amount maxServiceFee owner
      subaccount = .ok next) : state.claimed = false ∧ ∃ bridge,
      state.bridge.createWithdrawal params sender amount maxServiceFee owner subaccount =
        .ok bridge ∧
      next = ⟨bridge, true, state.logs ++ [StoredWithdrawal.committedLog keccak params.bridge
        state.bridge.nextWithdrawalId
        ⟨sender, amount, maxServiceFee, state.bridge.serviceFee, owner, subaccount⟩]⟩ := by
  obtain ⟨_, checked, accepted⟩ := bind_ok.mp accepted
  obtain ⟨unclaimed, accepted⟩ := thrown_ok.mp accepted
  obtain ⟨bridge, executed, accepted⟩ := bind_ok.mp accepted
  exact ⟨Bool.of_not_eq_true unclaimed, bridge,
    bind_ok.mpr ⟨_, liftBridge_ok.mp checked, liftBridge_ok.mp executed⟩,
    (pure_ok.mp accepted).symm⟩

theorem Leaves.createWithdrawal (leaves : Leaves keccak params before state created)
    (accepted : state.createWithdrawal keccak params sender amount maxServiceFee owner
      subaccount = .ok next) :
    created = none ∧ state.bridge.nextWithdrawalId = before.nextWithdrawalId ∧
      Leaves keccak params before next
        (some ⟨sender, amount, maxServiceFee, state.bridge.serviceFee, owner, subaccount⟩) := by
  obtain ⟨unclaimed, bridge, executed, rfl⟩ := createWithdrawal_ok accepted
  obtain rfl : created = none := by
    rw [leaves.claimed] at unclaimed
    simpa using unclaimed
  have same : state.bridge.nextWithdrawalId = before.nextWithdrawalId := leaves.counted
  have performs : Performs params 0 state.bridge _ bridge :=
    createWithdrawal_performs executed
  refine ⟨rfl, same, rfl, ?_, ?_, ?_⟩
  · rw [List.filter_append, leaves.logs, same]
    simp [committedLog_committed]
  · cases performs with
    | withdrew => simp [same]
    | administered administers => cases administers
  · cases performs with
    | withdrew => simp [same, leaves.withdrawals]
    | administered administers => cases administers

theorem performs_keeps_withdrawals {state next : BridgeState}
    (performs : Performs params timestamp state call next)
    (other : ∀ sender amount maxServiceFee owner subaccount,
      call ≠ .createWithdrawal sender amount maxServiceFee owner subaccount) :
    next.nextWithdrawalId = state.nextWithdrawalId ∧ next.withdrawals = state.withdrawals := by
  cases performs with
  | withdrew => exact absurd rfl (other _ _ _ _ _)
  | _ => exact ⟨rfl, rfl⟩

section

variable (leaves : Leaves keccak params before state created)

include leaves

theorem Leaves.execute (executed : state.execute keccak params timestamp step = .ok next) :
    Leaves keccak params before next created ∨
      created = none ∧ ∃ withdrawal, Leaves keccak params before next (some withdrawal) := by
  unfold TransactionState.execute at executed
  split at executed
  · obtain ⟨none, _, leaves⟩ := leaves.createWithdrawal executed
    exact .inr ⟨none, _, leaves⟩
  next call other =>
    obtain ⟨bridge, performed, rfl⟩ := map_ok.mp executed
    obtain ⟨counted, kept⟩ := performs_keeps_withdrawals
      (execute_performs (liftBridge_ok.mp performed)) other
    exact .inl ⟨leaves.claimed, leaves.logs, counted.trans leaves.counted,
      kept.trans leaves.withdrawals⟩
  · cases executed
    left
    split
    · exact leaves
    next log foreign =>
      refine { leaves with logs := ?_ }
      simp [List.filter_append, leaves.logs, foreign]

theorem Leaves.step (timestamp : Nat) (step : TransactionStep) :
    Leaves keccak params before (state.step keccak params timestamp step) created ∨
      created = none ∧ ∃ withdrawal, Leaves keccak params before
        (state.step keccak params timestamp step) (some withdrawal) := by
  unfold TransactionState.step
  split
  · exact leaves.execute ‹_›
  · exact .inl leaves

theorem Leaves.run (timestamp : Nat) (steps : List TransactionStep) :
    ∃ created', Leaves keccak params before (state.run keccak params timestamp steps)
      created' ∧ (created.isSome → created' = created) := by
  induction steps generalizing state created with
  | nil => exact ⟨created, leaves, fun _ => rfl⟩
  | cons step steps ih =>
    rcases leaves.step timestamp step with kept | ⟨rfl, withdrawal, new⟩
    · exact ih kept
    · obtain ⟨created', rest, _⟩ := ih new
      exact ⟨created', rest, nofun⟩

end

namespace BaseTransaction

theorem leaves (transaction : BaseTransaction) (before : BridgeState) :
    ∃ created, Leaves keccak params before
      (transaction.run keccak params timestamp before) created := by
  unfold run
  split
  · exact ⟨none, .start⟩
  · obtain ⟨created, leaves, _⟩ := Leaves.start.run timestamp transaction.steps
    exact ⟨created, leaves⟩

theorem Creates.leaves {transaction : BaseTransaction} {id : Nat}
    (creates : transaction.Creates keccak params timestamp before id withdrawal) :
    id = before.nextWithdrawalId ∧ Leaves keccak params before
      (transaction.run keccak params timestamp before) (some withdrawal) := by
  obtain ⟨succeeded, earlier, later, state, next, steps, rfl, accepted, rfl, charged⟩ := creates
  have started : Leaves keccak params before (.start before) none := .start
  obtain ⟨_, reached, _⟩ := started.run timestamp earlier
  obtain ⟨_, same, created⟩ := reached.createWithdrawal accepted
  rw [← charged] at created
  obtain ⟨_, leaves, only⟩ := created.run timestamp later
  rw [only rfl] at leaves
  have stepped : ((TransactionState.start before).run keccak params timestamp earlier).step
      keccak params timestamp (.call (.createWithdrawal withdrawal.requester withdrawal.amount
        withdrawal.maxServiceFee withdrawal.owner withdrawal.subaccount)) = next := by
    simp only [TransactionState.step, TransactionState.execute, accepted]
  rw [← stepped] at leaves
  refine ⟨same, ?_⟩
  simpa [run, succeeded, steps, TransactionState.run] using leaves

end BaseTransaction

end Once

end KinicBridge
