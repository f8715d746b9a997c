import KinicBridge.Base.Blocks
import KinicBridge.Rpc.RoundTrips
import KinicBridge.Withdrawals.Notification

/-! Notifications next to Base. Blocks are mined, dropped and finalized, and any number of
notifications are in flight. What the canister is told is either anything at all, or what a
finalized block really shows. -/
namespace KinicBridge

variable {RpcService : Type} [DecidableEq RpcService]

structure WithdrawalWorld where
  chain : FinalChain MinedBlock
  store : NotificationStore
  flows : List NotificationFlow

/-- The changes of records that exist; a release starts through `continueWithdrawal`. -/
def StoreChange.settles : StoreChange → Bool
  | .withdrawalObserved _ | .withdrawal _ (.startRelease ..) => false
  | _ => true

namespace WithdrawalWorld

/-- Everything that may happen next. The replies about Base are those that `trusts` allows. -/
inductive Step (config : NotificationConfig) (params : BridgeParameters)
    (trusts : WithdrawalWorld → Bytes32 → WithdrawalAnswers RpcService → Prop)
    (world : WithdrawalWorld) : WithdrawalWorld → Prop where
  | mined (extension : MinedChain.Extends config.keccak params world.chain block) :
      Step config params trusts world { world with chain := world.chain.mine block }
  | reorganized (kept : world.chain.finalized ≤ n) :
      Step config params trusts world { world with chain := world.chain.rewind n kept }
  | finalized (grown : world.chain.finalized ≤ n) (bounded : n ≤ world.chain.blocks.length) :
      Step config params trusts world
        { world with chain := ⟨world.chain.blocks, n, bounded⟩ }
  | called {hash : Bytes32}
      (waits : config.notifyWithdrawal world.store caller hash = .waiting flow) :
      Step config params trusts world { world with flows := flow :: world.flows }
  | answered {hash : Bytes32} (waits : .observing hash attested ∈ world.flows)
      (trusted : trusts world hash answers)
      (continues : config.outcomeArrived hash
        (config.notifiedWithdrawalOutcome hash attested answers) = .waiting flow) :
      Step config params trusts world
        { world with flows := flow :: world.flows.erase (.observing hash attested) }
  | addressed {hash : Bytes32} (now : Nat)
      (waits : .addressing hash withdrawal snapshot stable checkpoint ∈ world.flows) :
      Step config params trusts world
        { world with
          store := (config.addressed now world.store hash withdrawal snapshot stable checkpoint).1
          flows := world.flows.erase (.addressing hash withdrawal snapshot stable checkpoint) }
  | dropped (flow : NotificationFlow) :
      Step config params trusts world { world with flows := world.flows.erase flow }
  | recorded {hash : Bytes32} (trusted : trusts world hash answers)
      (observed : config.observeBridgeAt attested answers = .ok (snapshot, identity))
      (accepted : world.store.progress.observeFinalized
        (config.stableObservation answers.finalized identity) = .ok progress) :
      Step config params trusts world { world with store := { world.store with progress } }
  | continued {written : NotificationStore} (id : Bytes32) (now : Nat)
      (done : config.continueWithdrawal now world.store id = .ok written) :
      Step config params trusts world { world with store := written }
  | settled (change : world.store.settlement.Change label settlement)
      (settles : label.settles = true) :
      Step config params trusts world { world with store := { world.store with settlement } }
  | audited (events : Nat) :
      Step config params trusts world { world with
        store := { world.store with
          nextAuditSequence := world.store.nextAuditSequence + events } }

structure Initial (params : BridgeParameters) (world : WithdrawalWorld) : Prop where
  chain : ∃ (deployment : BridgeDeployment params) (number : Nat) (hash : Bytes32),
    world.chain = .start (.deployed deployment number hash)
  store : world.store = ⟨.empty, fun _ => none, ⟨0, 0, none⟩, none, 0⟩
  flows : world.flows = []

inductive Reaches (config : NotificationConfig) (params : BridgeParameters)
    (trusts : WithdrawalWorld → Bytes32 → WithdrawalAnswers RpcService → Prop) :
    WithdrawalWorld → Prop where
  | start (initial : Initial params world) : Reaches config params trusts world
  | step (reached : Reaches config params trusts world)
      (next : Step config params trusts world world') :
      Reaches config params trusts world'

end WithdrawalWorld

/-! What the answers about Base show when they are true. -/

structure LogEntry.Shows (hash blockHash : Bytes32) (log : ContractLog) (entry : LogEntry) :
    Prop where
  address : entry.address = log.address
  topics : entry.topics = log.topics
  data : entry.data = log.data
  transaction : entry.transactionHash = some hash
  block : entry.blockHash = some blockHash
  kept : entry.removed = false

structure MinedTransaction.Receipt (keccak : Keccak) (params : BridgeParameters)
    (block : MinedBlock) (mined : MinedTransaction) (receipt : TransactionReceipt) : Prop where
  hash : receipt.transactionHash = mined.hash
  blockHash : receipt.blockHash = block.hash
  number : receipt.blockNumber = block.number
  status : receipt.status = some (if mined.reverted then 0 else 1)
  logs : List.Forall₂ (LogEntry.Shows mined.hash block.hash)
    (mined.after keccak params block.timestamp).logs receipt.logs

/-- The transaction with the hash, in a finalized block no later than `head`. -/
structure Includes (chain : FinalChain MinedBlock) (head : MinedBlock) (hash : Bytes32)
    (block : MinedBlock) (mined : MinedTransaction) : Prop where
  final : chain.Final block
  older : block.number ≤ head.number
  listed : mined ∈ block.transactions
  hash : mined.hash = hash

structure HonestAt (config : NotificationConfig) (params : BridgeParameters)
    (runtime : List UInt8) (chain : FinalChain MinedBlock) (head : MinedBlock) (hash : Bytes32)
    (answers : WithdrawalAnswers RpcService) : Prop where
  final : chain.Final head
  observed : answers.finalized.blockNumber = head.number ∧ answers.finalized.blockHash = head.hash
  fits : head.number ≤ Checked.limit 64
  found : ∀ block mined, Includes chain head hash block mined →
    ∃ receipt, answers.receipt = some receipt ∧ mined.Receipt config.keccak params block receipt
  true_ : ∀ receipt, answers.receipt = some receipt → receipt.blockNumber ≤ head.number →
    ∃ block mined, Includes chain head hash block mined ∧
      mined.Receipt config.keccak params block receipt
  probe : ∀ block, chain.Final block → ∀ now, ∃ quoted,
    canonicalProbeResponse (answers.probe ⟨block.number, block.hash, now⟩) = .ok
      (hexAnswer quoted (block.state.bridgeSnapshot params block.number block.timestamp))
  withdrawal : ∀ id, ∃ quoted,
    answers.withdrawal id = hexAnswer quoted (head.state.getWithdrawal id.toNat)
  snapshot : ∃ quoted, answers.snapshot =
    hexAnswer quoted (head.state.bridgeSnapshot params head.number head.timestamp)
  runtime : ∃ quoted, answers.runtime = hexAnswer quoted runtime

/-- A quorum that answers truthfully, at whatever finalized block it is asked. -/
def honestQuorum (RpcService : Type) [DecidableEq RpcService] (config : NotificationConfig)
    (params : BridgeParameters) (runtime : List UInt8) (world : WithdrawalWorld)
    (hash : Bytes32) (answers : WithdrawalAnswers RpcService) : Prop :=
  ∃ head, HonestAt config params runtime world.chain head hash answers

/-- The canister is installed for this contract and its code. -/
structure Configured (config : NotificationConfig) (params : BridgeParameters)
    (runtime : List UInt8) : Prop where
  bridge : config.bridgeContract = params.bridge
  code : runtime ≠ [] ∧ config.sha256 runtime = config.expectedBridgeRuntimeSha256

end KinicBridge
