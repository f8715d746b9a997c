import KinicBridge.Base.Chain
import KinicBridge.CrossChain.Endpoints
import KinicBridge.Settlement.DepositChanges

/-! The canister next to Base. Blocks are produced, dropped and finalized while the canister
runs its endpoints and settlement jobs; a read of Base reports one final block, however
old, and may never come back. -/
namespace KinicBridge

def SettlementStore.Publishes (store : SettlementStore) (authorization : MintAuthorization) : Prop :=
  ∃ id deposit record, store.deposits.get id = some deposit ∧
    deposit.signedAuthorization = some record ∧ record.authorization = authorization

def StoreChange.startsRefund : StoreChange → Bool
  | .deposit _ (.startRefund ..) => true
  | _ => false

structure RecoveryObservation.Truthful (observation : RecoveryObservation)
    (chain : FinalChain BaseBlock) (id : Bytes32) (block : BaseBlock) : Prop where
  final : chain.Final block
  timestamp : observation.blockTimestamp = block.timestamp
  processed : observation.depositProcessed = block.processed id
  signer : observation.bridgeSigner = block.state.bridgeSigner
  epoch : observation.mintAuthorizationEpoch = block.state.mintAuthorizationEpoch

/-- Both sides. `published` keeps every authorization that was ever stored with its
signature: from then on anyone may submit it. -/
structure CrossWorld where
  now : Nat
  chain : FinalChain BaseBlock
  store : SettlementStore
  queries : List BaseQuery
  published : MintAuthorization → Prop

namespace CrossWorld

variable (world : CrossWorld)

structure Initial (world : CrossWorld) : Prop where
  deployed : ∃ timestamp signer administrator fee,
    world.chain = .start ⟨timestamp, .deployed timestamp signer administrator fee⟩
  store : world.store = .empty
  queries : world.queries = []
  published : ∀ authorization, ¬world.published authorization

def withStore (store : SettlementStore) : CrossWorld :=
  { world with
    store
    published := fun authorization =>
      world.published authorization ∨ store.Publishes authorization }

def ask (query : Option BaseQuery) : CrossWorld :=
  { world with queries := query.toList ++ world.queries }

def answered (query : BaseQuery) : CrossWorld :=
  { world with queries := world.queries.erase query }

/-- Everything that may happen next. Refunds start through the refund endpoint only; every
other transaction of the settlement jobs is one change of the store. -/
inductive Step (params : BridgeParameters) (config : BridgeConfig) (world : CrossWorld) :
    CrossWorld → Prop where
  | tick (later : world.now ≤ time) : Step params config world { world with now := time }
  | base {chain : FinalChain BaseBlock}
      (next : world.chain.Step (BaseBlock.Produces params world.published) chain) :
      Step params config world { world with chain }
  | settled (change : world.store.Change label written) (other : label.startsRefund = false) :
      Step params config world (world.withStore written)
  | kept (same : written.deposits = world.store.deposits) :
      Step params config world (world.withStore written)
  | refundRequested {id : Bytes32}
      (done : config.requestDepositRefund world.now world.store id = .ok (written, query)) :
      Step params config world ((world.withStore written).ask query)
  | refundSnapshot {id : Bytes32} (waiting : .refundSnapshot id deadline ∈ world.queries)
      (final : world.chain.Final block)
      (done : config.refundOnSnapshot world.now world.store id deadline block.timestamp =
        (written, result)) :
      Step params config world
        ((world.withStore written).answered (.refundSnapshot id deadline))
  | refundRecovery {id : Bytes32} (waiting : .refundRecovery id record ∈ world.queries)
      (truthful : observation.Truthful world.chain id block)
      (done : config.refundOnRecovery world.now world.store id record observation =
        (written, result)) :
      Step params config world
        (((world.withStore written).answered (.refundRecovery id record)).ask
          (result.toOption.bind fun query => query))
  | refundMinted {id : Bytes32} (waiting : .refundMintEvidence id ∈ world.queries)
      (done : world.store.refundOnMintEvidence id evidence = .ok written) :
      Step params config world ((world.withStore written).answered (.refundMintEvidence id))
  | notifyRequested {id : Bytes32}
      (done : world.store.notifyDepositMint id transactionHash = .ok query) :
      Step params config world (world.ask query)
  | notifyRecovery {id : Bytes32} (waiting : .notifyRecovery id record ∈ world.queries)
      (truthful : observation.Truthful world.chain id block)
      (done : SettlementStore.notifyOnRecovery id record observation = .ok query) :
      Step params config world ((world.answered (.notifyRecovery id record)).ask (some query))
  | notifyReceipt {id : Bytes32} (waiting : .notifyReceipt id record ∈ world.queries)
      (done : world.store.notifyOnReceipt id record evidence = .ok written) :
      Step params config world ((world.withStore written).answered (.notifyReceipt id record))
  | lost (query : BaseQuery) : Step params config world (world.answered query)

inductive Leads (params : BridgeParameters) (config : BridgeConfig) (world : CrossWorld) :
    CrossWorld → Prop where
  | stay : Leads params config world world
  | step (before : Leads params config world middle)
      (next : Step params config middle last) : Leads params config world last

def Reaches (params : BridgeParameters) (config : BridgeConfig) (world : CrossWorld) : Prop :=
  ∃ start : CrossWorld, start.Initial ∧ start.Leads params config world

def RefundStarted (id : Bytes32) : Prop :=
  ∃ deposit, world.store.deposits.get id = some deposit ∧ deposit.refundStarted = true

end CrossWorld

end KinicBridge
