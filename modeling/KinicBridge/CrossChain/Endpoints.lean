import KinicBridge.Core.DepositMoves
import KinicBridge.Settlement.Payout

/-! `request_deposit_refund` and `notify_deposit_mint`, cut at their calls; what comes back is
applied to the store as it then is. Quotas, cooldowns and cycle budgets only refuse requests and are
left out. -/
namespace KinicBridge

open Checked

inductive RefundError where
  | notFound
  | notClaimable
  | storageFailure
  | baseStateMismatch
  deriving DecidableEq

inductive NotifyError where
  | invalidTransactionHash
  | notFound
  | notAdmissible
  | identityConflict
  | transactionNotConfirmed
  deriving DecidableEq

structure RecoveryObservation where
  depositProcessed : Bool
  blockNumber : Nat
  blockHash : Bytes32
  blockTimestamp : Nat
  bridgeSigner : Bytes20
  mintAuthorizationEpoch : Nat
  runtimeSha256 : Bytes32
  requestDigest : Bytes32
  quorumResponseDigest : Bytes32
  deriving DecidableEq

inductive BaseQuery where
  | refundSnapshot (id : Bytes32) (deadline : Nat)
  | refundRecovery (id : Bytes32) (record : MintAuthorizationRecord)
  | refundMintEvidence (id : Bytes32)
  | notifyRecovery (id : Bytes32) (record : MintAuthorizationRecord)
  | notifyReceipt (id : Bytes32) (record : MintAuthorizationRecord)
  deriving DecidableEq

def DepositState.refundReason : DepositState → Option DepositRefundReason
  | .refundAvailable reason _ => some reason
  | _ => none

namespace BridgeConfig

variable (config : BridgeConfig) (now : Nat) (store : SettlementStore)

def claimOffered (id : Bytes32) (deposit : DepositRecord) :
    Except RefundError (SettlementStore × Option BaseQuery) :=
  match deposit.signedAuthorization with
  | some record => return (store, some (.refundRecovery id record))
  | none => do
    let reason ← okOr .storageFailure deposit.state.refundReason
    let started ← orError .storageFailure
      (config.prepareDepositRefund now store id reason none)
    return (started, none)

def requestDepositRefund (id : Bytes32) :
    Except RefundError (SettlementStore × Option BaseQuery) := do
  let deposit ← okOr .notFound (store.deposits.get id)
  match deposit.state with
  | .authorizationPending _ =>
    let record ← okOr .storageFailure deposit.mintAuthorization
    return (store, some (.refundSnapshot id record.authorization.deadline))
  | .authorizationAvailable _ | .refundAvailable .. => config.claimOffered now store id deposit
  | .refundPending .. | .refundReconciliationHold .. => return (store, none)
  | _ => throw .notClaimable

def markExpired (id : Bytes32) (waitsAt timestamp : Nat) : Except RefundError SettlementStore := do
  let deposit ← okOr .notFound (store.deposits.get id)
  if deposit.state.code = waitsAt then
    orError .storageFailure
      (store.applyDeposit id (.markRefundAvailable .authorizationExpired (some timestamp)))
  else return store

/-- The store after the offer, and after the refund if it could be prepared: a refused
preparation does not take the offer back. -/
def offerAndStart (id : Bytes32) (waitsAt timestamp : Nat)
    (expiryEvidence : Option MintExpiryEvidence) : SettlementStore × Except RefundError Unit :=
  match markExpired store id waitsAt timestamp with
  | .error error => (store, .error error)
  | .ok marked =>
    match config.prepareDepositRefund now marked id .authorizationExpired expiryEvidence with
    | .error _ => (marked, .error .storageFailure)
    | .ok started => (started, .ok ())

def refundOnSnapshot (id : Bytes32) (deadline blockTimestamp : Nat) :
    SettlementStore × Except RefundError Unit :=
  if blockTimestamp ≤ deadline then (store, .error .notClaimable)
  else config.offerAndStart now store id 2 blockTimestamp none

def expiryEvidence (record : MintAuthorizationRecord) (observation : RecoveryObservation) :
    MintExpiryEvidence where
  depositId := record.authorization.depositId
  authorizationDigest := record.digest
  chainId := config.baseChainId
  verifyingContract := record.domain.verifyingContract
  depositProcessed := false
  finalizedBlockNumber := observation.blockNumber
  finalizedBlockHash := observation.blockHash
  finalizedBlockTimestamp := observation.blockTimestamp
  bridgeSigner := observation.bridgeSigner
  mintAuthorizationEpoch := observation.mintAuthorizationEpoch
  runtimeSha256 := observation.runtimeSha256
  rpcRequestDigest := observation.requestDigest
  rpcResponseDigest := observation.quorumResponseDigest

/-- The recovery observation of a signed deposit arrives: refund it if Base has not
processed it, or ask for the evidence of its mint. -/
def refundOnRecovery (id : Bytes32) (record : MintAuthorizationRecord)
    (observation : RecoveryObservation) : SettlementStore × Except RefundError (Option BaseQuery) :=
  if observation.blockTimestamp ≤ record.authorization.deadline then
    (store, .error .notClaimable)
  else if observation.depositProcessed then
    match markExpired store id 3 observation.blockTimestamp with
    | .error error => (store, .error error)
    | .ok marked => (marked, .ok (some (.refundMintEvidence id)))
  else
    let (written, result) := config.offerAndStart now store id 3 observation.blockTimestamp
      (some (config.expiryEvidence record observation))
    (written, result.map fun _ => none)

end BridgeConfig

namespace SettlementStore

variable (store : SettlementStore)

def refundOnMintEvidence (id : Bytes32)
    (evidence : MintFinalizationEvidence) : Except RefundError SettlementStore :=
  orError .baseStateMismatch (store.applyDeposit id (.mintReconciled evidence))

def notifyDepositMint (id transactionHash : Bytes32) : Except NotifyError (Option BaseQuery) := do
  if transactionHash = 0 then throw .invalidTransactionHash
  let deposit ← okOr .notFound (store.deposits.get id)
  match deposit.mintFinalizationEvidence with
  | some evidence =>
    if evidence.transactionHash ≠ transactionHash then throw .identityConflict
    return none
  | none =>
    if ¬(deposit.state.code = 3 ∨ deposit.state.code = 4) then throw .notAdmissible
    let record ← okOr .notAdmissible deposit.signedAuthorization
    return some (.notifyRecovery id record)

def notifyOnRecovery (id : Bytes32) (record : MintAuthorizationRecord)
    (observation : RecoveryObservation) : Except NotifyError BaseQuery :=
  if ¬observation.depositProcessed then .error .transactionNotConfirmed
  else .ok (.notifyReceipt id record)

def notifyOnReceipt (id : Bytes32) (record : MintAuthorizationRecord)
    (evidence : MintFinalizationEvidence) : Except NotifyError SettlementStore := do
  let deposit ← okOr .notFound (store.deposits.get id)
  if deposit.mintAuthorization ≠ some record then throw .identityConflict
  orError .identityConflict (store.applyDeposit id (.mintReconciled evidence))

end SettlementStore

end KinicBridge
