import KinicBridge.CrossChain.Digest
import KinicBridge.Rpc.Receipts
import KinicBridge.Settlement.Payout

/-! Notifying the canister of a withdrawal. It reads the receipt, the stored withdrawal and the
bridge at a finalized block, and stores the withdrawal with its release, or without one behind the
fee guard. -/
namespace KinicBridge

open Checked

variable {RpcService : Type} [DecidableEq RpcService]

structure FinalizedObservationRecord where
  chainId : Nat
  blockNumber : Nat
  blockHash : Bytes32
  observedAtNs : Nat
  bridgeSigner : Bytes20
  runtimeSha256 : Bytes32
  deriving DecidableEq

structure ExternalProgress where
  lastFinalizedBaseBlock : Nat
  lastFinalizedObservationNs : Nat
  finalizedObservation : Option FinalizedObservationRecord
  deriving DecidableEq

namespace ExternalProgress

/-- Observations do not go back, and two of one block agree. -/
def checkCandidate (candidate : FinalizedObservationRecord) :
    Option FinalizedObservationRecord → Except CoreError Unit
  | none => .ok ()
  | some current =>
    if candidate.chainId ≠ current.chainId then .error .conflictingFinalizedObservation
    else if candidate.blockNumber < current.blockNumber then .error .staleFinalizedObservation
    else if candidate.blockNumber = current.blockNumber ∧
        (candidate.blockHash ≠ current.blockHash ∨ candidate.bridgeSigner ≠ current.bridgeSigner ∨
          candidate.runtimeSha256 ≠ current.runtimeSha256) then
      .error .conflictingFinalizedObservation
    else .ok ()

def observeFinalized (progress : ExternalProgress) (candidate : FinalizedObservationRecord) :
    Except CoreError ExternalProgress := do
  if candidate.blockNumber < progress.lastFinalizedBaseBlock then
    throw .staleFinalizedObservation
  checkCandidate candidate progress.finalizedObservation
  let observedAtNs := max progress.lastFinalizedObservationNs candidate.observedAtNs
  return ⟨candidate.blockNumber, observedAtNs, some { candidate with observedAtNs }⟩

end ExternalProgress

/-- What the canister knows when it is notified; `signer` is its own signing address. -/
structure NotificationConfig extends BridgeConfig where
  keccak : Keccak
  bridgeContract : Bytes20
  expectedBridgeRuntimeSha256 : Bytes32
  minimumWithdrawalId : Bytes32
  signer : Bytes20

structure WithdrawalAnswers (RpcService : Type) where
  finalized : FinalizedObservation
  receipt : Option TransactionReceipt
  probe : FinalizedObservation → MultiRpcResult RpcService (List Char)
  withdrawal : Bytes32 → List Char
  snapshot : List Char
  runtime : List Char

def withdrawalCommittedTopic : List UInt8 := asBytes
  "WithdrawalCommitted(uint256,address,uint256,uint256,uint256,uint256,bytes,bytes32)"

structure ObservedBridgeIdentity where
  signer : Bytes20
  runtimeSha256 : Bytes32
  deriving DecidableEq

inductive NotifiedWithdrawalOutcome
  | missing
  | pending (receiptBlockNumber : Nat)
  | reverted (receiptBlockNumber finalizedCheckpointBlockNumber : Nat)
  | confirmed (withdrawal : ObservedWithdrawal) (snapshot : BridgeSnapshot)
      (stableObservation : FinalizedObservationRecord)
      (receiptBlockNumber finalizedCheckpointBlockNumber : Nat)
  deriving DecidableEq

namespace NotificationConfig

variable (config : NotificationConfig)

def observeBridgeSnapshotAt (observation : FinalizedObservation) (value : List Char) :
    Except ObservationError BridgeSnapshot := do
  let snapshot ← decodeBridgeSnapshot value
  if snapshot.mint.finalizedHeadBlockNumber ≠ observation.blockNumber then throw .invalidResponse
  return snapshot

/-- The code is hashed only as long as no observation has attested it. -/
def observeBridgeAt (runtimeAttested : Bool) (answers : WithdrawalAnswers RpcService) :
    Except ObservationError (BridgeSnapshot × ObservedBridgeIdentity) := do
  let snapshot ← observeBridgeSnapshotAt answers.finalized answers.snapshot
  if runtimeAttested then
    return (snapshot, ⟨snapshot.bridgeSigner, config.expectedBridgeRuntimeSha256⟩)
  let runtime ← decodeAnswer answers.runtime
  if runtime = [] then throw .invalidResponse
  if config.sha256 runtime ≠ config.expectedBridgeRuntimeSha256 then throw .baseStateMismatch
  return (snapshot, ⟨snapshot.bridgeSigner, config.sha256 runtime⟩)

def isSameCommittedWithdrawal (current : CurrentWithdrawal) (observed : ObservedWithdrawal) :
    Bool :=
  current.status = 1 && current.requester = observed.requester &&
    current.amount = observed.amount && current.maxServiceFee = observed.maxServiceFee &&
    current.chargedServiceFee = observed.chargedServiceFee &&
    current.amountOut = observed.amountOut && current.owner = observed.owner &&
    current.subaccount = observed.subaccount

variable (hash : Bytes32)

def matchingLogs (receipt : TransactionReceipt) : List LogEntry :=
  receipt.logs.filter fun log =>
    !log.removed && log.address = config.bridgeContract &&
      log.topics.head? = some (config.keccak withdrawalCommittedTopic) &&
      log.transactionHash = some hash && log.blockHash = some receipt.blockHash

def withdrawalLog (receipt : TransactionReceipt) : Except ObservationError LogEntry :=
  match config.matchingLogs hash receipt with
  | [log] =>
    match log.topics with
    | [_, _, requester] =>
      if limit 160 < requester.toNat then .error .invalidResponse else .ok log
    | _ => .error .invalidResponse
  | _ => .error .invalidResponse

def stableObservation (finalized : FinalizedObservation) (identity : ObservedBridgeIdentity) :
    FinalizedObservationRecord where
  chainId := config.baseChainId
  blockNumber := finalized.blockNumber
  blockHash := finalized.blockHash
  observedAtNs := finalized.observedAtNs
  bridgeSigner := identity.signer
  runtimeSha256 := identity.runtimeSha256

variable (runtimeAttested : Bool) (answers : WithdrawalAnswers RpcService)

/-- Every field of the log has to be the stored one at the finalized block. -/
def confirmedWithdrawal (receipt : TransactionReceipt) :
    Except ObservationError NotifiedWithdrawalOutcome := do
  let log ← config.withdrawalLog hash receipt
  let withdrawal ← decodeWithdrawalCreatedLog log
  let current ← decodeCurrentWithdrawal (answers.withdrawal withdrawal.id)
  if isSameCommittedWithdrawal current withdrawal = false then throw .baseStateMismatch
  let (snapshot, identity) ← config.observeBridgeAt runtimeAttested answers
  return .confirmed withdrawal snapshot (config.stableObservation answers.finalized identity)
    receipt.blockNumber answers.finalized.blockNumber

def notifiedWithdrawalOutcome : Except ObservationError NotifiedWithdrawalOutcome := do
  match ← canonicalFinalizedReceiptWithHash hash answers.finalized answers.receipt answers.probe with
  | .missing => return .missing
  | .pending receiptBlockNumber => return .pending receiptBlockNumber
  | .confirmed receipt finalized _ =>
    match receipt.status with
    | some 0 => return .reverted receipt.blockNumber finalized.blockNumber
    | some 1 => config.confirmedWithdrawal hash runtimeAttested answers receipt
    | _ => throw .invalidResponse

end NotificationConfig

inductive NotifyWithdrawalError
  | anonymousCaller
  | rpcUnavailable
  | rpcInconsistent
  | invalidBaseResponse
  | transactionNotFound
  | transactionNotConfirmed
  | transactionReverted
  | ledgerFeeExceedsServiceFee (ledgerFee chargedServiceFee : Nat)
  | withdrawalConflict
  | baseStateMismatch
  | bridgeSignerMismatch
  | withdrawalBeforeAdmissionBoundary (observedWithdrawalId minimumWithdrawalId : Bytes32)
  | storageFailure
  | insufficientCycles
  deriving DecidableEq

inductive NotifyWithdrawalReceipt
  | ingested (withdrawalId : Bytes32) (finalizedCheckpointBlockNumber : Nat)
  | duplicate (withdrawalId : Bytes32)
  deriving DecidableEq

abbrev NotifyWithdrawalResult := Except NotifyWithdrawalError NotifyWithdrawalReceipt

def mapWithdrawalObservationError : ObservationError → NotifyWithdrawalError
  | .insufficientCycles => .insufficientCycles
  | .rpc => .rpcUnavailable
  | .inconsistent => .rpcInconsistent
  | .baseStateMismatch => .baseStateMismatch
  | .invalidResponse | .overflow => .invalidBaseResponse
  | .transactionPending => .transactionNotConfirmed
  | .transactionReverted => .transactionReverted

def notificationCommitError : StorageError → NotifyWithdrawalError
  | .core .conflictingReplay | .core .payloadConflict => .withdrawalConflict
  | _ => .storageFailure

structure WithdrawalFeeGuard where
  ledgerFee : Nat
  chargedServiceFee : Nat
  trippedAtNs : Nat
  deriving DecidableEq

/-- The tables a notification reads and writes. `notifications` maps the hash of a transaction to
the withdrawal it was ingested for. -/
structure NotificationStore where
  settlement : SettlementStore
  notifications : Bytes32 → Option Bytes32
  progress : ExternalProgress
  withdrawalFeeGuard : Option WithdrawalFeeGuard
  nextAuditSequence : Nat

def isNonterminalWithdrawal (record : WithdrawalRecord) : Bool := record.state.phaseCode ≠ 2

def DepositRecord.isPendingLedger (record : DepositRecord) : Bool :=
  record.state.code == 0 || record.state.code == 6

def WithdrawalRecord.isPendingLedger (record : WithdrawalRecord) : Bool :=
  record.state.phaseCode == 1

namespace NotificationStore

variable (store : NotificationStore)

/-- What is still owed; the store keeps it next to the table. -/
def withdrawalLiability : Nat :=
  store.settlement.withdrawals.total fun record =>
    if isNonterminalWithdrawal record then record.amountOut else 0

/-- The operations the ledger still has to be asked for, counted next to the tables. -/
def pendingLedgerOperations : Nat :=
  store.settlement.deposits.total (·.isPendingLedger.toNat) +
    store.settlement.withdrawals.total (·.isPendingLedger.toNat)

variable (record : WithdrawalRecord) (progress : ExternalProgress)

/-- `events` is the size of the batch of audit events that goes with the write. -/
def insertWithdrawal (hash : Bytes32) (events : Nat) : Except StorageError NotificationStore := do
  let _ ← adjustActiveCount store.pendingLedgerOperations false record.isPendingLedger
  let nextAuditSequence ← okOr .counterOverflow (add 64 store.nextAuditSequence events)
  let _ ← okOr .counterOverflow
    (add 128 store.withdrawalLiability record.amountOut)
  return { store with
    settlement := { store.settlement with
      withdrawals := store.settlement.withdrawals.put record }
    notifications := Function.update store.notifications hash (some record.id)
    nextAuditSequence
    progress }

def checkReleaseStarted : Except StorageError Unit :=
  match record.state with
  | .releasePending attempt settlement => do
    let (expected, _) ← liftCore
      (({ record with state := .observed } : WithdrawalRecord).apply
        (.startRelease attempt settlement))
    if expected ≠ record then throw (.core .payloadConflict)
  | _ => .error (.core .payloadConflict)

/-- The batch holds the evidence of the answers and the decision to go on. -/
def commitNewWithdrawalReleaseBundle (hash : Bytes32) : Except StorageError NotificationStore :=
  if (store.notifications hash).isSome then .error (.core .conflictingReplay)
  else
    match store.settlement.withdrawals.get record.id with
    | some previous => if previous = record then .ok store else .error (.core .conflictingReplay)
    | none => do
      checkReleaseStarted record
      store.insertWithdrawal record progress hash 2

/-- The same two events and the trip. -/
def commitWithdrawalFeeGuardTripBundle (tripped : WithdrawalFeeGuard) (hash : Bytes32) :
    Except StorageError NotificationStore := do
  if (store.notifications hash).isSome ∨ (store.settlement.withdrawals.get record.id).isSome ∨
      record.state ≠ .observed then throw (.core .payloadConflict)
  if tripped.ledgerFee ≤ tripped.chargedServiceFee ∨
      tripped.chargedServiceFee ≠ record.chargedServiceFee then throw (.core .payloadConflict)
  let store ← store.insertWithdrawal record progress hash 3
  return { store with withdrawalFeeGuard := some tripped }

end NotificationStore

inductive NotificationFlow
  | observing (hash : Bytes32) (runtimeAttested : Bool)
  | addressing (hash : Bytes32) (withdrawal : ObservedWithdrawal) (snapshot : BridgeSnapshot)
      (stableObservation : FinalizedObservationRecord) (finalizedCheckpointBlockNumber : Nat)
  deriving DecidableEq

inductive NotificationTurn
  | returned (result : NotifyWithdrawalResult)
  | waiting (flow : NotificationFlow)
  deriving DecidableEq

namespace NotificationConfig

variable (config : NotificationConfig) (now : Nat) (store : NotificationStore)
  (observed : ObservedWithdrawal)

/-- The requester is not part of what is paid. -/
def notifiedWithdrawalPayloadHash : Bytes32 :=
  config.sha256 (wordBytes observed.id ++ observed.owner ++ wordBytes observed.subaccount ++
    Bytes.ofNat 16 observed.amount ++ Bytes.ofNat 16 observed.maxServiceFee ++
    Bytes.ofNat 16 observed.chargedServiceFee ++ Bytes.ofNat 16 observed.amountOut)

def existingNotifiedWithdrawal : Option NotifyWithdrawalResult :=
  (store.settlement.withdrawals.get observed.id).map fun existing =>
    if existing.payloadHash = config.notifiedWithdrawalPayloadHash observed then
      .ok (.duplicate observed.id)
    else .error .withdrawalConflict

def observedRecord (finalizedCheckpointBlockNumber : Nat)
    (stableObservation : FinalizedObservationRecord) :
    Except NotifyWithdrawalError (WithdrawalRecord × ExternalProgress) := do
  let record ← orError .invalidBaseResponse (WithdrawalRecord.observed observed.id
    observed.requester observed.owner observed.subaccount
    (config.notifiedWithdrawalPayloadHash observed) observed.amount observed.maxServiceFee
    observed.chargedServiceFee observed.amountOut stableObservation.observedAtNs)
  if finalizedCheckpointBlockNumber ≠ stableObservation.blockNumber then throw .baseStateMismatch
  let progress ← orError .baseStateMismatch
    (store.progress.observeFinalized stableObservation)
  return (record, progress)

def releasedRecord (record : WithdrawalRecord) : Except NotifyWithdrawalError WithdrawalRecord :=
  if valid : record.owner ≠ [] ∧ record.owner.length ≤ 29 ∧ record.owner ≠ [4] then
    (orError .invalidBaseResponse (record.apply
      (.startRelease ⟨0, config.releaseIdentity now record valid⟩
        ⟨record.amountOut, record.chargedServiceFee, config.ledgerFee⟩))).map (·.1)
  else .error .invalidBaseResponse

variable (hash : Bytes32)

section

variable (finalizedCheckpointBlockNumber : Nat) (stableObservation : FinalizedObservationRecord)

def tripFeeGuard : Except NotifyWithdrawalError NotificationStore := do
  let (record, progress) ← config.observedRecord store observed finalizedCheckpointBlockNumber
    stableObservation
  (store.commitWithdrawalFeeGuardTripBundle record progress
    ⟨config.ledgerFee, observed.chargedServiceFee, now⟩ hash).mapError notificationCommitError

def ingestRelease : Except NotifyWithdrawalError NotificationStore := do
  let (record, progress) ← config.observedRecord store observed finalizedCheckpointBlockNumber
    stableObservation
  let released ← config.releasedRecord now record
  (store.commitNewWithdrawalReleaseBundle released progress hash).mapError notificationCommitError

/-- What is stored, and what is answered: a withdrawal that trips the fee guard is stored and
refused at once. -/
def ingestNotifiedWithdrawal : NotificationStore × NotifyWithdrawalResult :=
  match config.existingNotifiedWithdrawal store observed with
  | some result => (store, result)
  | none =>
    match store.withdrawalFeeGuard with
    | some tripped =>
      (store, .error (.ledgerFeeExceedsServiceFee tripped.ledgerFee tripped.chargedServiceFee))
    | none =>
      if observed.chargedServiceFee < config.ledgerFee then
        match config.tripFeeGuard now store observed hash finalizedCheckpointBlockNumber
            stableObservation with
        | .ok store =>
          (store, .error (.ledgerFeeExceedsServiceFee config.ledgerFee observed.chargedServiceFee))
        | .error error => (store, .error error)
      else
        match config.ingestRelease now store observed hash finalizedCheckpointBlockNumber
            stableObservation with
        | .ok store => (store, .ok (.ingested observed.id finalizedCheckpointBlockNumber))
        | .error error => (store, .error error)

end

def existingNotifiedWithdrawalByHash : Option NotifyWithdrawalResult :=
  (store.notifications hash).map fun id =>
    if (store.settlement.withdrawals.get id).isSome then .ok (.duplicate id)
    else .error .storageFailure

def runtimeAttested : Bool :=
  store.progress.finalizedObservation.any fun observation =>
    observation.chainId = config.baseChainId &&
      observation.runtimeSha256 = config.expectedBridgeRuntimeSha256

def notifyWithdrawal (caller : List UInt8) (hash : Bytes32) : NotificationTurn :=
  if caller = [4] then .returned (.error .anonymousCaller)
  else
    match existingNotifiedWithdrawalByHash store hash with
    | some result => .returned result
    | none => .waiting (.observing hash (config.runtimeAttested store))

def withdrawalIdIsAdmissible (observed : Bytes32) : Bool :=
  config.minimumWithdrawalId ≠ 0 && config.minimumWithdrawalId ≤ observed

def outcomeArrived : Except ObservationError NotifiedWithdrawalOutcome → NotificationTurn
  | .error error => .returned (.error (mapWithdrawalObservationError error))
  | .ok .missing => .returned (.error .transactionNotFound)
  | .ok (.pending _) => .returned (.error .transactionNotConfirmed)
  | .ok (.reverted ..) => .returned (.error .transactionReverted)
  | .ok (.confirmed withdrawal snapshot stableObservation _ finalizedCheckpointBlockNumber) =>
    if config.withdrawalIdIsAdmissible withdrawal.id then
      .waiting (.addressing hash withdrawal snapshot stableObservation
        finalizedCheckpointBlockNumber)
    else .returned (.error (.withdrawalBeforeAdmissionBoundary withdrawal.id
      config.minimumWithdrawalId))

def addressed (withdrawal : ObservedWithdrawal) (snapshot : BridgeSnapshot)
    (stableObservation : FinalizedObservationRecord) (finalizedCheckpointBlockNumber : Nat) :
    NotificationStore × NotifyWithdrawalResult :=
  if snapshot.bridgeSigner ≠ config.signer then (store, .error .bridgeSignerMismatch)
  else config.ingestNotifiedWithdrawal now store withdrawal hash finalizedCheckpointBlockNumber
    stableObservation

/-- The `Observed` turn of `advance_withdrawal`: try the fee again. -/
def continueWithdrawal (id : Bytes32) : Except StorageError NotificationStore := do
  let withdrawal ← okOr .recordNotFound (store.settlement.withdrawals.get id)
  if withdrawal.state ≠ .observed then throw .recordNotFound
  if withdrawal.chargedServiceFee < config.ledgerFee then
    let changed := store.withdrawalFeeGuard.all fun tripped =>
      tripped.ledgerFee ≠ config.ledgerFee ||
        tripped.chargedServiceFee ≠ withdrawal.chargedServiceFee
    return { store with
      withdrawalFeeGuard :=
        if changed then some ⟨config.ledgerFee, withdrawal.chargedServiceFee, now⟩
        else store.withdrawalFeeGuard }
  let settlement ← config.startRelease now store.settlement id
  return { store with settlement, withdrawalFeeGuard := none }

end NotificationConfig

end KinicBridge
