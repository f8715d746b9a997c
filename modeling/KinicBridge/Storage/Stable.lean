import KinicBridge.Funding.Attempts
import KinicBridge.Settlement.FeePayouts
import KinicBridge.Withdrawals.Notification
import KinicBridge.Library.Tracked
import KinicBridge.Storage.Admission

/-! The stable store with everything it derives from its records: counters, indexes and the
count of every table. Keys are kept as the values their bytes stand for. -/
namespace KinicBridge

open Checked

namespace DepositRecord

variable (record : DepositRecord)

def owner : List UInt8 := record.transfer.from_.owner

def isFinished : Bool := !Kernel.depositNonterminalIndexed record.state.code

def authorizationDeadline : Option Nat :=
  if record.state.code = 2 ∨ record.state.code = 3 then
    record.mintAuthorization.map (·.authorization.deadline)
  else none

def pullEntry : Option (Bytes32 × Unit) :=
  if record.isPendingLedger then some (record.id, ()) else none

def deadlineEntry : Option ((Nat × Bytes32) × Bytes32) :=
  record.authorizationDeadline.map fun deadline => ((deadline, record.id), record.id)

end DepositRecord

namespace WithdrawalRecord

variable (record : WithdrawalRecord)

def releaseEntry : Option (Bytes32 × Unit) :=
  if record.isPendingLedger then some (record.id, ()) else none

def liabilityEntry : Option ((Nat × Bytes32) × Bytes32) :=
  if isNonterminalWithdrawal record then some ((record.observedAtNs, record.id), record.id)
  else none

def historyKey : Bytes20 × Nat × Bytes32 :=
  (record.baseRequester, record.observedAtNs, record.id)

end WithdrawalRecord

def ReconciliationHoldRecord.openEntry (hold : ReconciliationHoldRecord) : Option (Nat × Unit) :=
  if hold.state = .open_ then some (hold.id, ()) else none

/-! The indexes of deposits and of withdrawals, with the counts of both tables. -/

structure DepositIndexes where
  pullPending : Tracked Bytes32 Unit
  authorizationDeadline : Tracked (Nat × Bytes32) Bytes32
  nonterminalOwner : Tracked (List UInt8 × Nat) Bytes32
  owner : Tracked (List UInt8 × Nat) Bytes32
  ownerSequences : Tracked (List UInt8) Nat
  nextSequence : Nat
  deposits : Nat
  fundingAttempts : Nat

structure WithdrawalIndexes where
  releasePending : Tracked Bytes32 Unit
  liability : Tracked (Nat × Bytes32) Bytes32
  liabilityAmount : Nat
  stopReasonCounts : Tracked String Nat
  requester : Tracked (Bytes20 × Nat × Bytes32) Bytes32
  notification : Tracked Bytes32 Bytes32
  transaction : Tracked Bytes32 Bytes32
  withdrawals : Nat

/-- The audit log keeps its newest events; `prunedCount` is the oldest that is kept. -/
structure AuditLog where
  events : Tracked Nat Unit
  nextSequence : Nat
  prunedCount : Nat

structure StoredAdmin where
  depositsPaused : Bool
  withdrawalFeeGuard : Option WithdrawalFeeGuard
  deriving DecidableEq

/-- `origins` is what a stored deposit keeps besides its record, `stopReasons` the last stop
reason in the record of a withdrawal. -/
structure StableStore where
  settlement : SettlementStore
  attempts : Table DepositFundingAttempt.id
  origins : Bytes32 → Option (Nat × Bytes20)
  stopReasons : Bytes32 → Option String
  admin : StoredAdmin
  progress : ExternalProgress
  admission : DepositAdmissionControl
  pendingLedgerOperations : Nat
  depositIndexes : DepositIndexes
  withdrawalIndexes : WithdrawalIndexes
  openHold : Tracked Nat Unit
  reconciliationHolds : Nat
  reconciliationScans : Nat
  feePayouts : Nat
  audit : AuditLog

namespace DepositIndexes

def empty : DepositIndexes := ⟨.empty, .empty, .empty, .empty, .empty, 0, 0, 0⟩

variable (indexes : DepositIndexes)

def nextOwnerSequence (owner : List UInt8) : Nat :=
  (indexes.ownerSequences.get owner).getD 0

def putNonterminal (table : Tracked (List UInt8 × Nat) Bytes32) (next : DepositRecord)
    (ownerSequence : Nat) : Option (Tracked (List UInt8 × Nat) Bytes32) :=
  if next.isFinished then table.discard (next.owner, ownerSequence)
  else table.upsert (next.owner, ownerSequence) next.id

def writeDeposit (previous next : DepositRecord)
    (ownerSequence : Nat) : Except StorageError DepositIndexes := do
  let pullPending ← constraint
    (indexes.pullPending.replace (previous.pullEntry.map Prod.fst) next.pullEntry)
  let authorizationDeadline ← constraint (indexes.authorizationDeadline.replace
    (previous.deadlineEntry.map Prod.fst) next.deadlineEntry)
  let nonterminalOwner ← constraint
    (putNonterminal indexes.nonterminalOwner next ownerSequence)
  return { indexes with pullPending, authorizationDeadline, nonterminalOwner }

def maxOwnerDepositIndexEntries : Nat := 100

def listedSequences (owner : List UInt8) : List Nat :=
  ((indexes.owner.rows.keys.filter fun key => key.1 = owner).image Prod.snd).sort (· ≥ ·)

def excessKey (owner : List UInt8) : Option (List UInt8 × Nat) :=
  ((indexes.listedSequences owner)[maxOwnerDepositIndexEntries - 1]?).map fun sequence =>
    (owner, sequence)

/-- List a new deposit under the next number of all deposits, in the place of the oldest one if
the owner's list is full. -/
def listOwner (owner : List UInt8) (id : Bytes32) : Option (Tracked (List UInt8 × Nat) Bytes32) :=
  (indexes.owner.insert (owner, indexes.nextSequence) id).bind fun listed =>
    (indexes.excessKey owner).elim (some listed) listed.delete

def admitted (intent : DepositIntent)
    (record : DepositRecord) : Except StorageError DepositIndexes := do
  let nextSequence ← okOr .counterOverflow (succ 64 indexes.nextSequence)
  let deposits ← constraint (add 64 indexes.deposits 1)
  let owner ← constraint (indexes.listOwner intent.caller record.id)
  let nonterminalOwner ← constraint
    (indexes.nonterminalOwner.upsert (intent.caller, intent.ownerSequence) record.id)
  let pullPending ← constraint (indexes.pullPending.exchange none record.pullEntry)
  let ownerSequences ← constraint
    (indexes.ownerSequences.upsert intent.caller (intent.ownerSequence + 1))
  return { indexes with
    nextSequence, deposits, owner, nonterminalOwner, pullPending, ownerSequences }

end DepositIndexes

namespace WithdrawalIndexes

def empty : WithdrawalIndexes := ⟨.empty, .empty, 0, .empty, .empty, .empty, .empty, 0⟩

def adjustStopReasonCount (table : Tracked String Nat) (reason : String) (add : Bool) :
    Option (Tracked String Nat) :=
  let count := (table.get reason).getD 0
  if add then
    (Checked.add 64 count 1).bind fun next =>
      if count = 0 then
        (Checked.add 64 table.count 1).map fun rows => { table.set reason next with count := rows }
      else some (table.set reason next)
  else
    (Checked.sub count 1).bind fun next =>
      if next = 0 then
        (Checked.sub table.count 1).map fun rows => ⟨table.rows.remove reason, rows⟩
      else some (table.set reason next)

def adjustLiabilityAmount (amount : Nat) (record : WithdrawalRecord) (add : Bool) : Option Nat :=
  if add then Checked.add 128 amount record.amountOut else Checked.sub amount record.amountOut

variable (indexes : WithdrawalIndexes)

def adjustWithdrawalLiabilityRecord (record : WithdrawalRecord)
    (reason : Option String) (add : Bool) : Option WithdrawalIndexes :=
  if isNonterminalWithdrawal record then
    (adjustLiabilityAmount indexes.liabilityAmount record add).bind fun liabilityAmount =>
      (reason.elim (some indexes.stopReasonCounts) fun reason =>
        adjustStopReasonCount indexes.stopReasonCounts reason add).map fun stopReasonCounts =>
          { indexes with liabilityAmount, stopReasonCounts }
  else some indexes

def withoutPrevious : Option (WithdrawalRecord × Option String) → Option WithdrawalIndexes
  | none => (add 64 indexes.withdrawals 1).map fun withdrawals =>
      { indexes with withdrawals }
  | some (previous, reason) => indexes.adjustWithdrawalLiabilityRecord previous reason false

/-- The indexes of a withdrawal follow its row; what it is listed under in the history of its
requester stays. -/
def replaceWithdrawalRow
    (previous : Option (WithdrawalRecord × Option String)) (next : WithdrawalRecord)
    (reason : Option String) : Except StorageError WithdrawalIndexes := do
  refuseIf (previous.any fun previous => previous.1.historyKey ≠ next.historyKey) .stale
  let liability ← constraint (indexes.liability.transition
    ((previous.bind (·.1.liabilityEntry)).map Prod.fst) next.liabilityEntry)
  let removed ← constraint ({ indexes with liability }.withoutPrevious previous)
  let requester ← constraint (removed.requester.upsert next.historyKey next.id)
  constraint ({ removed with requester }.adjustWithdrawalLiabilityRecord next reason true)

/-- The transaction a withdrawal was notified by; it cannot change. -/
def writeWithdrawalTransaction (id hash : Bytes32) : Except StorageError WithdrawalIndexes := do
  refuseIf ((indexes.transaction.get id).any fun stored => stored ≠ hash) .stale
  let transaction ← constraint (indexes.transaction.upsert id hash)
  return { indexes with transaction }

def notify (id hash : Bytes32) : Except StorageError WithdrawalIndexes := do
  let notification ← constraint (indexes.notification.insert hash id)
  { indexes with notification }.writeWithdrawalTransaction id hash

end WithdrawalIndexes

namespace AuditLog

def empty : AuditLog := ⟨.empty, 0, 0⟩

def maxEvents : Nat := 100000

def maxBatch : Nat := 32

def insertFrom (table : Tracked Nat Unit) (first : Nat) : Nat → Option (Tracked Nat Unit)
  | 0 => some table
  | more + 1 => (table.insert first ()).bind fun table => insertFrom table (first + 1) more

def prune (table : Tracked Nat Unit) (expected : Nat) : List Nat → Except StorageError (Tracked Nat Unit)
  | [] => .ok table
  | oldest :: others => do
    refuseIf (oldest ≠ expected) (.sequenceMismatch expected)
    let table ← constraint (table.delete oldest)
    prune table (expected + 1) others

def commitAuditBatch (log : AuditLog) (size : Nat) : Except StorageError AuditLog := do
  refuseIf (maxBatch < size) (.valueTooLarge size maxBatch)
  refuseIf (limit 64 < log.nextSequence + size) .counterOverflow
  let excess := log.events.count + size - maxEvents
  let oldest := (log.events.rows.keys.sort (· ≤ ·)).take excess
  refuseIf (oldest.length ≠ excess) .recordNotFound
  let inserted ← constraint (insertFrom log.events log.nextSequence size)
  let events ← prune inserted log.prunedCount oldest
  return { log with
    events
    nextSequence := log.nextSequence + size
    prunedCount := log.prunedCount + excess }

end AuditLog

namespace StableStore

def fresh : StableStore where
  settlement := .empty
  attempts := .empty
  origins := fun _ => none
  stopReasons := fun _ => none
  admin := ⟨true, none⟩
  progress := ⟨0, 0, none⟩
  admission := .empty
  pendingLedgerOperations := 0
  depositIndexes := .empty
  withdrawalIndexes := .empty
  openHold := .empty
  reconciliationHolds := 0
  reconciliationScans := 0
  feePayouts := 0
  audit := .empty

variable (store : StableStore)

def funding : FundingStore :=
  ⟨store.settlement, store.attempts, store.origins, store.depositIndexes.nextOwnerSequence,
    store.admin.depositsPaused⟩

def storedWithdrawal (id : Bytes32) : Option (WithdrawalRecord × Option String) :=
  (store.settlement.withdrawals.get id).map fun record => (record, store.stopReasons id)

end StableStore

end KinicBridge
