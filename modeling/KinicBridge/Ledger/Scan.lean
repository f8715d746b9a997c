import KinicBridge.Core.Kernel
import KinicBridge.Library.Dialogue
import Mathlib.Data.List.Sort

/-! The reconciliation scan: one resumable pass over the ledger's pages and archives, then one over
the index canister. A call of `reconcileStep` spends at most four inter-canister calls. -/
namespace KinicBridge

structure IcrcAccount where
  owner : List UInt8
  subaccount : Option Bytes32
  deriving DecidableEq

structure LedgerTransfer where
  amount : Nat
  fee : Option Nat
  createdAtTime : Option Nat
  memo : Option (List UInt8)
  from_ : IcrcAccount
  to_ : IcrcAccount
  spender : Option IcrcAccount
  deriving DecidableEq

structure Transaction where
  transfer : Option LedgerTransfer
  deriving DecidableEq

def natU128 (value : Nat) : Option Nat := if value ≤ Checked.limit 128 then some value else none

def memoBytes (memo : Bytes32) : List UInt8 :=
  (List.range 32).map fun i => UInt8.ofNat (memo.toNat >>> (8 * (31 - i)))

def accountMatches (actual : IcrcAccount) (expected : Account) : Bool :=
  actual.owner == expected.owner && actual.subaccount.getD 0 == expected.subaccount

def spenderMatches : Option IcrcAccount → Option Account → Bool
  | none, none => true
  | some actual, some expected => accountMatches actual expected
  | _, _ => false

def matchesIdentity (transaction : Transaction) (identity : LedgerTransferIdentity) : Bool :=
  match transaction.transfer with
  | none => false
  | some transfer =>
    natU128 transfer.amount == some identity.amount &&
    transfer.fee.bind natU128 == some identity.fee &&
    transfer.createdAtTime == some identity.createdAtTimeNs &&
    transfer.memo == some (memoBytes identity.memo) &&
    accountMatches transfer.from_ identity.from_ && accountMatches transfer.to_ identity.to_ &&
    spenderMatches transfer.spender identity.spender

inductive ReconciliationTarget where
  | hold (id : Nat)
  | feePayout (id : Nat)
  | fundingAttempt (id : Bytes32)
  deriving DecidableEq

structure ReconciliationArchiveRange where
  canisterId : List UInt8
  method : String
  start : Nat
  length : Nat
  deriving DecidableEq

structure ReconciliationLedgerPage where
  end_ : Nat
  archives : List ReconciliationArchiveRange
  nextArchive : Nat
  deriving DecidableEq

inductive ReconciliationScanPhase where
  | ledger (nextBlock : Nat) (ledgerTip : Option Nat)
      (pendingPage : Option ReconciliationLedgerPage)
  | index (ledgerWatermark : Nat) (indexWatermark nextStart : Option Nat)
  deriving DecidableEq

structure ReconciliationScanProgress where
  target : ReconciliationTarget
  transfer : LedgerTransferIdentity
  phase : ReconciliationScanPhase
  deriving DecidableEq

def ReconciliationScanProgress.new (target : ReconciliationTarget)
    (transfer : LedgerTransferIdentity) : ReconciliationScanProgress :=
  ⟨target, transfer, .ledger 0 none none⟩

inductive ReconciliationOutcome where
  | progress (saved : ReconciliationScanProgress)
  | noProgress (saved : ReconciliationScanProgress)
  | succeeded (blockIndex : Nat)
  | absent (ledgerWatermark indexWatermark : Nat)
  deriving DecidableEq

/-! The calls a scan makes and their decoded replies. A reply of `none` is a transport
failure or an answer that does not decode. -/

structure ArchivedTransactions where
  canisterId : List UInt8
  method : String
  start : Nat
  length : Nat
  deriving DecidableEq

structure GetTransactionsResponse where
  logLength : Nat
  firstIndex : Nat
  transactions : List Transaction
  archivedTransactions : List ArchivedTransactions
  deriving DecidableEq

structure TransactionWithId where
  id : Nat
  transaction : Transaction
  deriving DecidableEq

structure IndexTransactions where
  transactions : List TransactionWithId
  oldestTxId : Option Nat
  deriving DecidableEq

inductive ScanQuery where
  | getTransactions (start length : Nat)
  | archive (canisterId : List UInt8) (method : String) (start length : Nat)
  | indexLedgerId
  | indexStatus
  | getAccountTransactions (account : Account) (start : Option Nat) (maxResults : Nat)
  deriving DecidableEq

def ScanAnswer : ScanQuery → Type
  | .getTransactions .. => Option GetTransactionsResponse
  | .archive .. => Option (List Transaction)
  | .indexLedgerId => Option (List UInt8)
  | .indexStatus => Option Nat
  | .getAccountTransactions .. => Option IndexTransactions

/-- What a scan leaves in its history: every block it compared with the identity, and the
log length of every page it read. -/
inductive ScanEvent where
  | compared (index : Nat) (transaction : Transaction)
  | page (logLength : Nat)
  deriving DecidableEq

abbrev ScanProgram := Dialogue ScanQuery ScanAnswer ScanEvent ReconciliationOutcome

namespace Scan

def pageSize : Nat := 1000
def callBudget : Nat := 4

def ledgerPageLength (nextBlock : Nat) (ledgerTip : Option Nat) (page : Nat) : Nat :=
  (ledgerTip.map fun exclusiveTip => min (exclusiveTip - nextBlock) page).getD page

variable (progress : ReconciliationScanProgress)

def ledgerProgress (nextBlock : Nat)
    (ledgerTip : Option Nat) (pendingPage : Option ReconciliationLedgerPage) : ScanProgram :=
  .done (.progress { progress with phase := .ledger nextBlock ledgerTip pendingPage })

def indexProgress (ledgerWatermark : Nat) (indexWatermark nextStart : Option Nat) : ScanProgram :=
  .done (.progress { progress with phase := .index ledgerWatermark indexWatermark nextStart })

def tiles (end_ : Nat) : Nat → List (Nat × Nat) → Bool
  | cursor, [] => cursor == end_
  | cursor, (rangeStart, rangeEnd) :: rest =>
    if rangeStart ≠ cursor ∨ rangeEnd ≤ rangeStart ∨ end_ < rangeEnd then false
    else tiles end_ rangeEnd rest

def exactCoverage (start end_ : Nat) (ranges : List (Nat × Nat)) : Bool :=
  if start = end_ then ranges.isEmpty else tiles end_ start ranges

inductive IndexPageBoundary where
  | continue_ (start : Nat)
  | exhausted
  | stalled
  deriving DecidableEq

def indexPageBoundary (previousStart : Option Nat) (last : Nat) (oldest : Option Nat) :
    IndexPageBoundary :=
  if oldest.any fun oldest => decide (last ≤ oldest) then .exhausted
  else if previousStart = some last then .stalled
  else .continue_ last

/-- Compare consecutive blocks with the identity and stop at the first match. -/
def inspect (transfer : LedgerTransferIdentity) (otherwise : ScanProgram) :
    Nat → List Transaction → ScanProgram
  | _, [] => otherwise
  | index, transaction :: rest =>
    .note (.compared index transaction)
      (if matchesIdentity transaction transfer then .done (.succeeded index)
      else inspect transfer otherwise (index + 1) rest)

def indexPages (progress : ReconciliationScanProgress) (ledgerWatermark indexWatermark : Nat) :
    Nat → Option Nat → ScanProgram
  | 0, nextStart => indexProgress progress ledgerWatermark (some indexWatermark) nextStart
  | budget + 1, nextStart =>
    .ask (.getAccountTransactions progress.transfer.from_ nextStart 100) fun
      | none => indexProgress progress ledgerWatermark (some indexWatermark) nextStart
      | some result =>
        match result.transactions.find? fun entry =>
            matchesIdentity entry.transaction progress.transfer with
        | some found =>
          match natU128 found.id with
          | some blockIndex => .done (.succeeded blockIndex)
          | none => indexProgress progress ledgerWatermark (some indexWatermark) nextStart
        | none =>
          match result.transactions.getLast?.bind (natU128 ·.id) with
          | none => .done (.absent ledgerWatermark indexWatermark)
          | some last =>
            match indexPageBoundary nextStart last (result.oldestTxId.bind natU128) with
            | .exhausted => .done (.absent ledgerWatermark indexWatermark)
            | .stalled => indexProgress progress ledgerWatermark (some indexWatermark) nextStart
            | .continue_ start => indexPages progress ledgerWatermark indexWatermark budget (some start)

/-- The index phase. An index that serves another ledger, or has not synced the blocks the
ledger phase covered, is not used. -/
def reconcileIndex (expectedLedger : List UInt8) (progress : ReconciliationScanProgress)
    (ledgerWatermark : Nat) (indexWatermark nextStart : Option Nat) (budget : Nat) : ScanProgram :=
  match indexWatermark with
  | some watermark => indexPages progress ledgerWatermark watermark budget nextStart
  | none =>
    if budget < 2 then indexProgress progress ledgerWatermark none nextStart
    else .ask .indexLedgerId fun (answer : Option (List UInt8)) =>
      if answer ≠ some expectedLedger then indexProgress progress ledgerWatermark none nextStart
      else .ask .indexStatus fun (answer : Option Nat) =>
        match answer.bind natU128 with
        | none => indexProgress progress ledgerWatermark none nextStart
        | some observed =>
          if observed < ledgerWatermark then indexProgress progress ledgerWatermark none nextStart
          else indexPages progress ledgerWatermark observed (budget - 2) nextStart

def unreadArchive (pendingPage : Option ReconciliationLedgerPage) :
    Option (ReconciliationArchiveRange × ReconciliationLedgerPage) :=
  pendingPage.bind fun page => page.archives[page.nextArchive]?.map fun archive => (archive, page)

def ledgerComplete (ledgerTip : Option Nat) (nextBlock : Nat) : Option Nat :=
  ledgerTip.filter fun tip =>
    tip == 0 || Kernel.scanComplete nextBlock (tip - 1) (tip - 1) true false

def archiveRange (archived : ArchivedTransactions) : Option ReconciliationArchiveRange := do
  let start ← natU128 archived.start
  let length ← natU128 archived.length
  let _ ← Checked.add 128 start length
  if length = 0 ∨ 128 < archived.method.utf8ByteSize then none
  else return ⟨archived.canisterId, archived.method, start, length⟩

def liveRange (firstIndex : Nat) (transactions : List Transaction) : Option (List (Nat × Nat)) :=
  if transactions.isEmpty then some []
  else (Checked.add 128 firstIndex transactions.length).map fun end_ => [(firstIndex, end_)]

def rangeLe (a b : Nat × Nat) : Bool := a.1 < b.1 || (a.1 == b.1 && a.2 ≤ b.2)

def readPage (nextBlock requestedEnd firstIndex : Nat) (response : GetTransactionsResponse) :
    Option ReconciliationLedgerPage := do
  let live ← liveRange firstIndex response.transactions
  let archives ← response.archivedTransactions.mapM archiveRange
  let coverage := live ++ archives.map fun archive => (archive.start, archive.start + archive.length)
  if exactCoverage nextBlock requestedEnd (coverage.insertionSort fun a b => rangeLe a b) then
    return ⟨requestedEnd, archives.insertionSort fun a b => a.start ≤ b.start, 0⟩
  else none

/-- Examine a page: fix the tip on the first one, compare its live blocks, and go on with
its archives if the ranges it names tile the requested interval. -/
def examinePage (nextBlock : Nat) (ledgerTip : Option Nat) (response : GetTransactionsResponse)
    (goOn : Nat → ReconciliationLedgerPage → ScanProgram) : ScanProgram :=
  match natU128 response.logLength with
  | none => ledgerProgress progress nextBlock ledgerTip none
  | some logLength =>
    let fixedTip := ledgerTip.getD logLength
    .note (.page logLength)
      (if logLength < fixedTip then ledgerProgress progress nextBlock (some fixedTip) none
      else match natU128 response.firstIndex with
        | none => ledgerProgress progress nextBlock (some fixedTip) none
        | some firstIndex =>
          let requestedEnd := min fixedTip (Checked.saturatingAdd 128 nextBlock pageSize)
          inspect progress.transfer
            (match readPage nextBlock requestedEnd firstIndex response with
            | none => ledgerProgress progress nextBlock (some fixedTip) none
            | some pending => goOn fixedTip pending)
            firstIndex response.transactions)

def reconcileLedger (ledger : List UInt8) (progress : ReconciliationScanProgress) (budget : Nat)
    (nextBlock : Nat) (ledgerTip : Option Nat) (pendingPage : Option ReconciliationLedgerPage) :
    ScanProgram :=
  match unreadArchive pendingPage with
  | some (archive, page) =>
    match budget with
    | 0 => ledgerProgress progress nextBlock ledgerTip (some page)
    | budget + 1 =>
      if 29 < archive.canisterId.length then
        ledgerProgress progress nextBlock ledgerTip (some page)
      else .ask (.archive archive.canisterId archive.method archive.start archive.length) fun
        | none => ledgerProgress progress nextBlock ledgerTip (some page)
        | some transactions =>
          if transactions.length ≠ archive.length then
            ledgerProgress progress nextBlock ledgerTip (some page)
          else inspect progress.transfer
            (reconcileLedger ledger progress budget nextBlock ledgerTip
              (some { page with nextArchive := page.nextArchive + 1 }))
            archive.start transactions
  | none =>
    let nextBlock := (pendingPage.map (·.end_)).getD nextBlock
    match ledgerComplete ledgerTip nextBlock with
    | some ledgerWatermark => reconcileIndex ledger progress ledgerWatermark none none budget
    | none =>
      match budget with
      | 0 => ledgerProgress progress nextBlock ledgerTip none
      | budget + 1 =>
        .ask (.getTransactions nextBlock (ledgerPageLength nextBlock ledgerTip pageSize)) fun
          | none => ledgerProgress progress nextBlock ledgerTip none
          | some response =>
            examinePage progress nextBlock ledgerTip response fun fixedTip pending =>
              reconcileLedger ledger progress budget nextBlock (some fixedTip) (some pending)
termination_by structural budget

def classifyReconciliationProgress (previousPhase : ReconciliationScanPhase) :
    ReconciliationOutcome → ReconciliationOutcome
  | .progress saved => if saved.phase = previousPhase then .noProgress saved else .progress saved
  | outcome => outcome

end Scan

def reconcileStep (ledger : List UInt8) (progress : ReconciliationScanProgress) : ScanProgram :=
  (match progress.phase with
  | .ledger nextBlock ledgerTip pendingPage =>
    Scan.reconcileLedger ledger progress Scan.callBudget nextBlock ledgerTip pendingPage
  | .index ledgerWatermark indexWatermark nextStart =>
    Scan.reconcileIndex ledger progress ledgerWatermark indexWatermark nextStart
      Scan.callBudget).bind fun outcome =>
    .done (Scan.classifyReconciliationProgress progress.phase outcome)

end KinicBridge
