import KinicBridge.Funding.Attempts

/-! The funding of one deposit over time: its pulls on their way to the ledger and back, the
requests that wait for them, timer runs that scan the ledger for them, and upgrades, after
which nobody waits any more. -/
namespace KinicBridge

/-- A pull that was sent, with the attempt as it was dispatched. -/
structure FundingCall where
  number : Nat
  attempt : DepositFundingAttempt
  deriving DecidableEq

structure FundingScan where
  attempt : DepositFundingAttempt
  progress : ReconciliationScanProgress
  finalAbsenceScan : Bool
  start : ScanStart
  seen : List Transaction

/-- `begun` is when the scan saved in the attempt started, `issued` every identity sent. -/
structure FundingWorld where
  now : Nat
  fee : Nat
  ledger : List Transaction
  store : FundingStore
  calls : Nat
  waiting : List FundingCall
  requests : List FundingCall
  replies : List (FundingCall × TransferFromResult)
  begun : ScanStart
  scans : List FundingScan
  issued : List LedgerTransferIdentity
  ambiguous : List LedgerTransferIdentity

structure FundingSubject where
  config : BridgeConfig
  id : Bytes32

namespace FundingSubject

def Pulled (subject : FundingSubject) (transaction : Transaction) : Prop :=
  ∃ transfer, transaction.transfer = some transfer ∧
    transfer.memo = some (memoBytes (subject.config.depositMemo subject.id)) ∧
    spenderMatches transfer.spender (some { subject.config.self with subaccount := 0 }) = true

structure Owns (subject : FundingSubject) (identity : LedgerTransferIdentity) : Prop where
  operation : identity.operation = .pullDeposit
  memo : identity.memo = subject.config.depositMemo subject.id
  spender : identity.spender = some { subject.config.self with subaccount := 0 }

end FundingSubject

namespace FundingWorld

section

variable (world : FundingWorld) (subject : FundingSubject)

def stored : Option DepositFundingAttempt :=
  world.store.attempts.get subject.id

def recorded : Option DepositRecord :=
  world.store.settlement.deposits.get subject.id

def scanStart (progress : ReconciliationScanProgress) : ScanStart :=
  if progress = .new (.fundingAttempt subject.id) progress.transfer then
    ⟨world.now, world.ledger⟩
  else world.begun

def startAfter (scan : FundingScan) : ReconciliationOutcome → ScanStart
  | .progress _ | .noProgress _ => scan.start
  | .succeeded _ | .absent .. => world.begun

/-- The pulls with an ambiguous answer, once the call has this outcome. -/
def ambiguousAfter (call : FundingCall) (outcome : LedgerCallOutcome) :
    List LedgerTransferIdentity :=
  if outcome = .ambiguous then call.attempt.transfer :: world.ambiguous else world.ambiguous

end

variable (subject : FundingSubject)

structure Initial (subject : FundingSubject) (world : FundingWorld) : Prop where
  clock : world.now ≤ Checked.limit 64
  attempt : world.stored subject = none
  deposit : world.recorded subject = none
  ledger : ∀ transaction ∈ world.ledger, ¬subject.Pulled transaction
  calls : world.waiting = [] ∧ world.requests = [] ∧ world.replies = [] ∧ world.scans = []
  issued : world.issued = [] ∧ world.ambiguous = []

/-- Only the canister pulls with itself as the spender, and only this deposit has its memo,
so all other blocks are `otherBlock`s. -/
inductive Step (subject : FundingSubject) (world : FundingWorld) : FundingWorld → Prop where
  | tick (later : world.now ≤ time) (clock : time ≤ Checked.limit 64) :
      Step subject world { world with now := time }
  | feeChanged (charged : Nat) : Step subject world { world with fee := charged }
  | otherBlock (admits : ledgerRule.Admits world.now world.ledger transaction)
      (other : ¬subject.Pulled transaction) :
      Step subject world { world with ledger := world.ledger ++ [transaction] }
  | elsewhere {written : FundingStore}
      (attempts : written.attempts.get subject.id = world.store.attempts.get subject.id)
      (deposits : written.settlement.deposits.get subject.id =
        world.store.settlement.deposits.get subject.id)
      (holds : ∀ hold, world.store.settlement.holds.get hold.id = some hold →
        hold.request = .depositFunding subject.id →
          written.settlement.holds.get hold.id = some hold) :
      Step subject world { world with store := written }
  | prepared (mine : intent.depositId = subject.id)
      (done : subject.config.prepareFunding world.now world.store intent grossAmount
        maxServiceFee = .ok (written, outcome)) :
      Step subject world { world with store := written }
  | dispatched {intent : DepositIntent} (mine : intent.depositId = subject.id)
      (done : world.store.dispatchFunding world.now intent = .ok (written, attempt)) :
      Step subject world
        { world with
          store := written
          calls := world.calls + 1
          waiting := ⟨world.calls + 1, attempt⟩ :: world.waiting
          requests := ⟨world.calls + 1, attempt⟩ :: world.requests
          issued := attempt.transfer :: world.issued }
  | handled (arrived : call ∈ world.requests)
      (pulls : LedgerPulls world.fee world.now world.ledger call.attempt.transfer result blocks) :
      Step subject world
        { world with
          ledger := blocks
          requests := world.requests.filter (· ≠ call)
          replies := (call, result) :: world.replies }
  | dropped (call : FundingCall) :
      Step subject world { world with requests := world.requests.filter (· ≠ call) }
  | answered (waits : call ∈ world.waiting) (arrived : (call, result) ∈ world.replies)
      (resumed : world.store.resumeFunding world.now call.attempt (classifyTransferFrom result) =
        .ok written) :
      Step subject world
        { world with
          store := written
          waiting := world.waiting.filter (· ≠ call)
          ambiguous := world.ambiguousAfter call (classifyTransferFrom result) }
  | lost (waits : call ∈ world.waiting)
      (resumed : world.store.resumeFunding world.now call.attempt .ambiguous = .ok written) :
      Step subject world
        { world with
          store := written
          waiting := world.waiting.filter (· ≠ call)
          ambiguous := world.ambiguousAfter call .ambiguous }
  | ignored (call : FundingCall) :
      Step subject world { world with waiting := world.waiting.filter (· ≠ call) }
  | pruned (found : world.stored subject = some attempt) (due : attempt.due ≤ world.now)
      (recovered : world.store.recoverFunding world.now attempt = .ok (written, none)) :
      Step subject world { world with store := written }
  | scanning (found : world.stored subject = some attempt) (due : attempt.due ≤ world.now)
      (recovered : world.store.recoverFunding world.now attempt = .ok (written, some current))
      (reads : current.state = .reconciling progress nextCheckAtNs finalAbsenceScan) :
      Step subject world
        { world with
          store := written
          scans := ⟨current, progress, finalAbsenceScan, world.scanStart subject progress,
            world.ledger⟩ :: world.scans }
  | scanned (waits : scan ∈ world.scans)
      (ran : Dialogue.Runs honestLedger scan.seen
        (reconcileStep subject.config.ledgerId scan.progress) ended outcome noted)
      (grown : ended <+: world.ledger)
      (resumed : world.store.resumeRecovery world.now scan.attempt scan.progress
        scan.finalAbsenceScan outcome = .ok written) :
      Step subject world
        { world with store := written, begun := world.startAfter scan outcome }
  | upgraded : Step subject world { world with waiting := [], scans := [] }

inductive Reaches (subject : FundingSubject) : FundingWorld → Prop where
  | start (initial : Initial subject world) : Reaches subject world
  | step (reached : Reaches subject world) (next : Step subject world world') :
      Reaches subject world'

variable (world : FundingWorld)

/-- The deposit stands for a pull: it holds the pull's block or, after an ambiguous or lost
reply, is held to look for it. -/
def Deposited (identity : LedgerTransferIdentity) : Prop :=
  ∃ record, world.recorded subject = some record ∧ record.transfer = identity ∧
    ((∃ block transaction, record.state = .escrowedUnquoted block ∧
        world.ledger[block]? = some transaction ∧ matchesIdentity transaction identity = true) ∨
      identity ∈ world.ambiguous ∧ ∃ holdId, record.state = .fundingReconciliationHold holdId ∧
        world.store.settlement.holds.get holdId =
          some (.opened holdId (.depositFunding subject.id) identity))

def Remembered (identity : LedgerTransferIdentity) : Prop :=
  (∃ attempt, world.stored subject = some attempt ∧ attempt.transfer = identity) ∨
    world.Deposited subject identity

end FundingWorld

end KinicBridge
