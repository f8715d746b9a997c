import KinicBridge.Jobs.Fencing
import KinicBridge.Settlement.Store

/-! How the scheduler turns the result of a run into the next state of its job row: done,
due again after a delay, or stopped. `now` is the time of the message that writes it. -/
namespace KinicBridge

open Checked

inductive SettlementStopReason where
  | ledgerUnavailable
  | ledgerAmbiguous
  | ledgerRejected (message : String)
  | rpcUnavailable
  | rpcInconsistent
  | invalidBaseResponse
  | signingUnavailable
  | insufficientCycles
  | authorizationExpired
  | authorizationWindowTooShort
  | baseStateMismatch
  | bridgeSignerMismatch
  | ledgerFeeExceedsServiceFee
  | unknown (message : String)
  deriving DecidableEq

namespace SettlementStopReason

def stopReasonText : SettlementStopReason → String
  | ledgerUnavailable => "Ledger unavailable"
  | ledgerAmbiguous => "Ledger result is ambiguous"
  | ledgerRejected message => "Ledger rejected the transfer: " ++ message
  | rpcUnavailable => "Base RPC unavailable"
  | rpcInconsistent => "Base RPC providers disagreed"
  | invalidBaseResponse => "Invalid Base response"
  | signingUnavailable => "Threshold signing unavailable"
  | insufficientCycles => "Insufficient execution cycles"
  | authorizationExpired => "Mint authorization expired before signing completed"
  | authorizationWindowTooShort => "Mint authorization has less than five minutes remaining"
  | baseStateMismatch => "Confirmed Base withdrawal state does not match the creation receipt"
  | bridgeSignerMismatch => "Confirmed Base bridge signer does not match the chain-key signer"
  | ledgerFeeExceedsServiceFee => "Ledger fee exceeds the charged withdrawal service fee"
  | unknown message => message

def debug : SettlementStopReason → String
  | ledgerUnavailable => "LedgerUnavailable"
  | ledgerAmbiguous => "LedgerAmbiguous"
  | ledgerRejected message => "LedgerRejected(" ++ message.quote ++ ")"
  | rpcUnavailable => "RpcUnavailable"
  | rpcInconsistent => "RpcInconsistent"
  | invalidBaseResponse => "InvalidBaseResponse"
  | signingUnavailable => "SigningUnavailable"
  | insufficientCycles => "InsufficientCycles"
  | authorizationExpired => "AuthorizationExpired"
  | authorizationWindowTooShort => "AuthorizationWindowTooShort"
  | baseStateMismatch => "BaseStateMismatch"
  | bridgeSignerMismatch => "BridgeSignerMismatch"
  | ledgerFeeExceedsServiceFee => "LedgerFeeExceedsServiceFee"
  | unknown message => "Unknown(" ++ message.quote ++ ")"

end SettlementStopReason

/-- The phase of a deposit that callers see. A record is never stored before its funding
has an answer. -/
inductive DepositPhase where
  | escrowedUnquoted
  | authorizationPending
  | authorizationAvailable
  | refundAvailable
  | minted
  | fundingReconciliationHold
  | refundProcessing
  | refunded
  | cancelled
  deriving DecidableEq

inductive WithdrawalPhase where
  | observed
  | releasePending
  | paid
  | reconciliationHold
  deriving DecidableEq

inductive SettlementState where
  | deposit (phase : DepositPhase)
  | withdrawal (phase : WithdrawalPhase)
  deriving DecidableEq

inductive SettlementActionResult where
  | complete (state : SettlementState)
  | reconciliationProgress (state : SettlementState)
  | deferred (state : SettlementState) (nextRunAtNs : Nat)
  | stopped (state : SettlementState) (reason : SettlementStopReason)
  deriving DecidableEq

inductive FeePayoutActionResult where
  | complete (state : FeePayoutState)
  | reconciliationProgress (state : FeePayoutState)
  | stopped (state : FeePayoutState) (reason : SettlementStopReason)
  deriving DecidableEq

inductive SettlementActionError where
  | anonymousCaller
  | invalidId
  | notFound
  | unauthorized
  | busy
  | storageFailure
  | wrongState
  | automaticProgressPending (nextRunAtNs : Option Nat)
  | rateLimited (retryAfterSeconds : Nat)
  | insufficientCycles
  deriving DecidableEq

def SettlementActionError.debug : SettlementActionError → String
  | anonymousCaller => "AnonymousCaller"
  | invalidId => "InvalidId"
  | notFound => "NotFound"
  | unauthorized => "Unauthorized"
  | busy => "Busy"
  | storageFailure => "StorageFailure"
  | wrongState => "WrongState"
  | automaticProgressPending none => "AutomaticProgressPending \x7b next_run_at_ns: None \x7d"
  | automaticProgressPending (some time) =>
    "AutomaticProgressPending \x7b next_run_at_ns: Some(" ++ toString time ++ ") \x7d"
  | rateLimited seconds =>
    "RateLimited \x7b retry_after_seconds: " ++ toString seconds ++ " \x7d"
  | insufficientCycles => "InsufficientCycles"

namespace Kernel

def automaticRetryAllowed (automaticLane : Bool) (consecutiveFailures failureLimit : Nat) : Bool :=
  automaticLane && decide (consecutiveFailures < failureLimit)

def settlementFailureCount (current : Nat)
    (automaticLane retryableFailure progressOrDeferred : Bool) : Nat :=
  if progressOrDeferred then 0
  else if automaticLane && retryableFailure then saturatingAdd 8 current 1
  else current

end Kernel

namespace Scheduler

open JobStore

def maxEvmRpcCallNs : Nat := 300 * 1000000000
def maxSequentialEvmRpcRounds : Nat := 3
def leaseCallbackMarginNs : Nat := 120 * 1000000000
def leaseNs : Nat := maxEvmRpcCallNs * maxSequentialEvmRpcRounds + leaseCallbackMarginNs
def busyRetryNs : Nat := 60 * 1000000000
def maxTransientRetryNs : Nat := 15 * 60 * 1000000000
def maxConsecutiveAutomaticFailures : Nat := 3
def maxAutomaticSettlements : Nat := 4

def manualLeaseNs : Nat := 120000000000
def manualOverdueAfterNs : Nat := 300000000000

def capacityRetryNs : Nat := 60000000000

def transientRetryDelayNs (baseSeconds attempts : Nat) : Nat :=
  let multiplier := 2 ^ min attempts 4
  let base := min (max baseSeconds 1 * 1000000000) (limit 64)
  min (min (base * multiplier) (limit 64)) maxTransientRetryNs

def transientRetryAt (now baseSeconds checks : Nat) : Nat :=
  saturatingAdd 64 now (transientRetryDelayNs baseSeconds checks)

def transientStop : SettlementStopReason → Bool
  | .ledgerUnavailable | .ledgerAmbiguous | .rpcUnavailable | .rpcInconsistent
  | .signingUnavailable | .insufficientCycles => true
  | _ => false

def automaticallyDispatches (kind : SettlementJobKind) : Bool := kind != .withdrawal

variable (now : Nat) (job : SettlementJob)

def done : JobOutcome :=
  ⟨none, job.row.attempts, none, none, now⟩

def again (now next attempts : Nat) : JobOutcome := ⟨some next, attempts, none, none, now⟩

def stop (code detail : String) (recordStopReason : Option String) : JobOutcome :=
  ⟨none, job.row.attempts, some (code, detail), recordStopReason, now⟩

def retryOrPark (retryIntervalSeconds : Nat) (detail : String)
    (recordStopReason : Option String) : JobOutcome :=
  let automaticLane := job.row.leaseLane == .automatic
  let failures := Kernel.settlementFailureCount job.row.attempts automaticLane true false
  if Kernel.automaticRetryAllowed automaticLane failures maxConsecutiveAutomaticFailures then
    ⟨some (transientRetryAt now retryIntervalSeconds job.row.attempts), failures, none,
      recordStopReason, now⟩
  else
    let error :=
      if automaticLane then
        ("AutomaticRetryLimitReached",
          "automatic retry limit reached after " ++ toString failures ++ " failures: " ++ detail)
      else ("ManualContinuationRequired", detail)
    ⟨none, failures, some error, recordStopReason, now⟩

def resetConsecutiveFailures : Nat :=
  Kernel.settlementFailureCount job.row.attempts (job.row.leaseLane == .automatic) false true

variable (store : JobStore)

def parkManualDepositBusy (job : SettlementJob) : JobOutcome :=
  stop now job "ManualContinuationRequired" "deposit is busy" (store.stopReasons job.key).join

def depositBusy (job : SettlementJob) : JobOutcome :=
  if job.row.leaseLane = .automatic then
    again now (saturatingAdd 64 now busyRetryNs) job.row.attempts
  else parkManualDepositBusy now store job

def withdrawalBusy : JobOutcome :=
  stop now job "ManualContinuationRequired" "withdrawal is busy"
    (some "Manual continuation required")

def depositOutcome (now retryIntervalSeconds : Nat) (store : JobStore) (job : SettlementJob) :
    Except SettlementActionError SettlementActionResult → JobOutcome
  | .ok (.stopped _ reason) =>
    if transientStop reason then
      retryOrPark now job retryIntervalSeconds reason.debug (some reason.stopReasonText)
    else stop now job "SettlementStopped" reason.debug (some reason.stopReasonText)
  | .ok (.reconciliationProgress _) =>
    again now (transientRetryAt now retryIntervalSeconds 0) (resetConsecutiveFailures job)
  | .ok (.deferred _ nextRunAtNs) => again now nextRunAtNs (resetConsecutiveFailures job)
  | .ok (.complete _) => done now job
  | .error .busy => depositBusy now store job
  | .error .insufficientCycles =>
    retryOrPark now job retryIntervalSeconds "InsufficientCycles"
      (some "Insufficient execution cycles")
  | .error error => stop now job "SettlementActionError" error.debug (some error.debug)

/-- Withdrawals go on only when someone asks. -/
def finishManualWithdrawal : Except SettlementActionError SettlementActionResult → JobOutcome
  | .ok (.complete _) => done now job
  | .ok (.stopped _ reason) =>
    stop now job "SettlementStopped" reason.debug (some reason.stopReasonText)
  | .ok (.reconciliationProgress _) =>
    stop now job "ManualContinuationRequired"
      "withdrawal reconciliation requires another explicit call"
      (some "Manual continuation required")
  | .ok (.deferred ..) =>
    stop now job "ManualContinuationRequired" "withdrawal continuation was deferred"
      (some "Manual continuation required")
  | .error error => stop now job "SettlementActionError" error.debug (some error.debug)

def terminalFeePayoutResult : FeePayoutActionResult → Bool
  | .complete (.succeeded _) | .complete .failed | .stopped .failed _ => true
  | _ => false

/-- The end of `run_claimed_fee_payout`; a busy payout is retried from when its run began. -/
def feePayoutOutcome (started now retryIntervalSeconds : Nat) (job : SettlementJob) :
    Except SettlementActionError FeePayoutActionResult → JobOutcome
  | .ok result =>
    if terminalFeePayoutResult result then done now job
    else match result with
      | .complete _ =>
        stop now job "InvalidFeePayoutCompletion" "nonterminal fee payout returned Complete" none
      | .reconciliationProgress _ =>
        again now (transientRetryAt now retryIntervalSeconds 0) (resetConsecutiveFailures job)
      | .stopped _ reason =>
        if transientStop reason then retryOrPark now job retryIntervalSeconds reason.debug none
        else stop now job "SettlementStopped" reason.debug none
  | .error .busy => again now (saturatingAdd 64 started busyRetryNs) job.row.attempts
  | .error .insufficientCycles =>
    retryOrPark now job retryIntervalSeconds "InsufficientCycles" none
  | .error error => stop now job "SettlementActionError" error.debug none

def guardBusy (job : SettlementJob) : JobOutcome :=
  match job.key.kind with
  | .deposit => depositBusy now store job
  | .withdrawal => withdrawalBusy now job
  | .feePayout => again now (saturatingAdd 64 now busyRetryNs) job.row.attempts

end Scheduler

/-- What one message does to the job table. Handles are those of earlier claims, however
old. -/
inductive SchedulerEvent where
  | dispatchDue
  | enqueue (key : JobKey)
  | claimManual (key : JobKey) (caller : List UInt8) (limits : Option SettlementQuotaLimits)
  | renew (job : SettlementJob)
  | guardBusy (job : SettlementJob)
  | settlementReturned (job : SettlementJob)
      (result : Except SettlementActionError SettlementActionResult)
  | feePayoutReturned (job : SettlementJob) (startedNs : Nat)
      (result : Except SettlementActionError FeePayoutActionResult)
  | recordWritten (key : JobKey) (stopReason : Option (Option String))

namespace JobStore

open Scheduler

variable (store : JobStore)

section

variable (job : SettlementJob)

def finish (outcome : JobOutcome) : JobStore :=
  (store.perform (.finish job outcome)).1

def withoutJob (finished : Option JobRow) : AList fun _ : JobKey => JobRow :=
  match finished with
  | some row => store.jobs.insert job.key row
  | none => store.jobs.erase job.key

theorem finish_cases (outcome : JobOutcome) :
    store.finish job outcome = store ∨ ∃ row stopReasons, store.heldRow job = some row ∧
      store.finish job outcome =
        { store with jobs := store.withoutJob job (finishedRow row outcome), stopReasons } := by
  simp only [finish, perform]
  cases finished : store.finishSettlementJob job outcome with
  | error error => exact .inl rfl
  | ok next =>
    unfold finishSettlementJob at finished
    split at finished
    · contradiction
    split at finished
    · cases finished
      exact .inl rfl
    next row held =>
      cases finished
      exact .inr ⟨row, _, held, by cases finishedRow row outcome <;> rfl⟩

end

def dispatchDue (now : Nat) (store : JobStore) : JobStore × Option SettlementJob :=
  let (leased, granted) := store.perform
    (.claimDue now (saturatingAdd 64 now leaseNs) maxAutomaticSettlements)
  match granted with
  | none => (leased, none)
  | some job =>
    if automaticallyDispatches job.key.kind then (leased, some job)
    else (leased.finish job (stop now job "ManualContinuationRequired"
      "withdrawals are advanced only by explicit frontend calls"
      (some "Manual continuation required")), some job)

def manualClaim (now : Nat) (key : JobKey) (caller : List UInt8)
    (limits : Option SettlementQuotaLimits) : ManualClaim where
  key := key
  caller := caller
  nowNs := now
  leaseUntilNs := saturatingAdd 64 now manualLeaseNs
  overdueAfterNs := manualOverdueAfterNs
  limits := limits
  lane := .publicManual

def occur (retryIntervalSeconds now : Nat) (store : JobStore) :
    SchedulerEvent → JobStore × Option SettlementJob
  | .dispatchDue => store.dispatchDue now
  | .enqueue key => (store.enqueueSettlementJob key now, none)
  | .claimManual key caller limits =>
    ((store.perform (.manualClaim (manualClaim now key caller limits))).1, none)
  | .renew job =>
    ((store.renewSettlementLease job now (saturatingAdd 64 now leaseNs)).2.2, none)
  | .guardBusy job => (store.finish job (Scheduler.guardBusy now store job), none)
  | .settlementReturned job result =>
    match job.key.kind with
    | .deposit => (store.finish job (depositOutcome now retryIntervalSeconds store job result), none)
    | .withdrawal => (store.finish job (finishManualWithdrawal now job result), none)
    | .feePayout => (store, none)
  | .feePayoutReturned job startedNs result =>
    (store.finish job (feePayoutOutcome startedNs now retryIntervalSeconds job result), none)
  | .recordWritten key stopReason => ((store.perform (.writeRecord key stopReason)).1, none)

end JobStore

end KinicBridge
