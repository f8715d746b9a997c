import KinicBridge.Deposits.Admission
import KinicBridge.Funding.Attempts
import KinicBridge.Jobs.Scheduler

/-! `advance_deposit`, the settlement task of a deposit, cut at its calls. Each message reads the
record again and either starts one more call or returns a result, which the scheduler turns into the
job's next state at once. -/
namespace KinicBridge

def LedgerFailure.debug : LedgerFailure → String
  | badFee expected => "BadFee \x7b expected_fee: Amount(" ++ toString expected ++ ") \x7d"
  | badBurn minimum => "BadBurn \x7b minimum: Amount(" ++ toString minimum ++ ") \x7d"
  | insufficientFunds balance =>
    "InsufficientFunds \x7b balance: Amount(" ++ toString balance ++ ") \x7d"
  | insufficientAllowance allowance =>
    "InsufficientAllowance \x7b allowance: Amount(" ++ toString allowance ++ ") \x7d"
  | tooOld => "TooOld"
  | createdInFuture time => "CreatedInFuture \x7b ledger_time_ns: " ++ toString time ++ " \x7d"
  | temporarilyUnavailable => "TemporarilyUnavailable"
  | generic code => "Generic \x7b code: " ++ toString code ++ " \x7d"

structure SettlementCanister where
  funding : FundingStore
  jobs : JobStore

namespace SettlementCanister

variable (canister : SettlementCanister)

def settlement : SettlementStore := canister.funding.settlement

def withSettlement (settlement : SettlementStore) : SettlementCanister :=
  { canister with funding := { canister.funding with settlement } }

end SettlementCanister

inductive EscrowPreparation where
  | authorization (quote : DepositQuote) (record : MintAuthorizationRecord)
  | refundAvailable (reason : DepositRefundReason)
  | stopped (reason : SettlementStopReason)
  deriving DecidableEq

/-- Why `commit_deposit_authorization` refuses before it applies anything. -/
inductive CommitRefusal where
  | baseObservationUnavailable
  | mintWindowLimitExceeded
  | other
  deriving DecidableEq

inductive AuthorizationRevalidation where
  | ready
  | capacityDeferred
  | mismatch
  deriving DecidableEq

inductive DepositWait where
  | preparing
  | revalidating
  | signing (digest : Bytes32)
  | revalidatingSigned (signature : List UInt8)
  | holdCall (hold : ReconciliationHoldRecord)
  | holdScan (hold : ReconciliationHoldRecord) (progress : ReconciliationScanProgress)
  | refunding (attempt : TransferAttempt)

structure DepositTask where
  job : SettlementJob
  phase : DepositPhase
  wait : DepositWait

/-- What comes back. Base observations, signatures and ledger replies are arbitrary, and so
are the verdicts of checks that only refuse. -/
inductive DepositAnswer where
  | prepared (result : Except SettlementActionError EscrowPreparation)
      (refusal : Option CommitRefusal)
  | revalidated (result : Except SettlementStopReason AuthorizationRevalidation)
  | signed (result : Except SettlementActionError (Except SettlementStopReason (List UInt8)))
      (recovered : Bool)
  | transferred (outcome : LedgerCallOutcome)
  | scanned (outcome : ReconciliationOutcome)

/-- What a message reads besides the records: the time, whether the cycles for a call are
there, and what `unsigned_authorization_rejection` answers. -/
structure MessageReads where
  now : Nat
  cyclesSuffice : Bool
  rejection : Except DepositError (Option DepositRefundReason)

def MessageReads.seconds (reads : MessageReads) : Nat := reads.now / 1000000000

inductive Advance where
  | waits (canister : SettlementCanister) (task : DepositTask)
  | returns (canister : SettlementCanister) (job : SettlementJob)
      (result : Except SettlementActionError SettlementActionResult)
  | traps

namespace Advance

open Scheduler

variable (reads : MessageReads) (canister : SettlementCanister) (job : SettlementJob)
  (phase : DepositPhase)

def complete : Advance :=
  .returns canister job (.ok (.complete (.deposit phase)))

def stopped (reason : SettlementStopReason) : Advance :=
  .returns canister job (.ok (.stopped (.deposit phase) reason))

def failed (error : SettlementActionError) : Advance := .returns canister job (.error error)

def deferred : Advance :=
  .returns canister job (.ok (.deferred (.deposit phase)
    (Checked.saturatingAdd 64 reads.now capacityRetryNs)))

def renewed (next : SettlementCanister → SettlementJob → Advance) : Advance :=
  if reads.cyclesSuffice = false then failed canister job .insufficientCycles
  else match canister.jobs.renewSettlementLease job reads.now
      (Checked.saturatingAdd 64 reads.now leaseNs) with
    | (true, renewed, jobs) => next { canister with jobs } renewed
    | (false, _, _) => failed canister job .busy

def await (wait : DepositWait) : Advance :=
  renewed reads canister job fun canister job => .waits canister ⟨job, phase, wait⟩

def whileCurrent (next : Advance) : Advance :=
  if canister.jobs.settlementLeaseIsCurrent job then next else failed canister job .busy

variable (written : Except StorageError SettlementStore)

section

variable (next : SettlementCanister → Advance)

def store : Advance :=
  match written with
  | .ok settlement => next (canister.withSettlement settlement)
  | .error _ => failed canister job .storageFailure

/-- Go on after a hold was resolved; a failure traps and undoes the message. -/
def resolve : Advance :=
  match written with
  | .ok settlement => next (canister.withSettlement settlement)
  | .error _ => .traps

end

/-- The first half of `advance_hold`. -/
def hold (phase : DepositPhase) (hold : ReconciliationHoldRecord) : Advance :=
  if ledgerIdentityCanStillBeAccepted hold.transfer.createdAtTimeNs reads.now then
    renewed reads canister job fun canister job =>
      if hold.transfer.operation = .feePayout then stopped canister job phase .ledgerUnavailable
      else .waits canister ⟨job, phase, .holdCall hold⟩
  else match canister.settlement.holdScan hold with
    | .ok (settlement, progress) =>
      await reads (canister.withSettlement settlement) job phase (.holdScan hold progress)
    | .error _ => failed canister job .storageFailure

def pending (deposit : DepositRecord) : Advance :=
  match deposit.mintAuthorization, reads.rejection with
  | none, _ | some _, .error _ => failed canister job .storageFailure
  | some _, .ok (some reason) =>
    store canister job
      (canister.settlement.applyDeposit deposit.id (.markRefundAvailable reason none))
      fun canister => complete canister job .refundAvailable
  | some record, .ok none =>
    if Kernel.mintAuthorizationBeforeDeadline reads.seconds record.authorization.deadline then
      await reads canister job .authorizationPending .revalidating
    else stopped canister job .authorizationPending .authorizationExpired

/-- One turn of the loop of `advance_deposit`. -/
def turn : Advance :=
  match canister.settlement.deposits.get job.key.settlementId with
  | none => failed canister job .notFound
  | some deposit =>
    match deposit.state with
    | .fundingPending => .traps
    | .escrowedUnquoted _ => await reads canister job .escrowedUnquoted .preparing
    | .authorizationPending _ => pending reads canister job deposit
    | .authorizationAvailable _ => complete canister job .authorizationAvailable
    | .refundAvailable .. => complete canister job .refundAvailable
    | .fundingReconciliationHold holdId =>
      match canister.settlement.holds.get holdId with
      | none => failed canister job .notFound
      | some found => hold reads canister job .fundingReconciliationHold found
    | .refundReconciliationHold _ _ holdId _ =>
      match canister.settlement.holds.get holdId with
      | none => failed canister job .notFound
      | some found => hold reads canister job .refundProcessing found
    | .refundPending _ _ attempt => await reads canister job .refundProcessing (.refunding attempt)
    | .minted _ => complete canister job .minted
    | .refunded .. => complete canister job .refunded
    | .cancelled .. => complete canister job .cancelled

def ledgerStop : LedgerCallOutcome → SettlementStopReason
  | .ambiguous => .ledgerAmbiguous
  | .definitiveFailure code => .ledgerRejected code.debug
  | .succeeded _ | .duplicate _ | .retryableFailure _ => .ledgerUnavailable

def commit (quote : DepositQuote) (record : MintAuthorizationRecord)
    (refusal : Option CommitRefusal) : Advance :=
  match refusal with
  | some .baseObservationUnavailable => stopped canister job .escrowedUnquoted .rpcUnavailable
  | some .mintWindowLimitExceeded => deferred reads canister job .escrowedUnquoted
  | some .other => failed canister job .storageFailure
  | none =>
    store canister job (canister.settlement.applyDeposit job.key.settlementId
      (.commitAuthorization quote record)) fun canister => turn reads canister job

def dispatch : Advance :=
  match (canister.settlement.deposits.get job.key.settlementId).map (·.mintAuthorization) with
  | none => failed canister job .notFound
  | some none => failed canister job .storageFailure
  | some (some record) =>
    if Kernel.mintAuthorizationBeforeDeadline reads.seconds record.authorization.deadline then
      store canister job (canister.settlement.dispatchSignature job.key.settlementId)
        fun canister => await reads canister job .authorizationPending (.signing record.digest)
    else stopped canister job .authorizationPending .authorizationExpired

def install (signature : List UInt8) : Advance :=
  match (canister.settlement.deposits.get job.key.settlementId).map (·.mintAuthorization) with
  | none => failed canister job .notFound
  | some none => failed canister job .storageFailure
  | some (some record) =>
    if Kernel.mintAuthorizationBeforeDeadline reads.seconds record.authorization.deadline then
      match reads.rejection with
      | .error _ | .ok (some _) => failed canister job .storageFailure
      | .ok none =>
        store canister job (canister.settlement.applyDeposit job.key.settlementId
          (.authorizationSigned signature reads.seconds))
          fun canister => complete canister job .authorizationAvailable
    else stopped canister job .authorizationPending .authorizationExpired

def revalidated (result : Except SettlementStopReason AuthorizationRevalidation)
    (next : Advance) : Advance :=
  match result with
  | .ok .ready => whileCurrent canister job next
  | .ok .capacityDeferred => deferred reads canister job .authorizationPending
  | .ok .mismatch => stopped canister job .authorizationPending .invalidBaseResponse
  | .error reason => stopped canister job .authorizationPending reason

variable (config : BridgeConfig)

/-- The scan of a hold is saved, or its verdict resolves the hold read again. -/
def scanned (phase : DepositPhase) (hold : ReconciliationHoldRecord)
    (outcome : ReconciliationOutcome) : Advance :=
  let progress (canister : SettlementCanister) : Advance :=
    .returns canister job (.ok (.reconciliationProgress (.deposit phase)))
  match outcome with
  | .noProgress _ => stopped canister job phase .ledgerUnavailable
  | .progress saved =>
    store canister job (canister.settlement.putReconciliationScan saved) progress
  | .succeeded block =>
    match canister.settlement.holds.get hold.id with
    | none => .traps
    | some current =>
      resolve canister (canister.settlement.resolveFound current block (some (.hold hold.id)))
        fun canister => turn reads canister job
  | .absent ledgerWatermark indexWatermark =>
    if indexWatermark < ledgerWatermark then progress canister
    else match canister.settlement.holds.get hold.id with
      | none => .traps
      | some current =>
        resolve canister (canister.settlement.resolveAbsent config reads.now current hold.transfer
          indexWatermark) fun canister => turn reads canister job

def refunded (attempt : TransferAttempt) (outcome : LedgerCallOutcome) : Advance :=
  match outcome with
  | .succeeded block | .duplicate block =>
    store canister job (canister.settlement.applyDeposit job.key.settlementId
      (.refundSucceeded block)) fun canister => turn reads canister job
  | .ambiguous =>
    store canister job (canister.settlement.parkDeposit job.key.settlementId .refundAmbiguous
      .depositRefund fun _ => attempt.identity)
      fun canister => complete canister job .refundProcessing
  | .definitiveFailure code | .retryableFailure code =>
    stopped canister job .refundProcessing (.ledgerRejected code.debug)

/-- The message in which the answer to a task's call arrives. An answer of another kind than
the call's does not occur. -/
def resume (task : DepositTask) (answer : DepositAnswer) : Advance :=
  match task.wait, answer with
  | .preparing, .prepared (.error error) _ => failed canister task.job error
  | .preparing, .prepared (.ok prepared) refusal =>
    whileCurrent canister task.job <| match prepared with
      | .authorization quote record => commit reads canister task.job quote record refusal
      | .refundAvailable reason =>
        store canister task.job (canister.settlement.applyDeposit task.job.key.settlementId
          (.markRefundAvailable reason none)) fun canister =>
            complete canister task.job .refundAvailable
      | .stopped reason => stopped canister task.job task.phase reason
  | .revalidating, .revalidated result =>
    revalidated reads canister task.job result (dispatch reads canister task.job)
  | .signing _, .signed (.error error) _ => failed canister task.job error
  | .signing _, .signed (.ok (.error reason)) _ => stopped canister task.job task.phase reason
  | .signing _, .signed (.ok (.ok signature)) recovered =>
    whileCurrent canister task.job <|
      if recovered = false then stopped canister task.job task.phase .bridgeSignerMismatch
      else if ((canister.settlement.deposits.get task.job.key.settlementId).bind
          (·.mintAuthorization)).isNone then failed canister task.job .storageFailure
      else await reads canister task.job task.phase (.revalidatingSigned signature)
  | .revalidatingSigned signature, .revalidated result =>
    revalidated reads canister task.job result (install reads canister task.job signature)
  | .holdCall found, .transferred outcome =>
    whileCurrent canister task.job <| match outcome.confirmedBlock with
      | some block => resolve canister (canister.settlement.resolveFound found block none)
        fun canister => turn reads canister task.job
      | none => stopped canister task.job task.phase (ledgerStop outcome)
  | .holdScan found _, .scanned outcome =>
    whileCurrent canister task.job <|
      scanned reads canister task.job config task.phase found outcome
  | .refunding attempt, .transferred outcome =>
    whileCurrent canister task.job <| refunded reads canister task.job attempt outcome
  | _, _ => .traps

end Advance

/-- The end of `run_claimed_inner` in the same message: a result settles the job row. -/
def SettlementCanister.settle (canister : SettlementCanister)
    (retryIntervalSeconds now : Nat) : Advance → SettlementCanister × Option DepositTask
  | .waits written task => (written, some task)
  | .returns written job result =>
    ({ written with
        jobs := written.jobs.finish job
          (Scheduler.depositOutcome now retryIntervalSeconds written.jobs job result) }, none)
  | .traps => (canister, none)

end KinicBridge
