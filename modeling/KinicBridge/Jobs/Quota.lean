import KinicBridge.Jobs.Fencing
import KinicBridge.Storage.Operations
import KinicBridge.Library.Windows

/-! The quota of manual settlement claims. A claim pays where it is granted, or with a
reservation that was charged before the caller's request went out to an RPC provider. -/
namespace KinicBridge

open Checked

inductive SettlementAdmissionError where
  | rateLimited (retryAfterSeconds : Nat)
  | storage
  deriving DecidableEq

/-- A charge that was made in advance, for one caller and one record. -/
structure PrepaidQuota where
  key : JobKey
  caller : List UInt8
  deriving DecidableEq

def PrepaidQuota.consume (prepaid : PrepaidQuota) (key : JobKey) (caller : List UInt8) : Bool :=
  prepaid.key == key && prepaid.caller == caller

inductive SettlementClaimQuota where
  | charge (limits : SettlementQuotaLimits)
  | prepaid (reservation : PrepaidQuota)
  | unmetered
  deriving DecidableEq

def SettlementClaimQuota.intoLimits (quota : SettlementClaimQuota) (key : JobKey)
    (caller : List UInt8) : Except SettlementAdmissionError (Option SettlementQuotaLimits) :=
  match quota with
  | .charge limits => .ok (some limits)
  | .prepaid reservation => if reservation.consume key caller then .ok none else .error .storage
  | .unmetered => .ok none

inductive ManualSettlementClaim where
  | claimed (job : SettlementJob)
  | automaticProgressPending (nextRunAtNs : Option Nat)
  | busy
  deriving DecidableEq

def manualClaimOutcome : ManualClaimTransaction →
    Except SettlementAdmissionError ManualSettlementClaim
  | .claimed job => .ok (.claimed job)
  | .automaticProgressPending nextRunAtNs => .ok (.automaticProgressPending nextRunAtNs)
  | .busy => .ok .busy
  | .rateLimited retryAfterSeconds => .error (.rateLimited retryAfterSeconds)

structure ManualSettlementClaimContext where
  key : JobKey
  caller : List UInt8
  nowNs : Nat
  leaseUntilNs : Nat
  overdueAfterNs : Nat
  deriving DecidableEq

def ManualSettlementClaimContext.claim (context : ManualSettlementClaimContext)
    (limits : Option SettlementQuotaLimits) (lane : SettlementLeaseLane) : ManualClaim where
  key := context.key
  caller := context.caller
  nowNs := context.nowNs
  leaseUntilNs := context.leaseUntilNs
  overdueAfterNs := context.overdueAfterNs
  limits := limits
  lane := lane

namespace JobStore

variable (store : JobStore)

def reserveSettlementQuota (key : JobKey) (caller : List UInt8) (nowNs : Nat)
    (limits : SettlementQuotaLimits) : Except SettlementAdmissionError (PrepaidQuota × JobStore) :=
  match store.admission.charge limits ⟨key, caller, nowNs, 0, 0, some limits, .publicManual⟩ with
  | .error _ => .error .storage
  | .ok (.inl retryAfterSeconds) => .error (.rateLimited retryAfterSeconds)
  | .ok (.inr admission) => .ok (⟨key, caller⟩, { store with admission })

variable (context : ManualSettlementClaimContext)

def claimSettlementJobWithMode (quota : SettlementClaimQuota) (lane : SettlementLeaseLane) :
    Except SettlementAdmissionError (ManualSettlementClaim × JobStore) := do
  let limits ← quota.intoLimits context.key context.caller
  let (outcome, next) ← orError .storage
    (store.claimSettlementJobTransaction (context.claim limits lane))
  let answer ← manualClaimOutcome outcome
  return (answer, next)

def claimManualSettlementJob (limits : SettlementQuotaLimits) :
    Except SettlementAdmissionError (ManualSettlementClaim × JobStore) :=
  store.claimSettlementJobWithMode context (.charge limits) .publicManual

def claimPrepaidManualSettlementJob
    (prepaid : PrepaidQuota) : Except SettlementAdmissionError (ManualSettlementClaim × JobStore) :=
  store.claimSettlementJobWithMode context (.prepaid prepaid) .publicManual

def claimGovernanceSettlementJob :
    Except SettlementAdmissionError (ManualSettlementClaim × JobStore) :=
  store.claimSettlementJobWithMode context .unmetered .governanceRecovery

end JobStore

/-- The claim comes first in the transaction; the record is written only once it is granted. -/
def putDepositTransitionAndClaimManualJob (jobs : JobStore) (records : StableStore)
    (value : DepositRecord) (result : ApplyResult) (context : ManualSettlementClaimContext)
    (quota : SettlementClaimQuota) :
    Except SettlementAdmissionError (ManualSettlementClaim × JobStore × StableStore) := do
  let prepared ← orError .storage (records.prepareDeposit value (some result))
  let limits ← orError .storage (quota.intoLimits context.key context.caller)
  let (outcome, next) ← orError .storage
    (jobs.claimSettlementJobTransaction (context.claim limits .publicManual))
  let answer ← manualClaimOutcome outcome
  if outcome.grantedJob.isNone then return (answer, next, records)
  let written ← orError .storage (prepared.commit value)
  return (answer, next, written)

/-! The store with the reservations that messages hold while they await their providers, and
what has been charged and granted so far. -/

structure SettlementCharge where
  windowId : Nat
  caller : List UInt8
  key : JobKey
  deriving DecidableEq

section

variable (limits : SettlementQuotaLimits)

def SettlementQuotaLimits.windowNs : Nat :=
  min (limits.windowSeconds * 1000000000) (limit 64)

structure QuotaWorld where
  jobs : JobStore
  records : StableStore
  held : List PrepaidQuota
  charges : List SettlementCharge
  grants : List PrepaidQuota

/-- A reservation is given up by the claim that is made with it, whatever the claim returns. -/
inductive ClaimPayment where
  | direct
  | prepaid (reservation : PrepaidQuota)
  deriving DecidableEq

inductive QuotaOperation where
  | reserve (key : JobKey) (caller : List UInt8) (nowNs : Nat)
  | claim (context : ManualSettlementClaimContext) (payment : ClaimPayment)
  | startRefund (value : DepositRecord) (result : ApplyResult)
      (context : ManualSettlementClaimContext) (payment : ClaimPayment)
  | claimGovernance (context : ManualSettlementClaimContext)
  | background (operation : JobOperation) (unclaimed : ∀ claim, operation ≠ .manualClaim claim)
  | write (operation : StoreOperation)

def QuotaOperation.time : QuotaOperation → Option Nat
  | .reserve _ _ nowNs => some nowNs
  | .claim context _ | .startRefund _ _ context _ | .claimGovernance context => some context.nowNs
  | .background _ _ | .write _ => none

def ClaimPayment.quota : ClaimPayment → SettlementClaimQuota
  | .direct => .charge limits
  | .prepaid reservation => .prepaid reservation

end

def ManualSettlementClaim.isGranted : ManualSettlementClaim → Bool
  | .claimed _ => true
  | _ => false

namespace QuotaWorld

variable (world : QuotaWorld)

def canPay : ClaimPayment → Bool
  | .direct => true
  | .prepaid reservation => reservation ∈ world.held

def pay : ClaimPayment → QuotaWorld
  | .direct => world
  | .prepaid reservation => { world with held := world.held.erase reservation }

variable (limits : SettlementQuotaLimits)

def charged (key : JobKey) (caller : List UInt8) (nowNs : Nat) : QuotaWorld :=
  { world with charges := ⟨nowNs / limits.windowNs, caller, key⟩ :: world.charges }

def granted (context : ManualSettlementClaimContext) (payment : ClaimPayment)
    (answer : ManualSettlementClaim) : QuotaWorld :=
  if answer.isGranted then
    let noted := { world with grants := ⟨context.key, context.caller⟩ :: world.grants }
    match payment with
    | .direct => noted.charged limits context.key context.caller context.nowNs
    | .prepaid _ => noted
  else world

/-- The world after a call; one that fails leaves the stores as they were. -/
def perform (world : QuotaWorld) : QuotaOperation → QuotaWorld
  | .reserve key caller nowNs =>
    match world.jobs.reserveSettlementQuota key caller nowNs limits with
    | .ok (reservation, jobs) =>
      { world with jobs, held := reservation :: world.held }.charged limits key caller nowNs
    | .error _ => world
  | .claim context payment =>
    if world.canPay payment then
      match world.jobs.claimSettlementJobWithMode context (payment.quota limits)
          .publicManual with
      | .ok (answer, jobs) =>
        { world.pay payment with jobs }.granted limits context payment answer
      | .error _ => world.pay payment
    else world
  | .startRefund value result context payment =>
    if world.canPay payment then
      match putDepositTransitionAndClaimManualJob world.jobs world.records value result context
          (payment.quota limits) with
      | .ok (answer, jobs, records) =>
        { world.pay payment with jobs, records }.granted limits context payment answer
      | .error _ => world.pay payment
    else world
  | .claimGovernance context =>
    match world.jobs.claimGovernanceSettlementJob context with
    | .ok (_, jobs) => { world with jobs }
    | .error _ => world
  | .background operation _ => { world with jobs := (world.jobs.perform operation).1 }
  | .write operation => { world with records := world.records.perform operation }

end QuotaWorld

end KinicBridge
