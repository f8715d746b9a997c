import KinicBridge.Core.Kernel
import Mathlib.Data.List.AList

/-! The settlement job table: one row per settlement, claimed under a lease whose generation fences
the callbacks of earlier claims. A failing transaction leaves the store as it was. -/
namespace KinicBridge

open Checked Kernel

inductive SettlementJobKind where
  | deposit
  | withdrawal
  | feePayout
  deriving DecidableEq

def SettlementJobKind.sql : SettlementJobKind → Nat
  | .deposit => 0
  | .withdrawal => 1
  | .feePayout => 2

structure JobKey where
  kind : SettlementJobKind
  settlementId : Bytes32
  deriving DecidableEq

inductive SettlementLeaseLane where
  | automatic
  | publicManual
  | governanceRecovery
  deriving DecidableEq

def SettlementLeaseLane.capacity : SettlementLeaseLane → Nat
  | .automatic | .publicManual => 4
  | .governanceRecovery => 1

/-- The status of a row with the one time the table's CHECK allows it to carry. -/
inductive JobPhase where
  | scheduled (nextRunAtNs : Nat)
  | leased (leaseUntilNs : Nat)
  | stopped
  deriving DecidableEq

namespace JobPhase

def isLeased : JobPhase → Bool
  | .leased _ => true
  | _ => false

variable (now : Nat)

def active : JobPhase → Bool
  | .leased deadline => decide (now < deadline)
  | _ => false

def expired : JobPhase → Bool
  | .leased deadline => decide (deadline ≤ now)
  | _ => false

def isScheduled : JobPhase → Bool
  | .scheduled _ => true
  | _ => false

def nextRunAt : JobPhase → Option Nat
  | .scheduled deadline => some deadline
  | _ => none

def due : JobPhase → Option Nat
  | .scheduled deadline | .leased deadline => if deadline ≤ now then some deadline else none
  | .stopped => none

end JobPhase

structure JobRow where
  phase : JobPhase
  attempts : Nat
  leaseGeneration : Nat
  leaseLane : SettlementLeaseLane
  lastError : Option (String × String)
  updatedAtNs : Nat
  deriving DecidableEq

/-- A job handle: the key of a row and the columns read when it was claimed. -/
structure SettlementJob where
  key : JobKey
  row : JobRow
  deriving DecidableEq

structure SettlementQuotaLimits where
  windowSeconds : Nat
  globalLimit : Nat
  perPrincipal : Nat
  perRecord : Nat
  deriving DecidableEq

structure SettlementAdmissionControl where
  windowId : Nat
  globalCount : Nat
  callerCounts : AList fun _ : List UInt8 => Nat
  recordCounts : AList fun _ : JobKey => Nat

inductive DbError where
  | constraint (message : String)
  | recordNotFound
  deriving DecidableEq

/-- The part of the store these transactions touch. `stopReasons` holds the last stop
reason of every settlement record that exists. -/
structure JobStore where
  jobs : AList fun _ : JobKey => JobRow
  admission : SettlementAdmissionControl
  stopReasons : JobKey → Option (Option String)

inductive ManualClaimTransaction where
  | claimed (job : SettlementJob)
  | automaticProgressPending (nextRunAtNs : Option Nat)
  | busy
  | rateLimited (retryAfterSeconds : Nat)
  deriving DecidableEq

inductive SettlementJobClaim where
  | claimed (job : SettlementJob)
  | activeLease (leaseUntilNs : Nat)
  | none
  deriving DecidableEq

structure ManualClaim where
  key : JobKey
  caller : List UInt8
  nowNs : Nat
  leaseUntilNs : Nat
  overdueAfterNs : Nat
  limits : Option SettlementQuotaLimits
  lane : SettlementLeaseLane

namespace JobStore

variable (store : JobStore)

/-- Schedule a settlement; an existing row keeps its generation. -/
def enqueueSettlementJob (key : JobKey) (nowNs : Nat) : JobStore :=
  let generation := ((store.jobs.lookup key).map (·.leaseGeneration)).getD 0
  { store with
    jobs := store.jobs.insert key ⟨.scheduled nowNs, 0, generation, .automatic, none, nowNs⟩ }

def activeInLane (nowNs : Nat) (lane : SettlementLeaseLane) : Nat :=
  (store.jobs.entries.filter fun entry =>
    entry.2.phase.active nowNs && entry.2.leaseLane == lane).length

variable (claim : ManualClaim)

def targetRefusal (row : JobRow) : Option ManualClaimTransaction :=
  let active := row.phase.active claim.nowNs
  match leaseLaneClaimDecision active (row.leaseLane == .automatic) 0
      claim.lane.capacity with
  | .automaticProgressPending =>
    some (if claim.key.kind = .withdrawal then .busy else .automaticProgressPending none)
  | .busy => some .busy
  | .allow =>
    let scheduled := row.phase.isScheduled
    let overdue := row.phase.nextRunAt.any fun deadline =>
      decide (saturatingAdd 64 deadline claim.overdueAfterNs ≤ claim.nowNs)
    let authoritative := scheduled && claim.key.kind != .withdrawal
    if manualClaimAllowed authoritative active (row.phase == .stopped) overdue
        (row.phase.expired claim.nowNs) then none
    else some (.automaticProgressPending row.phase.nextRunAt)

def claimRefusal : Option ManualClaimTransaction :=
  match (store.jobs.lookup claim.key).bind (targetRefusal claim) with
  | some refusal => some refusal
  | none =>
    if leaseLaneClaimDecision false false (store.activeInLane claim.nowNs claim.lane)
        claim.lane.capacity = .busy then some .busy
    else none

end JobStore

def bumpCount [DecidableEq κ] (counts : AList fun _ : κ => Nat) (key : κ) (message : String) :
    Except DbError (AList fun _ : κ => Nat) :=
  (okOr (.constraint message) (add 16 ((counts.lookup key).getD 0) 1)).map
    fun count => counts.insert key count

/-- Charge a manual claim to its quota window. The left answer is the wait in seconds of a
caller that is over a limit. -/
def SettlementAdmissionControl.charge (admission : SettlementAdmissionControl)
    (limits : SettlementQuotaLimits) (claim : ManualClaim) :
    Except DbError (Nat ⊕ SettlementAdmissionControl) := do
  let windowNs := min (limits.windowSeconds * 1000000000) (limit 64)
  let windowId := claim.nowNs / windowNs
  let current := if admission.windowId ≠ windowId then ⟨windowId, 0, ∅, ∅⟩ else admission
  let windowEnd := min ((windowId + 1) * windowNs) (limit 64)
  let retryAfter :=
    max (saturatingAdd 64 (windowEnd - claim.nowNs) 999999999 / 1000000000) 1
  if limits.globalLimit ≤ current.globalCount ∨
      limits.perPrincipal ≤ (current.callerCounts.lookup claim.caller).getD 0 ∨
      limits.perRecord ≤ (current.recordCounts.lookup claim.key).getD 0 then
    return .inl retryAfter
  let globalCount ← okOr (.constraint "settlement quota overflow")
    (add 16 current.globalCount 1)
  let callerCounts ← bumpCount current.callerCounts claim.caller "caller quota overflow"
  let recordCounts ← bumpCount current.recordCounts claim.key "record quota overflow"
  return .inr ⟨windowId, globalCount, callerCounts, recordCounts⟩

namespace JobStore

variable (store : JobStore)

def chargeQuota (claim : ManualClaim) : Except DbError (Nat ⊕ SettlementAdmissionControl) :=
  match claim.limits with
  | none => .ok (.inr store.admission)
  | some limits => store.admission.charge limits claim

def claimSettlementJobTransaction (claim : ManualClaim) :
    Except DbError (ManualClaimTransaction × JobStore) :=
  match store.claimRefusal claim with
  | some refusal => .ok (refusal, store)
  | none => do
    match ← store.chargeQuota claim with
    | .inl retryAfter => return (.rateLimited retryAfter, store)
    | .inr admission =>
      let target := store.jobs.lookup claim.key
      let generation ← okOr (.constraint "lease generation overflow")
        (add 64 ((target.map (·.leaseGeneration)).getD 0) 1)
      let row : JobRow := ⟨.leased claim.leaseUntilNs, (target.map (·.attempts)).getD 0,
        generation, claim.lane, none, claim.nowNs⟩
      return (.claimed ⟨claim.key, row⟩,
        { store with jobs := store.jobs.insert claim.key row, admission })

/-- A row that asks for an automatic claim, with the time it has been asking since. -/
structure DueSettlementCandidate where
  deadlineNs : Nat
  key : JobKey
  row : JobRow

/-- The order of the due queries: time, then kind, then settlement id. -/
def DueSettlementCandidate.before (a b : DueSettlementCandidate) : Bool :=
  a.deadlineNs < b.deadlineNs || (a.deadlineNs == b.deadlineNs &&
    (a.key.kind.sql < b.key.kind.sql || (a.key.kind.sql == b.key.kind.sql &&
      a.key.settlementId ≤ b.key.settlementId)))

def firstDue : List DueSettlementCandidate → Option DueSettlementCandidate
  | [] => none
  | candidate :: rest =>
    match firstDue rest with
    | none => some candidate
    | some other => some (if candidate.before other then candidate else other)

def dueCandidates (nowNs : Nat) : List DueSettlementCandidate :=
  store.jobs.entries.filterMap fun entry =>
    (entry.2.phase.due nowNs).map fun deadline => ⟨deadline, entry.1, entry.2⟩

def earliestAutomaticLease (nowNs : Nat) : Option Nat :=
  (store.jobs.entries.filterMap fun entry =>
    match entry.2.phase with
    | .leased deadline =>
      if nowNs < deadline ∧ entry.2.leaseLane = .automatic then some deadline else none
    | _ => none).min?

/-- Lease an existing row to the automatic lane. The row keeps its last error; the handle
is handed out without one. -/
def grantAutomatic (key : JobKey) (row : JobRow) (nowNs leaseUntilNs : Nat) :
    Except DbError (SettlementJobClaim × JobStore) := do
  let generation ← okOr (.constraint "lease generation overflow")
    (leaseGenerationNext row.leaseGeneration)
  let leased : JobRow := { row with
    phase := .leased leaseUntilNs
    leaseGeneration := generation
    leaseLane := .automatic
    updatedAtNs := nowNs }
  return (.claimed ⟨key, { leased with lastError := none }⟩,
    { store with jobs := store.jobs.insert key leased })

def claimDueSettlementJob (nowNs leaseUntilNs maxActiveLeases : Nat) :
    Except DbError (SettlementJobClaim × JobStore) :=
  if maxActiveLeases = 0 then
    .error (.constraint "automatic settlement concurrency must be positive")
  else if maxActiveLeases ≤ store.activeInLane nowNs .automatic then
    .ok (.activeLease ((store.earliestAutomaticLease nowNs).getD 0), store)
  else match firstDue (store.dueCandidates nowNs) with
    | none => .ok (.none, store)
    | some candidate => store.grantAutomatic candidate.key candidate.row nowNs leaseUntilNs

def claimSpecificDueSettlementJob (key : JobKey) (nowNs leaseUntilNs : Nat) :
    Except DbError (SettlementJobClaim × JobStore) :=
  match store.jobs.lookup key with
  | none => .ok (.none, store)
  | some row =>
    match row.phase with
    | .leased deadline =>
      if nowNs < deadline then .ok (.activeLease deadline, store)
      else store.grantAutomatic key row nowNs leaseUntilNs
    | .scheduled deadline =>
      if deadline ≤ nowNs then store.grantAutomatic key row nowNs leaseUntilNs
      else .ok (.none, store)
    | .stopped => .ok (.none, store)

variable (job : SettlementJob)

/-- The row a handle still holds: leased under the handle's generation. -/
def heldRow : Option JobRow :=
  (store.jobs.lookup job.key).filter fun row =>
    row.phase.isLeased && row.leaseGeneration == job.row.leaseGeneration

def extendLease (row : JobRow) (nowNs leaseUntilNs : Nat) : JobRow :=
  { row with phase := .leased leaseUntilNs, updatedAtNs := nowNs }

def renewSettlementLease (nowNs leaseUntilNs : Nat) : Bool × SettlementJob × JobStore :=
  match store.heldRow job with
  | none => (false, job, store)
  | some row =>
    (true, { job with row := extendLease job.row nowNs leaseUntilNs },
      { store with jobs := store.jobs.insert job.key (extendLease row nowNs leaseUntilNs) })

def settlementLeaseIsCurrent : Bool :=
  ((store.jobs.lookup job.key).filter (·.phase.isLeased)).any fun row =>
    leaseOutcomeIsCurrent row.leaseGeneration job.row.leaseGeneration true

structure JobOutcome where
  nextRunAtNs : Option Nat
  attempts : Nat
  stopError : Option (String × String)
  recordStopReason : Option String
  nowNs : Nat

def finishedStopReason (key : JobKey) (previous reason : Option String) : Option String :=
  if key.kind = .feePayout then previous else reason

def finishedRow (row : JobRow) (outcome : JobOutcome) : Option JobRow :=
  match outcome.stopError, outcome.nextRunAtNs with
  | some error, _ =>
    some { row with
      phase := .stopped
      attempts := outcome.attempts
      lastError := some error
      updatedAtNs := outcome.nowNs }
  | none, some nextRunAtNs =>
    some { row with
      phase := .scheduled nextRunAtNs
      attempts := outcome.attempts
      leaseLane := .automatic
      lastError := none
      updatedAtNs := outcome.nowNs }
  | none, none => none

def finishSettlementJob (outcome : JobOutcome) : Except DbError JobStore :=
  match store.stopReasons job.key with
  | none => .error .recordNotFound
  | some previous =>
    match store.heldRow job with
    | none => .ok store
    | some row => .ok { store with
        stopReasons := Function.update store.stopReasons job.key
          (some (finishedStopReason job.key previous outcome.recordStopReason))
        jobs := match finishedRow row outcome with
          | some finished => store.jobs.insert job.key finished
          | none => store.jobs.erase job.key }

end JobStore

end KinicBridge
