import KinicBridge.Settlement.Payout
import KinicBridge.Ledger.Transfers

/-! Funding attempts. Until its tokens were pulled, a durable attempt stands for a deposit. It is
written before the call, and a timer takes over attempts whose call does not come back. Rows are
replaced only if they still hold what was read. -/
namespace KinicBridge

open Checked

structure DepositIntent where
  depositId : Bytes32
  caller : List UInt8
  ownerSequence : Nat
  baseRecipient : Bytes20
  fromSubaccount : Bytes32
  payloadHash : Bytes32
  deriving DecidableEq

inductive DepositFundingAttemptState where
  | prepared
  | dispatched (dispatchedAtNs : Nat)
  | retryable (retryAfterNs : Nat)
  | reconciling (progress : ReconciliationScanProgress) (nextCheckAtNs : Nat)
      (finalAbsenceScan : Bool)
  deriving DecidableEq

structure DepositFundingAttempt where
  intent : DepositIntent
  grossAmount : Nat
  maxServiceFee : Nat
  transfer : LedgerTransferIdentity
  state : DepositFundingAttemptState
  createdAtNs : Nat
  updatedAtNs : Nat
  lastFailure : Option LedgerFailure
  deriving DecidableEq

namespace DepositFundingAttempt

variable (attempt : DepositFundingAttempt)

def id : Bytes32 := attempt.intent.depositId

def due : Nat :=
  match attempt.state with
  | .prepared | .retryable _ => saturatingAdd 64 attempt.updatedAtNs 120000000000
  | .dispatched dispatchedAtNs => saturatingAdd 64 dispatchedAtNs 30000000000
  | .reconciling _ nextCheckAtNs _ => nextCheckAtNs

def recoveryDueNs : Except StorageError Nat :=
  if attempt.due ≤ limit 63 then .ok attempt.due else .error .counterOverflow

def sendable (now : Nat) (attempt : DepositFundingAttempt) : Bool :=
  match attempt.state with
  | .prepared => true
  | .retryable retryAfterNs => retryAfterNs ≤ now
  | .dispatched _ | .reconciling .. => false

end DepositFundingAttempt

namespace Kernel

inductive FundingAttemptDecision where
  | promoteSuccess
  | promoteAmbiguous
  | release
  | retain
  deriving DecidableEq

def fundingAttemptDecision (kind : Nat) : FundingAttemptDecision :=
  if kind = 0 ∨ kind = 1 then .promoteSuccess
  else if kind = 2 then .promoteAmbiguous
  else if kind = 3 then .release
  else .retain

inductive FundingReconciliationDecision where
  | wait
  | restartFresh
  | release
  deriving DecidableEq

def fundingReconciliationDecision (completeAbsence finalScan dedupExpired : Bool) :
    FundingReconciliationDecision :=
  if !completeAbsence then .wait
  else if !finalScan then .restartFresh
  else if dedupExpired then .release
  else .wait

end Kernel

/-- The rows a deposit's funding reads and writes. `origins` is what a stored deposit keeps of
its intent besides the record. -/
structure FundingStore where
  settlement : SettlementStore
  attempts : Table DepositFundingAttempt.id
  origins : Bytes32 → Option (Nat × Bytes20)
  ownerSequences : List UInt8 → Nat
  depositsPaused : Bool

namespace FundingStore

inductive AdmissionOutcome where
  | existing
  | inserted
  deriving DecidableEq

variable (store : FundingStore)

def prepareDepositFundingAttempt (owner : List UInt8)
    (attempt : DepositFundingAttempt) : Except StorageError (FundingStore × AdmissionOutcome) :=
  if (store.settlement.deposits.get attempt.id).isSome then .error (.core .conflictingReplay)
  else match store.attempts.get attempt.id with
  | some existing =>
    if existing.intent = attempt.intent ∧ existing.transfer = attempt.transfer then
      .ok (store, .existing)
    else .error (.core .conflictingReplay)
  | none =>
    if attempt.intent.caller ≠ owner ∨ attempt.transfer.from_.owner ≠ owner ∨
        attempt.transfer.from_.subaccount ≠ attempt.intent.fromSubaccount ∨
        attempt.transfer.amount ≠ attempt.grossAmount ∨
        attempt.transfer.operation ≠ .pullDeposit then .error (.core .conflictingReplay)
    else if store.depositsPaused then .error .depositsPaused
    else if attempt.intent.ownerSequence ≠ store.ownerSequences owner then
      .error (.sequenceMismatch (store.ownerSequences owner))
    else attempt.recoveryDueNs.map fun _ =>
      ({ store with attempts := store.attempts.put attempt }, .inserted)

def updateDepositFundingAttempt (previous next : DepositFundingAttempt) :
    Except StorageError FundingStore :=
  if previous.intent ≠ next.intent ∨ previous.transfer ≠ next.transfer then
    .error (.core .conflictingReplay)
  else do
    let _ ← next.recoveryDueNs
    if store.attempts.get previous.id ≠ some previous then throw .stale
    return { store with attempts := store.attempts.put next }

variable (attempt : DepositFundingAttempt)

def removeDepositFundingAttempt : Except StorageError FundingStore :=
  if store.attempts.get attempt.id ≠ some attempt then .error .stale
  else .ok { store with attempts := store.attempts.remove attempt.id }

section

variable (record : DepositRecord)

def storedIntent (origin : Nat × Bytes20) : DepositIntent :=
  ⟨record.id, record.transfer.from_.owner, origin.1, origin.2, record.transfer.from_.subaccount,
    record.payloadHash⟩

def promotionFits : Option ReconciliationHoldRecord → Bool
  | none => match record.state with
    | .escrowedUnquoted _ => true
    | _ => false
  | some hold => match record.state with
    | .fundingReconciliationHold holdId =>
      hold == .opened holdId (.depositFunding record.id) record.transfer
    | _ => false

def takeHoldId (counters : CounterState) :
    Option ReconciliationHoldRecord → Except StorageError CounterState
  | none => .ok counters
  | some hold =>
    if counters.nextHoldId ≠ hold.id then .error (.core .conflictingReplay)
    else (okOr .counterOverflow (succ 64 counters.nextHoldId)).map
      fun nextHoldId => { counters with nextHoldId }

def putHold (holds : Table ReconciliationHoldRecord.id) :
    Option ReconciliationHoldRecord → Table ReconciliationHoldRecord.id
  | none => holds
  | some hold => holds.put hold

variable (attempt : DepositFundingAttempt)

def writePromotion (hold : Option ReconciliationHoldRecord) : Except StorageError FundingStore := do
  let nextOwnerSequence ← okOr .counterOverflow
    (succ 64 (store.ownerSequences attempt.intent.caller))
  let numbered ← takeHoldId store.settlement.counters hold
  let counters ← adjustReserved numbered none record
  if counters.reservedDepositMintAmount ≠ store.settlement.counters.reservedDepositMintAmount then
    throw .counterOverflow
  if store.attempts.get record.id ≠ some attempt ∨
      hold.any fun hold => (store.settlement.holds.get hold.id).isSome then throw .stale
  return { store with
    settlement := { store.settlement with
      deposits := store.settlement.deposits.put record
      holds := putHold store.settlement.holds hold
      counters }
    attempts := store.attempts.remove record.id
    origins := Function.update store.origins record.id
      (some (attempt.intent.ownerSequence, attempt.intent.baseRecipient))
    ownerSequences :=
      Function.update store.ownerSequences attempt.intent.caller nextOwnerSequence }

def admitDeposit (hold : Option ReconciliationHoldRecord) : Except StorageError FundingStore :=
  match store.settlement.deposits.get record.id with
  | some existing =>
    if existing.payloadHash = record.payloadHash ∧
        (store.origins record.id).map (storedIntent existing) = some attempt.intent then .ok store
    else .error (.core .conflictingReplay)
  | none =>
    if attempt.intent.depositId ≠ record.id ∨ attempt.intent.payloadHash ≠ record.payloadHash ∨
        attempt.intent.caller ≠ record.transfer.from_.owner ∨
        attempt.intent.fromSubaccount ≠ record.transfer.from_.subaccount ∨
        attempt.transfer ≠ record.transfer ∨ attempt.state = .prepared ∨
        promotionFits record hold = false then .error (.core .conflictingReplay)
    else if attempt.intent.ownerSequence ≠ store.ownerSequences attempt.intent.caller then
      .error (.sequenceMismatch (store.ownerSequences attempt.intent.caller))
    else store.writePromotion record attempt hold

end

def fundedRecord (event : DepositEvent) : Except StorageError DepositRecord := do
  let record ← liftCore (DepositRecord.accept ⟨attempt.intent.depositId,
    attempt.intent.payloadHash, attempt.grossAmount, attempt.maxServiceFee, attempt.transfer⟩)
  let (next, result) ← liftCore (record.apply event)
  if result.depositEffects ≠ some .zero then throw (.core .settlementMismatch)
  return next

def promoteFundingSuccess (blockIndex : Nat) : Except StorageError FundingStore := do
  let record ← fundedRecord attempt (.fundingSucceeded blockIndex)
  store.admitDeposit record attempt none

def promoteFundingAmbiguous : Except StorageError FundingStore := do
  let holdId := store.settlement.counters.nextHoldId
  let record ← fundedRecord attempt (.fundingAmbiguous holdId)
  store.admitDeposit record attempt
    (some (.opened holdId (.depositFunding record.id) record.transfer))

end FundingStore

/-! The first half of `request_deposit`: an attempt is prepared for a new deposit and
dispatched right before its pull is sent. -/

namespace BridgeConfig

variable (config : BridgeConfig)

def depositMemo (depositId : Bytes32) : Bytes32 :=
  config.sha256 ("KINIC-DEPOSIT-MEMO-V3".toUTF8.toList ++ memoBytes depositId)

def pullIdentity (now : Nat) (intent : DepositIntent) (grossAmount : Nat)
    (valid : intent.caller ≠ [] ∧ intent.caller.length ≤ 29 ∧ intent.caller ≠ [4]) :
    LedgerTransferIdentity where
  operation := .pullDeposit
  createdAtTimeNs := now
  memo := config.depositMemo intent.depositId
  amount := grossAmount
  fee := config.ledgerFee
  from_ := ⟨intent.caller, intent.fromSubaccount, valid⟩
  to_ := { config.self with subaccount := 0 }
  spender := some { config.self with subaccount := 0 }

def prepareFunding (now : Nat) (store : FundingStore)
    (intent : DepositIntent) (grossAmount maxServiceFee : Nat) :
    Except StorageError (FundingStore × FundingStore.AdmissionOutcome) :=
  if valid : intent.caller ≠ [] ∧ intent.caller.length ≤ 29 ∧ intent.caller ≠ [4] then
    store.prepareDepositFundingAttempt intent.caller
      ⟨intent, grossAmount, maxServiceFee, config.pullIdentity now intent grossAmount valid,
        .prepared, now, now, none⟩
  else .error (.core .invalidPrincipal)

end BridgeConfig

namespace FundingStore

section

variable (now : Nat) (store : FundingStore)

def dispatchFunding (intent : DepositIntent) :
    Except StorageError (FundingStore × DepositFundingAttempt) :=
  match store.attempts.get intent.depositId with
  | none => .error .recordNotFound
  | some previous =>
    if previous.intent ≠ intent ∨ previous.sendable now = false then
      .error (.core .conflictingReplay)
    else
      let attempt := { previous with state := .dispatched now, updatedAtNs := now }
      (store.updateDepositFundingAttempt previous attempt).map fun store => (store, attempt)

/-- The numbers `request_deposit` gives the kernel for the ledger's answer. -/
def outcomeKind : LedgerCallOutcome → Nat
  | .succeeded _ => 0
  | .duplicate _ => 1
  | .ambiguous => 2
  | .definitiveFailure _ => 3
  | .retryableFailure _ => 4

/-- The second half of `request_deposit`, with the attempt as it was dispatched. -/
def resumeFunding (attempt : DepositFundingAttempt)
    (outcome : LedgerCallOutcome) : Except StorageError FundingStore :=
  match Kernel.fundingAttemptDecision (outcomeKind outcome), outcome with
  | .promoteSuccess, .succeeded block | .promoteSuccess, .duplicate block =>
    store.promoteFundingSuccess attempt block
  | .promoteAmbiguous, .ambiguous => store.promoteFundingAmbiguous attempt
  | .release, .definitiveFailure _ => store.removeDepositFundingAttempt attempt
  | .retain, .retryableFailure code =>
    store.updateDepositFundingAttempt attempt
      { attempt with
        state := .retryable (saturatingAdd 64 now 30000000000)
        updatedAtNs := now
        lastFailure := some code }
  | _, _ => .error .stale

/-! The timer `recover_one_funding_attempt`, cut at its scan. -/

def fundingDedupExpiryBoundaryNs (createdAtTimeNs : Nat) : Nat :=
  saturatingAdd 64 (saturatingAdd 64 createdAtTimeNs ledgerDedupNs)
    60000000000

def fundingDedupExpired (createdAtTimeNs now : Nat) : Bool :=
  fundingDedupExpiryBoundaryNs createdAtTimeNs < now

def fundingFinalScanAtNs (createdAtTimeNs : Nat) : Nat :=
  saturatingAdd 64 (fundingDedupExpiryBoundaryNs createdAtTimeNs) 1

/-- Attempts without an open call are pruned; the others are scanned for. -/
def recoverFunding (attempt : DepositFundingAttempt) :
    Except StorageError (FundingStore × Option DepositFundingAttempt) :=
  match attempt.state with
  | .prepared | .retryable _ =>
    (store.removeDepositFundingAttempt attempt).map fun store => (store, none)
  | .dispatched _ =>
    let next := { attempt with
      state := .reconciling (.new (.fundingAttempt attempt.intent.depositId) attempt.transfer)
        now false
      updatedAtNs := now }
    (store.updateDepositFundingAttempt attempt next).map fun store => (store, some next)
  | .reconciling .. => .ok (store, some attempt)

/-- An absence is believed only from a final scan; any other starts one. -/
def resumeAbsent (current : DepositFundingAttempt)
    (progress : ReconciliationScanProgress) (finalAbsenceScan : Bool) :
    Except StorageError FundingStore :=
  match Kernel.fundingReconciliationDecision true finalAbsenceScan
      (fundingDedupExpired current.transfer.createdAtTimeNs now) with
  | .wait => .ok store
  | .restartFresh =>
    store.updateDepositFundingAttempt current
      { current with
        state := .reconciling (.new progress.target progress.transfer)
          (max (fundingFinalScanAtNs current.transfer.createdAtTimeNs) now) true
        updatedAtNs := now }
  | .release => store.removeDepositFundingAttempt current

def resumeRecovery (current : DepositFundingAttempt)
    (progress : ReconciliationScanProgress) (finalAbsenceScan : Bool) :
    ReconciliationOutcome → Except StorageError FundingStore
  | .progress saved | .noProgress saved =>
    store.updateDepositFundingAttempt current
      { current with
        state := .reconciling saved (saturatingAdd 64 now 30000000000) finalAbsenceScan
        updatedAtNs := now }
  | .succeeded block => store.promoteFundingSuccess current block
  | .absent .. => store.resumeAbsent now current progress finalAbsenceScan

end

variable {store written : FundingStore} {attempt : DepositFundingAttempt} {record : DepositRecord}

theorem updateDepositFundingAttempt_ok {previous next : DepositFundingAttempt}
    (done : store.updateDepositFundingAttempt previous next = .ok written) :
    next.id = previous.id ∧ next.transfer = previous.transfer ∧ next.due ≤ limit 63 ∧
      store.attempts.get previous.id = some previous ∧
      written = { store with attempts := store.attempts.put next } := by
  unfold updateDepositFundingAttempt at done
  split at done
  · cases done
  next same =>
    obtain ⟨intent, transfer⟩ := not_or.mp same
    obtain ⟨due, timed, rest⟩ := bind_ok.mp done
    split at rest
    · exact absurd rest throw_ne_ok
    next current =>
      unfold DepositFundingAttempt.recoveryDueNs at timed
      split at timed
      next fits =>
        have kept : next.id = previous.id := by
          simp only [DepositFundingAttempt.id, not_not.mp intent]
        exact ⟨kept, (not_not.mp transfer).symm, fits, not_not.mp current, (pure_ok.mp rest).symm⟩
      · cases timed

theorem removeDepositFundingAttempt_ok
    (done : store.removeDepositFundingAttempt attempt = .ok written) :
    store.attempts.get attempt.id = some attempt ∧
      written = { store with attempts := store.attempts.remove attempt.id } := by
  unfold removeDepositFundingAttempt at done
  split at done
  · cases done
  next current =>
    cases done
    exact ⟨not_not.mp current, rfl⟩

structure Promoted (store : FundingStore) (record : DepositRecord)
    (attempt : DepositFundingAttempt) (hold : Option ReconciliationHoldRecord)
    (written : FundingStore) : Prop where
  fresh : store.settlement.deposits.get attempt.id = none
  current : store.attempts.get attempt.id = some attempt
  attempts : written.attempts = store.attempts.remove attempt.id
  deposits : written.settlement.deposits = store.settlement.deposits.put record
  holds : written.settlement.holds = putHold store.settlement.holds hold

theorem writePromotion_ok (same : attempt.intent.depositId = record.id)
    (fresh : store.settlement.deposits.get record.id = none)
    (done : store.writePromotion record attempt hold = .ok written) :
    store.Promoted record attempt hold written := by
  obtain ⟨_, _, rest⟩ := bind_ok.mp done
  obtain ⟨numbered, _, rest⟩ := bind_ok.mp rest
  obtain ⟨counters, _, rest⟩ := bind_ok.mp rest
  obtain ⟨_, rest⟩ := thrown_ok.mp rest
  obtain ⟨current, rest⟩ := thrown_ok.mp rest
  cases pure_ok.mp rest
  have id : attempt.id = record.id := same
  refine ⟨id ▸ fresh, ?_, by rw [id], rfl, rfl⟩
  rw [id]
  exact not_not.mp (not_or.mp current).1

theorem admitDeposit_fresh (fresh : store.settlement.deposits.get record.id = none)
    (done : store.admitDeposit record attempt hold = .ok written) :
    store.Promoted record attempt hold written := by
  simp only [admitDeposit, fresh] at done
  split at done
  · cases done
  rename_i matching
  split at done
  · cases done
  have same := not_not.mp (not_or.mp matching).1
  exact writePromotion_ok same fresh done

theorem admitDeposit_ok (done : store.admitDeposit record attempt hold = .ok written) :
    written = store ∨ store.Promoted record attempt hold written := by
  cases found : store.settlement.deposits.get record.id with
  | none => exact .inr (admitDeposit_fresh found done)
  | some existing =>
    simp only [admitDeposit, found] at done
    split at done
    · cases done
      exact .inl rfl
    · cases done

theorem fundedRecord_ok (made : fundedRecord attempt event = .ok record) :
    record.id = attempt.id ∧ record.transfer = attempt.transfer ∧
      ∃ accepted fee, DepositRecord.Applied accepted event record fee := by
  obtain ⟨accepted, requested, rest⟩ := bind_ok.mp made
  obtain ⟨⟨next, result⟩, applied, rest⟩ := bind_ok.mp rest
  obtain ⟨effects, rest⟩ := thrown_ok.mp rest
  cases pure_ok.mp rest
  have asked : accepted.id = attempt.id ∧ accepted.transfer = attempt.transfer := by
    have requested := liftCore_ok.mp requested
    unfold DepositRecord.accept at requested
    split at requested
    · cases requested
    split at requested
    · cases requested
    cases requested
    exact ⟨rfl, rfl⟩
  rcases DepositRecord.apply_ok (liftCore_ok.mp applied) with replay | fresh
  · obtain ⟨_, rfl, _⟩ := replay
    exact absurd (fun same => by cases same) effects
  · obtain ⟨fee, _, _, step, _⟩ := fresh
    obtain ⟨id, transfer, _⟩ := step.accepted
    exact ⟨id.trans asked.1, transfer.trans asked.2, accepted, fee, step⟩

theorem fundedRecord_succeeded
    (made : fundedRecord attempt (.fundingSucceeded block) = .ok record) :
    record.id = attempt.id ∧ record.transfer = attempt.transfer ∧
      record.state = .escrowedUnquoted block := by
  obtain ⟨id, transfer, accepted, fee, applied⟩ := fundedRecord_ok made
  refine ⟨id, transfer, ?_⟩
  cases applied
  rfl

theorem promoteFundingSuccess_ok (done : store.promoteFundingSuccess attempt block = .ok written) :
    written = store ∨ ∃ record : DepositRecord, record.id = attempt.id ∧
      record.transfer = attempt.transfer ∧ record.state = .escrowedUnquoted block ∧
      store.Promoted record attempt none written := by
  obtain ⟨record, made, admitted⟩ := bind_ok.mp done
  obtain ⟨id, transfer, funded⟩ := fundedRecord_succeeded made
  rcases admitDeposit_ok admitted with same | promoted
  · exact .inl same
  · exact .inr ⟨record, id, transfer, funded, promoted⟩

theorem promoteFundingSuccess_records (fresh : store.settlement.deposits.get attempt.id = none)
    (done : store.promoteFundingSuccess attempt block = .ok written) :
    ∃ record, written.settlement.deposits.get attempt.id = some record ∧
      record.transfer = attempt.transfer ∧ record.state = .escrowedUnquoted block := by
  obtain ⟨record, made, admitted⟩ := bind_ok.mp done
  obtain ⟨id, transfer, funded⟩ := fundedRecord_succeeded made
  have promoted := admitDeposit_fresh (id ▸ fresh) admitted
  refine ⟨record, ?_, transfer, funded⟩
  rw [promoted.deposits, ← id]
  exact Table.get_put_self

theorem promoteFundingAmbiguous_ok (done : store.promoteFundingAmbiguous attempt = .ok written) :
    written = store ∨ ∃ (record : DepositRecord) (holdId : Nat), record.id = attempt.id ∧
      record.transfer = attempt.transfer ∧ record.state = .fundingReconciliationHold holdId ∧
      store.Promoted record attempt
        (some (.opened holdId (.depositFunding record.id) record.transfer)) written := by
  obtain ⟨record, made, admitted⟩ := bind_ok.mp done
  obtain ⟨id, transfer, accepted, fee, applied⟩ := fundedRecord_ok made
  have held : record.state = .fundingReconciliationHold store.settlement.counters.nextHoldId := by
    cases applied
    rfl
  rcases admitDeposit_ok admitted with same | promoted
  · exact .inl same
  · exact .inr ⟨record, _, id, transfer, held, promoted⟩

end FundingStore

variable {store written : FundingStore} {intent : DepositIntent} {attempt : DepositFundingAttempt}

theorem BridgeConfig.prepareFunding_ok {config : BridgeConfig}
    (done : config.prepareFunding now store intent grossAmount maxServiceFee =
      .ok (written, outcome)) :
    written = store ∨ store.settlement.deposits.get intent.depositId = none ∧
      store.attempts.get intent.depositId = none ∧ ∃ valid, written = { store with
          attempts := store.attempts.put
            ⟨intent, grossAmount, maxServiceFee, config.pullIdentity now intent grossAmount valid,
              .prepared, now, now, none⟩ } := by
  unfold prepareFunding at done
  split at done
  next valid =>
    unfold FundingStore.prepareDepositFundingAttempt at done
    split at done
    · cases done
    rename_i unrecorded
    split at done
    · split at done
      · cases done
        exact .inl rfl
      · cases done
    rename_i fresh
    split at done
    · cases done
    split at done
    · cases done
    split at done
    · cases done
    obtain ⟨_, _, same⟩ := map_ok.mp done
    cases same
    exact .inr ⟨Option.not_isSome_iff_eq_none.mp unrecorded, fresh, valid, rfl⟩
  · cases done

theorem FundingStore.dispatchFunding_ok
    (done : store.dispatchFunding now intent = .ok (written, attempt)) :
    ∃ previous, store.attempts.get intent.depositId = some previous ∧ previous.sendable now = true ∧
      attempt = { previous with state := .dispatched now, updatedAtNs := now } ∧
      written = { store with attempts := store.attempts.put attempt } := by
  unfold dispatchFunding at done
  split at done
  · cases done
  rename_i previous found
  split at done
  · cases done
  rename_i sendable
  obtain ⟨_, updated, same⟩ := map_ok.mp done
  cases same
  obtain ⟨_, _, _, _, rfl⟩ := updateDepositFundingAttempt_ok updated
  exact ⟨previous, found, by simpa using (not_or.mp sendable).2, rfl, rfl⟩

theorem FundingStore.recoverFunding_pruned
    (done : store.recoverFunding now attempt = .ok (written, none)) :
    (attempt.state = .prepared ∨ ∃ retryAfterNs, attempt.state = .retryable retryAfterNs) ∧
      store.removeDepositFundingAttempt attempt = .ok written := by
  unfold recoverFunding at done
  split at done
  next state =>
    obtain ⟨_, pruned, same⟩ := map_ok.mp done
    cases same
    exact ⟨.inl state, pruned⟩
  next retryAfterNs state =>
    obtain ⟨_, pruned, same⟩ := map_ok.mp done
    cases same
    exact ⟨.inr ⟨retryAfterNs, state⟩, pruned⟩
  · obtain ⟨_, _, same⟩ := map_ok.mp done
    cases same
  · cases done

theorem FundingStore.recoverFunding_scans {current : DepositFundingAttempt}
    (done : store.recoverFunding now attempt = .ok (written, some current)) :
    (written = store ∧ current = attempt) ∨ current = { attempt with
      state := .reconciling (.new (.fundingAttempt attempt.id) attempt.transfer) now false
      updatedAtNs := now } ∧
    written = { store with attempts := store.attempts.put current } := by
  unfold recoverFunding at done
  split at done
  · obtain ⟨_, _, same⟩ := map_ok.mp done
    cases same
  · obtain ⟨_, _, same⟩ := map_ok.mp done
    cases same
  · obtain ⟨_, updated, same⟩ := map_ok.mp done
    cases same
    obtain ⟨_, _, _, _, rfl⟩ := updateDepositFundingAttempt_ok updated
    exact .inr ⟨rfl, rfl⟩
  · cases done
    exact .inl ⟨rfl, rfl⟩

theorem FundingStore.resumeFunding_eq (store : FundingStore) (now : Nat)
    (attempt : DepositFundingAttempt) (outcome : LedgerCallOutcome) :
    store.resumeFunding now attempt outcome = match outcome with
      | .succeeded block | .duplicate block => store.promoteFundingSuccess attempt block
      | .ambiguous => store.promoteFundingAmbiguous attempt
      | .definitiveFailure _ => store.removeDepositFundingAttempt attempt
      | .retryableFailure code => store.updateDepositFundingAttempt attempt { attempt with
            state := .retryable (saturatingAdd 64 now 30000000000)
            updatedAtNs := now
            lastFailure := some code } := by
  cases outcome <;> rfl

theorem FundingStore.deadline_lt_finalScan
    (fits : max (fundingFinalScanAtNs createdAtTimeNs) now ≤ limit 63) :
    acceptanceDeadline createdAtTimeNs < max (fundingFinalScanAtNs createdAtTimeNs) now := by
  unfold fundingFinalScanAtNs fundingDedupExpiryBoundaryNs saturatingAdd at *
  simp only [limit] at *
  unfold acceptanceDeadline ledgerPermittedDriftNs
  omega

end KinicBridge
