import KinicBridge.Settlement.Holds

/-! What a successful transaction can do to the stored settlements. The invariants of whole
runs split on the changes listed here and never unfold a transaction. -/
namespace KinicBridge

open Checked

inductive StoreChange where
  | depositCreated (id : Bytes32)
  | signatureDispatched (id : Bytes32)
  | withdrawalObserved (id : Bytes32)
  | deposit (id : Bytes32) (event : DepositEvent)
  | depositParked (id : Bytes32)
  | depositHold (id : Bytes32) (holdId : Nat) (resolution : DepositHoldResolution)
  | withdrawal (id : Bytes32) (event : WithdrawalEvent)
  | withdrawalParked (id : Bytes32)
  | withdrawalHold (id : Bytes32) (holdId : Nat) (resolution : WithdrawalHoldResolution)
  deriving DecidableEq

namespace SettlementStore

section

variable (store : SettlementStore)

def withOpenedHold (request : RequestReference)
    (transfer : LedgerTransferIdentity) : SettlementStore :=
  { store with
    holds := store.holds.put (.opened store.counters.nextHoldId request transfer)
    counters := { store.counters with nextHoldId := store.counters.nextHoldId + 1 } }

def ScansKept (before after : Table ReconciliationScanProgress.target) : Prop :=
  after = before ∨ ∃ target, after = before.remove target

inductive Change (store : SettlementStore) : StoreChange → SettlementStore → Prop where
  | depositCreated {record : DepositRecord} (accepted : DepositRecord.accept request = .ok record)
      (fresh : store.deposits.get record.id = none) :
      Change store (.depositCreated record.id) { store with deposits := store.deposits.put record }
  | signatureDispatched {deposit : DepositRecord} {counters : CounterState}
      (found : store.deposits.get deposit.id = some deposit)
      (authorization : deposit.mintAuthorization = some record)
      (dispatched : record.dispatchSignature = some next)
      (adjusted : adjustReserved store.counters (some deposit)
        { deposit with mintAuthorization := some next } = .ok counters) :
      Change store (.signatureDispatched deposit.id)
        { store with
          deposits := store.deposits.put { deposit with mintAuthorization := some next }
          counters }
  | withdrawalObserved {record : WithdrawalRecord}
      (burned : record.amountOut + record.chargedServiceFee = record.amount)
      (phase : record.state = .observed) (fresh : store.withdrawals.get record.id = none) :
      Change store (.withdrawalObserved record.id)
        { store with withdrawals := store.withdrawals.put record }
  | depositApplied {previous next : DepositRecord} {counters : CounterState}
      {accounting : AccountingState}
      (found : store.deposits.get next.id = some previous)
      (applied : previous.Applied event next fee)
      (adjusted : adjustReserved store.counters (some previous) next = .ok counters)
      (credited : store.accounting.credit .deposit fee = .ok accounting) :
      Change store (.deposit next.id event)
        { store with deposits := store.deposits.put next, counters, accounting }
  | depositParked {previous next : DepositRecord}
      (found : store.deposits.get next.id = some previous)
      (applied : previous.Applied event next fee)
      (terms : depositHoldTerms previous next =
        some (event, store.counters.nextHoldId, request, transfer))
      (fresh : store.holds.get store.counters.nextHoldId = none) :
      Change store (.depositParked next.id)
        { store.withOpenedHold request transfer with deposits := store.deposits.put next }
  | depositResolved {deposit : DepositRecord} {hold : ReconciliationHoldRecord}
      {counters : CounterState} {scans : Table ReconciliationScanProgress.target}
      (found : store.deposits.get deposit.id = some deposit)
      (held : store.holds.get hold.id = some hold) (isOpen : hold.state = .open_)
      (resolved : DepositHoldResolved deposit hold resolution answer state)
      (adjusted : adjustReserved store.counters (some deposit) { deposit with state } =
        .ok counters)
      (kept : ScansKept store.scans scans) :
      Change store (.depositHold deposit.id hold.id resolution)
        { store with
          deposits := store.deposits.put { deposit with state }
          holds := store.holds.put { hold with state := answer }
          counters
          scans }
  | withdrawalApplied {previous : WithdrawalRecord} {accounting : AccountingState}
      (found : store.withdrawals.get previous.id = some previous)
      (applied : previous.Applied event state fee)
      (credited : store.accounting.credit .withdrawal fee = .ok accounting) :
      Change store (.withdrawal previous.id event)
        { store with withdrawals := store.withdrawals.put { previous with state }, accounting }
  | withdrawalParked {previous : WithdrawalRecord}
      (found : store.withdrawals.get previous.id = some previous)
      (phase : previous.state = .releasePending attempt settlement)
      (fresh : store.holds.get store.counters.nextHoldId = none) :
      Change store (.withdrawalParked previous.id)
        { store.withOpenedHold (.withdrawal previous.id) attempt.identity with
          withdrawals := store.withdrawals.put
            { previous with
              state := .reconciliationHold store.counters.nextHoldId attempt settlement } }
  | withdrawalResolved {withdrawal : WithdrawalRecord} {hold : ReconciliationHoldRecord}
      {accounting : AccountingState} {scans : Table ReconciliationScanProgress.target}
      (found : store.withdrawals.get withdrawal.id = some withdrawal)
      (held : store.holds.get hold.id = some hold) (isOpen : hold.state = .open_)
      (request : hold.request = .withdrawal withdrawal.id)
      (resolved : WithdrawalHoldResolved withdrawal hold resolution answer state fee)
      (credited : store.accounting.credit .withdrawal fee = .ok accounting)
      (kept : ScansKept store.scans scans) :
      Change store (.withdrawalHold withdrawal.id hold.id resolution)
        { store with
          withdrawals := store.withdrawals.put { withdrawal with state }
          holds := store.holds.put { hold with state := answer }
          accounting
          scans }

def createDeposit (request : DepositRequest) : Except StorageError SettlementStore := do
  let record ← liftCore (DepositRecord.accept request)
  if (store.deposits.get record.id).isSome then throw (.core .conflictingReplay)
  return { store with deposits := store.deposits.put record }

def dispatchSignature (id : Bytes32) : Except StorageError SettlementStore := do
  let deposit ← okOr .recordNotFound (store.deposits.get id)
  let record ← okOr .recordNotFound deposit.mintAuthorization
  let dispatched ← okOr .recordNotFound record.dispatchSignature
  store.putDeposit { deposit with mintAuthorization := some dispatched }

def observeWithdrawal (record : WithdrawalRecord) : Except StorageError SettlementStore := do
  let observed ← liftCore (WithdrawalRecord.observed record.id record.baseRequester record.owner
    record.subaccount record.payloadHash record.amount record.maxServiceFee
    record.chargedServiceFee record.amountOut record.observedAtNs)
  if (store.withdrawals.get observed.id).isSome then throw (.core .conflictingReplay)
  return { store with withdrawals := store.withdrawals.put observed }

def applyDeposit (id : Bytes32) (event : DepositEvent) : Except StorageError SettlementStore := do
  let current ← okOr .recordNotFound (store.deposits.get id)
  let (next, result) ← liftCore (current.apply event)
  store.putDepositTransition next result

def applyWithdrawal (id : Bytes32) (event : WithdrawalEvent) :
    Except StorageError SettlementStore := do
  let current ← okOr .recordNotFound (store.withdrawals.get id)
  let (next, _) ← liftCore (current.apply event)
  store.putWithdrawal next

def parkDeposit (id : Bytes32) (event : Nat → DepositEvent)
    (request : Bytes32 → RequestReference) (transfer : DepositRecord → LedgerTransferIdentity) :
    Except StorageError SettlementStore := do
  let holdId := store.counters.nextHoldId
  let current ← okOr .recordNotFound (store.deposits.get id)
  let (next, _) ← liftCore (current.apply (event holdId))
  store.commitDepositHoldBundle next (.opened holdId (request next.id) (transfer next))

def parkWithdrawal (id : Bytes32)
    (transfer : LedgerTransferIdentity) : Except StorageError SettlementStore := do
  let holdId := store.counters.nextHoldId
  let current ← okOr .recordNotFound (store.withdrawals.get id)
  let (next, _) ← liftCore (current.apply (.releaseAmbiguous holdId))
  store.commitWithdrawalHoldBundle next (.opened holdId (.withdrawal next.id) transfer)

end

variable {store store' : SettlementStore} {id : Bytes32}

theorem createDeposit_change (done : store.createDeposit request = .ok store') :
    ∃ id, store.Change (.depositCreated id) store' := by
  obtain ⟨record, accepted, rest⟩ := bind_ok.mp done
  obtain ⟨fresh, rest⟩ := thrown_ok.mp rest
  cases pure_ok.mp rest
  exact ⟨_, .depositCreated (liftCore_ok.mp accepted) (by simpa using fresh)⟩

theorem dispatchSignature_change (done : store.dispatchSignature id = .ok store') :
    store.Change (.signatureDispatched id) store' := by
  obtain ⟨deposit, found, rest⟩ := found_ok.mp done
  obtain ⟨record, authorization, rest⟩ := found_ok.mp rest
  obtain ⟨dispatched, dispatch, written⟩ := found_ok.mp rest
  cases store.deposits.keyed _ _ found
  obtain ⟨previous, feeDelta, counters, accounting, stored, derived, _, adjusted, credited, rfl⟩ :=
    putDepositWithAudit_ok written
  cases found.symm.trans stored
  have noFee : feeDelta = 0 := by
    simp only [derivedFeeDelta, ne_eq, and_not_self, if_false, Except.ok.injEq] at derived
    exact derived.symm
  subst noFee
  cases credited
  exact .signatureDispatched found authorization dispatch adjusted

theorem observeWithdrawal_change {record : WithdrawalRecord}
    (done : store.observeWithdrawal record = .ok store') :
    store.Change (.withdrawalObserved record.id) store' := by
  obtain ⟨observed, accepted, rest⟩ := bind_ok.mp done
  obtain ⟨fresh, rest⟩ := thrown_ok.mp rest
  cases pure_ok.mp rest
  have accepted := liftCore_ok.mp accepted
  simp only [WithdrawalRecord.observed] at accepted
  obtain ⟨_, accepted⟩ := thrown_ok.mp accepted
  obtain ⟨total, sum, accepted⟩ := bind_ok.mp accepted
  obtain ⟨exactly, accepted⟩ := thrown_ok.mp accepted
  cases pure_ok.mp accepted
  have burned := (Amount.checkedAdd_ok.mp sum).1.trans (not_not.mp exactly)
  exact @Change.withdrawalObserved store { record with state := .observed } burned rfl
    (by simpa using fresh)

theorem derivedFeeDelta_of_applied {previous next : DepositRecord}
    (applied : previous.Applied event next fee) : derivedFeeDelta previous next = .ok fee := by
  cases applied with
  | @installed _ _ _ _ _ quote phase _ _ _ quoted =>
    simp [derivedFeeDelta, phase, DepositState.code, quoted]
  | _ => simp [derivedFeeDelta, DepositState.code, DepositRecord.unquoted]

/-- A replay announces no effects, so only a transition is written. -/
theorem applyDeposit_change (done : store.applyDeposit id event = .ok store') :
    store.Change (.deposit id event) store' := by
  obtain ⟨current, found, rest⟩ := found_ok.mp done
  obtain ⟨⟨next, result⟩, accepted, written⟩ := bind_ok.mp rest
  obtain ⟨previous, feeDelta, counters, accounting, stored, derived, fee, adjusted, credited,
    rfl⟩ := putDepositWithAudit_ok written
  have currentId := store.deposits.keyed _ _ found
  rcases DepositRecord.apply_ok (liftCore_ok.mp accepted) with ⟨_, replay, _⟩ | applied
  · subst replay
    obtain ⟨_, effects, _⟩ := found_ok.mp fee
    cases effects
  · obtain ⟨fee, _, _, applied, _⟩ := applied
    have nextId : next.id = id := applied.accepted.1.trans currentId
    have same : previous = current := by
      rw [nextId, found] at stored
      exact (Option.some.inj stored).symm
    subst same
    cases (derivedFeeDelta_of_applied applied).symm.trans derived
    rw [← nextId]
    exact .depositApplied stored applied adjusted credited

theorem netServiceFee_ok {settlement : Settlement} (net : settlement.netServiceFee = .ok fee) :
    fee = settlement.serviceFee - settlement.ledgerFee := by
  unfold Settlement.netServiceFee at net
  cases decided : Kernel.settlementDecision settlement.amountOut settlement.ledgerFee
      settlement.serviceFee with
  | none => simp [decided, Except.map] at net
  | some decision =>
    obtain ⟨_, rfl⟩ := Kernel.settlementDecision_eq_some decided
    simpa [decided, Except.map, eq_comm] using net

theorem withdrawalFeeDelta_replay {record : WithdrawalRecord}
    (fee : withdrawalFeeDelta (·.phaseCode == 1) (some record) record = .ok feeDelta) :
    feeDelta = 0 := by
  cases phase : record.state <;>
    simp [withdrawalFeeDelta, phase, WithdrawalState.phaseCode] at fee <;> exact fee.symm

theorem withdrawalFeeDelta_applied {previous : WithdrawalRecord}
    (applied : previous.Applied event state fee)
    (derived : withdrawalFeeDelta (·.phaseCode == 1) (some previous) { previous with state } =
      .ok feeDelta) : feeDelta = fee := by
  cases applied with
  | started | held =>
    simp only [withdrawalFeeDelta, Except.ok.injEq] at derived
    exact derived.symm
  | released phase =>
    simp only [withdrawalFeeDelta, phase, WithdrawalState.phaseCode, beq_self_eq_true,
      if_true] at derived
    exact netServiceFee_ok (liftCore_ok.mp derived)

theorem withdrawalFeeDelta_resolved {withdrawal : WithdrawalRecord}
    (resolved : WithdrawalHoldResolved withdrawal hold resolution answer state fee)
    (derived : withdrawalFeeDelta (·.phaseCode == 3) (some withdrawal) { withdrawal with state } =
      .ok feeDelta) : feeDelta = fee := by
  cases resolved with
  | releaseAbsent =>
    simp only [withdrawalFeeDelta, Except.ok.injEq] at derived
    exact derived.symm
  | releaseFound phase =>
    simp only [withdrawalFeeDelta, phase, WithdrawalState.phaseCode, beq_self_eq_true,
      if_true] at derived
    exact netServiceFee_ok (liftCore_ok.mp derived)

theorem applyWithdrawal_change (done : store.applyWithdrawal id event = .ok store') :
    store' = store ∨ store.Change (.withdrawal id event) store' := by
  obtain ⟨current, found, rest⟩ := found_ok.mp done
  obtain ⟨⟨next, result⟩, accepted, written⟩ := bind_ok.mp rest
  obtain ⟨feeDelta, accounting, fee, credited, rfl⟩ := putWithdrawal_ok written
  have currentId := store.withdrawals.keyed _ _ found
  rw [← currentId] at found
  rcases WithdrawalRecord.apply_ok (liftCore_ok.mp accepted) with
    ⟨rfl, _, _⟩ | ⟨state, credit, applied, rfl, _⟩
  · rw [found] at fee
    cases withdrawalFeeDelta_replay fee
    cases credited
    left
    rw [Table.put_of_found found]
  · have stored : store.withdrawals.get { current with state }.id = some current := found
    rw [stored] at fee
    cases withdrawalFeeDelta_applied applied fee
    right
    rw [← currentId]
    exact .withdrawalApplied found applied credited

theorem commitHoldBundle_ok {request : RequestReference}
    (committed : store.commitHoldBundle (.opened holdId request transfer) = .ok store') :
    holdId = store.counters.nextHoldId ∧ store.holds.get holdId = none ∧
      store' = store.withOpenedHold request transfer := by
  simp only [commitHoldBundle] at committed
  obtain ⟨unused, committed⟩ := thrown_ok.mp committed
  obtain ⟨next, committed⟩ := thrown_ok.mp committed
  obtain ⟨nextHoldId, sum, rest⟩ := found_ok.mp committed
  have successor := (add_eq_some.mp sum).1
  have same : store.counters.nextHoldId = holdId := not_not.mp next
  cases pure_ok.mp rest
  have fresh : ¬(store.holds.get holdId).isSome = true := (not_or.mp unused).2
  refine ⟨same.symm, ?_, ?_⟩
  · simpa using fresh
  · subst same successor
    rfl

theorem depositHoldTerms_applied {previous next : DepositRecord}
    (terms : depositHoldTerms previous next = some (event, holdId, request, transfer))
    (accepted : previous.apply event = .ok (next, result)) :
    ∃ fee, previous.Applied event next fee := by
  rcases DepositRecord.apply_ok accepted with ⟨rfl, _, _⟩ | ⟨fee, _, _, applied, _⟩
  · unfold depositHoldTerms at terms
    split at terms <;> simp_all
  · exact ⟨fee, applied⟩

theorem commitDepositHoldBundle_change {next : DepositRecord} {request : RequestReference}
    (committed : store.commitDepositHoldBundle next (.opened holdId request transfer) =
      .ok store') : store.Change (.depositParked next.id) store' := by
  obtain ⟨previous, found, rest⟩ := found_ok.mp committed
  obtain ⟨⟨event, termId, termRequest, termTransfer⟩, terms, rest⟩ := found_ok.mp rest
  obtain ⟨⟨expected, result⟩, accepted, rest⟩ := bind_ok.mp rest
  obtain ⟨agrees, rest⟩ := thrown_ok.mp rest
  obtain ⟨opened, opening, final⟩ := bind_ok.mp rest
  obtain ⟨sameRecord, sameHold⟩ := not_or.mp agrees
  cases not_not.mp sameRecord
  cases not_not.mp sameHold
  obtain ⟨rfl, fresh, rfl⟩ := commitHoldBundle_ok opening
  cases pure_ok.mp final
  obtain ⟨fee, applied⟩ :=
    depositHoldTerms_applied terms (liftCore_ok.mp accepted)
  exact .depositParked found applied terms fresh

theorem parkDeposit_change (parked : store.parkDeposit id event request transfer = .ok store') :
    store.Change (.depositParked id) store' := by
  obtain ⟨current, found, rest⟩ := found_ok.mp parked
  obtain ⟨⟨next, _⟩, accepted, committed⟩ := bind_ok.mp rest
  have currentId := store.deposits.keyed _ _ found
  have nextId : next.id = id := by
    rcases DepositRecord.apply_ok (liftCore_ok.mp accepted) with ⟨rfl, _⟩ | ⟨_, _, _, applied, _⟩
    · exact currentId
    · exact applied.accepted.1.trans currentId
  rw [← nextId]
  exact commitDepositHoldBundle_change committed

theorem commitWithdrawalHoldBundle_change {next : WithdrawalRecord}
    (committed : store.commitWithdrawalHoldBundle next
      (.opened holdId (.withdrawal next.id) transfer) = .ok store') :
    store.Change (.withdrawalParked next.id) store' := by
  obtain ⟨previous, found, rest⟩ := found_ok.mp committed
  obtain ⟨⟨termId, termTransfer⟩, terms, rest⟩ := found_ok.mp rest
  obtain ⟨⟨expected, result⟩, accepted, rest⟩ := bind_ok.mp rest
  obtain ⟨agrees, rest⟩ := thrown_ok.mp rest
  obtain ⟨opened, opening, final⟩ := bind_ok.mp rest
  obtain ⟨sameRecord, sameHold⟩ := not_or.mp agrees
  cases not_not.mp sameRecord
  cases not_not.mp sameHold
  obtain ⟨rfl, fresh, rfl⟩ := commitHoldBundle_ok opening
  cases pure_ok.mp final
  rcases WithdrawalRecord.apply_ok (liftCore_ok.mp accepted) with
    ⟨rfl, _, _⟩ | ⟨state, _, applied, rfl, _⟩
  · unfold withdrawalHoldTerms at terms
    split at terms <;> simp_all
  · cases applied with
    | held phase =>
      simp only [withdrawalHoldTerms, phase, Option.some.injEq, Prod.mk.injEq, true_and] at terms
      subst terms
      have stored : store.withdrawals.get previous.id = some previous := found
      have change := Change.withdrawalParked stored phase fresh
      exact change

theorem parkWithdrawal_change (parked : store.parkWithdrawal id transfer = .ok store') :
    store.Change (.withdrawalParked id) store' := by
  obtain ⟨current, found, rest⟩ := found_ok.mp parked
  obtain ⟨⟨next, _⟩, accepted, committed⟩ := bind_ok.mp rest
  have currentId := store.withdrawals.keyed _ _ found
  have nextId : next.id = id := by
    rcases WithdrawalRecord.apply_ok (liftCore_ok.mp accepted) with
      ⟨rfl, _⟩ | ⟨_, _, _, rfl, _⟩
    · exact currentId
    · exact currentId
  rw [← nextId]
  exact commitWithdrawalHoldBundle_change committed

theorem removeScan_kept (removed : store.removeScan target = .ok store') :
    ∃ scans, ScansKept store.scans scans ∧ store' = { store with scans } := by
  cases target with
  | none =>
    cases removed
    exact ⟨_, .inl rfl, rfl⟩
  | some target =>
    obtain ⟨_, rest⟩ := guarded_ok.mp removed
    cases rest
    exact ⟨_, .inr ⟨target, rfl⟩, rfl⟩

theorem persistResolvedHoldBundle_ok {hold : ReconciliationHoldRecord}
    (persisted : store.persistResolvedHoldBundle hold parentIsReplay target write = .ok store') :
    store' = store ∨ ∃ previous written scans, store.holds.get hold.id = some previous ∧
      previous.state = .open_ ∧ hold.state ≠ .open_ ∧
      write { store with holds := store.holds.put hold } = .ok written ∧
      ScansKept written.scans scans ∧ store' = { written with scans } := by
  obtain ⟨previous, found, rest⟩ := found_ok.mp persisted
  split at rest
  · exact .inl (pure_ok.mp rest).symm
  obtain ⟨states, rest⟩ := thrown_ok.mp rest
  obtain ⟨written, wrote, removed⟩ := bind_ok.mp rest
  obtain ⟨scans, kept, rfl⟩ := removeScan_kept removed
  obtain ⟨isOpen, isClosed⟩ := not_or.mp states
  exact .inr ⟨previous, written, scans, found, not_not.mp isOpen, isClosed, wrote, kept, rfl⟩

theorem resolveDepositHoldAndScan_change
    (done : store.resolveDepositHoldAndScan id holdId resolution target = .ok store') :
    store' = store ∨ store.Change (.depositHold id holdId resolution) store' := by
  obtain ⟨deposit, found, rest⟩ := found_ok.mp done
  obtain ⟨hold, held, rest⟩ := found_ok.mp rest
  obtain ⟨⟨next, closed, _⟩, answered, persisted⟩ := bind_ok.mp rest
  cases store.deposits.keyed _ _ found
  cases store.holds.keyed _ _ held
  rcases persistResolvedHoldBundle_ok persisted with same | moved
  · exact .inl same
  obtain ⟨previous, written, scans, stored, isOpen, isClosed, wrote, kept, rfl⟩ := moved
  rcases resolveDepositHold_ok (liftCore_ok.mp answered) with
    ⟨_, rfl, _⟩ | ⟨answer, state, resolved, _, rfl, rfl, _⟩
  · -- a replay leaves the hold as it is, but an open hold cannot be a closed one
    cases held.symm.trans stored
    exact absurd isOpen isClosed
  · cases held.symm.trans stored
    obtain ⟨counters, adjusted, rfl⟩ := returned_ok.mp wrote
    exact .inr (.depositResolved found held isOpen resolved adjusted kept)

theorem resolveWithdrawalHoldAndScan_change
    (done : store.resolveWithdrawalHoldAndScan id holdId resolution target = .ok store') :
    store' = store ∨ store.Change (.withdrawalHold id holdId resolution) store' := by
  obtain ⟨withdrawal, found, rest⟩ := found_ok.mp done
  obtain ⟨hold, held, rest⟩ := found_ok.mp rest
  obtain ⟨⟨next, closed, _⟩, answered, persisted⟩ := bind_ok.mp rest
  cases store.withdrawals.keyed _ _ found
  cases store.holds.keyed _ _ held
  rcases persistResolvedHoldBundle_ok persisted with same | moved
  · exact .inl same
  obtain ⟨previous, written, scans, stored, isOpen, isClosed, wrote, kept, rfl⟩ := moved
  rcases resolveWithdrawalHold_ok (liftCore_ok.mp answered) with
    ⟨request, ⟨_, rfl, _⟩ | ⟨answer, state, fee, resolved, _, rfl, rfl, _⟩⟩
  · cases held.symm.trans stored
    exact absurd isOpen isClosed
  · cases held.symm.trans stored
    obtain ⟨feeDelta, derived, rest⟩ := bind_ok.mp wrote
    obtain ⟨accounting, credited, rfl⟩ := returned_ok.mp rest
    cases withdrawalFeeDelta_resolved resolved derived
    exact .inr (.withdrawalResolved found held isOpen request resolved
      (liftCore_ok.mp credited) kept)

end SettlementStore

end KinicBridge
