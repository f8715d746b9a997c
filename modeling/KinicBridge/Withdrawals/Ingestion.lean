import KinicBridge.Withdrawals.Evidence

/-! Storing a withdrawal. What the contract has checked of a withdrawal is all that the canister
asks of it: the record can be built, its release can be started and both can be written. -/
namespace KinicBridge

open Checked Kernel NotificationConfig WithdrawalRecord

theorem WithdrawalRecord.apply_startRelease {r : WithdrawalRecord} (phase : r.state = .observed)
    (valid : r.validateAttempt attempt settlement = .ok ()) :
    r.apply (.startRelease attempt settlement) =
      .ok ({ r with state := .releasePending attempt settlement }, .ofApplied 0) := by
  have idle : r.isIdempotent (.startRelease attempt settlement) = false := by
    simp [isIdempotent, phase]
  have next : r.nextState (.startRelease attempt settlement) =
      .ok (.releasePending attempt settlement) := by
    simp [nextState, phase, valid, ok_bind, pure, Except.pure]
  simp [apply, phase, idle, next, releaseBlock, ledgerEvent, ok_bind, okOr,
    WithdrawalState.phaseCode, WithdrawalEvent.phaseCode, withdrawalLedgerBlockTransition,
    withdrawalPhaseAllows, withdrawalTransitionEffects, withdrawalPhaseStep,
    pure, Except.pure]

variable {config : NotificationConfig} {stored : StoredWithdrawal} {id : Bytes32}

def StoredWithdrawal.record (config : NotificationConfig) (stored : StoredWithdrawal) (id : Bytes32)
    (observedAtNs : Nat) : WithdrawalRecord where
  id := id
  baseRequester := stored.requester
  owner := stored.owner
  subaccount := stored.subaccount
  payloadHash := config.notifiedWithdrawalPayloadHash (stored.observed id.toNat)
  amount := stored.amount
  maxServiceFee := stored.maxServiceFee
  chargedServiceFee := stored.chargedServiceFee
  amountOut := stored.amountOut
  observedAtNs := observedAtNs
  state := .observed

theorem observed_id (stored : StoredWithdrawal) (id : Bytes32) :
    (stored.observed id.toNat).id = id := by
  simp [StoredWithdrawal.observed]

namespace StoredWithdrawal.WellFormed

variable (formed : stored.WellFormed)

include formed

theorem observed_ok (config : NotificationConfig) (id : Bytes32) (observedAtNs : Nat) :
    WithdrawalRecord.observed (stored.observed id.toNat).id stored.requester stored.owner
      stored.subaccount (config.notifiedWithdrawalPayloadHash (stored.observed id.toNat))
      stored.amount stored.maxServiceFee stored.chargedServiceFee stored.amountOut observedAtNs =
      .ok (stored.record config id observedAtNs) := by
  have paid := formed.paid
  have bounded := formed.bounded
  have total : stored.amountOut + stored.chargedServiceFee = stored.amount := by
    rw [StoredWithdrawal.amountOut]
    omega
  have fits : Amount.checkedAdd stored.amountOut stored.chargedServiceFee = .ok stored.amount :=
    Amount.checkedAdd_ok.mpr ⟨total, formed.amount⟩
  have positive : ¬(stored.amount = 0 ∨ stored.amountOut = 0 ∨
      stored.maxServiceFee < stored.chargedServiceFee) := by
    rw [StoredWithdrawal.amountOut]
    omega
  rw [WithdrawalRecord.observed, if_neg positive, observed_id]
  simp [fits, ok_bind, pure, Except.pure, StoredWithdrawal.record]

theorem owner_valid : stored.owner ≠ [] ∧ stored.owner.length ≤ 29 ∧ stored.owner ≠ [4] := by
  have checked := formed.owner
  simp only [BridgeState.invalidPrincipal, Bool.or_eq_false_iff, decide_eq_false_iff_not,
    List.length_eq_zero_iff, not_lt] at checked
  exact ⟨checked.1.1, checked.1.2, checked.2⟩

theorem release_valid (covered : config.ledgerFee ≤ stored.chargedServiceFee) (id : Bytes32)
    (now observedAtNs : Nat) : (stored.record config id observedAtNs).validateAttempt
      ⟨0, config.releaseIdentity now (stored.record config id observedAtNs) formed.owner_valid⟩
      ⟨stored.amountOut, stored.chargedServiceFee, config.ledgerFee⟩ = .ok () := by
  have paid := formed.paid
  have bounded := formed.bounded
  have amount := formed.amount
  have quote : committedQuoteMatches stored.amount stored.amountOut
      stored.chargedServiceFee = true := by
    simp only [committedQuoteMatches, StoredWithdrawal.amountOut, Bool.and_eq_true,
      decide_eq_true_eq, beq_iff_eq]
    refine ⟨⟨paid, decide_eq_true ?_⟩, ?_⟩ <;> omega
  have decided : settlementDecision stored.amountOut config.ledgerFee
      stored.chargedServiceFee ≠ none := by
    rw [settlementDecision, if_neg (by rw [StoredWithdrawal.amountOut]; omega)]
    exact Option.some_ne_none _
  simp [validateAttempt, StoredWithdrawal.record, BridgeConfig.releaseIdentity,
    releaseTransferMatches, Settlement.validateCommitted, Nat.not_lt.mpr bounded, quote,
    decided]

end StoredWithdrawal.WellFormed

def StoredWithdrawal.released (config : NotificationConfig) (stored : StoredWithdrawal)
    (id : Bytes32) (now observedAtNs : Nat)
    (valid : stored.owner ≠ [] ∧ stored.owner.length ≤ 29 ∧ stored.owner ≠ [4]) :
    WithdrawalRecord :=
  let record := stored.record config id observedAtNs
  { record with
    state := .releasePending ⟨0, config.releaseIdentity now record valid⟩
      ⟨stored.amountOut, stored.chargedServiceFee, config.ledgerFee⟩ }

def NotificationStore.withWithdrawal (store : NotificationStore) (record : WithdrawalRecord)
    (progress : ExternalProgress) (hash : Bytes32) (events : Nat) : NotificationStore :=
  { store with
    settlement := { store.settlement with
      withdrawals := store.settlement.withdrawals.put record }
    notifications := Function.update store.notifications hash (some record.id)
    nextAuditSequence := store.nextAuditSequence + events
    progress }

/-- No counter overflows with one more withdrawal and its audit events. -/
structure NotificationStore.HasRoom (store : NotificationStore) (amountOut : Nat) : Prop where
  operations : store.pendingLedgerOperations ≠ limit 64
  audited : store.nextAuditSequence + 3 ≤ limit 64
  liability : store.withdrawalLiability + amountOut ≤ limit 128

section Writes

variable {store : NotificationStore} {hash : Bytes32} {stable : FinalizedObservationRecord}
  {progress : ExternalProgress} (formed : stored.WellFormed)

include formed

theorem observedRecord_eq (numbered : checkpoint = stable.blockNumber)
    (observed : store.progress.observeFinalized stable = .ok progress) :
    config.observedRecord store (stored.observed id.toNat) checkpoint stable =
      .ok (stored.record config id stable.observedAtNs, progress) := by
  have record := formed.observed_ok config id stable.observedAtNs
  rw [observedRecord]
  change (orError _ (WithdrawalRecord.observed (stored.observed id.toNat).id
    stored.requester stored.owner stored.subaccount _ stored.amount stored.maxServiceFee
    stored.chargedServiceFee stored.amountOut _) >>= _) = _
  rw [record]
  simp [numbered, observed, orError, ok_bind, pure, Except.pure]

theorem released_apply (covered : config.ledgerFee ≤ stored.chargedServiceFee) (id : Bytes32)
    (now observedAtNs : Nat) : (stored.record config id observedAtNs).apply (.startRelease
      ⟨0, config.releaseIdentity now (stored.record config id observedAtNs) formed.owner_valid⟩
      ⟨stored.amountOut, stored.chargedServiceFee, config.ledgerFee⟩) =
      .ok (stored.released config id now observedAtNs formed.owner_valid, .ofApplied 0) :=
  apply_startRelease rfl (formed.release_valid covered id now observedAtNs)

theorem observedRecord_outdated (config : NotificationConfig) (id : Bytes32)
    (newer : stable.blockNumber < store.progress.lastFinalizedBaseBlock) :
    config.observedRecord store (stored.observed id.toNat) stable.blockNumber stable =
      .error .baseStateMismatch := by
  have record := formed.observed_ok config id stable.observedAtNs
  have stale : store.progress.observeFinalized stable = .error .staleFinalizedObservation := by
    rw [ExternalProgress.observeFinalized, if_pos newer]
    rfl
  rw [observedRecord]
  change (orError _ (WithdrawalRecord.observed (stored.observed id.toNat).id
    stored.requester stored.owner stored.subaccount _ stored.amount stored.maxServiceFee
    stored.chargedServiceFee stored.amountOut _) >>= _) = _
  rw [record, stale]
  simp [orError, bind, Except.bind]

theorem releasedRecord_eq (covered : config.ledgerFee ≤ stored.chargedServiceFee) (id : Bytes32)
    (now observedAtNs : Nat) : config.releasedRecord now (stored.record config id observedAtNs) =
      .ok (stored.released config id now observedAtNs formed.owner_valid) := by
  have valid : (stored.record config id observedAtNs).owner ≠ [] ∧
      (stored.record config id observedAtNs).owner.length ≤ 29 ∧
      (stored.record config id observedAtNs).owner ≠ [4] := formed.owner_valid
  rw [releasedRecord, dif_pos valid]
  exact congrArg (fun result => (orError _ result).map (·.1))
    (released_apply formed covered id now observedAtNs)

theorem checkReleaseStarted_eq (covered : config.ledgerFee ≤ stored.chargedServiceFee)
    (id : Bytes32) (now observedAtNs : Nat) : NotificationStore.checkReleaseStarted
      (stored.released config id now observedAtNs formed.owner_valid) = .ok () := by
  have started := released_apply formed covered id now observedAtNs
  change (liftCore ((stored.record config id observedAtNs).apply _) >>= _) = _
  rw [started]
  simp [liftCore, Except.mapError, ok_bind, pure, Except.pure]

omit formed in
theorem adjustActiveCount_added (current : Nat) (active : Bool) :
    (∃ next, adjustActiveCount current false active = .ok next) ∨
      adjustActiveCount current false active = .error .counterOverflow ∧ current = limit 64 := by
  cases active with
  | false => exact .inl ⟨current, rfl⟩
  | true =>
    unfold adjustActiveCount succ
    by_cases full : current = limit 64
    · rw [if_pos full]
      exact .inr ⟨rfl, full⟩
    · rw [if_neg full]
      exact .inl ⟨current + 1, rfl⟩

omit formed in
theorem insertWithdrawal_eq (store : NotificationStore) (record : WithdrawalRecord)
    (progress : ExternalProgress) (hash : Bytes32) (few : events ≤ 3) :
    store.insertWithdrawal record progress hash events =
        .ok (store.withWithdrawal record progress hash events) ∨
      store.insertWithdrawal record progress hash events = .error .counterOverflow ∧
        ¬store.HasRoom record.amountOut := by
  unfold NotificationStore.insertWithdrawal
  rcases adjustActiveCount_added store.pendingLedgerOperations record.isPendingLedger with
    ⟨_, counted⟩ | ⟨counted, full⟩
  · rw [counted, ok_bind]
    unfold add
    by_cases audited : store.nextAuditSequence + events ≤ limit 64
    · rw [if_pos audited]
      by_cases liability : store.withdrawalLiability + record.amountOut ≤ limit 128
      · rw [if_pos liability]
        exact .inl rfl
      · rw [if_neg liability]
        exact .inr ⟨rfl, fun room => liability room.liability⟩
    · rw [if_neg audited]
      exact .inr ⟨rfl, fun room => audited ((Nat.add_le_add_left few _).trans room.audited)⟩
  · rw [counted]
    exact .inr ⟨rfl, fun room => room.operations full⟩

variable (fresh : store.settlement.withdrawals.get id = none)
  (unknown : store.notifications hash = none) (numbered : checkpoint = stable.blockNumber)
  (observed : store.progress.observeFinalized stable = .ok progress)

include fresh unknown numbered observed

theorem tripFeeGuard_eq (short : stored.chargedServiceFee < config.ledgerFee) (now : Nat) :
    config.tripFeeGuard now store (stored.observed id.toNat) hash checkpoint stable =
        .ok { store.withWithdrawal (stored.record config id stable.observedAtNs) progress hash 3
          with withdrawalFeeGuard := some ⟨config.ledgerFee, stored.chargedServiceFee, now⟩ } ∨
      config.tripFeeGuard now store (stored.observed id.toNat) hash checkpoint stable =
        .error .storageFailure ∧ ¬store.HasRoom stored.amountOut := by
  have absent : ¬((store.notifications hash).isSome ∨
      (store.settlement.withdrawals.get (stored.record config id stable.observedAtNs).id).isSome ∨
      (stored.record config id stable.observedAtNs).state ≠ .observed) := by
    simp [unknown, StoredWithdrawal.record, fresh]
  have tripped : ¬(config.ledgerFee ≤ stored.chargedServiceFee ∨ stored.chargedServiceFee ≠
        (stored.record config id stable.observedAtNs).chargedServiceFee) := by
    simp only [StoredWithdrawal.record, ne_eq, not_true_eq_false, or_false]
    omega
  rw [tripFeeGuard, observedRecord_eq formed numbered observed]
  simp only [ok_bind, NotificationStore.commitWithdrawalFeeGuardTripBundle, absent,
    if_false, StoredWithdrawal.observed, tripped]
  rcases insertWithdrawal_eq store (stored.record config id stable.observedAtNs) progress hash
    (le_refl 3) with inserted | ⟨inserted, full⟩
  · rw [inserted]
    exact .inl rfl
  · rw [inserted]
    exact .inr ⟨rfl, full⟩

theorem ingestRelease_eq (covered : config.ledgerFee ≤ stored.chargedServiceFee) (now : Nat) :
    config.ingestRelease now store (stored.observed id.toNat) hash checkpoint stable =
        .ok (store.withWithdrawal (stored.released config id now stable.observedAtNs
          formed.owner_valid) progress hash 2) ∨
      config.ingestRelease now store (stored.observed id.toNat) hash checkpoint stable =
        .error .storageFailure ∧ ¬store.HasRoom stored.amountOut := by
  have absent : store.settlement.withdrawals.get (stored.released config id now
      stable.observedAtNs formed.owner_valid).id = none := fresh
  have started := checkReleaseStarted_eq formed covered id now stable.observedAtNs
  rw [ingestRelease, observedRecord_eq formed numbered observed]
  simp only [ok_bind, releasedRecord_eq formed covered,
    NotificationStore.commitNewWithdrawalReleaseBundle, unknown, Option.isSome_none,
    Bool.false_eq_true, if_false, absent, started]
  rcases insertWithdrawal_eq store (stored.released config id now stable.observedAtNs
    formed.owner_valid) progress hash (Nat.le_succ 2) with inserted | ⟨inserted, full⟩
  · rw [inserted]
    exact .inl rfl
  · rw [inserted]
    exact .inr ⟨rfl, full⟩

end Writes

def WithdrawalRecord.payload (record : WithdrawalRecord) : WithdrawalRecord :=
  { record with state := .observed }

def WithdrawalRecord.Shows (config : NotificationConfig) (stored : StoredWithdrawal) (id : Bytes32)
    (record : WithdrawalRecord) : Prop :=
  record.payload = stored.record config id record.observedAtNs

/-- How a notification of a finalized withdrawal can end: with a release, with a record behind the
fee guard, with the record that is there already, or refused for one of the reasons listed. -/
inductive Answered (config : NotificationConfig) (store : NotificationStore) (hash id : Bytes32)
    (stored : StoredWithdrawal) (snapshot : BridgeSnapshot) (stable : FinalizedObservationRecord)
    (now : Nat) : NotificationStore → NotifyWithdrawalResult → Prop where
  | released (valid) (covered : config.ledgerFee ≤ stored.chargedServiceFee)
      (observed : store.progress.observeFinalized stable = .ok progress) :
      Answered config store hash id stored snapshot stable now
        (store.withWithdrawal (stored.released config id now stable.observedAtNs valid) progress
          hash 2)
        (.ok (.ingested id stable.blockNumber))
  | guarded (short : stored.chargedServiceFee < config.ledgerFee)
      (observed : store.progress.observeFinalized stable = .ok progress) :
      Answered config store hash id stored snapshot stable now
        { store.withWithdrawal (stored.record config id stable.observedAtNs) progress hash 3 with
          withdrawalFeeGuard := some ⟨config.ledgerFee, stored.chargedServiceFee, now⟩ }
        (.error (.ledgerFeeExceedsServiceFee config.ledgerFee stored.chargedServiceFee))
  | known (found : store.settlement.withdrawals.get id = some record)
      (shows : record.Shows config stored id) :
      Answered config store hash id stored snapshot stable now store (.ok (.duplicate id))
  | refused (tripped : store.withdrawalFeeGuard = some already) :
      Answered config store hash id stored snapshot stable now store
        (.error (.ledgerFeeExceedsServiceFee already.ledgerFee already.chargedServiceFee))
  | signer (different : snapshot.bridgeSigner ≠ config.signer) :
      Answered config store hash id stored snapshot stable now store (.error .bridgeSignerMismatch)
  | outdated (newer : stable.blockNumber < store.progress.lastFinalizedBaseBlock) :
      Answered config store hash id stored snapshot stable now store (.error .baseStateMismatch)
  | full (exceeded : ¬store.HasRoom stored.amountOut) :
      Answered config store hash id stored snapshot stable now store (.error .storageFailure)

theorem addressed_answered {store : NotificationStore} {hash : Bytes32}
    {stable : FinalizedObservationRecord} (formed : stored.WellFormed)
    (shows : ∀ record, store.settlement.withdrawals.get id = some record →
      record.Shows config stored id)
    (unknown : store.settlement.withdrawals.get id = none → store.notifications hash = none)
    (observed : stable.blockNumber < store.progress.lastFinalizedBaseBlock ∨
      ∃ progress, store.progress.observeFinalized stable = .ok progress)
    (snapshot : BridgeSnapshot) (now : Nat) :
    Answered config store hash id stored snapshot stable now
      (config.addressed now store hash (stored.observed id.toNat) snapshot stable
        stable.blockNumber).1
      (config.addressed now store hash (stored.observed id.toNat) snapshot stable
        stable.blockNumber).2 := by
  unfold addressed
  by_cases different : snapshot.bridgeSigner ≠ config.signer
  · rw [if_pos different]
    exact .signer different
  rw [if_neg different]
  unfold ingestNotifiedWithdrawal existingNotifiedWithdrawal
  rw [observed_id]
  cases found : store.settlement.withdrawals.get id with
  | some record =>
    have same : record.payloadHash =
        config.notifiedWithdrawalPayloadHash (stored.observed id.toNat) :=
      congrArg (·.payloadHash) (shows record found)
    simp only [Option.map_some, same, if_true]
    exact .known found (shows record found)
  | none =>
    cases tripped : store.withdrawalFeeGuard with
    | some already => exact .refused tripped
    | none =>
      have charged : (stored.observed id.toNat).chargedServiceFee = stored.chargedServiceFee := rfl
      simp only [Option.map_none, charged]
      rcases observed with newer | ⟨progress, observed⟩
      · have stale := observedRecord_outdated formed config id newer
        simp only [tripFeeGuard, ingestRelease, stale]
        split <;> exact .outdated newer
      · by_cases short : stored.chargedServiceFee < config.ledgerFee
        · rw [if_pos short]
          rcases tripFeeGuard_eq formed found (unknown found) rfl observed short now with
            tripped | ⟨failed, full⟩
          · rw [tripped]
            exact .guarded short observed
          · rw [failed]
            exact .full full
        · have covered := Nat.not_lt.mp short
          rw [if_neg short]
          rcases ingestRelease_eq formed found (unknown found) rfl observed covered now with
            released | ⟨failed, full⟩
          · rw [released]
            exact .released formed.owner_valid covered observed
          · rw [failed]
            exact .full full

theorem payload_put {withdrawals : Table WithdrawalRecord.id} {record : WithdrawalRecord}
    (found : withdrawals.get record.id = some record) (state : WithdrawalState) (id : Bytes32) :
    ((withdrawals.put { record with state }).get id).map (·.payload) =
      (withdrawals.get id).map (·.payload) := by
  have self : (withdrawals.put { record with state }).get record.id =
      some { record with state } := Table.get_put_self
  by_cases own : id = record.id
  · rw [own, self, found]
    rfl
  · have other : (withdrawals.put { record with state }).get id = withdrawals.get id :=
      Table.get_put_of_ne own
    rw [other]

theorem SettlementStore.Change.payloads {store written : SettlementStore}
    (change : store.Change label written) (old : ∀ id, label ≠ .withdrawalObserved id)
    (id : Bytes32) :
    (written.withdrawals.get id).map (·.payload) = (store.withdrawals.get id).map (·.payload) := by
  cases change with
  | withdrawalObserved => exact absurd rfl (old _)
  | withdrawalApplied found | withdrawalParked found | withdrawalResolved found =>
    exact payload_put found _ id
  | _ => rfl

theorem continueWithdrawal_keeps {store written : NotificationStore} {now : Nat}
    (done : config.continueWithdrawal now store id = .ok written) :
    written.notifications = store.notifications ∧ written.progress = store.progress ∧
      ∀ other, (written.settlement.withdrawals.get other).map (·.payload) =
        (store.settlement.withdrawals.get other).map (·.payload) := by
  obtain ⟨withdrawal, _, done⟩ := bind_ok.mp done
  obtain ⟨_, done⟩ := thrown_ok.mp done
  split at done
  · cases pure_ok.mp done
    exact ⟨rfl, rfl, fun _ => rfl⟩
  · obtain ⟨settlement, started, rfl⟩ := returned_ok.mp done
    refine ⟨rfl, rfl, fun other => ?_⟩
    obtain ⟨_, _, _, _, applied⟩ := BridgeConfig.startRelease_ok started
    rcases SettlementStore.applyWithdrawal_change applied with rfl | change
    · rfl
    · exact change.payloads nofun other

theorem payload_shows {record other : WithdrawalRecord} (same : record.payload = other.payload)
    (shows : other.Shows config stored id) : record.Shows config stored id := by
  have time : record.observedAtNs = other.observedAtNs := congrArg (·.observedAtNs) same
  rw [Shows, same, shows, time]

end KinicBridge
