import KinicBridge.Settlement.Parking

/-! The canister next to the ledger: turns of the canister, blocks of the ledger, replies
that come late or never, and time, in any order. -/
namespace KinicBridge

open WithdrawalEvent

inductive Turn where
  | createDeposit (request : DepositRequest)
  | depositEvent (id : Bytes32) (event : DepositEvent)
  | parkFunding (id : Bytes32)
  | dispatchSignature (id : Bytes32)
  | prepareRefund (id : Bytes32) (reason : DepositRefundReason)
      (expiryEvidence : Option MintExpiryEvidence)
  | observeWithdrawal (record : WithdrawalRecord)
  | startRelease (id : Bytes32)
  | advanceDeposit (id : Bytes32)
  | advanceWithdrawal (id : Bytes32)
  deriving DecidableEq

/-- The store a turn leaves and the call it starts. Refunds start through `prepareRefund`
and deposits are parked together with their hold. -/
def BridgeConfig.perform (config : BridgeConfig) (now : Nat) (store : SettlementStore) :
    Turn → Except StorageError (SettlementStore × Option PayoutTask)
  | .createDeposit request => (store.createDeposit request).map (·, none)
  | .depositEvent id event =>
    if event.code = 1 ∨ event.code = 7 ∨ event.code = 9 then .error .recordNotFound
    else (store.applyDeposit id event).map (·, none)
  | .parkFunding id =>
    (store.parkDeposit id .fundingAmbiguous .depositFunding (·.transfer)).map (·, none)
  | .dispatchSignature id => (store.dispatchSignature id).map (·, none)
  | .prepareRefund id reason expiryEvidence =>
    (config.prepareDepositRefund now store id reason expiryEvidence).map (·, none)
  | .observeWithdrawal record => (store.observeWithdrawal record).map (·, none)
  | .startRelease id => (config.startRelease now store id).map (·, none)
  | .advanceDeposit id => (store.beginDeposit now id).map fun (store, task) => (store, some task)
  | .advanceWithdrawal id =>
    (store.beginWithdrawal config now id).map fun (store, task) => (store, some task)

/-- Time, the ledger's blocks, the canister's records and its calls in flight, each with the
ledger as it was when the call was made. `issued` keeps, newest first, every identity a
request's payout has had. -/
structure PayoutWorld where
  now : Nat
  ledger : List Transaction
  store : SettlementStore
  calls : List (PayoutTask × List Transaction)
  issued : RequestReference → List LedgerTransferIdentity

namespace PayoutWorld

section

variable (world : PayoutWorld)

structure Initial (world : PayoutWorld) : Prop where
  clock : world.now ≤ Checked.limit 64
  distinct : ledgerRule.Distinct world.ledger
  store : world.store = .empty
  calls : world.calls = []
  issued : world.issued = fun _ => []

def withStore (store : SettlementStore) : PayoutWorld :=
  { world with
    store
    issued := fun request => (store.payoutPhase request).track (world.issued request) }

def call (task : Option PayoutTask) : PayoutWorld :=
  { world with calls := (task.map (·, world.ledger)).toList ++ world.calls }

def settle (call : PayoutTask × List Transaction) : PayoutWorld :=
  { world with calls := world.calls.erase call }

end

/-- Everything that may happen next. The ledger admits any block its rule allows, whether or
not a call asks for it, and answers transfers as it likes; scans read its real blocks. -/
inductive Step (config : BridgeConfig) (world : PayoutWorld) : PayoutWorld → Prop where
  | tick (later : world.now ≤ time) (clock : time ≤ Checked.limit 64) :
      Step config world { world with now := time }
  | block (admits : ledgerRule.Admits world.now world.ledger transaction) :
      Step config world { world with ledger := world.ledger ++ [transaction] }
  | turn (turn : Turn)
      (performed : config.perform world.now world.store turn = .ok (written, started)) :
      Step config world ((world.withStore written).call started)
  | reply (outcome : LedgerCallOutcome) (waiting : (task, seen) ∈ world.calls)
      (resumed : world.store.resumeCall task outcome = .ok written) :
      Step config world ((world.withStore written).settle (task, seen))
  | scanned (waiting : (.holdScan hold progress, seen) ∈ world.calls)
      (ran : Dialogue.Runs honestLedger seen (reconcileStep config.ledgerId progress) ended
        outcome noted)
      (grown : ended <+: world.ledger)
      (resumed : world.store.resumeScan config world.now hold outcome = .ok written) :
      Step config world ((world.withStore written).settle (.holdScan hold progress, seen))
  | lost (call : PayoutTask × List Transaction) : Step config world (world.settle call)

inductive Reaches (config : BridgeConfig) : PayoutWorld → Prop where
  | start (initial : Initial world) : Reaches config world
  | step (reached : Reaches config world) (next : Step config world world') :
      Reaches config world'

end PayoutWorld

def PayoutTask.sends : PayoutTask → Option (RequestReference × LedgerTransferIdentity)
  | .release id attempt => some (.withdrawal id, attempt.identity)
  | .refund id attempt => some (.depositRefund id, attempt.identity)
  | .holdCall hold =>
    match hold.request with
    | .depositFunding _ => none
    | request => some (request, hold.transfer)
  | .holdScan .. => none

namespace SettlementStore

/-- A turn that ends in a call leaves the records alone; it may save a new scan. -/
inductive Begun (now : Nat) (store : SettlementStore) : SettlementStore → PayoutTask → Prop where
  | release {id : Bytes32} (phase : store.payoutPhase (.withdrawal id) = .live attempt.identity) :
      Begun now store store (.release id attempt)
  | refund {id : Bytes32} (phase : store.payoutPhase (.depositRefund id) = .live attempt.identity) :
      Begun now store store (.refund id attempt)
  | holdCall (sends : ∀ request identity, (PayoutTask.holdCall hold).sends =
        some (request, identity) → store.payoutPhase request = .live identity) :
      Begun now store store (.holdCall hold)
  | scanResumed (stored : store.holds.get hold.id = some hold)
      (saved : store.scans.get (.hold hold.id) = some progress) :
      Begun now store store (.holdScan hold progress)
  | scanStarted (stored : store.holds.get hold.id = some hold)
      (closed : ledgerIdentityCanStillBeAccepted hold.transfer.createdAtTimeNs now = false) :
      Begun now store
        { store with scans := store.scans.put (.new (.hold hold.id) hold.transfer) }
        (.holdScan hold (.new (.hold hold.id) hold.transfer))

variable {store written : SettlementStore} {hold : ReconciliationHoldRecord} {id : Bytes32}
  {config : BridgeConfig} {turn : Turn}

theorem beginHold_begun (stored : store.holds.get holdId = some hold)
    (sends : ∀ request identity, (PayoutTask.holdCall hold).sends = some (request, identity) →
      store.payoutPhase request = .live identity)
    (done : store.beginHold now hold = .ok (written, task)) : store.Begun now written task := by
  cases store.holds.keyed _ _ stored
  unfold beginHold at done
  split at done
  · obtain ⟨_, done⟩ := guarded_ok.mp done
    cases done
    exact .holdCall sends
  next closed =>
    obtain ⟨⟨scanned, progress⟩, scan, same⟩ := map_ok.mp done
    cases same
    unfold holdScan at scan
    split at scan
    next saved =>
      cases scan
      exact .scanResumed stored saved
    · obtain ⟨_, put, same⟩ := map_ok.mp scan
      cases same
      rw [putReconciliationScan_ok put]
      exact .scanStarted stored (Bool.eq_false_iff.mpr closed)

theorem holdCall_sends (parked : store.Parked (some (holdId, request, transfer)))
    (stored : store.holds.get holdId = some hold)
    (live : (∃ id, request = .depositFunding id) ∨ store.payoutPhase request = .live transfer) :
    ∀ request identity, (PayoutTask.holdCall hold).sends = some (request, identity) →
      store.payoutPhase request = .live identity := by
  obtain ⟨waiting, found, sameRequest, sameTransfer⟩ := parked
  cases found.symm.trans stored
  subst sameRequest sameTransfer
  intro request identity sends
  rcases live with ⟨id, funding⟩ | live
  · simp [PayoutTask.sends, funding] at sends
  · cases kind : hold.request <;> simp only [PayoutTask.sends, kind] at sends
    · cases sends
    · cases sends
      rw [← kind, live]
    · cases sends
      rw [← kind, live]

theorem beginWithdrawal_begun (held : store.Held)
    (done : store.beginWithdrawal config now id = .ok (written, task)) :
    store.Begun now written task := by
  obtain ⟨withdrawal, found, rest⟩ := found_ok.mp done
  have phase := payoutPhase_of_withdrawal found
  cases store.withdrawals.keyed _ _ found
  have parked := held.withdrawals _ _ found
  split at rest
  next attempt settlement state =>
    obtain ⟨_, rest⟩ := thrown_ok.mp rest
    cases pure_ok.mp rest
    exact .release (by rw [phase, state]; rfl)
  next holdId attempt settlement state =>
    obtain ⟨hold, stored, begun⟩ := found_ok.mp rest
    simp only [WithdrawalRecord.holding, state] at parked
    refine beginHold_begun stored (holdCall_sends parked stored (.inr ?_)) begun
    rw [phase, state]
    rfl
  · exact absurd rest throw_ne_ok
  · exact absurd rest throw_ne_ok

theorem beginDeposit_begun (held : store.Held)
    (done : store.beginDeposit now id = .ok (written, task)) : store.Begun now written task := by
  obtain ⟨deposit, found, rest⟩ := found_ok.mp done
  have phase := payoutPhase_of_deposit found
  cases store.deposits.keyed _ _ found
  have parked := held.deposits _ _ found
  split at rest
  next reason funding attempt state =>
    cases pure_ok.mp rest
    exact .refund (by rw [phase, state]; rfl)
  next holdId state =>
    obtain ⟨hold, stored, begun⟩ := found_ok.mp rest
    simp only [DepositRecord.holding, state] at parked
    exact beginHold_begun stored (holdCall_sends parked stored (.inl ⟨_, rfl⟩)) begun
  next reason funding holdId attempt state =>
    obtain ⟨hold, stored, begun⟩ := found_ok.mp rest
    simp only [DepositRecord.holding, state] at parked
    refine beginHold_begun stored (holdCall_sends parked stored (.inr ?_)) begun
    rw [phase, state]
    rfl
  · exact absurd rest throw_ne_ok

theorem respects_of_change (held : store.Held)
    (done : written = store ∨ store.Change label written) (sanctioned : store.Sanctioned dead label) :
    store.Respects dead written := by
  rcases done with rfl | change
  · exact .refl written
  · exact change.respects held sanctioned

def Moved (store written : SettlementStore) : Prop :=
  written = store ∨ ∃ label, store.Change label written ∧ ∀ dead, store.Sanctioned dead label

theorem Moved.of_change (done : written = store ∨ store.Change label written)
    (sanctioned : ∀ dead, store.Sanctioned dead label) : store.Moved written :=
  done.imp_right fun change => ⟨label, change, sanctioned⟩

theorem Moved.respects (moved : store.Moved written)
    (held : store.Held) : store.Respects dead written := by
  rcases moved with rfl | ⟨label, change, sanctioned⟩
  · exact .refl written
  · exact change.respects held (sanctioned dead)

theorem perform_moved
    (done : config.perform now store turn = .ok (written, none)) : store.Moved written := by
  cases turn with
  | createDeposit request =>
    obtain ⟨_, done, same⟩ := map_ok.mp done
    cases same
    obtain ⟨id, change⟩ := createDeposit_change done
    exact .of_change (.inr change) fun _ => trivial
  | depositEvent id event =>
    obtain ⟨permitted, done⟩ := guarded_ok.mp done
    obtain ⟨_, done, same⟩ := map_ok.mp done
    cases same
    simp only [not_or] at permitted
    exact .of_change (.inr (applyDeposit_change done)) fun _ => ⟨permitted.1, permitted.2.2⟩
  | parkFunding id =>
    obtain ⟨_, done, same⟩ := map_ok.mp done
    cases same
    exact .of_change (.inr (parkDeposit_change done)) fun _ => trivial
  | dispatchSignature id =>
    obtain ⟨_, done, same⟩ := map_ok.mp done
    cases same
    exact .of_change (.inr (dispatchSignature_change done)) fun _ => trivial
  | prepareRefund id reason expiryEvidence =>
    obtain ⟨_, done, same⟩ := map_ok.mp done
    cases same
    obtain ⟨deposit, _, rest⟩ := bind_ok.mp done
    obtain ⟨amount, _, applied⟩ := bind_ok.mp rest
    exact .of_change (.inr (applyDeposit_change applied)) (by simp [Sanctioned, DepositEvent.code])
  | observeWithdrawal record =>
    obtain ⟨_, done, same⟩ := map_ok.mp done
    cases same
    exact .of_change (.inr (observeWithdrawal_change done)) fun _ => trivial
  | startRelease id =>
    obtain ⟨_, done, same⟩ := map_ok.mp done
    cases same
    obtain ⟨withdrawal, _, _, _, applied⟩ := BridgeConfig.startRelease_ok done
    exact .of_change (applyWithdrawal_change applied)
      (by simp [Sanctioned, phaseCode])
  | advanceDeposit id | advanceWithdrawal id =>
    obtain ⟨_, _, same⟩ := map_ok.mp done
    cases same

theorem perform_task (done : config.perform now store turn = .ok (written, some task)) :
    (∃ id, store.beginDeposit now id = .ok (written, task)) ∨
      ∃ id, store.beginWithdrawal config now id = .ok (written, task) := by
  cases turn with
  | advanceDeposit id =>
    obtain ⟨_, begun, same⟩ := map_ok.mp done
    cases same
    exact .inl ⟨id, begun⟩
  | advanceWithdrawal id =>
    obtain ⟨_, begun, same⟩ := map_ok.mp done
    cases same
    exact .inr ⟨id, begun⟩
  | depositEvent id event =>
    obtain ⟨_, done⟩ := guarded_ok.mp done
    obtain ⟨_, _, same⟩ := map_ok.mp done
    cases same
  | createDeposit | parkFunding | dispatchSignature | prepareRefund | observeWithdrawal
  | startRelease =>
    obtain ⟨_, _, same⟩ := map_ok.mp done
    cases same

theorem perform_begun (held : store.Held)
    (done : config.perform now store turn = .ok (written, some task)) :
    store.Begun now written task := by
  rcases perform_task done with ⟨_, begun⟩ | ⟨_, begun⟩
  · exact beginDeposit_begun held begun
  · exact beginWithdrawal_begun held begun

theorem resolveFound_moved
    (done : store.resolveFound hold block target = .ok written) : store.Moved written := by
  unfold resolveFound at done
  split at done
  · exact .of_change (resolveDepositHoldAndScan_change done) fun _ => trivial
  · exact .of_change (resolveDepositHoldAndScan_change done) fun _ => trivial
  · exact .of_change (resolveWithdrawalHoldAndScan_change done) fun _ => trivial

theorem resumeCall_moved
    (done : store.resumeCall task outcome = .ok written) : store.Moved written := by
  unfold resumeCall at done
  split at done
  · exact .of_change (applyWithdrawal_change done) (by simp [Sanctioned, phaseCode])
  · exact .of_change (applyWithdrawal_change done) (by simp [Sanctioned, phaseCode])
  · exact .of_change (.inr (parkWithdrawal_change done)) fun _ => trivial
  · exact .of_change (.inr (applyDeposit_change done)) (by simp [Sanctioned, DepositEvent.code])
  · exact .of_change (.inr (applyDeposit_change done)) (by simp [Sanctioned, DepositEvent.code])
  · exact .of_change (.inr (parkDeposit_change done)) fun _ => trivial
  · exact resolveFound_moved done
  · exact resolveFound_moved done
  · exact .inl (Except.ok.inj done).symm

theorem resolveAbsent_respects (held : store.Held)
    (stored : store.holds.get hold.id = some hold) (gone : dead hold.transfer)
    (done : store.resolveAbsent config now hold transfer watermark = .ok written) :
    store.Respects dead written := by
  have only : ∀ other, store.holds.get hold.id = some other → dead other.transfer := by
    intro other found
    cases stored.symm.trans found
    exact gone
  unfold resolveAbsent at done
  split at done
  · exact respects_of_change held (resolveDepositHoldAndScan_change done) trivial
  · exact respects_of_change held (resolveDepositHoldAndScan_change done) only
  · exact respects_of_change held (resolveWithdrawalHoldAndScan_change done) only

end SettlementStore

end KinicBridge
