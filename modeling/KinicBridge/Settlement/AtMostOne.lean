import KinicBridge.Settlement.System

/-! At most one payout: of all the identities ever issued for a withdrawal or a refund, the
ledger accepts at most one. Earlier identities are dead before a later one is issued. -/
namespace KinicBridge

open SettlementStore

namespace PayoutWorld

def ScansLate (config : BridgeConfig) (world : PayoutWorld) (store : SettlementStore) : Prop :=
  ∀ holdId progress, store.scans.get (.hold holdId) = some progress →
    ∃ hold start seen, store.holds.get holdId = some hold ∧
      LateScan config.ledgerId (.hold holdId) hold.transfer start world.now seen world.ledger
        progress

def CallLate (config : BridgeConfig) (world : PayoutWorld) : PayoutTask × List Transaction → Prop
  | (.holdScan hold progress, seen) =>
    (∃ stored, world.store.holds.get hold.id = some stored ∧ stored.transfer = hold.transfer) ∧
      ∃ start, LateScan config.ledgerId (.hold hold.id) hold.transfer start world.now seen
        world.ledger progress
  | _ => True

structure Inv (config : BridgeConfig) (world : PayoutWorld) : Prop where
  clock : world.now ≤ Checked.limit 64
  distinct : ledgerRule.Distinct world.ledger
  held : world.store.Held
  tracked : ∀ request, (world.store.payoutPhase request).Tracked (Dead world.now world.ledger)
    (world.issued request)
  scans : world.ScansLate config world.store
  late : ∀ call ∈ world.calls, world.CallLate config call
  sent : ∀ call ∈ world.calls, ∀ request identity, call.1.sends = some (request, identity) →
    identity ∈ world.issued request

variable {world : PayoutWorld}

theorem inv_initial (initial : world.Initial) : world.Inv config where
  clock := initial.clock
  distinct := initial.distinct
  held := by
    rw [initial.store]
    constructor <;> intro _ _ absurdity <;> cases absurdity
  tracked request := by
    rw [initial.store, initial.issued]
    cases request <;> exact AttemptPhase.tracked_nil
  scans := by
    rw [initial.store]
    intro _ _ absurdity
    cases absurdity
  late := by simp [initial.calls]
  sent := by simp [initial.calls]

section

variable (inv : world.Inv config)

include inv

theorem Inv.tick (later : world.now ≤ time)
    (clock : time ≤ Checked.limit 64) : Inv config { world with now := time } where
  clock := clock
  distinct := inv.distinct
  held := inv.held
  tracked request := (inv.tracked request).weaken fun _ dead => dead.later later
  scans holdId progress found := by
    obtain ⟨hold, start, seen, stored, late⟩ := inv.scans holdId progress found
    exact ⟨hold, start, seen, stored, late.tick later⟩
  late := by
    rintro ⟨task, seen⟩ waiting
    have before := inv.late _ waiting
    cases task with
    | holdScan hold progress =>
      obtain ⟨stored, start, late⟩ := before
      exact ⟨stored, start, late.tick later⟩
    | release | refund | holdCall => trivial
  sent := inv.sent

theorem Inv.block (admits : ledgerRule.Admits world.now world.ledger transaction) :
    Inv config { world with ledger := world.ledger ++ [transaction] } where
  clock := inv.clock
  distinct := inv.distinct.append admits
  held := inv.held
  tracked request := (inv.tracked request).weaken fun _ dead => dead.append admits
  scans holdId progress found := by
    obtain ⟨hold, start, seen, stored, late⟩ := inv.scans holdId progress found
    exact ⟨hold, start, seen, stored, late.append admits⟩
  late := by
    rintro ⟨task, seen⟩ waiting
    have before := inv.late _ waiting
    cases task with
    | holdScan hold progress =>
      obtain ⟨stored, start, late⟩ := before
      exact ⟨stored, start, late.append admits⟩
    | release | refund | holdCall => trivial
  sent := inv.sent

theorem Inv.write (kept : world.store.HoldsKept written) (held : written.Held)
    (moves : ∀ request, AttemptPhase.Move (Dead world.now world.ledger)
      (world.store.payoutPhase request) (written.payoutPhase request))
    (scans : world.ScansLate config written) : Inv config (world.withStore written) where
  clock := inv.clock
  distinct := inv.distinct
  held := held
  tracked request := (inv.tracked request).move (moves request)
  scans := scans
  late := by
    rintro ⟨task, seen⟩ waiting
    have before := inv.late _ waiting
    cases task with
    | holdScan hold progress =>
      obtain ⟨⟨stored, found, transfer⟩, start, late⟩ := before
      obtain ⟨current, found', _, same⟩ := kept _ _ found
      exact ⟨⟨current, found', same.trans transfer⟩, start, late⟩
    | release | refund | holdCall => trivial
  sent call waiting request identity sends :=
    AttemptPhase.mem_track (inv.sent call waiting request identity sends)

theorem Inv.respects (respects : world.store.Respects (Dead world.now world.ledger) written) :
    Inv config (world.withStore written) := by
  refine inv.write respects.holds (respects.held inv.held) respects.moves ?_
  intro holdId progress found
  obtain ⟨hold, start, seen, stored, late⟩ := inv.scans holdId progress (respects.scans _ _ found)
  obtain ⟨current, found', _, same⟩ := respects.holds _ _ stored
  exact ⟨current, start, seen, found', same ▸ late⟩

theorem Inv.saveScan (stored : world.store.holds.get holdId = some hold)
    (late : LateScan config.ledgerId (.hold holdId) hold.transfer start world.now seen
      world.ledger progress) :
    Inv config (world.withStore { world.store with scans := world.store.scans.put progress }) := by
  have target := late.progress_transfer.1
  refine inv.write (.refl _) ⟨inv.held.deposits, inv.held.withdrawals⟩ (fun _ => .stay) ?_
  intro otherId other found
  rcases Table.get_put_cases found with ⟨same, rfl⟩ | ⟨_, old⟩
  · cases same.trans target
    exact ⟨hold, start, seen, stored, late⟩
  · exact inv.scans otherId other old

theorem Inv.settle (call : PayoutTask × List Transaction) : Inv config (world.settle call) where
  clock := inv.clock
  distinct := inv.distinct
  held := inv.held
  tracked := inv.tracked
  scans := inv.scans
  late other waiting := inv.late other (List.mem_of_mem_erase waiting)
  sent other waiting := inv.sent other (List.mem_of_mem_erase waiting)

theorem Inv.call (late : world.CallLate config (task, world.ledger))
    (sent : ∀ request identity, task.sends = some (request, identity) →
      identity ∈ world.issued request) : Inv config (world.call (some task)) where
  clock := inv.clock
  distinct := inv.distinct
  held := inv.held
  tracked := inv.tracked
  scans := inv.scans
  late other waiting := by
    rcases List.mem_cons.mp waiting with rfl | waiting
    · exact late
    · exact inv.late other waiting
  sent other waiting := by
    rcases List.mem_cons.mp waiting with rfl | waiting
    · exact sent
    · exact inv.sent other waiting

theorem Inv.issued_live (live : world.store.payoutPhase request = .live identity) :
    identity ∈ (world.withStore world.store).issued request :=
  AttemptPhase.mem_track (List.mem_of_mem_head? ((inv.tracked request).live identity live))

theorem Inv.begun (begun : world.store.Begun world.now written task) :
    Inv config ((world.withStore written).call (some task)) := by
  have unchanged := inv.respects (.refl world.store)
  cases begun with
  | release phase | refund phase =>
    refine unchanged.call trivial fun request identity sends => ?_
    cases sends
    exact inv.issued_live phase
  | holdCall sends =>
    refine unchanged.call trivial fun request identity asked => ?_
    exact inv.issued_live (sends request identity asked)
  | @scanResumed hold progress stored saved =>
    obtain ⟨other, start, seen, found, late⟩ := inv.scans hold.id progress saved
    cases stored.symm.trans found
    refine unchanged.call ⟨⟨hold, stored, rfl⟩, start, late.refresh⟩ fun request identity sends => ?_
    cases sends
  | @scanStarted hold stored closed =>
    have late : LateScan config.ledgerId (.hold hold.id) hold.transfer
        ⟨world.now, world.ledger⟩ world.now world.ledger world.ledger (.new (.hold hold.id) hold.transfer) :=
      .fresh (deadline_passed inv.clock closed) world.ledger
    refine (inv.saveScan stored late).call ⟨⟨hold, stored, rfl⟩, _, late⟩
      fun request identity sends => ?_
    cases sends

theorem Inv.scanned (waiting : (.holdScan hold progress, seen) ∈ world.calls)
    (ran : Dialogue.Runs honestLedger seen (reconcileStep config.ledgerId progress) ended
      outcome noted) (grown : ended <+: world.ledger)
    (resumed : world.store.resumeScan config world.now hold outcome = .ok written) :
    Inv config (world.withStore written) := by
  obtain ⟨⟨stored, found, transfer⟩, start, late⟩ := inv.late _ waiting
  cases outcome with
  | noProgress saved =>
    cases resumed
    exact inv.respects (.refl _)
  | progress saved =>
    rw [putReconciliationScan_ok resumed]
    exact inv.saveScan found (transfer ▸ late.save ran (.inl rfl) grown)
  | succeeded block =>
    obtain ⟨current, _, resolved⟩ := bind_ok.mp resumed
    exact inv.respects ((resolveFound_moved resolved).respects inv.held)
  | absent ledgerWatermark indexWatermark =>
    have gone := late.dead ran grown
    simp only [resumeScan] at resumed
    split at resumed
    · cases resumed
      exact inv.respects (.refl _)
    · obtain ⟨current, read, resolved⟩ := found_ok.mp resumed
      cases found.symm.trans read
      rw [← world.store.holds.keyed _ _ found] at found
      exact inv.respects (resolveAbsent_respects inv.held found (transfer ▸ gone) resolved)

theorem Inv.step {world' : PayoutWorld} (step : world.Step config world') : world'.Inv config := by
  cases step with
  | tick later clock => exact inv.tick later clock
  | block admits => exact inv.block admits
  | @turn written started turn performed =>
    cases started with
    | none => exact inv.respects ((perform_moved performed).respects inv.held)
    | some task => exact inv.begun (perform_begun inv.held performed)
  | @reply task seen written outcome waiting resumed =>
    exact (inv.respects ((resumeCall_moved resumed).respects inv.held)).settle _
  | scanned waiting ran grown resumed => exact (inv.scanned waiting ran grown resumed).settle _
  | lost call => exact inv.settle call

end

theorem Reaches.inv (reached : Reaches config world) : world.Inv config := by
  induction reached with
  | start initial => exact inv_initial initial
  | step _ next ih => exact ih.step next

/-- At most one payout: whatever the canister asks the ledger to pay for a request was issued
for it, and the ledger holds at most one block for all that was ever issued. -/
theorem at_most_one_payout (config : BridgeConfig) (world : PayoutWorld)
    (reached : Reaches config world) (request : RequestReference) :
    (∀ call ∈ world.calls, ∀ identity, call.1.sends = some (request, identity) →
      identity ∈ world.issued request) ∧
    (world.ledger.filter fun transaction =>
      (world.issued request).any fun identity => matchesIdentity transaction identity).length
        ≤ 1 := by
  have inv := reached.inv
  refine ⟨fun call waiting identity sends => inv.sent call waiting request identity sends, ?_⟩
  have older := (inv.tracked request).older
  cases issued : world.issued request with
  | nil => simp
  | cons newest rest =>
    rw [issued] at older
    have onlyNewest : (world.ledger.filter fun transaction =>
          (newest :: rest).any fun identity => matchesIdentity transaction identity) =
        world.ledger.filter fun transaction => matchesIdentity transaction newest := by
      refine List.filter_congr fun transaction member => ?_
      have none : (rest.any fun identity => matchesIdentity transaction identity) = false := by
        refine List.any_eq_false.mpr fun identity earlier => ?_
        rw [(older identity earlier).absent transaction member]
        exact Bool.false_ne_true
      rw [List.any_cons, none, Bool.or_false]
    rw [onlyNewest]
    exact length_matches_le_one inv.distinct newest

/-! A run in which the reply to a release is ambiguous. The release is held, found absent once its
window is over, and paid with a second identity. -/

def sampleConfig : BridgeConfig := ⟨⟨[9], 0, owner_nine_valid⟩, [8], 100, fun _ => 0, 8453⟩

def sampleWithdrawal : WithdrawalRecord where
  id := 1
  baseRequester := 2
  owner := [1]
  subaccount := 0
  payloadHash := 7
  amount := 300
  maxServiceFee := 200
  chargedServiceFee := 200
  amountOut := 100
  observedAtNs := 0
  state := .observed

def sampleRelease : LedgerTransferIdentity :=
  sampleConfig.releaseIdentity 0 sampleWithdrawal (by decide)

def releasingWithdrawal : WithdrawalRecord :=
  { sampleWithdrawal with state := .releasePending ⟨0, sampleRelease⟩ ⟨100, 200, 100⟩ }

def observedStore : SettlementStore :=
  { SettlementStore.empty with withdrawals := Table.empty.put sampleWithdrawal }

def releasingStore : SettlementStore :=
  { observedStore with withdrawals := observedStore.withdrawals.put releasingWithdrawal }

def sampleStart : PayoutWorld := ⟨0, [], .empty, [], fun _ => []⟩

def sampleHold : ReconciliationHoldRecord := .opened 0 (.withdrawal 1) sampleRelease

def sampleScan : ReconciliationScanProgress := .new (.hold 0) sampleRelease

def retryNs : Nat := 10 ^ 15

def sampleRetry : LedgerTransferIdentity :=
  sampleConfig.nextIdentity "KINIC-WITHDRAWAL-RETRY" retryNs 0 sampleRelease

def retryBlock : Transaction :=
  ⟨some ⟨100, some 100, some retryNs, some (memoBytes sampleRetry.memo), ⟨[9], none⟩,
    ⟨[1], none⟩, none⟩⟩

theorem sample_observed : sampleConfig.perform 0 .empty (.observeWithdrawal sampleWithdrawal) =
      .ok (observedStore, none) := rfl

theorem sample_releasing :
    sampleConfig.perform 0 observedStore (.startRelease 1) = .ok (releasingStore, none) := rfl

theorem sampleScan_absent : Dialogue.Runs honestLedger [] (reconcileStep [8] sampleScan) []
    (.absent 0 0) [.page 0] := by
  have stay : honestLedger.moves [] [] := List.prefix_rfl
  refine .ask (some ⟨0, 0, [], []⟩) stay ?_ ?_
  · rintro _ ⟨⟩
    exact ⟨rfl, fun k tx found => by simp at found⟩
  refine .note ?_
  refine .ask (some [8]) stay trivial ?_
  refine .ask (some 0) stay (by rintro _ ⟨⟩; exact le_rfl) ?_
  refine .ask (some ⟨[], none⟩) stay (by rintro _ ⟨⟩; simp) ?_
  exact .done

theorem retried_reached : ∃ world, Reaches sampleConfig world ∧ world.now = retryNs ∧
    world.ledger = [retryBlock] ∧ world.issued (.withdrawal 1) = [sampleRetry, sampleRelease] ∧
    world.store.payoutPhase (.withdrawal 1) = .live sampleRetry := by
  have start : Reaches sampleConfig sampleStart :=
    .start ⟨Nat.zero_le _, DedupRule.distinct_nil, rfl, rfl, rfl⟩
  have observed := start.step (.turn _ sample_observed)
  have releasing := observed.step (.turn _ sample_releasing)
  have sent : sampleConfig.perform 0 releasingStore (.advanceWithdrawal 1) =
    .ok (releasingStore, some (.release 1 ⟨0, sampleRelease⟩)) := rfl
  have dispatched := releasing.step (.turn _ sent)
  have held := dispatched.step (.reply .ambiguous List.mem_cons_self rfl)
  have late := held.step (.tick (Nat.zero_le retryNs) (by decide))
  have scanning := late.step (.turn (.advanceWithdrawal 1) rfl)
  have retried := scanning.step
    (.scanned List.mem_cons_self sampleScan_absent List.prefix_rfl rfl)
  have admits : ledgerRule.Admits retryNs [] retryBlock := by
    intro stamp same
    cases same
    exact ⟨by decide, by simp⟩
  exact ⟨_, retried.step (.block admits), rfl, rfl, by decide +kernel, by decide +kernel⟩

theorem at_most_one_payout_retried : ∃ world, Reaches sampleConfig world ∧
    (world.issued (.withdrawal 1)).length = 2 ∧
    (world.ledger.filter fun transaction =>
      (world.issued (.withdrawal 1)).any (matchesIdentity transaction)) = [retryBlock] ∧
    (world.ledger.filter fun transaction =>
      (world.issued (.withdrawal 1)).any (matchesIdentity transaction)).length ≤ 1 := by
  obtain ⟨world, reached, _, ledger, issued, _⟩ := retried_reached
  refine ⟨world, reached, by rw [issued]; rfl, ?_,
    (at_most_one_payout sampleConfig world reached (.withdrawal 1)).2⟩
  rw [ledger, issued]
  decide +kernel

/-- A parked record finds its own hold, the scans of holds began after the window of their transfer,
and of a request's identities only the newest can still be paid. -/
theorem only_newest_payable (reached : Reaches config world) :
    world.store.Held ∧ world.ScansLate config world.store ∧ ∀ request,
      (∀ identity, world.store.payoutPhase request = .live identity →
        (world.issued request).head? = some identity) ∧
      ∀ identity ∈ (world.issued request).tail, Dead world.now world.ledger identity := by
  have inv := reached.inv
  refine ⟨inv.held, inv.scans, fun request => ?_⟩
  exact ⟨(inv.tracked request).live, (inv.tracked request).older⟩

theorem only_newest_payable_retried : ∃ world, Reaches sampleConfig world ∧
    (world.issued (.withdrawal 1)).head? = some sampleRetry ∧
    Dead world.now world.ledger sampleRelease := by
  obtain ⟨world, reached, _, _, issued, live⟩ := retried_reached
  obtain ⟨newest, older⟩ := (only_newest_payable reached).2.2 (.withdrawal 1)
  exact ⟨world, reached, newest _ live, older _ (by rw [issued]; exact List.mem_singleton_self _)⟩

end PayoutWorld

end KinicBridge
