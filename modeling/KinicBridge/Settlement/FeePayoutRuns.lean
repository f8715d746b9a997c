import KinicBridge.Settlement.FeePayouts
import KinicBridge.Ledger.Transfers

/-! Whole lives of one fee payout next to a ledger whose fee may change. Transfers arrive in any
order or never, answers come late or never; a later claim of the payout's job fences the calls of
earlier ones. -/
namespace KinicBridge

open SettlementStore

/-- A call of a scan: the claim it belongs to, when its scan started, the progress it takes
up and the ledger it was sent at. -/
structure ScanCall where
  claim : Nat
  start : ScanStart
  progress : ReconciliationScanProgress
  seen : List Transaction

/-- One payout's surroundings. `awaiting` is the call whose reply the current claim would
still apply; `requests` and `replies` are on their way, each with the claim that sent it.
`begun` is when the scan stored for the payout started. -/
structure FeeWorld where
  now : Nat
  fee : Nat
  ledger : List Transaction
  store : SettlementStore
  claims : Nat
  awaiting : Option (Nat × FeePayoutCall)
  requests : List (Nat × FeePayoutOrigin)
  replies : List (Nat × FeePayoutOrigin × TransferResult)
  begun : ScanStart
  scans : List ScanCall

structure FeePayoutSubject where
  ledgerId : List UInt8
  id : Nat
  transfer : LedgerTransferIdentity

abbrev AnswerCondition := FeeWorld → Nat × FeePayoutOrigin → TransferResult → Prop

namespace FeeWorld

def scanStart (world : FeeWorld) (subject : FeePayoutSubject) : ScanStart :=
  if (world.store.scans.get (.feePayout subject.id)).isSome then world.begun
  else ⟨world.now, world.ledger⟩

def state (world : FeeWorld) (subject : FeePayoutSubject) : Option FeePayoutState :=
  (world.store.feePayouts.get subject.id).map (·.state)

structure Initial (subject : FeePayoutSubject) (world : FeeWorld) : Prop where
  clock : world.now ≤ Checked.limit 64
  payout : ∃ payout, world.store.feePayouts.get subject.id = some payout ∧
    payout.transfer = subject.transfer ∧ payout.state = .pending
  unscanned : world.store.scans.get (.feePayout subject.id) = none
  idle : world.awaiting = none ∧ world.requests = [] ∧ world.replies = [] ∧ world.scans = []

inductive Step (subject : FeePayoutSubject) (condition : AnswerCondition) (world : FeeWorld) :
    FeeWorld → Prop where
  | tick (later : world.now ≤ time) (clock : time ≤ Checked.limit 64) :
      Step subject condition world { world with now := time }
  | feeChanged (charged : Nat) : Step subject condition world { world with fee := charged }
  | otherBlock (admits : ledgerRule.Admits world.now world.ledger transaction)
      (other : matchesIdentity transaction subject.transfer = false) :
      Step subject condition world { world with ledger := world.ledger ++ [transaction] }
  | elsewhere
      (samePayout : written.feePayouts.get subject.id = world.store.feePayouts.get subject.id)
      (sameScan : written.scans.get (.feePayout subject.id) =
        world.store.scans.get (.feePayout subject.id)) :
      Step subject condition world { world with store := written }
  | sent (found : world.store.feePayouts.get subject.id = some payout)
      (begun : world.store.beginFeePayout world.now payout = .ok (written, .transfer origin)) :
      Step subject condition world
        { world with
          store := written
          claims := world.claims + 1
          awaiting := some (world.claims + 1, .transfer origin)
          requests := (world.claims + 1, origin) :: world.requests }
  | scanning (found : world.store.feePayouts.get subject.id = some payout)
      (begun : world.store.beginFeePayout world.now payout = .ok (written, .scan progress)) :
      Step subject condition world
        { world with
          store := written
          claims := world.claims + 1
          awaiting := some (world.claims + 1, .scan progress)
          begun := world.scanStart subject
          scans := ⟨world.claims + 1, world.scanStart subject, progress, world.ledger⟩ ::
            world.scans }
  | handled (arrived : request ∈ world.requests)
      (answers : LedgerAnswers world.fee world.now world.ledger subject.transfer result blocks)
      (meets : condition world request result) :
      Step subject condition world
        { world with
          ledger := blocks
          requests := world.requests.erase request
          replies := (request.1, request.2, result) :: world.replies }
  | dropped (request : Nat × FeePayoutOrigin) :
      Step subject condition world { world with requests := world.requests.erase request }
  | answered (current : world.awaiting = some (claim, .transfer origin))
      (arrived : (claim, origin, result) ∈ world.replies)
      (resumed : world.store.resumeFeePayoutTransfer subject.id origin (classifyTransfer result) =
        .ok written) :
      Step subject condition world { world with store := written, awaiting := none }
  | lost (current : world.awaiting = some (claim, .transfer origin))
      (resumed : world.store.resumeFeePayoutTransfer subject.id origin .ambiguous = .ok written) :
      Step subject condition world { world with store := written, awaiting := none }
  | scanned (waiting : call ∈ world.scans)
      (current : world.awaiting = some (call.claim, .scan call.progress))
      (ran : Dialogue.Runs honestLedger call.seen (reconcileStep subject.ledgerId call.progress)
        ended outcome noted)
      (grown : ended <+: world.ledger)
      (resumed : world.store.resumeFeePayoutScan subject.id call.progress outcome = .ok written) :
      Step subject condition world { world with store := written, awaiting := none }
  | abandoned : Step subject condition world { world with awaiting := none }

inductive Reaches (subject : FeePayoutSubject) (condition : AnswerCondition) : FeeWorld → Prop where
  | start (initial : Initial subject world) : Reaches subject condition world
  | step (reached : Reaches subject condition world)
      (next : Step subject condition world world') : Reaches subject condition world'

/-- The ledger charges the fee of a transfer it has already accepted, and refuses only calls
sent from `Pending` with no other call on its way. -/
def Undisputed (subject : FeePayoutSubject) : AnswerCondition := fun world request result =>
  (Accepted world.ledger subject.transfer → world.fee = subject.transfer.fee) ∧
  ∀ error, result = .error error → error.refuses = true →
    request.2 = .pending ∧ world.requests = [request]

end FeeWorld

namespace SettlementStore

/-- A write that changes at most the state of one payout and drops its scan; it fails the
payout only for the given reason. -/
structure PayoutWrite (id : Nat) (reason : Prop) (store written : SettlementStore) : Prop where
  payout : ∀ previous, store.feePayouts.get id = some previous → ∃ state,
    written.feePayouts.get id = some { previous with state } ∧
      (state = .failed → previous.state = .failed ∨ reason)
  scans : ∀ progress, written.scans.get (.feePayout id) = some progress →
    store.scans.get (.feePayout id) = some progress

theorem PayoutWrite.refl (id : Nat) (store : SettlementStore) : store.PayoutWrite id reason store :=
  ⟨fun previous found => ⟨previous.state, found, .inl⟩, fun _ found => found⟩

variable {store written : SettlementStore} {id : Nat}

theorem dropScan_get (found : (store.dropScan target).scans.get key = some progress) :
    store.scans.get key = some progress := by
  cases target with
  | none => exact found
  | some target => exact (Table.get_remove_cases found).2

theorem transition_write (done : store.transitionFeePayout id transition target = .ok written)
    (failing : transition = .failed → reason) : store.PayoutWrite id reason written := by
  obtain ⟨previous, found, replay | moved⟩ := transitionFeePayout_ok done
  · obtain ⟨_, rfl⟩ := replay
    refine ⟨fun old stored => ⟨old.state, ?_, .inl⟩, fun _ => dropScan_get⟩
    cases target <;> exact stored
  · obtain ⟨state, accounting, pendingDebit, next, _, rfl⟩ := moved
    refine ⟨fun old stored => ⟨state, ?_, fun failed => ?_⟩, fun _ => dropScan_get⟩
    · cases found.symm.trans stored
      cases store.feePayouts.keyed _ _ found
      exact Table.get_put_self
    · subst failed
      right
      cases transition with
      | failed => exact failing rfl
      | succeeded | hold => cases phase : previous.state <;> simp [FeePayoutState.next, phase] at next

theorem resumeTransfer_write
    (done : store.resumeFeePayoutTransfer id origin outcome = .ok written) :
    store.PayoutWrite id (∃ code, outcome = .definitiveFailure code) written := by
  unfold resumeFeePayoutTransfer at done
  split at done
  · exact transition_write done fun absurdity => by cases absurdity
  · exact transition_write done fun absurdity => by cases absurdity
  · exact transition_write done fun _ => ⟨_, rfl⟩
  · exact transition_write done fun absurdity => by cases absurdity
  · cases done
    exact .refl id store

end SettlementStore

namespace FeeWorld

def Unpaid (subject : FeePayoutSubject) (world : FeeWorld) : Prop :=
  ¬Accepted world.ledger subject.transfer ∧
    (world.requests = [] ∨ acceptanceDeadline subject.transfer.createdAtTimeNs < world.now)

structure Inv (subject : FeePayoutSubject) (world : FeeWorld) : Prop where
  clock : world.now ≤ Checked.limit 64
  payout : ∃ payout, world.store.feePayouts.get subject.id = some payout ∧
    payout.transfer = subject.transfer
  requested : ∀ request ∈ world.requests, request.1 ≤ world.claims
  claimed : ∀ reply ∈ world.replies, reply.1 ≤ world.claims
  refused : ∀ claim origin error, (claim, origin, .error error) ∈ world.replies →
    error.refuses = true → origin = .pending ∧ (claim = world.claims → world.Unpaid subject)
  current : ∀ claim call, world.awaiting = some (claim, call) →
    claim = world.claims ∧ world.state subject = some (callState call)
  failed : world.state subject = some .failed → world.Unpaid subject
  scan : ∀ progress, world.store.scans.get (.feePayout subject.id) = some progress →
    ∃ seen, LateScan subject.ledgerId (.feePayout subject.id) subject.transfer world.begun
      world.now seen world.ledger progress
  latest : ∀ call ∈ world.scans, call.claim ≤ world.claims ∧
    (call.claim = world.claims → call.start = world.begun)
  calls : ∀ call ∈ world.scans, LateScan subject.ledgerId (.feePayout subject.id)
    subject.transfer call.start world.now call.seen world.ledger call.progress

variable {world world' : FeeWorld} {payout : FeePayoutRecord}

theorem inv_initial (initial : world.Initial subject) : world.Inv subject := by
  obtain ⟨clock, ⟨payout, found, transfer, pending⟩, unscanned, idle, requests, replies, scans⟩ :=
    initial
  refine ⟨clock, ⟨payout, found, transfer⟩, ?_, ?_, ?_, ?_, ?_, ?_, ?_, ?_⟩
  · simp [requests]
  · simp [replies]
  · simp [replies]
  · simp [idle]
  · simp [state, found, pending]
  · simp [unscanned]
  · simp [scans]
  · simp [scans]

theorem Unpaid.tick (unpaid : world.Unpaid subject)
    (later : world.now ≤ time) : Unpaid subject { world with now := time } :=
  ⟨unpaid.1, unpaid.2.imp_right fun expired => Nat.lt_of_lt_of_le expired later⟩

theorem Unpaid.append (unpaid : world.Unpaid subject)
    (other : matchesIdentity tx subject.transfer = false) :
    Unpaid subject { world with ledger := world.ledger ++ [tx] } := by
  refine ⟨fun accepted => ?_, unpaid.2⟩
  obtain ⟨entry, member, carries⟩ := accepted
  rcases List.mem_append.mp member with old | new
  · exact unpaid.1 ⟨entry, old, carries⟩
  · cases List.mem_singleton.mp new
    rw [other] at carries
    cases carries

theorem Inv.tick (inv : world.Inv subject) (later : world.now ≤ time)
    (clock : time ≤ Checked.limit 64) : Inv subject { world with now := time } where
  clock := clock
  payout := inv.payout
  requested := inv.requested
  claimed := inv.claimed
  refused claim origin error arrived refuses := by
    obtain ⟨pending, unpaid⟩ := inv.refused claim origin error arrived refuses
    exact ⟨pending, fun same => (unpaid same).tick later⟩
  current := inv.current
  failed failed := (inv.failed failed).tick later
  scan progress found := by
    obtain ⟨seen, late⟩ := inv.scan progress found
    exact ⟨seen, late.tick later⟩
  latest := inv.latest
  calls call waiting := (inv.calls call waiting).tick later

theorem Inv.append (inv : world.Inv subject) (admits : ledgerRule.Admits world.now world.ledger tx)
    (unpaid : world.Unpaid subject → matchesIdentity tx subject.transfer = false) :
    Inv subject { world with ledger := world.ledger ++ [tx] } where
  clock := inv.clock
  payout := inv.payout
  requested := inv.requested
  claimed := inv.claimed
  refused claim origin error arrived refuses := by
    obtain ⟨pending, before⟩ := inv.refused claim origin error arrived refuses
    exact ⟨pending, fun same => (before same).append (unpaid (before same))⟩
  current := inv.current
  failed failed := (inv.failed failed).append (unpaid (inv.failed failed))
  scan progress found := by
    obtain ⟨seen, late⟩ := inv.scan progress found
    exact ⟨seen, late.append admits⟩
  latest := inv.latest
  calls call waiting := (inv.calls call waiting).append admits

theorem Unpaid.drop (unpaid : world.Unpaid subject) (request : Nat × FeePayoutOrigin) :
    Unpaid subject { world with requests := world.requests.erase request } := by
  refine ⟨unpaid.1, unpaid.2.imp_left fun none => ?_⟩
  simp only [none, List.erase_nil]

section

variable (inv : world.Inv subject)

include inv

theorem Inv.drop (request : Nat × FeePayoutOrigin) :
    Inv subject { world with requests := world.requests.erase request } where
  clock := inv.clock
  payout := inv.payout
  requested other waiting := inv.requested other (List.mem_of_mem_erase waiting)
  claimed := inv.claimed
  refused claim origin error arrived refuses := by
    obtain ⟨pending, unpaid⟩ := inv.refused claim origin error arrived refuses
    exact ⟨pending, fun same => (unpaid same).drop request⟩
  current := inv.current
  failed failed := (inv.failed failed).drop request
  scan := inv.scan
  latest := inv.latest
  calls := inv.calls

theorem Inv.reply (known : claim ≤ world.claims)
    (refusal : ∀ error, result = .error error → error.refuses = true →
      origin = .pending ∧ world.Unpaid subject) :
    Inv subject { world with replies := (claim, origin, result) :: world.replies } where
  clock := inv.clock
  payout := inv.payout
  requested := inv.requested
  claimed reply arrived := by
    rcases List.mem_cons.mp arrived with rfl | arrived
    · exact known
    · exact inv.claimed reply arrived
  refused other sender error arrived refuses := by
    rcases List.mem_cons.mp arrived with same | arrived
    · cases same
      obtain ⟨pending, unpaid⟩ := refusal error rfl refuses
      exact ⟨pending, fun _ => unpaid⟩
    · exact inv.refused other sender error arrived refuses
  current := inv.current
  failed := inv.failed
  scan := inv.scan
  latest := inv.latest
  calls := inv.calls

theorem Inv.handled (arrived : request ∈ world.requests)
    (answers : LedgerAnswers world.fee world.now world.ledger subject.transfer result blocks)
    (meets : Undisputed subject world request result) : Inv subject { world with
        ledger := blocks
        requests := world.requests.erase request
        replies := (request.1, request.2, result) :: world.replies } := by
  have known := inv.requested request arrived
  cases result with
  | ok index =>
    obtain ⟨_, admits, _⟩ := answers
    have grown := inv.append admits fun unpaid => by
      rcases unpaid.2 with none | expired
      · simp [none] at arrived
      · exact not_matches_of_expired admits expired
    exact (grown.drop request).reply known fun _ absurdity => by cases absurdity
  | error error =>
    cases answers.same_of_error
    refine (inv.drop request).reply known fun other same refuses => ?_
    cases same
    obtain ⟨pending, alone⟩ := meets.2 error rfl refuses
    refine ⟨pending, fun accepted => ?_, .inl ?_⟩
    · exact answers.fresh_of_refusal refuses (meets.1 accepted).symm accepted
    · simp [alone]

theorem Inv.write (write : world.store.PayoutWrite subject.id reason written)
    (unpaid : reason → world.Unpaid subject) :
    Inv subject { world with store := written, awaiting := none } where
  clock := inv.clock
  payout := by
    obtain ⟨payout, found, transfer⟩ := inv.payout
    obtain ⟨state, stored, _⟩ := write.payout payout found
    exact ⟨_, stored, transfer⟩
  requested := inv.requested
  claimed := inv.claimed
  refused := inv.refused
  current _ _ absurdity := by cases absurdity
  failed failed := by
    obtain ⟨payout, found, _⟩ := inv.payout
    obtain ⟨moved, stored, before⟩ := write.payout payout found
    simp only [state, stored, Option.map_some, Option.some.injEq] at failed
    rcases before failed with failed | because
    · exact inv.failed (by simp [FeeWorld.state, found, failed])
    · exact unpaid because
  scan progress found := inv.scan progress (write.scans progress found)
  latest := inv.latest
  calls := inv.calls

theorem Inv.elsewhere
    (samePayout : written.feePayouts.get subject.id = world.store.feePayouts.get subject.id)
    (sameScan : written.scans.get (.feePayout subject.id) =
      world.store.scans.get (.feePayout subject.id)) :
    Inv subject { world with store := written } where
  clock := inv.clock
  payout := by
    rw [samePayout]
    exact inv.payout
  requested := inv.requested
  claimed := inv.claimed
  refused := inv.refused
  current := by
    simp only [state, samePayout]
    exact inv.current
  failed failed := by
    simp only [state, samePayout] at failed
    exact inv.failed failed
  scan := by
    rw [sameScan]
    exact inv.scan
  latest := inv.latest
  calls := inv.calls

theorem Inv.newClaim (origin : FeePayoutOrigin) (sent : List (Nat × FeePayoutOrigin))
    (state : world.state subject = some (callState call))
    (requests : ∀ request ∈ sent, request = (world.claims + 1, origin) ∨ request ∈ world.requests) :
    Inv subject { world with
        claims := world.claims + 1
        awaiting := some (world.claims + 1, call)
        requests := sent } where
  clock := inv.clock
  payout := inv.payout
  requested request member := by
    rcases requests request member with rfl | old
    · exact Nat.le_refl _
    · exact (inv.requested request old).trans (Nat.le_succ _)
  claimed reply arrived := (inv.claimed reply arrived).trans (Nat.le_succ _)
  refused claim origin error arrived refuses := by
    refine ⟨(inv.refused claim origin error arrived refuses).1, fun same => ?_⟩
    have earlier := inv.claimed _ arrived
    simp only [same] at earlier
    omega
  current claim other awaited := by
    cases awaited
    exact ⟨rfl, state⟩
  failed failed := by
    have same := state.symm.trans failed
    cases call with
    | transfer origin => cases origin <;> cases same
    | scan => cases same
  scan := inv.scan
  latest call waiting := by
    obtain ⟨earlier, _⟩ := inv.latest call waiting
    refine ⟨earlier.trans (Nat.le_succ _), fun same => ?_⟩
    simp only [same] at earlier
    omega
  calls := inv.calls

theorem Inv.storeScan
    (late : LateScan subject.ledgerId (.feePayout subject.id) subject.transfer world.begun
      world.now seen world.ledger progress) : Inv subject
      { world with store := { world.store with scans := world.store.scans.put progress } } where
  clock := inv.clock
  payout := inv.payout
  requested := inv.requested
  claimed := inv.claimed
  refused := inv.refused
  current := inv.current
  failed := inv.failed
  scan other found := by
    have target := late.progress_transfer.1
    rcases Table.get_put_cases found with ⟨_, rfl⟩ | ⟨apart, _⟩
    · exact ⟨seen, late⟩
    · exact absurd target.symm apart
  latest := inv.latest
  calls := inv.calls

theorem Inv.scanCall (fenced : ∀ call ∈ world.scans, call.claim < world.claims)
    (rows : ∀ progress, world.store.scans.get (.feePayout subject.id) = some progress →
      start = world.begun)
    (late : LateScan subject.ledgerId (.feePayout subject.id) subject.transfer start world.now
      world.ledger world.ledger progress) : Inv subject { world with
        begun := start
        scans := ⟨world.claims, start, progress, world.ledger⟩ :: world.scans } where
  clock := inv.clock
  payout := inv.payout
  requested := inv.requested
  claimed := inv.claimed
  refused := inv.refused
  current := inv.current
  failed := inv.failed
  scan other found := by
    rw [rows other found]
    exact inv.scan other found
  latest call waiting := by
    rcases List.mem_cons.mp waiting with rfl | waiting
    · exact ⟨Nat.le_refl _, fun _ => rfl⟩
    · have earlier := fenced call waiting
      exact ⟨Nat.le_of_lt earlier, fun same => absurd same (Nat.ne_of_lt earlier)⟩
  calls call waiting := by
    rcases List.mem_cons.mp waiting with rfl | waiting
    · exact late
    · exact inv.calls call waiting

theorem Inv.stopWaiting : Inv subject { world with awaiting := none } :=
  inv.write (.refl subject.id world.store) False.elim

theorem Inv.scanning (found : world.store.feePayouts.get subject.id = some payout)
    (begun : world.store.beginFeePayout world.now payout = .ok (written, .scan progress)) :
    Inv subject { world with
        store := written
        claims := world.claims + 1
        awaiting := some (world.claims + 1, .scan progress)
        begun := world.scanStart subject
        scans := ⟨world.claims + 1, world.scanStart subject, progress, world.ledger⟩ ::
          world.scans } := by
  obtain ⟨held, begun⟩ := beginFeePayout_begun begun
  have keyed := world.store.feePayouts.keyed _ _ found
  obtain ⟨stored, found', transfer⟩ := inv.payout
  cases found.symm.trans found'
  have now : world.state subject = some (callState (.scan progress)) := by
    simp only [state, found, Option.map_some, held]
  have claimed := inv.newClaim .reconciliationHold world.requests now fun _ member => .inr member
  have fenced : ∀ call ∈ world.scans, call.claim < world.claims + 1 := fun call waiting =>
    Nat.lt_succ_of_le (inv.latest call waiting).1
  cases begun with
  | scanResumed saved =>
    change payout.id = subject.id at keyed
    rw [keyed] at saved
    have start : world.scanStart subject = world.begun := by simp [scanStart, saved]
    obtain ⟨seen, late⟩ := inv.scan progress saved
    rw [start]
    exact claimed.scanCall fenced (fun _ _ => rfl) late.refresh
  | scanStarted closed unsaved =>
    change payout.id = subject.id at keyed
    simp only [keyed, transfer] at unsaved closed claimed ⊢
    have start : world.scanStart subject = ⟨world.now, world.ledger⟩ := by
      simp [scanStart, unsaved]
    have late : LateScan subject.ledgerId (.feePayout subject.id) subject.transfer
        ⟨world.now, world.ledger⟩ world.now world.ledger world.ledger
        (.new (.feePayout subject.id) subject.transfer) :=
      .fresh (deadline_passed inv.clock closed) world.ledger
    rw [start]
    exact (claimed.scanCall fenced (fun _ stale => by simp [unsaved] at stale) late).storeScan late

theorem Inv.sent (found : world.store.feePayouts.get subject.id = some payout)
    (begun : world.store.beginFeePayout world.now payout = .ok (written, .transfer origin)) :
    Inv subject { world with
        store := written
        claims := world.claims + 1
        awaiting := some (world.claims + 1, .transfer origin)
        requests := (world.claims + 1, origin) :: world.requests } := by
  obtain ⟨held, begun⟩ := beginFeePayout_begun begun
  cases begun
  refine inv.newClaim origin _ ?_ fun request member => List.mem_cons.mp member
  simp only [state, found, Option.map_some, held]

theorem Inv.answered (current : world.awaiting = some (claim, .transfer origin))
    (arrived : (claim, origin, result) ∈ world.replies)
    (resumed : world.store.resumeFeePayoutTransfer subject.id origin (classifyTransfer result) =
      .ok written) : Inv subject { world with store := written, awaiting := none } := by
  refine inv.write (resumeTransfer_write resumed) fun ⟨code, definitive⟩ => ?_
  obtain ⟨error, rfl, refuses⟩ := refuses_of_definitive definitive
  exact (inv.refused claim origin error arrived refuses).2 (inv.current _ _ current).1

theorem Inv.scanned (waiting : call ∈ world.scans)
    (current : world.awaiting = some (call.claim, .scan call.progress))
    (ran : Dialogue.Runs honestLedger call.seen (reconcileStep subject.ledgerId call.progress)
      ended outcome noted) (grown : ended <+: world.ledger)
    (resumed : world.store.resumeFeePayoutScan subject.id call.progress outcome = .ok written) :
    Inv subject { world with store := written, awaiting := none } := by
  have late := inv.calls call waiting
  cases outcome with
  | noProgress saved =>
    cases resumed
    exact inv.stopWaiting
  | progress saved =>
    have mine := (inv.latest call waiting).2 (inv.current _ _ current).1
    rw [updateFeePayoutScan_ok resumed]
    exact inv.stopWaiting.storeScan (mine ▸ late.save ran (.inl rfl) grown)
  | succeeded block =>
    have write : world.store.PayoutWrite subject.id False written :=
      transition_write resumed fun same => by cases same
    exact inv.write write False.elim
  | absent ledgerWatermark indexWatermark =>
    have dead := late.dead ran grown
    have unpaid : world.Unpaid subject := by
      refine ⟨fun ⟨tx, member, carries⟩ => ?_, .inr dead.expired⟩
      exact absurd carries (by simp [dead.absent tx member])
    simp only [resumeFeePayoutScan] at resumed
    split at resumed
    · cases resumed
      exact inv.stopWaiting
    · exact inv.write (transition_write resumed fun _ => unpaid) id

theorem Inv.step (next : Step subject (Undisputed subject) world world') : world'.Inv subject := by
  cases next with
  | tick later clock => exact inv.tick later clock
  | feeChanged => exact { inv with }
  | otherBlock admits other => exact inv.append admits fun _ => other
  | elsewhere samePayout sameScan => exact inv.elsewhere samePayout sameScan
  | sent found begun => exact inv.sent found begun
  | scanning found begun => exact inv.scanning found begun
  | handled arrived answers meets => exact inv.handled arrived answers meets
  | dropped request => exact inv.drop request
  | answered current arrived resumed => exact inv.answered current arrived resumed
  | lost current resumed =>
    refine inv.write (resumeTransfer_write resumed) fun ⟨code, same⟩ => ?_
    cases same
  | scanned waiting current ran grown resumed =>
    exact inv.scanned waiting current ran grown resumed
  | abandoned => exact inv.stopWaiting

end

theorem Reaches.inv (reached : Reaches subject (Undisputed subject) world) : world.Inv subject := by
  induction reached with
  | start initial => exact inv_initial initial
  | step _ next before => exact before.step next

def LateAbsence (subject : FeePayoutSubject) (world : FeeWorld) : Prop :=
  ∃ call ∈ world.scans, ∃ events ended ledgerWatermark indexWatermark noted,
    acceptanceDeadline subject.transfer.createdAtTimeNs < call.start.time ∧
    ScanReaches subject.ledgerId (.feePayout subject.id) subject.transfer call.start.ledger
      call.seen call.progress events ∧
    Dialogue.Runs honestLedger call.seen (reconcileStep subject.ledgerId call.progress) ended
      (.absent ledgerWatermark indexWatermark) noted ∧
    ended <+: world.ledger ∧ ledgerWatermark ≤ indexWatermark

theorem state_of_write (inv : world.Inv subject)
    (write : world.store.PayoutWrite subject.id reason written)
    (held : world.state subject = some .reconciliationHold)
    (failed : { world with store := written, awaiting := none }.state subject = some .failed) :
    reason := by
  obtain ⟨payout, found, _⟩ := inv.payout
  obtain ⟨moved, stored, before⟩ := write.payout payout found
  simp only [state, found, stored, Option.map_some, Option.some.injEq] at held failed
  rcases before failed with already | because
  · rw [already] at held
    cases held
  · exact because

theorem Inv.absence_of_scan (inv : world.Inv subject) (waiting : call ∈ world.scans)
    (ran : Dialogue.Runs honestLedger call.seen (reconcileStep subject.ledgerId call.progress)
      ended outcome noted) (grown : ended <+: world.ledger)
    (resumed : world.store.resumeFeePayoutScan subject.id call.progress outcome = .ok written)
    (held : world.state subject = some .reconciliationHold)
    (failed : { world with store := written, awaiting := none }.state subject = some .failed) :
    world.LateAbsence subject := by
  have late := inv.calls call waiting
  cases outcome with
  | noProgress saved =>
    cases resumed
    cases held.symm.trans failed
  | progress saved =>
    cases updateFeePayoutScan_ok resumed
    cases held.symm.trans failed
  | succeeded block =>
    have write : world.store.PayoutWrite subject.id False written :=
      transition_write resumed fun same => by cases same
    exact (state_of_write inv write held failed).elim
  | absent ledgerWatermark indexWatermark =>
    simp only [resumeFeePayoutScan] at resumed
    split at resumed
    · cases resumed
      cases held.symm.trans failed
    next complete =>
      obtain ⟨events, reached⟩ := late.reached
      exact ⟨call, waiting, events, ended, ledgerWatermark, indexWatermark, noted, late.expired,
        reached, ran, grown, Nat.not_lt.mp complete⟩

theorem Inv.absence_of_failure (inv : world.Inv subject)
    (next : Step subject (Undisputed subject) world world')
    (held : world.state subject = some .reconciliationHold)
    (failed : world'.state subject = some .failed) : world.LateAbsence subject := by
  cases next with
  | tick | feeChanged | otherBlock | handled | dropped | abandoned =>
    cases held.symm.trans failed
  | elsewhere samePayout =>
    simp only [state, samePayout] at failed held
    cases held.symm.trans failed
  | sent found begun =>
    obtain ⟨_, begun⟩ := beginFeePayout_begun begun
    cases begun
    cases held.symm.trans failed
  | scanning found begun =>
    obtain ⟨_, begun⟩ := beginFeePayout_begun begun
    cases begun <;> cases held.symm.trans failed
  | @answered claim origin result written current arrived resumed =>
    have write := resumeTransfer_write resumed
    obtain ⟨code, definitive⟩ := state_of_write inv write held failed
    obtain ⟨error, rfl, refuses⟩ := refuses_of_definitive definitive
    -- a refused call was sent from `Pending`, and the payout would still be there
    cases (inv.refused claim origin error arrived refuses).1
    cases held.symm.trans (inv.current _ _ current).2
  | lost current resumed =>
    have write := resumeTransfer_write resumed
    obtain ⟨code, same⟩ := state_of_write inv write held failed
    cases same
  | scanned waiting current ran grown resumed =>
    exact inv.absence_of_scan waiting ran grown resumed held failed

/-- As long as the ledger's answers are undisputed, no state has a paid payout recorded as
failed, and a held payout fails only on a complete scan that started after its window. -/
theorem paid_never_failed (subject : FeePayoutSubject) (world : FeeWorld)
    (reached : Reaches subject (Undisputed subject) world) :
    (Accepted world.ledger subject.transfer → world.state subject ≠ some .failed) ∧
    ∀ world', Step subject (Undisputed subject) world world' →
      world.state subject = some .reconciliationHold → world'.state subject = some .failed →
        world.LateAbsence subject := by
  refine ⟨fun accepted failed => ?_, fun world' next held failed => ?_⟩
  · exact (reached.inv.failed failed).1 accepted
  · exact reached.inv.absence_of_failure next held failed

/-! A payout whose first transfer is accepted while its reply is lost. If the ledger then
raises its fee, the transfer is refused when it is sent again. -/

def samplePayoutTransfer : LedgerTransferIdentity where
  operation := .feePayout
  createdAtTimeNs := 0
  memo := 5
  amount := 400
  fee := 100
  from_ := ⟨[9], 0, owner_nine_valid⟩
  to_ := ⟨[1], 0, owner_one_valid⟩
  spender := none

def sampleSubject : FeePayoutSubject := ⟨[8], 0, samplePayoutTransfer⟩

def requestedStore : SettlementStore :=
  { empty with
    feePayouts := Table.empty.put ⟨0, 400, samplePayoutTransfer, .pending⟩
    accounting := ⟨1000, 1000, 0⟩
    counters := ⟨0, 1, 0, 0, 500⟩ }

def heldStore : SettlementStore :=
  { requestedStore with
    feePayouts := requestedStore.feePayouts.put
      ⟨0, 400, samplePayoutTransfer, .reconciliationHold⟩ }

def failedStore : SettlementStore :=
  { heldStore with
    feePayouts := heldStore.feePayouts.put ⟨0, 400, samplePayoutTransfer, .failed⟩
    counters := ⟨0, 1, 0, 0, 0⟩ }

def payoutBlock : Transaction :=
  ⟨some ⟨400, some 100, some 0, some (memoBytes 5), ⟨[9], none⟩, ⟨[1], none⟩, none⟩⟩

def requestedWorld : FeeWorld :=
  ⟨0, 100, [], requestedStore, 0, none, [], [], ⟨0, []⟩, []⟩

def heldWorld : FeeWorld :=
  { requestedWorld with
    ledger := [payoutBlock]
    store := heldStore
    claims := 1
    replies := [(1, .pending, .ok 0)] }

def failedWorld : FeeWorld :=
  { heldWorld with
    fee := 200
    store := failedStore
    claims := 2
    replies := [(2, .reconciliationHold, .error (.badFee 200)), (1, .pending, .ok 0)] }

theorem payoutBlock_carries : matchesIdentity payoutBlock samplePayoutTransfer = true := by
  decide +kernel

theorem heldWorld_reached {condition : AnswerCondition}
    (meets : ∀ world, world.fee = 100 → condition world (1, .pending) (.ok 0)) :
    Reaches sampleSubject condition heldWorld := by
  have start : Reaches sampleSubject condition requestedWorld :=
    .start ⟨Nat.zero_le _, ⟨_, rfl, rfl, rfl⟩, rfl, rfl, rfl, rfl, rfl⟩
  have sent := start.step (.sent rfl rfl)
  have admits : ledgerRule.Admits 0 [] payoutBlock := by
    intro stamp _
    exact ⟨Nat.zero_le _, by simp⟩
  have accepted := sent.step (.handled (List.mem_singleton.mpr rfl)
    (.accepted rfl admits payoutBlock_carries) (meets _ rfl))
  exact accepted.step (.lost rfl rfl)

theorem paid_never_failed_held :
    Reaches sampleSubject (Undisputed sampleSubject) heldWorld ∧
    Accepted heldWorld.ledger samplePayoutTransfer ∧
    heldWorld.state sampleSubject ≠ some .failed := by
  have reached : Reaches sampleSubject (Undisputed sampleSubject) heldWorld :=
    heldWorld_reached fun world charged => ⟨fun _ => charged, fun _ absurdity => by cases absurdity⟩
  have accepted : Accepted heldWorld.ledger samplePayoutTransfer :=
    ⟨payoutBlock, List.mem_singleton.mpr rfl, payoutBlock_carries⟩
  exact ⟨reached, accepted, (paid_never_failed sampleSubject heldWorld reached).1 accepted⟩

/-- Without a condition on the ledger's answers a paid payout is recorded as failed, and no
scan has been made. -/
theorem paid_recorded_failed :
    ∃ world, Reaches sampleSubject (fun _ _ _ => True) world ∧
      Accepted world.ledger sampleSubject.transfer ∧
      world.state sampleSubject = some .failed ∧ world.scans = [] := by
  have held : Reaches sampleSubject (fun _ _ _ => True) heldWorld :=
    heldWorld_reached fun _ _ => trivial
  have raised := held.step (.feeChanged 200)
  have sent := raised.step (.sent rfl rfl)
  have refused := sent.step (.handled (List.mem_singleton.mpr rfl) (.badFee (by decide)) trivial)
  have failed : Reaches sampleSubject (fun _ _ _ => True) failedWorld :=
    refused.step (.answered rfl (List.mem_cons_self ..) rfl)
  exact ⟨failedWorld, failed, ⟨payoutBlock, List.mem_singleton.mpr rfl, payoutBlock_carries⟩, rfl,
    rfl⟩

end FeeWorld

end KinicBridge
