import Mathlib.Tactic

/-! The facts about a transfer that the page shows. Components reduce events into copies of
their own and publish them; a published copy replaces another by its revisions alone. -/
namespace KinicBridge

inductive TransferIssue where
  | processed | unknown | expired | refundReady | refundAvailable | reverted | conflict | stopped
  deriving DecidableEq

inductive TransferOutcome where
  | minted | paid | refunded | cancelled | reverted
  deriving DecidableEq

inductive TransferSource where
  | wallet | base | ic | operation
  deriving DecidableEq

inductive TransferDirection where
  | deposit | withdraw
  deriving DecidableEq

inductive BridgeProgressPhase where
  | verifyingIcDestination | awaitingIcAllowance | awaitingIcDeposit | icDepositAccepted
  | authorizationGenerating | awaitingBaseMint | baseMintSubmitted | baseMintIncluded
  | baseMintFinalizing | awaitingBaseAllowance | awaitingBaseApprovalReflection
  | awaitingBaseWithdrawal | baseWithdrawalSubmitted | baseWithdrawalIncluded
  | baseWithdrawalFinalizing | awaitingIcNotification | icNotificationRecorded | ledgerPayout
  | refundChecking | refundProcessing | refundWaiting | complete | attention
  deriving DecidableEq

structure TransferWarnings where
  transport : Option String := none
  storage : Option String := none
  wallet : Option String := none
  deriving DecidableEq

/-- The transport errors stand in the order in which their sources first had one. -/
structure TransferFacts where
  identity : String
  generation : Nat
  revisions : TransferSource → Option Int
  direction : TransferDirection
  phase : BridgeProgressPhase
  issue : Option TransferIssue := none
  outcome : Option TransferOutcome := none
  warnings : TransferWarnings := {}
  transportErrors : List (TransferSource × Option String) := []
  message : Option String := none
  transactionHash : Option String := none
  recordingPending : Option Bool := none

inductive TransferWarningCause where
  | transport | storage | wallet
  deriving DecidableEq

inductive TransferReport where
  | observed (phase : BridgeProgressPhase) (issue : Option TransferIssue)
      (outcome : Option TransferOutcome) (message transactionHash : Option String)
      (recordingPending : Option Bool)
  | warning (cause : TransferWarningCause) (message : Option String)
  deriving DecidableEq

structure TransferEvent where
  identity : String
  generation : Nat
  source : TransferSource
  revision : Int
  report : TransferReport
  deriving DecidableEq

namespace TransferFacts

def initialTransferFacts (identity : String) (direction : TransferDirection)
    (phase : BridgeProgressPhase) : TransferFacts :=
  { identity, direction, phase, generation := 0, revisions := fun _ => none }

variable (facts : TransferFacts)

def revision (source : TransferSource) : Int :=
  (facts.revisions source).getD (-1)

def withTransportError (source : TransferSource) (message : Option String) : TransferFacts :=
  let errors := if facts.transportErrors.any (·.1 = source)
    then facts.transportErrors.map fun entry => if entry.1 = source then (source, message) else entry
    else facts.transportErrors ++ [(source, message)]
  let shown := errors.findSome? fun entry => entry.2.filter (· ≠ "")
  { facts with transportErrors := errors, warnings := { facts.warnings with transport := shown } }

/-- A mint attempt that an available authorization says nothing new about. -/
def attemptUnderWay : Bool :=
  facts.phase ∈ [.awaitingBaseMint, .baseMintSubmitted, .baseMintIncluded, .baseMintFinalizing,
    .attention] && (facts.phase ≠ .attention || facts.issue ≠ some .stopped)

def observe (source : TransferSource) (phase : BridgeProgressPhase)
    (issue : Option TransferIssue) (outcome : Option TransferOutcome)
    (message transactionHash : Option String) (recordingPending : Option Bool) : TransferFacts :=
  let next := if source = .base ∨ source = .ic then facts.withTransportError source none else facts
  if facts.issue = some .conflict then next
  else if facts.outcome.isSome then
    if (outcome.isSome ∧ outcome ≠ facts.outcome) ∨ issue = some .conflict then
      { next with
        issue := some .conflict
        message := some "Confirmed evidence conflicts. Review required." }
    else { next with recordingPending := recordingPending <|> facts.recordingPending }
  else if source = .ic ∧ phase = .awaitingBaseMint ∧ facts.attemptUnderWay = true then next
  else { next with
    phase, issue, outcome, message
    transactionHash := transactionHash <|> facts.transactionHash
    recordingPending := recordingPending <|> facts.recordingPending
    warnings := { next.warnings with
      wallet := if source = .wallet ∨ transactionHash.isSome ∨ phase ≠ facts.phase then none
        else facts.warnings.wallet } }

def warn (source : TransferSource) (message : Option String) : TransferWarningCause → TransferFacts
  | .transport => facts.withTransportError source message
  | .storage => { facts with warnings := { facts.warnings with storage := message } }
  | .wallet => { facts with warnings := { facts.warnings with wallet := message } }

def reduceTransfer (event : TransferEvent) : TransferFacts :=
  if event.identity ≠ facts.identity ∨ event.generation ≠ facts.generation ∨
      event.revision ≤ facts.revision event.source then facts
  else
    let next := { facts with
      revisions := Function.update facts.revisions event.source (some event.revision) }
    match event.report with
    | .warning cause message => next.warn event.source message cause
    | .observed phase issue outcome message transactionHash recordingPending =>
      next.observe event.source phase issue outcome message transactionHash recordingPending

def supersedes (facts current : TransferFacts) : Bool :=
  current.generation < facts.generation || (current.generation = facts.generation &&
    [.wallet, .base, .ic, .operation].all fun source =>
      (current.revisions source).all fun revision => revision ≤ facts.revision source)

def resolved : Bool :=
  facts.outcome.isSome || facts.issue = some .conflict || facts.issue = some .processed

/-- The later facts are about the same attempt and have every outcome of the earlier ones. -/
structure Extends (earlier later : TransferFacts) : Prop where
  identity : later.identity = earlier.identity
  generation : later.generation = earlier.generation
  outcome : ∀ outcome, earlier.outcome = some outcome → later.outcome = some outcome

theorem Extends.refl : facts.Extends facts := ⟨rfl, rfl, fun _ known => known⟩

theorem Extends.of_revisions {later : TransferFacts} {seen : TransferSource → Option Int}
    (extended : Extends { facts with revisions := seen } later) : facts.Extends later :=
  ⟨extended.identity, extended.generation, extended.outcome⟩

theorem extends_observe (phase : BridgeProgressPhase)
    (issue : Option TransferIssue) (outcome : Option TransferOutcome) (message hash pending) :
    facts.Extends (facts.observe source phase issue outcome message hash pending) := by
  have cleared : facts.Extends (if source = .base ∨ source = .ic
      then facts.withTransportError source none else facts) := by
    split <;> exact ⟨rfl, rfl, fun _ known => known⟩
  simp only [observe]
  generalize (if source = .base ∨ source = .ic
    then facts.withTransportError source none else facts) = next at cleared
  split
  · exact cleared
  · split
    · split <;> exact ⟨cleared.identity, cleared.generation, cleared.outcome⟩
    next unknown =>
      split
      · exact cleared
      · refine ⟨cleared.identity, cleared.generation, fun outcome known => ?_⟩
        simp [known] at unknown

theorem extends_reduceTransfer (event : TransferEvent) :
    facts.Extends (facts.reduceTransfer event) := by
  simp only [reduceTransfer]
  split
  · exact Extends.refl facts
  · split
    next cause _ _ => cases cause <;> exact ⟨rfl, rfl, fun _ known => known⟩
    next => exact Extends.of_revisions _ (extends_observe { facts with revisions := _ } ..)

/-- The facts a component has when it starts from the current ones and reads events. -/
def Descends (current facts : TransferFacts) : Prop :=
  ∃ events : List TransferEvent, facts = events.foldl reduceTransfer current

theorem Descends.extends {current facts : TransferFacts} (descends : Descends current facts) :
    current.Extends facts := by
  obtain ⟨events, rfl⟩ := descends
  induction events generalizing current with
  | nil => exact Extends.refl current
  | cons event events ih =>
    have first := extends_reduceTransfer current event
    have rest := @ih (current.reduceTransfer event)
    exact ⟨rest.identity.trans first.identity, rest.generation.trans first.generation,
      fun known confirmed => rest.outcome known (first.outcome known confirmed)⟩

end TransferFacts

inductive TransferStep where
  | feed (component : Nat) (event : TransferEvent)
  | publish (component : Nat)
  | read (component : Nat)
  deriving DecidableEq

structure TransferPage where
  snapshots : String → Option TransferFacts
  copies : Nat → TransferFacts

namespace TransferPage

section

variable (page : TransferPage)

def publishTransferFacts (facts : TransferFacts) : TransferPage :=
  match page.snapshots facts.identity with
  | none => { page with snapshots := Function.update page.snapshots facts.identity (some facts) }
  | some current =>
    if facts.supersedes current then
      { page with snapshots := Function.update page.snapshots facts.identity (some facts) }
    else page

def perform : TransferStep → TransferPage
  | .feed component event => { page with
      copies := Function.update page.copies component
        ((page.copies component).reduceTransfer event) }
  | .publish component => page.publishTransferFacts (page.copies component)
  | .read component => { page with
      copies := Function.update page.copies component
        ((page.snapshots (page.copies component).identity).getD (page.copies component)) }

def payoutEvent (facts : TransferFacts) (identity : String) (generation : Nat) (paid : Bool) :
    TransferEvent where
  identity
  generation
  source := .operation
  revision := (facts.revisions .operation).getD 0 + 1
  report := .observed (if paid then .complete else .ledgerPayout) none
    (if paid then some .paid else none) none none none

/-- The last turn of `continueTransferPayout`, once the canister has answered; `generation` was
read before the call. -/
def continueTransferPayout (identity : String) (generation : Nat) (paid : Bool) : TransferPage :=
  let facts := (page.snapshots identity).getD (.initialTransferFacts identity .withdraw .ledgerPayout)
  page.publishTransferFacts (facts.reduceTransfer (payoutEvent facts identity generation paid))

def actionAllowed (identity : String) : Bool :=
  ¬((page.snapshots identity).any TransferFacts.resolved)

/-- A component publishes only what it made of the facts that are published now, or what the
revisions refuse. -/
def Careful : TransferStep → Prop
  | .publish component => ∀ current,
      page.snapshots (page.copies component).identity = some current →
        (page.copies component).supersedes current = true →
          current.Descends (page.copies component)
  | _ => True

def Keyed : Prop := ∀ identity facts, page.snapshots identity = some facts →
  facts.identity = identity

end

def CarefulRun : TransferPage → List TransferStep → Prop
  | _, [] => True
  | page, step :: steps => page.Careful step ∧ CarefulRun (page.perform step) steps

theorem perform_keeps {page : TransferPage} (careful : page.Careful step)
    (published : page.snapshots identity = some facts) :
    ∃ later, (page.perform step).snapshots identity = some later ∧ facts.Extends later := by
  have same := TransferFacts.Extends.refl facts
  cases step with
  | feed component event => exact ⟨facts, published, same⟩
  | read component => exact ⟨facts, published, same⟩
  | publish component =>
    simp only [perform, publishTransferFacts]
    by_cases here : (page.copies component).identity = identity
    · rw [here, published]
      split
      next => contradiction
      next current known =>
        cases known
        split
        next replaces =>
          have descends := careful facts (here ▸ published) replaces
          exact ⟨_, by simp, descends.extends⟩
        · exact ⟨facts, published, same⟩
    · have other : ∀ value, Function.update page.snapshots (page.copies component).identity value
          identity = some facts := fun value => by
        rw [Function.update_of_ne (Ne.symm here), published]
      split
      · exact ⟨facts, other _, same⟩
      · split
        · exact ⟨facts, other _, same⟩
        · exact ⟨facts, published, same⟩

theorem Keyed.perform {page : TransferPage} (keyed : page.Keyed) (step : TransferStep) :
    (page.perform step).Keyed := by
  cases step with
  | feed component event => exact keyed
  | read component => exact keyed
  | publish component =>
    have written : Keyed { page with
        snapshots := Function.update page.snapshots (page.copies component).identity
          (some (page.copies component)) } := by
      intro identity facts published
      by_cases here : identity = (page.copies component).identity
      · subst here
        cases (Function.update_self ..).symm.trans published
        rfl
      · exact keyed identity facts ((Function.update_of_ne here ..).symm.trans published)
    simp only [TransferPage.perform, publishTransferFacts]
    split
    · exact written
    · split
      · exact written
      · exact keyed

theorem publish_snapshots {page page' : TransferPage} (same : page.snapshots = page'.snapshots)
    (facts : TransferFacts) :
    (page.publishTransferFacts facts).snapshots = (page'.publishTransferFacts facts).snapshots := by
  unfold publishTransferFacts
  rw [same]
  split
  · rfl
  · split
    · rfl
    · exact same

/-- The last turn of `continueTransferPayout` is a careful read, feed and publish. -/
theorem continueTransferPayout_careful {page : TransferPage} (keyed : page.Keyed)
    (fresh : page.copies component = .initialTransferFacts identity .withdraw .ledgerPayout)
    (generation : Nat) (paid : Bool) : ∃ event,
      CarefulRun page [.read component, .feed component event, .publish component] ∧
      ([.read component, .feed component event, .publish component].foldl perform page).snapshots =
        (page.continueTransferPayout identity generation paid).snapshots := by
  have named : (page.copies component).identity = identity := by
    rw [fresh]
    rfl
  obtain ⟨facts, read⟩ : ∃ facts, (page.snapshots identity).getD (page.copies component) = facts :=
    ⟨_, rfl⟩
  have own : facts.identity = identity := by
    cases published : page.snapshots identity with
    | none => rw [← read, published, Option.getD_none, named]
    | some current => rw [← read, published, Option.getD_some, keyed identity current published]
  refine ⟨payoutEvent facts identity generation paid, ?_⟩
  have copied : ((page.perform (.read component)).perform (.feed component
      (payoutEvent facts identity generation paid))).copies component =
      facts.reduceTransfer (payoutEvent facts identity generation paid) := by
    simp [perform, named, read]
  constructor
  · refine ⟨trivial, trivial, fun current published _ =>
      ⟨[payoutEvent facts identity generation paid], ?_⟩, trivial⟩
    rw [copied, (TransferFacts.extends_reduceTransfer ..).identity, own] at published
    have same : page.snapshots identity = some current := published
    rw [copied, ← read, same]
    rfl
  · rw [fresh] at read
    simp only [List.foldl_cons, List.foldl_nil, continueTransferPayout, read]
    rw [← copied]
    have same : ((page.perform (.read component)).perform (.feed component
      (payoutEvent facts identity generation paid))).snapshots = page.snapshots := rfl
    exact publish_snapshots same _

/-- An outcome that was published once stays published, and nothing more is started. -/
theorem outcome_kept {page : TransferPage} (careful : CarefulRun page steps)
    (published : page.snapshots identity = some facts)
    (confirmed : facts.outcome = some outcome) :
    ∃ later, (steps.foldl perform page).snapshots identity = some later ∧
      later.generation = facts.generation ∧ later.outcome = some outcome ∧
      (steps.foldl perform page).actionAllowed identity = false := by
  induction steps generalizing page facts with
  | nil =>
    refine ⟨facts, published, rfl, confirmed, ?_⟩
    simp [actionAllowed, published, TransferFacts.resolved, confirmed]
  | cons step steps ih =>
    obtain ⟨later, now, kept⟩ := perform_keeps careful.1 published
    obtain ⟨last, then', generation, rest⟩ := ih careful.2 now (kept.outcome outcome confirmed)
    exact ⟨last, then', generation.trans kept.generation, rest⟩

def opened : TransferPage where
  snapshots _ := none
  copies _ := .initialTransferFacts "deposit:1" .deposit .awaitingBaseMint

def mintSeen : TransferEvent :=
  ⟨"deposit:1", 0, .base, 1, .observed .complete none (some .minted) none none none⟩

def finalitySeen : TransferEvent :=
  ⟨"deposit:1", 0, .base, 2, .observed .baseMintFinalizing none none none none none⟩

def minted : TransferPage := (opened.perform (.feed 0 mintSeen)).perform (.publish 0)

theorem outcome_kept_reread :
    ([.read 1, .feed 1 finalitySeen, .publish 1].foldl perform minted).actionAllowed
      "deposit:1" = false := by
  have careful : CarefulRun minted [.read 1, .feed 1 finalitySeen, .publish 1] := by
    refine ⟨trivial, trivial, fun current known _ => ⟨[finalitySeen], ?_⟩, trivial⟩
    cases known
    rfl
  obtain ⟨-, -, -, -, refused⟩ :=
    outcome_kept careful (rfl : minted.snapshots "deposit:1" = some _) rfl
  exact refused

/-- Two copies fed with increasing revisions: the second never saw the mint and replaces it. -/
theorem outcome_overwritten :
    minted.actionAllowed "deposit:1" = false ∧
      ([.feed 1 finalitySeen, .publish 1].foldl perform minted).actionAllowed "deposit:1" = true ∧
      (([.feed 1 finalitySeen, .publish 1].foldl perform minted).snapshots "deposit:1").map
          (fun facts => (facts.generation, facts.outcome, facts.issue)) = some (0, none, none) := by
  decide

end TransferPage

end KinicBridge
