import KinicBridge.Governance.Timelock
import KinicBridge.Library.FinalChain

/-! The canister's governance next to Base. One endpoint runs at a time; emergencies are declared in
between, and Base includes what was signed in any order that its nonces allow. -/
namespace KinicBridge

structure GovernanceBlock where
  timestamp : Nat
  state : GovernanceBase

/-- What was so when the latest emergency was declared: the id of the next transaction, and
the transactions that Base had included. -/
structure EmergencyMark where
  nextId : Nat
  included : Bytes32 → Bool

/-- `reading` is the finalized head that the outstanding observation was made at. `signed` and
`prepared` remember every generation that was stored and every id that was given out, newest
first. -/
structure GovernanceWorld where
  store : GovernanceStore
  flow : Option GovernanceFlow
  reading : Option GovernanceBase
  controllers : List Principal
  now : Nat
  chain : FinalChain GovernanceBlock
  signed : List GovernanceCall
  prepared : List Nat
  emergency : Option EmergencyMark

inductive GovernanceEndpoint where
  | prepare (action : GovernanceAction)
  | prepareNextEmergency
  | prepareReplacement (args : GovernanceStore.ReplacementArgs)
  | confirm (args : GovernanceStore.ConfirmArgs)
  deriving DecidableEq

/-- How a call is answered. Observations are true of a finalized head; whether an account can
pay, and when anything is answered, is not for the canister to say. -/
inductive GovernanceAnswer where
  | failed
  | observed
  | done
  | signature (hash : Bytes32)
  deriving DecidableEq

inductive GovernanceCommand where
  | call (caller : Principal) (endpoint : GovernanceEndpoint)
  | read
  | answer (answer : GovernanceAnswer)
  | emergencyPause (caller : Principal)
  | pauseNewDeposits (caller : Principal)
  | rotatePausePrincipal (caller next : Principal)
  | setControllers (controllers : List Principal)
  | tick (now : Nat)
  | mine (timestamp : Nat) (inclusions : List GovernanceBase.Inclusion)
  | reorganize (length : Nat)
  | finalize (length : Nat)
  deriving DecidableEq

namespace GovernanceWorld

variable (params : GovernanceParameters) (config : GovernanceConfig)

section

variable (world : GovernanceWorld)

def head : Option GovernanceBase :=
  (world.chain.blocks.take world.chain.finalized).getLast?.map (·.state)

def tip : Option GovernanceBlock := world.chain.blocks.getLast?

def start (caller : Principal) : GovernanceEndpoint → GovernanceMessage
  | .prepare action =>
    (world.store, world.store.prepare config world.controllers caller action)
  | .prepareNextEmergency => world.store.prepareNextEmergency config world.controllers caller
  | .prepareReplacement args =>
    (world.store, world.store.prepareReplacement config world.controllers caller args)
  | .confirm args => (world.store, world.store.confirm config world.controllers caller args)

def receiptBlock (hash : Bytes32) : Nat :=
  world.chain.blocks.findIdx fun block => (block.state.receipts hash).isSome

def receiptOutcome (base : GovernanceBase) (hash : Bytes32) : ReceiptOutcome :=
  match base.receipts hash with
  | none => .missing
  | some succeeded => .found succeeded (world.receiptBlock hash) base.observe

def resume : GovernanceFlow → GovernanceAnswer → Option GovernanceMessage
  | .signing .., .failed | .replacementSigning .., .failed =>
    some (world.store, .error .signingUnavailable)
  | .affording .., .failed | .resuming .., .failed | .replacing .., .failed =>
    some (world.store, .error .insufficientGovernanceBalance)
  | _, .failed => some (world.store, .error .observationUnavailable)
  | .observingFee caller value authority, .observed =>
    world.reading.map fun _ => (world.store, world.store.feeObserved config world.controllers
      caller value authority params.maxServiceFee)
  | .counting caller action authority, .observed =>
    world.reading.map fun base => (world.store, do
      let operator ← world.store.operatorAddressForRole action.nonceLane
      world.store.prepareWithNonce config world.controllers caller action authority
        (some (base.counts operator)))
  | .preflight plan, .observed =>
    world.reading.map fun base =>
      (world.store, world.store.preflighted config world.controllers plan base.observe)
  | .addressing plan generation, .done =>
    some (world.store, .ok (GovernanceStore.addressed config plan generation))
  | .affording plan transaction, .done =>
    some (world.store.afforded world.controllers plan transaction)
  | .resuming caller transaction, .done =>
    some (world.store, world.store.resumed world.controllers caller transaction)
  | .signing caller transaction, .signature hash =>
    some (world.store.signed world.controllers caller transaction hash world.now)
  | .replacing caller transaction current, .done =>
    some (world.store, world.store.replacementAfforded world.controllers caller transaction current)
  | .replacementSigning caller transaction current, .signature hash =>
    some (world.store.replacementSigned world.controllers caller transaction current hash world.now)
  | .confirming caller transaction hash, .observed =>
    world.reading.map fun base => world.store.receiptArrived config world.controllers caller
      transaction hash (world.receiptOutcome base hash)
  | _, _ => none

def fresh : GovernanceAnswer → Bool
  | .signature hash => world.signed.all (·.hash != hash)
  | _ => true

def newGeneration (flow : GovernanceFlow) (answer : GovernanceAnswer)
    (message : GovernanceMessage) : Option GovernanceCall :=
  match flow, answer, message.2 with
  | .signing _ transaction, .signature hash, .ok (.returned _)
  | .replacementSigning _ transaction _, .signature hash, .ok (.returned _) =>
    some ⟨hash,
      config.operator world.store.admission.controlPlaneKeyGeneration transaction.kind.nonceLane,
      transaction.envelope.nonce, transaction.id, transaction.kind⟩
  | _, _, _ => none

def newId (flow : GovernanceFlow) (message : GovernanceMessage) : Option Nat :=
  match flow, message.2 with
  | .affording _ transaction, .ok (.waiting _) => some transaction.id
  | _, _ => none

def nextFlow (message : GovernanceMessage) : Option GovernanceFlow :=
  match message.2 with
  | .ok (.waiting flow) => some flow
  | _ => none

def answered (flow : GovernanceFlow) (answer : GovernanceAnswer)
    (message : GovernanceMessage) : GovernanceWorld :=
  { world with
    store := message.1
    flow := nextFlow message
    reading := none
    signed := (world.newGeneration config flow answer message).toList ++ world.signed
    prepared := (newId flow message).toList ++ world.prepared }

def signedInclusion : GovernanceBase.Inclusion → Bool
  | .governance call _ => world.signed.contains call
  | .other _ => true

def step : GovernanceCommand → Option GovernanceWorld
  | .call caller endpoint =>
    -- the endpoints share one guard
    if world.flow.isSome then none
    else
      let message := world.start config caller endpoint
      some { world with store := message.1, flow := nextFlow message, reading := none }
  | .read => do
    let _ ← world.flow
    let head ← world.head
    some { world with reading := some head }
  | .answer answer => do
    let flow ← world.flow
    let message ← world.resume params config flow answer
    if world.fresh answer then some (world.answered config flow answer message) else none
  | .emergencyPause caller =>
    match world.store.emergencyPause caller with
    | .error _ => none
    | .ok store => do
      let tip ← world.tip
      some { world with
        store
        emergency := some ⟨store.admission.nextGovernanceOperationId,
          fun hash => (tip.state.receipts hash).isSome⟩ }
  | .pauseNewDeposits caller =>
    match world.store.admin.pause caller with
    | .error _ => none
    | .ok admin => some { world with store := ⟨world.store.admission, admin⟩ }
  | .rotatePausePrincipal caller next =>
    match world.store.rotatePausePrincipal config caller next with
    | .error _ => none
    | .ok store => some { world with store }
  | .setControllers controllers => some { world with controllers }
  | .tick now => if world.now ≤ now then some { world with now } else none
  | .mine timestamp inclusions => do
    let parent ← world.tip
    if timestamp < parent.timestamp ∨ inclusions.all world.signedInclusion = false then none
    else
      let state ← parent.state.includeAll params timestamp inclusions
      some { world with chain := world.chain.mine ⟨timestamp, state⟩ }
  | .reorganize length =>
    if kept : world.chain.finalized ≤ length then
      some { world with chain := world.chain.rewind length kept }
    else none
  | .finalize length =>
    if bounded : length ≤ world.chain.blocks.length then
      if world.chain.finalized ≤ length then
        some { world with chain := ⟨world.chain.blocks, length, bounded⟩ }
      else none
    else none

end

def anyCommand : GovernanceWorld → GovernanceCommand → Bool := fun _ _ => true

def run (allowed : GovernanceWorld → GovernanceCommand → Bool) (world : GovernanceWorld)
    (commands : List GovernanceCommand) : Option GovernanceWorld :=
  commands.foldlM (fun world command =>
    if allowed world command then world.step params config command else none) world

structure Initial (world : GovernanceWorld) : Prop where
  idle : world.flow = none ∧ world.reading = none
  unused : ∀ lane, world.store.admission.lane lane = ⟨false, 0, none, none⟩
  unscheduled : world.store.admission.pendingTimelockOperation = none ∧
    world.store.admission.pendingControlPlaneRotation = none
  calm : world.store.admission.emergencyBaseActionsPending = false ∧ world.emergency = none
  generation : world.store.admission.controlPlaneKeyGeneration = 0
  keys : ∀ lane address, world.store.admission.operatorAddress lane = some address →
    address = config.operator 0 lane
  paused : world.store.admin.depositsPaused = true
  unsigned : world.signed = [] ∧ world.prepared = []
  deployed : ∃ genesis, world.chain = .start genesis ∧
    genesis.state.bridge.depositMintsPaused = true ∧
    genesis.state.bridge.withdrawalsPaused = true ∧
    (∀ id, genesis.state.timelock.operations id = .unset) ∧
    ∀ hash, genesis.state.receipts hash = none

/-- The worlds that runs reach whose commands are all `allowed` where they are given. -/
inductive Reachable (allowed : GovernanceWorld → GovernanceCommand → Bool) :
    GovernanceWorld → Prop where
  | initial (fresh : Initial config world) : Reachable allowed world
  | step (before : Reachable allowed world) (meets : allowed world command = true)
      (stepped : world.step params config command = some next) : Reachable allowed next

end GovernanceWorld

end KinicBridge
