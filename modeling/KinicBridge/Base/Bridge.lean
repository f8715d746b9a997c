import KinicBridge.Base.Policy
import KinicBridge.Core.Authorization

/-! The Base contract: its storage, the calls anyone may send it, and the token it mints
and burns. A call runs in one block at the block's timestamp; a reverted call leaves the
state as it was. -/
namespace KinicBridge

open Checked Function

open MintAuthorizationPolicy (RejectReason MintEffects MintTransitionInput evaluateMint nextEpoch)

/-- The token contract: its balances, kept as OpenZeppelin's `ERC20` keeps them. -/
structure Bsns where
  totalSupply : Nat
  balanceOf : Bytes20 → Nat

inductive BridgeError
  | invalidMintAuthorizationSignature
  | mintRejected (reason : RejectReason)
  | withdrawalsArePaused
  | valueExceedsU128 (value : Nat)
  | invalidAmount (amount : Nat)
  | serviceFeeExceedsUserMaximum (chargedServiceFee maxServiceFee : Nat)
  | invalidPrincipal
  | insufficientBalance
  | unauthorizedRuntimeAdministrator
  | unauthorizedBaseAdmin
  | bridgeSignerRotationRequired
  | invalidServiceFee (serviceFee maxServiceFee : Nat)
  | bridgeSignerAlreadyRetired
  | zeroAddress
  | roleAddressesMustDiffer
  | arithmeticOverflow
  deriving DecidableEq

/-- The `ERC20` the token inherits: any functions that do what is documented of `_mint`,
`_transfer` and `_burn` when they do not revert. -/
structure Erc20 where
  mint : Bsns → Bytes20 → Nat → Except BridgeError Bsns
  transfer : Bsns → Bytes20 → Bytes20 → Nat → Except BridgeError Bsns
  burn : Bsns → Bytes20 → Nat → Except BridgeError Bsns
  mint_ok : ∀ {token recipient amount next}, mint token recipient amount = .ok next →
    next = ⟨token.totalSupply + amount,
      update token.balanceOf recipient (token.balanceOf recipient + amount)⟩
  transfer_ok : ∀ {token sender recipient amount next},
    transfer token sender recipient amount = .ok next → amount ≤ token.balanceOf sender ∧
      let debited := update token.balanceOf sender (token.balanceOf sender - amount)
      next = ⟨token.totalSupply, update debited recipient (debited recipient + amount)⟩
  burn_ok : ∀ {token account amount next}, burn token account amount = .ok next →
    amount ≤ token.balanceOf account ∧ next = ⟨token.totalSupply - amount,
      update token.balanceOf account (token.balanceOf account - amount)⟩

def Erc20.lenient : Erc20 where
  mint token recipient amount :=
    if limit 256 < token.totalSupply + amount then .error .arithmeticOverflow
    else .ok ⟨token.totalSupply + amount,
      update token.balanceOf recipient (token.balanceOf recipient + amount)⟩
  transfer token sender recipient amount :=
    if token.balanceOf sender < amount then .error .insufficientBalance
    else
      let debited := update token.balanceOf sender (token.balanceOf sender - amount)
      .ok ⟨token.totalSupply, update debited recipient (debited recipient + amount)⟩
  burn token account amount :=
    if token.balanceOf account < amount then .error .insufficientBalance
    else .ok ⟨token.totalSupply - amount,
      update token.balanceOf account (token.balanceOf account - amount)⟩
  mint_ok minted := (Except.ok.inj (guarded_ok.mp minted).2).symm
  transfer_ok moved :=
    ⟨Nat.not_lt.mp (guarded_ok.mp moved).1, (Except.ok.inj (guarded_ok.mp moved).2).symm⟩
  burn_ok burned :=
    ⟨Nat.not_lt.mp (guarded_ok.mp burned).1, (Except.ok.inj (guarded_ok.mp burned).2).symm⟩

namespace Bsns

variable (erc20 : Erc20) (token : Bsns)

def bridgeMint (recipient : Bytes20) (amount : Nat) : Except BridgeError Bsns :=
  erc20.mint token recipient amount

def bridgeBurn (bridge : Bytes20) (amount : Nat) : Except BridgeError Bsns :=
  erc20.burn token bridge amount

end Bsns

/-- The immutables of a deployed contract, with what its constructor checked of them. -/
structure BridgeParameters where
  bridge : Bytes20
  bsns : Bytes20
  erc20 : Erc20
  baseAdminTimelock : Bytes20
  minServiceFee : Nat
  maxServiceFee : Nat
  perDepositLimit : Nat
  mintWindowLimit : Nat
  mintWindowDuration : Nat
  limits_nonzero : perDepositLimit ≠ 0 ∧ mintWindowLimit ≠ 0
  fees_ordered : minServiceFee ≠ 0 ∧ minServiceFee ≤ maxServiceFee
  fits : perDepositLimit ≤ limit 128 ∧ mintWindowLimit ≤ limit 128 ∧ maxServiceFee ≤ limit 128
  duration_bounded : 3600 ≤ mintWindowDuration ∧ mintWindowDuration ≤ 30 * 86400

structure StoredWithdrawal where
  requester : Bytes20
  amount : Nat
  maxServiceFee : Nat
  chargedServiceFee : Nat
  owner : List UInt8
  subaccount : Bytes32
  deriving DecidableEq

structure BridgeState where
  bridgeSigner : Bytes20
  mintAuthorizationEpoch : Nat
  runtimeAdministrator : Bytes20
  serviceFee : Nat
  mintWindowStartedAt : Nat
  mintedInWindow : Nat
  depositMintsPaused : Bool
  withdrawalsPaused : Bool
  nextWithdrawalId : Nat
  processedDeposits : Bytes32 → Bool
  withdrawals : Nat → Option StoredWithdrawal
  retiredBridgeSigners : Bytes20 → Bool
  bridgeSignerAtLastPause : Bytes20
  token : Bsns

/-- A call to the contract or to its token. `recovered` is the address the signature of a
mint recovers to, if it recovers to any. -/
inductive BridgeCall
  | mintDepositWithAuthorization (authorization : MintAuthorization) (recovered : Option Bytes20)
  | createWithdrawal (sender : Bytes20) (amount maxServiceFee : Nat) (owner : List UInt8)
      (subaccount : Bytes32)
  | transfer (sender recipient : Bytes20) (amount : Nat)
  | pauseDepositMints (sender : Bytes20)
  | pauseWithdrawals (sender : Bytes20)
  | unpauseDepositMints (sender : Bytes20)
  | unpauseWithdrawals (sender : Bytes20)
  | setServiceFee (sender : Bytes20) (serviceFee : Nat)
  | rotateBridgeSigner (sender newSigner : Bytes20)
  | rotateRuntimeAdministrator (sender newAdministrator : Bytes20)
  deriving DecidableEq

namespace BridgeState

variable (params : BridgeParameters) (timestamp : Nat)

def deployed (bridgeSigner runtimeAdministrator : Bytes20) (serviceFee : Nat) : BridgeState where
  bridgeSigner := bridgeSigner
  mintAuthorizationEpoch := 1
  runtimeAdministrator := runtimeAdministrator
  serviceFee := serviceFee
  mintWindowStartedAt := timestamp % 2 ^ 64
  mintedInWindow := 0
  depositMintsPaused := true
  withdrawalsPaused := true
  nextWithdrawalId := 1
  processedDeposits := fun _ => false
  withdrawals := fun _ => none
  retiredBridgeSigners := fun _ => false
  bridgeSignerAtLastPause := 0
  token := ⟨0, fun _ => 0⟩

section

variable (state : BridgeState)

section

variable (authorization : MintAuthorization)

def mintInput : MintTransitionInput where
  timestamp := timestamp
  deadline := authorization.deadline
  authorizationEpoch := authorization.authorizationEpoch
  currentEpoch := state.mintAuthorizationEpoch
  recipient := authorization.recipient
  bridge := params.bridge
  token := params.bsns
  grossAmount := authorization.grossAmount
  maximumFee := authorization.maxServiceFee
  chargedFee := authorization.chargedServiceFee
  protocolMaximumFee := params.maxServiceFee
  perDepositLimit := params.perDepositLimit
  consumedInWindow := state.mintedInWindow
  windowLimit := params.mintWindowLimit
  windowStartedAt := state.mintWindowStartedAt
  windowDuration := params.mintWindowDuration
  paused := state.depositMintsPaused
  processed := state.processedDeposits authorization.depositId

def commitAuthorizedMint (effects : MintEffects) : Except BridgeError BridgeState := do
  let token ← state.token.bridgeMint params.erc20 authorization.recipient
    effects.supplyIncrease
  return { state with
    processedDeposits :=
      update state.processedDeposits authorization.depositId effects.processedAfter
    mintWindowStartedAt := effects.windowStartedAtAfter
    mintedInWindow := effects.windowConsumedAfter
    token := token }

def mintDepositWithAuthorization (recovered : Option Bytes20) : Except BridgeError BridgeState :=
  if recovered ≠ some state.bridgeSigner then .error .invalidMintAuthorizationSignature
  else
    match evaluateMint (state.mintInput params timestamp authorization) with
    | none => .error .arithmeticOverflow
    | some (.none, effects, _) => state.commitAuthorizedMint params authorization effects
    | some (reason, _, _) => .error (.mintRejected reason)

end

def invalidPrincipal (owner : List UInt8) : Bool :=
  owner.length = 0 || 29 < owner.length || owner = [0x04]

section

variable (sender : Bytes20)

/-- The checks a request passes before it claims its transaction. -/
def checkWithdrawal (amount maxServiceFee : Nat) (owner : List UInt8) : Except BridgeError Unit :=
  if state.withdrawalsPaused then .error .withdrawalsArePaused
  else if limit 128 < amount then .error (.valueExceedsU128 amount)
  else if limit 128 < maxServiceFee then .error (.valueExceedsU128 maxServiceFee)
  else if amount = 0 then .error (.invalidAmount amount)
  else if maxServiceFee < state.serviceFee then
    .error (.serviceFeeExceedsUserMaximum state.serviceFee maxServiceFee)
  else if amount ≤ state.serviceFee then .error (.invalidAmount amount)
  else if invalidPrincipal owner then .error .invalidPrincipal
  else .ok ()

section

variable (amount maxServiceFee : Nat) (owner : List UInt8) (subaccount : Bytes32)

def commitWithdrawal : Except BridgeError BridgeState := do
  let next ← okOr .arithmeticOverflow (add 256 state.nextWithdrawalId 1)
  let moved ← params.erc20.transfer state.token sender params.bridge amount
  let burned ← moved.bridgeBurn params.erc20 params.bridge amount
  return { state with
    nextWithdrawalId := next
    withdrawals := update state.withdrawals state.nextWithdrawalId
      (some ⟨sender, amount, maxServiceFee, state.serviceFee, owner, subaccount⟩)
    token := burned }

def createWithdrawal : Except BridgeError BridgeState := do
  state.checkWithdrawal amount maxServiceFee owner
  state.commitWithdrawal params sender amount maxServiceFee owner subaccount

end

def advanceEpoch : Except BridgeError BridgeState :=
  (okOr .arithmeticOverflow (nextEpoch state.mintAuthorizationEpoch)).map fun epoch =>
    { state with mintAuthorizationEpoch := epoch }

def validateRoleSet (signer administrator timelock : Bytes20) : Except BridgeError Unit :=
  if signer = 0 ∨ administrator = 0 ∨ timelock = 0 then .error .zeroAddress
  else if signer = administrator ∨ signer = timelock ∨ administrator = timelock then
    .error .roleAddressesMustDiffer
  else .ok ()

variable (body : Except BridgeError BridgeState)

def onlyRuntimeAdministrator : Except BridgeError BridgeState :=
  if sender ≠ state.runtimeAdministrator then .error .unauthorizedRuntimeAdministrator else body

def onlyBaseAdminTimelock : Except BridgeError BridgeState :=
  if sender ≠ params.baseAdminTimelock then .error .unauthorizedBaseAdmin else body

end

def pauseDepositMints : Except BridgeError BridgeState :=
  if state.depositMintsPaused then .ok state
  else advanceEpoch
    { state with depositMintsPaused := true, bridgeSignerAtLastPause := state.bridgeSigner }

/-- Minting resumes only under a signer other than the one that was paused. -/
def unpauseDepositMints : Except BridgeError BridgeState :=
  if ¬state.depositMintsPaused then .ok state
  else if state.bridgeSignerAtLastPause ≠ 0 ∧ state.bridgeSigner = state.bridgeSignerAtLastPause then
    .error .bridgeSignerRotationRequired
  else advanceEpoch { state with depositMintsPaused := false }

def setServiceFee (serviceFee : Nat) : Except BridgeError BridgeState :=
  if ¬(params.minServiceFee ≤ serviceFee ∧ serviceFee ≤ params.maxServiceFee) then
    .error (.invalidServiceFee serviceFee params.maxServiceFee)
  else .ok { state with serviceFee := serviceFee }

def rotateBridgeSigner (newSigner : Bytes20) : Except BridgeError BridgeState :=
  if state.bridgeSigner = newSigner then .ok state
  else if state.retiredBridgeSigners newSigner then .error .bridgeSignerAlreadyRetired
  else do
    validateRoleSet newSigner state.runtimeAdministrator params.baseAdminTimelock
    advanceEpoch { state with
      retiredBridgeSigners := update state.retiredBridgeSigners state.bridgeSigner true
      bridgeSigner := newSigner }

def rotateRuntimeAdministrator (newAdministrator : Bytes20) : Except BridgeError BridgeState :=
  if newAdministrator = state.runtimeAdministrator then .ok state
  else do
    validateRoleSet state.bridgeSigner newAdministrator params.baseAdminTimelock
    return { state with runtimeAdministrator := newAdministrator }

def execute : BridgeCall → Except BridgeError BridgeState
  | .mintDepositWithAuthorization authorization recovered =>
    state.mintDepositWithAuthorization params timestamp authorization recovered
  | .createWithdrawal sender amount maxServiceFee owner subaccount =>
    state.createWithdrawal params sender amount maxServiceFee owner subaccount
  | .transfer sender recipient amount =>
    (params.erc20.transfer state.token sender recipient amount).map fun token =>
      { state with token := token }
  | .pauseDepositMints sender => state.onlyRuntimeAdministrator sender state.pauseDepositMints
  | .pauseWithdrawals sender =>
    state.onlyRuntimeAdministrator sender (.ok { state with withdrawalsPaused := true })
  | .unpauseDepositMints sender => onlyBaseAdminTimelock params sender state.unpauseDepositMints
  | .unpauseWithdrawals sender =>
    onlyBaseAdminTimelock params sender (.ok { state with withdrawalsPaused := false })
  | .setServiceFee sender serviceFee =>
    state.onlyRuntimeAdministrator sender (state.setServiceFee params serviceFee)
  | .rotateBridgeSigner sender newSigner =>
    onlyBaseAdminTimelock params sender (state.rotateBridgeSigner params newSigner)
  | .rotateRuntimeAdministrator sender newAdministrator =>
    onlyBaseAdminTimelock params sender
      (state.rotateRuntimeAdministrator params newAdministrator)

def run (call : BridgeCall) : BridgeState :=
  match state.execute params timestamp call with
  | .ok next => next
  | .error _ => state

/-- The storage that says what was minted and burned. -/
structure Assets where
  processedDeposits : Bytes32 → Bool
  mintWindowStartedAt : Nat
  mintedInWindow : Nat
  nextWithdrawalId : Nat
  withdrawals : Nat → Option StoredWithdrawal
  totalSupply : Nat

def assets : Assets :=
  ⟨state.processedDeposits, state.mintWindowStartedAt, state.mintedInWindow,
    state.nextWithdrawalId, state.withdrawals, state.token.totalSupply⟩

structure Minted (state next : BridgeState) (authorization : MintAuthorization)
    (effects : MintEffects) : Prop where
  accepted : MintAuthorizationPolicy.Accepted
    (state.mintInput params timestamp authorization) effects
  assets : next.assets = { state.assets with
    processedDeposits := update state.processedDeposits authorization.depositId true
    mintWindowStartedAt := effects.windowStartedAtAfter
    mintedInWindow := effects.windowConsumedAfter
    totalSupply := state.token.totalSupply +
      (authorization.grossAmount - authorization.chargedServiceFee) }

structure Burned (state next : BridgeState) (withdrawal : StoredWithdrawal) : Prop where
  charged : withdrawal.chargedServiceFee = state.serviceFee ∧
    withdrawal.chargedServiceFee < withdrawal.amount
  assets : next.assets = { state.assets with
    nextWithdrawalId := state.nextWithdrawalId + 1
    withdrawals := update state.withdrawals state.nextWithdrawalId (some withdrawal)
    totalSupply := state.token.totalSupply - withdrawal.amount }

/-- What a call can do: mint once for an authorization its signer signed, burn for one new
withdrawal, or leave the assets alone. -/
inductive Effect (state : BridgeState) (call : BridgeCall) (next : BridgeState) : Prop
  | minted (authorization effects)
      (signed : call = .mintDepositWithAuthorization authorization (some state.bridgeSigner))
      (happened : Minted params timestamp state next authorization effects)
  | burned (withdrawal) (happened : Burned state next withdrawal)
  | kept (assets : next.assets = state.assets)

structure AcceptedWithdrawal (state : BridgeState) (amount maxServiceFee : Nat)
    (owner : List UInt8) : Prop where
  active : state.withdrawalsPaused = false
  amount_fits : amount ≤ limit 128
  maximum_fits : maxServiceFee ≤ limit 128
  fee_bounded : state.serviceFee ≤ maxServiceFee
  fee_paid : state.serviceFee < amount
  principal : invalidPrincipal owner = false

def administrative : BridgeCall → Bool
  | .mintDepositWithAuthorization .. | .createWithdrawal .. | .transfer .. => false
  | _ => true

def effective : BridgeCall → Bool
  | .pauseDepositMints _ => !state.depositMintsPaused
  | .unpauseDepositMints _ => state.depositMintsPaused
  | .rotateBridgeSigner _ newSigner => state.bridgeSigner ≠ newSigner
  | _ => false

end

inductive Performs (state : BridgeState) : BridgeCall → BridgeState → Prop
  | minted {token : Bsns} (accepted : MintAuthorizationPolicy.Accepted
        (state.mintInput params timestamp authorization) effects)
      (credited : state.token.bridgeMint params.erc20 authorization.recipient
        (authorization.grossAmount - authorization.chargedServiceFee) = .ok token) :
      Performs state (.mintDepositWithAuthorization authorization (some state.bridgeSigner))
        { state with
          processedDeposits := update state.processedDeposits authorization.depositId true
          mintWindowStartedAt := effects.windowStartedAtAfter
          mintedInWindow := effects.windowConsumedAfter
          token }
  | withdrew {token : Bsns} (accepted : state.AcceptedWithdrawal amount maxServiceFee owner)
      (collected : params.erc20.transfer state.token sender params.bridge amount =
        .ok moved)
      (burned : moved.bridgeBurn params.erc20 params.bridge amount = .ok token) :
      Performs state (.createWithdrawal sender amount maxServiceFee owner subaccount)
        { state with
          nextWithdrawalId := state.nextWithdrawalId + 1
          withdrawals := update state.withdrawals state.nextWithdrawalId
            (some ⟨sender, amount, maxServiceFee, state.serviceFee, owner, subaccount⟩)
          token }
  | transferred {token : Bsns}
      (moved : params.erc20.transfer state.token sender recipient amount = .ok token) :
      Performs state (.transfer sender recipient amount) { state with token }
  | paused (active : state.depositMintsPaused = false) :
      Performs state (.pauseDepositMints sender)
        { state with
          depositMintsPaused := true
          bridgeSignerAtLastPause := state.bridgeSigner
          mintAuthorizationEpoch := state.mintAuthorizationEpoch + 1 }
  | unpaused (stopped : state.depositMintsPaused = true)
      (replaced : ¬(state.bridgeSignerAtLastPause ≠ 0 ∧
        state.bridgeSigner = state.bridgeSignerAtLastPause)) :
      Performs state (.unpauseDepositMints sender)
        { state with
          depositMintsPaused := false
          mintAuthorizationEpoch := state.mintAuthorizationEpoch + 1 }
  | rotated (changed : state.bridgeSigner ≠ newSigner)
      (unused : state.retiredBridgeSigners newSigner = false)
      (roles : validateRoleSet newSigner state.runtimeAdministrator params.baseAdminTimelock =
        .ok ()) :
      Performs state (.rotateBridgeSigner sender newSigner)
        { state with
          retiredBridgeSigners := update state.retiredBridgeSigners state.bridgeSigner true
          bridgeSigner := newSigner
          mintAuthorizationEpoch := state.mintAuthorizationEpoch + 1 }
  | administered {withdrawalsPaused : Bool} {serviceFee : Nat} {runtimeAdministrator : Bytes20}
      (administers : administrative call = true) (quiet : state.effective call = false)
      (fee : serviceFee = state.serviceFee ∨ serviceFee ≤ params.maxServiceFee) :
      Performs state call { state with withdrawalsPaused, serviceFee, runtimeAdministrator }

section Effects

variable {params : BridgeParameters} {timestamp : Nat} {state next : BridgeState}
  {call : BridgeCall}

theorem mintDepositWithAuthorization_performs
    (executed : state.mintDepositWithAuthorization params timestamp authorization recovered
      = .ok next) :
    Performs params timestamp state (.mintDepositWithAuthorization authorization recovered)
      next := by
  obtain ⟨signed, decided⟩ := guarded_ok.mp executed
  obtain rfl := not_not.mp signed
  split at decided
  · contradiction
  next effects available evaluated =>
    have accepted := MintAuthorizationPolicy.evaluateMint_accepts evaluated
    obtain ⟨token, minted, written⟩ := bind_ok.mp decided
    obtain rfl := pure_ok.mp written
    rw [accepted.minted] at minted
    rw [accepted.processed]
    exact .minted accepted minted
  · contradiction

theorem createWithdrawal_performs
    (executed : state.createWithdrawal params sender amount maxServiceFee owner subaccount
      = .ok next) : Performs params timestamp state
      (.createWithdrawal sender amount maxServiceFee owner subaccount) next := by
  obtain ⟨_, checked, executed⟩ := bind_ok.mp executed
  obtain ⟨active, checked⟩ := guarded_ok.mp checked
  obtain ⟨amountFits, checked⟩ := guarded_ok.mp checked
  obtain ⟨maximumFits, checked⟩ := guarded_ok.mp checked
  obtain ⟨_, checked⟩ := guarded_ok.mp checked
  obtain ⟨bounded, checked⟩ := guarded_ok.mp checked
  obtain ⟨more, checked⟩ := guarded_ok.mp checked
  obtain ⟨principal, -⟩ := guarded_ok.mp checked
  obtain ⟨id, counted, executed⟩ := found_ok.mp executed
  obtain ⟨rfl, _⟩ := add_eq_some.mp counted
  obtain ⟨moved, collected, executed⟩ := bind_ok.mp executed
  obtain ⟨token, burned, executed⟩ := bind_ok.mp executed
  obtain rfl := pure_ok.mp executed
  exact .withdrew ⟨Bool.of_not_eq_true active, Nat.not_lt.mp amountFits, Nat.not_lt.mp maximumFits,
    Nat.not_lt.mp bounded, Nat.not_le.mp more, Bool.of_not_eq_true principal⟩ collected burned

theorem advanceEpoch_ok (advanced : state.advanceEpoch = .ok next) :
    next = { state with mintAuthorizationEpoch := state.mintAuthorizationEpoch + 1 } := by
  obtain ⟨epoch, counted, rfl⟩ := map_ok.mp advanced
  rw [(add_eq_some.mp (okOr_ok.mp counted)).1]

theorem execute_performs (executed : state.execute params timestamp call = .ok next) :
    Performs params timestamp state call next := by
  cases call with
  | mintDepositWithAuthorization => exact mintDepositWithAuthorization_performs executed
  | createWithdrawal => exact createWithdrawal_performs executed
  | transfer =>
    obtain ⟨token, moved, rfl⟩ := map_ok.mp executed
    exact .transferred moved
  | pauseDepositMints sender =>
    obtain ⟨_, executed⟩ := guarded_ok.mp executed
    unfold pauseDepositMints at executed
    split at executed
    next paused =>
      cases executed
      exact .administered rfl (by rw [effective, paused]; rfl) (.inl rfl)
    next active =>
      obtain rfl := advanceEpoch_ok executed
      exact .paused (Bool.of_not_eq_true active)
  | pauseWithdrawals | unpauseWithdrawals =>
    obtain ⟨_, executed⟩ := guarded_ok.mp executed
    cases executed
    exact .administered rfl rfl (.inl rfl)
  | unpauseDepositMints sender =>
    obtain ⟨_, executed⟩ := guarded_ok.mp executed
    unfold unpauseDepositMints at executed
    split at executed
    next active =>
      cases executed
      exact .administered rfl (Bool.of_not_eq_true active) (.inl rfl)
    next stopped =>
      obtain ⟨replaced, executed⟩ := guarded_ok.mp executed
      obtain rfl := advanceEpoch_ok executed
      exact .unpaused (not_not.mp stopped) replaced
  | setServiceFee sender serviceFee =>
    obtain ⟨_, executed⟩ := guarded_ok.mp executed
    obtain ⟨bounded, executed⟩ := guarded_ok.mp executed
    cases executed
    exact .administered rfl rfl (.inr (not_not.mp bounded).2)
  | rotateBridgeSigner sender newSigner =>
    obtain ⟨_, executed⟩ := guarded_ok.mp executed
    unfold rotateBridgeSigner at executed
    split at executed
    next same =>
      cases executed
      exact .administered rfl (by simp [effective, same]) (.inl rfl)
    next changed =>
      obtain ⟨unused, executed⟩ := guarded_ok.mp executed
      obtain ⟨_, roles, executed⟩ := bind_ok.mp executed
      obtain rfl := advanceEpoch_ok executed
      exact .rotated changed (Bool.of_not_eq_true unused) roles
  | rotateRuntimeAdministrator sender newAdministrator =>
    obtain ⟨_, executed⟩ := guarded_ok.mp executed
    unfold rotateRuntimeAdministrator at executed
    split at executed
    · cases executed
      exact .administered rfl rfl (.inl rfl)
    · obtain ⟨_, _, executed⟩ := bind_ok.mp executed
      obtain rfl := pure_ok.mp executed
      exact .administered rfl rfl (.inl rfl)

theorem Performs.effect (performs : Performs params timestamp state call next) :
    Effect params timestamp state call next := by
  cases performs with
  | @minted authorization effects token accepted credited =>
    obtain rfl := params.erc20.mint_ok credited
    exact .minted authorization effects rfl ⟨accepted, rfl⟩
  | withdrew accepted collected burned =>
    obtain ⟨_, rfl⟩ := params.erc20.transfer_ok collected
    obtain ⟨_, rfl⟩ := params.erc20.burn_ok burned
    exact .burned _ ⟨⟨rfl, accepted.fee_paid⟩, rfl⟩
  | transferred moved =>
    obtain ⟨_, rfl⟩ := params.erc20.transfer_ok moved
    exact .kept rfl
  | _ => exact .kept rfl

theorem execute_effect (executed : state.execute params timestamp call = .ok next) :
    Effect params timestamp state call next := (execute_performs executed).effect

theorem run_effect (params : BridgeParameters) (timestamp : Nat) (state : BridgeState)
    (call : BridgeCall) : Effect params timestamp state call (state.run params timestamp call) := by
  unfold run
  split
  · exact execute_effect ‹_›
  · exact .kept rfl

end Effects

end BridgeState

end KinicBridge
