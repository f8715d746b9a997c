import KinicBridge.Base.Bridge
import KinicBridge.Library.RateWindow

/-! What the Base contract has minted and burned since it was deployed. The supply is the
difference, no deposit is minted twice, and mints keep to the limit of a deposit, of a window
and of any interval as long as a window. -/
namespace KinicBridge

open Finset

open MintAuthorizationPolicy (windowExpired)

namespace Bsns

variable {erc20 : Erc20} {token next : Bsns}

noncomputable local instance : Fintype Bytes20 :=
  @Fintype.ofFinite _ (Finite.of_injective BitVec.toFin fun _ _ => BitVec.eq_of_toFin_eq)

def Backed (token : Bsns) : Prop := ∑ account, token.balanceOf account = token.totalSupply

variable (balance : Bytes20 → Nat) (account : Bytes20)

theorem sum_credit (amount : Nat) :
    ∑ other, Function.update balance account (balance account + amount) other =
      (∑ other, balance other) + amount := by
  rw [sum_update_of_mem (mem_univ account), ← add_sum_erase _ balance (mem_univ account), erase_eq]
  omega

theorem sum_debit (covered : amount ≤ balance account) :
    (∑ other, Function.update balance account (balance account - amount) other) + amount =
      ∑ other, balance other := by
  rw [sum_update_of_mem (mem_univ account), ← add_sum_erase _ balance (mem_univ account), erase_eq]
  omega

theorem Backed.mint (backed : token.Backed)
    (minted : token.bridgeMint erc20 recipient amount = .ok next) :
    next.Backed ∧ next.totalSupply = token.totalSupply + amount := by
  obtain rfl := erc20.mint_ok minted
  refine ⟨?_, rfl⟩
  rw [Backed] at backed ⊢
  rw [sum_credit, backed]

theorem Backed.transfer (backed : token.Backed)
    (moved : erc20.transfer token sender recipient amount = .ok next) :
    next.Backed ∧ next.totalSupply = token.totalSupply := by
  obtain ⟨covered, rfl⟩ := erc20.transfer_ok moved
  refine ⟨?_, rfl⟩
  rw [Backed] at backed ⊢
  rw [sum_credit, sum_debit _ _ covered, backed]

theorem Backed.burn {bridge : Bytes20} (backed : token.Backed)
    (burned : token.bridgeBurn erc20 bridge amount = .ok next) :
    next.Backed ∧ next.totalSupply + amount = token.totalSupply := by
  obtain ⟨covered, rfl⟩ := erc20.burn_ok burned
  rw [Backed] at backed ⊢
  have debited := sum_debit token.balanceOf bridge covered
  dsimp only
  omega

end Bsns

structure TimedCall where
  timestamp : Nat
  call : BridgeCall
  deriving DecidableEq

structure BridgeDeployment (params : BridgeParameters) where
  timestamp : Nat
  bridgeSigner : Bytes20
  runtimeAdministrator : Bytes20
  serviceFee : Nat
  roles : BridgeState.validateRoleSet bridgeSigner runtimeAdministrator
    params.baseAdminTimelock = .ok ()
  fee_bounded : params.minServiceFee ≤ serviceFee ∧ serviceFee ≤ params.maxServiceFee

def BridgeDeployment.state (deployment : BridgeDeployment params) : BridgeState :=
  .deployed deployment.timestamp deployment.bridgeSigner deployment.runtimeAdministrator
    deployment.serviceFee

structure MintRecord extends RateGrant where
  depositId : Bytes32
  deriving DecidableEq

structure BridgeHistory where
  state : BridgeState
  mints : List MintRecord
  withdrawn : List Nat

namespace BridgeHistory

variable (params : BridgeParameters)

section

variable (history : BridgeHistory) (timed : TimedCall)

def record (next : BridgeState) : BridgeHistory :=
  match timed.call with
  | .mintDepositWithAuthorization authorization _ =>
    { history with
      state := next
      mints := ⟨⟨timed.timestamp, authorization.grossAmount - authorization.chargedServiceFee,
        windowExpired timed.timestamp history.state.mintWindowStartedAt
          params.mintWindowDuration⟩, authorization.depositId⟩ :: history.mints }
  | .createWithdrawal _ amount _ _ _ =>
    { history with state := next, withdrawn := amount :: history.withdrawn }
  | _ => { history with state := next }

def step : BridgeHistory :=
  match history.state.execute params timed.timestamp timed.call with
  | .ok next => history.record params timed next
  | .error _ => history

variable (deployment : BridgeDeployment params)

def start : BridgeHistory := ⟨deployment.state, [], []⟩

def run (calls : List TimedCall) : BridgeHistory :=
  calls.foldl (step params) (start params deployment)

def grants : List RateGrant := history.mints.map (·.toRateGrant)

end

def window (state : BridgeState) : RateWindow := ⟨state.mintWindowStartedAt, state.mintedInWindow⟩

/-- What the contract keeps of its history while the last block has the timestamp `clock`. -/
structure Accounts (start : RateWindow) (clock : Nat) (history : BridgeHistory) : Prop where
  backed : history.state.token.Backed
  supply : history.state.token.totalSupply + history.withdrawn.sum = RateGrant.total history.grants
  processed : ∀ mint ∈ history.mints, history.state.processedDeposits mint.depositId = true
  once : (history.mints.map (·.depositId)).Nodup
  small : ∀ mint ∈ history.mints, mint.amount ≤ params.perDepositLimit
  limited : RateWindow.History params.mintWindowDuration params.mintWindowLimit start
    history.grants (window history.state)
  started : history.state.mintWindowStartedAt ≤ clock

variable {params : BridgeParameters} {history : BridgeHistory} {start : RateWindow}

theorem Accounts.later (accounts : Accounts params start clock history) (later : clock ≤ now) :
    Accounts params start now history :=
  { accounts with started := accounts.started.trans later }

theorem Accounts.kept (accounts : Accounts params start clock history)
    (assets : next.assets = history.state.assets) (backed : next.token.Backed) :
    Accounts params start clock { history with state := next } := by
  simp only [BridgeState.assets, BridgeState.Assets.mk.injEq] at assets
  obtain ⟨processed, startedAt, consumed, _, _, supply⟩ := assets
  refine ⟨backed, ?_, ?_, accounts.once, accounts.small, ?_, ?_⟩
  · rw [supply]
    exact accounts.supply
  · rw [processed]
    exact accounts.processed
  · rw [window, startedAt, consumed]
    exact accounts.limited
  · rw [startedAt]
    exact accounts.started

theorem grants_window {state : BridgeState} (later : state.mintWindowStartedAt ≤ timestamp)
    (accepted : MintAuthorizationPolicy.Accepted
      (state.mintInput params timestamp authorization) effects) :
    RateWindow.Grants params.mintWindowDuration params.mintWindowLimit (window state)
      ⟨timestamp, authorization.grossAmount - authorization.chargedServiceFee,
        windowExpired timestamp state.mintWindowStartedAt params.mintWindowDuration⟩
      ⟨effects.windowStartedAtAfter, effects.windowConsumedAfter⟩ := by
  refine ⟨later, decide_eq_true_iff, ?_, accepted.within⟩
  rcases accepted.window with ⟨expired, started, consumed⟩ | ⟨running, started, consumed⟩
  · have reset : windowExpired timestamp state.mintWindowStartedAt params.mintWindowDuration
        = true := decide_eq_true expired
    rw [if_pos reset, started, consumed]
    rfl
  · have unreset : ¬windowExpired timestamp state.mintWindowStartedAt
        params.mintWindowDuration = true := by
      rw [windowExpired, decide_eq_true_iff]
      exact Nat.not_le.mpr running
    rw [if_neg unreset, started, consumed]
    rfl

theorem Accounts.step (accounts : Accounts params start clock history)
    (later : clock ≤ timed.timestamp) :
    Accounts params start timed.timestamp (history.step params timed) := by
  have now := accounts.later later
  unfold BridgeHistory.step
  split
  next next executed =>
    have performs := BridgeState.execute_performs executed
    obtain ⟨timestamp, call⟩ := timed
    dsimp only at performs now later ⊢
    cases performs with
    | @minted authorization effects token accepted credited =>
      obtain ⟨backed, supply⟩ := now.backed.mint credited
      have granted := grants_window now.started accepted
      have unprocessed : history.state.processedDeposits authorization.depositId = false :=
        accepted.fresh
      refine ⟨backed, ?_, ?_, ?_, ?_, .granted now.limited granted, ?_⟩
      · calc token.totalSupply + history.withdrawn.sum
          _ = (authorization.grossAmount - authorization.chargedServiceFee) +
              (history.state.token.totalSupply + history.withdrawn.sum) := by omega
          _ = _ := congrArg _ now.supply
      · intro mint present
        rcases List.mem_cons.mp present with rfl | earlier
        · exact Function.update_self ..
        · have processed := now.processed mint earlier
          by_cases same : mint.depositId = authorization.depositId
          · rw [same]
            exact Function.update_self ..
          · exact (Function.update_of_ne same ..).trans processed
      · refine List.nodup_cons.mpr ⟨fun again => ?_, now.once⟩
        obtain ⟨mint, earlier, same⟩ := List.mem_map.mp again
        have processed := now.processed mint earlier
        rw [same] at processed
        exact absurd (processed.symm.trans unprocessed) (by decide)
      · intro mint present
        rcases List.mem_cons.mp present with rfl | earlier
        · exact accepted.small
        · exact now.small mint earlier
      · rcases accepted.window with ⟨_, started, _⟩ | ⟨_, started, _⟩
        · exact started.le
        · exact started.le.trans now.started
    | @withdrew amount maxServiceFee owner sender moved subaccount token accepted collected burned =>
      obtain ⟨movedBacked, movedSupply⟩ := now.backed.transfer collected
      obtain ⟨backed, supply⟩ := movedBacked.burn burned
      refine ⟨backed, ?_, now.processed, now.once, now.small, now.limited, now.started⟩
      calc token.totalSupply + (amount + history.withdrawn.sum)
        _ = history.state.token.totalSupply + history.withdrawn.sum := by omega
        _ = _ := now.supply
    | transferred moved =>
      obtain ⟨backed, supply⟩ := now.backed.transfer moved
      exact now.kept (by simp only [BridgeState.assets, supply]) backed
    | paused | unpaused | rotated => exact now.kept rfl now.backed
    | administered administers =>
      cases call with
      | mintDepositWithAuthorization | createWithdrawal | transfer => contradiction
      | _ => exact now.kept rfl now.backed
  · exact now

theorem Accounts.run {calls : List TimedCall} (accounts : Accounts params start clock history)
    (ordered : (clock :: calls.map (·.timestamp)).Pairwise (· ≤ ·)) :
    ∃ now, Accounts params start now (calls.foldl (BridgeHistory.step params) history) := by
  induction calls generalizing clock history with
  | nil => exact ⟨clock, accounts⟩
  | cons timed calls ih =>
    obtain ⟨later, ordered⟩ := List.pairwise_cons.mp ordered
    exact ih (accounts.step (later _ (List.mem_cons_self ..))) ordered

theorem accounts_start (deployment : BridgeDeployment params) :
    Accounts params (window deployment.state) deployment.timestamp
      (BridgeHistory.start params deployment) where
  backed := sum_const_zero
  supply := rfl
  processed := fun _ none => by contradiction
  once := List.nodup_nil
  small := fun _ none => by contradiction
  limited := .unused (Nat.zero_le _)
  started := Nat.mod_le ..

/-- Over every sequence of calls in blocks whose timestamps do not decrease, the supply is what
was minted less what was withdrawn, no deposit is minted twice, no mint is above the limit of a
deposit, no more than the limit of the window is minted from one reset up to the next, and no
more than twice that in an interval no longer than the window. -/
theorem supply_and_limits (deployment : BridgeDeployment params) (calls : List TimedCall)
    (ordered : (deployment.timestamp :: calls.map (·.timestamp)).Pairwise (· ≤ ·)) :
    let history := run params deployment calls
    history.state.token.totalSupply + history.withdrawn.sum = RateGrant.total history.grants ∧
    (history.mints.map (·.depositId)).Nodup ∧
    (∀ mint ∈ history.mints, mint.amount ≤ params.perDepositLimit) ∧
    (∀ newer stretch older, history.grants = newer ++ stretch ++ older →
      (∀ grant ∈ stretch.dropLast, grant.reset = false) →
      RateGrant.total stretch ≤ params.mintWindowLimit) ∧
    ∀ first last, last ≤ first + params.mintWindowDuration →
      RateGrant.total (RateGrant.between first last history.grants) ≤
        2 * params.mintWindowLimit := by
  intro history
  obtain ⟨now, accounts⟩ := (accounts_start deployment).run ordered
  have positive : 0 < params.mintWindowDuration :=
    Nat.lt_of_lt_of_le (by decide) params.duration_bounded.1
  exact ⟨accounts.supply, accounts.once, accounts.small,
    fun newer stretch older parts calm => accounts.limited.stretch_le parts calm,
    fun first last short => accounts.limited.between_le positive short⟩

def sampleBridge : BridgeParameters where
  bridge := 1
  bsns := 2
  erc20 := .lenient
  baseAdminTimelock := 3
  minServiceFee := 1
  maxServiceFee := 100
  perDepositLimit := 1000
  mintWindowLimit := 1000
  mintWindowDuration := 3600
  limits_nonzero := by decide
  fees_ordered := by decide
  fits := by decide
  duration_bounded := by decide

def sampleDeployment : BridgeDeployment sampleBridge :=
  ⟨0, 10, 12, 10, by decide, by decide⟩

def sampleMint (timestamp : Nat) (depositId : Bytes32) (grossAmount : Nat) : TimedCall :=
  ⟨timestamp, .mintDepositWithAuthorization
    ⟨depositId, 20, grossAmount, 10, 10, timestamp + 60, 2⟩ (some 10)⟩

def sampleCalls : List TimedCall :=
  [⟨10, .unpauseDepositMints 3⟩, ⟨10, .unpauseWithdrawals 3⟩, sampleMint 20 1 510,
    sampleMint 3000 2 410, sampleMint 3700 3 1010, ⟨3710, .createWithdrawal 20 300 10 [1] 0⟩]

theorem supply_and_limits_sample :
    let history := run sampleBridge sampleDeployment sampleCalls
    history.grants = [⟨3700, 1000, true⟩, ⟨3000, 400, false⟩, ⟨20, 500, false⟩] ∧
    history.state.token.totalSupply + history.withdrawn.sum = 1900 ∧
    RateGrant.total (RateGrant.between 100 3700 history.grants) ≤ 2000 := by
  have facts := supply_and_limits sampleDeployment sampleCalls (by decide)
  have granted : (run sampleBridge sampleDeployment sampleCalls).grants =
      [⟨3700, 1000, true⟩, ⟨3000, 400, false⟩, ⟨20, 500, false⟩] := by decide +kernel
  refine ⟨granted, facts.1.trans ?_, facts.2.2.2.2 100 3700 (by decide)⟩
  rw [granted]
  rfl

end BridgeHistory

end KinicBridge
