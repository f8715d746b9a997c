import KinicBridge.Base.Bridge
import KinicBridge.Library.FinalChain

/-! Blocks of Base as the bridge sees them: a timestamp and the contract's storage after
the block. Anyone may call the contract in any block; the signer's signature exists only
on authorizations the canister has published. -/
namespace KinicBridge

namespace BridgeState

variable {params : BridgeParameters} {published : MintAuthorization → Prop} {timestamp : Nat}
  {state last : BridgeState} {call : BridgeCall} {id : Bytes32}

section

variable (published : MintAuthorization → Prop)

def Unforged (state : BridgeState) (call : BridgeCall) : Prop :=
  ∀ authorization, call = .mintDepositWithAuthorization authorization (some state.bridgeSigner) →
    published authorization

inductive Executes (params : BridgeParameters) (published : MintAuthorization → Prop)
    (timestamp : Nat) : BridgeState → List BridgeCall → BridgeState → Prop where
  | done {state : BridgeState} : Executes params published timestamp state [] state
  | call {state last : BridgeState} {call : BridgeCall} {calls : List BridgeCall}
      (unforged : Unforged published state call)
      (rest : Executes params published timestamp (state.run params timestamp call) calls
        last) :
      Executes params published timestamp state (call :: calls) last

/-- A processed deposit was processed before, or a published authorization for it was still
open at the timestamp. -/
def Accounted (timestamp : Nat) (before after : Bytes32 → Bool) : Prop :=
  ∀ id, after id = true → before id = true ∨
    ∃ authorization, published authorization ∧ authorization.depositId = id ∧
      timestamp ≤ authorization.deadline

end

theorem run_keeps_processed (state : BridgeState) (call : BridgeCall)
    (processed : state.processedDeposits id = true) :
    (state.run params timestamp call).processedDeposits id = true := by
  change (state.run params timestamp call).assets.processedDeposits id = true
  cases run_effect params timestamp state call with
  | minted authorization effects signed happened =>
    rw [happened.assets]
    by_cases same : id = authorization.depositId
    · simp [same]
    · simp [same, processed]
  | burned withdrawal happened =>
    rw [happened.assets]
    exact processed
  | kept assets =>
    rw [assets]
    exact processed

theorem run_accounted (unforged : Unforged published state call) :
    Accounted published timestamp state.processedDeposits
      (state.run params timestamp call).processedDeposits := by
  intro id processed
  change (state.run params timestamp call).assets.processedDeposits id = true at processed
  cases run_effect params timestamp state call with
  | minted authorization effects signed happened =>
    rw [happened.assets] at processed
    by_cases same : id = authorization.depositId
    · exact .inr ⟨authorization, unforged authorization signed, same.symm, happened.accepted.inTime⟩
    · exact .inl (by simpa [same] using processed)
  | burned withdrawal happened =>
    rw [happened.assets] at processed
    exact .inl processed
  | kept assets =>
    rw [assets] at processed
    exact .inl processed

theorem Executes.keeps_processed (ran : Executes params published timestamp state calls last)
    (processed : state.processedDeposits id = true) : last.processedDeposits id = true := by
  induction ran with
  | done => exact processed
  | call _ _ ih => exact ih (run_keeps_processed _ _ processed)

theorem Executes.accounted (ran : Executes params published timestamp state calls last) :
    Accounted published timestamp state.processedDeposits last.processedDeposits := by
  induction ran with
  | done => exact fun id processed => .inl processed
  | call unforged _ ih =>
    intro id processed
    rcases ih id processed with before | new
    · exact run_accounted unforged id before
    · exact .inr new

end BridgeState

structure BaseBlock where
  timestamp : Nat
  state : BridgeState

namespace BaseBlock

variable {params : BridgeParameters} {published published' : MintAuthorization → Prop}
  {a b c : BaseBlock}

def processed (block : BaseBlock) (id : Bytes32) : Bool := block.state.processedDeposits id

structure Produces (params : BridgeParameters) (published : MintAuthorization → Prop)
    (parent block : BaseBlock) : Prop where
  later : parent.timestamp ≤ block.timestamp
  ran : ∃ calls, parent.state.Executes params published block.timestamp calls block.state

/-- What an earlier block says about a later one: a processed deposit stays processed, and
one processed in between had a published authorization that was open at the earlier one. -/
structure Precedes (published : MintAuthorization → Prop) (a b : BaseBlock) : Prop where
  later : a.timestamp ≤ b.timestamp
  kept : ∀ id, a.processed id = true → b.processed id = true
  accounted : BridgeState.Accounted published a.timestamp a.processed b.processed

theorem Produces.precedes (produced : Produces params published a b) : Precedes published a b := by
  obtain ⟨calls, ran⟩ := produced.ran
  refine ⟨produced.later, fun id processed => ran.keeps_processed processed, ?_⟩
  intro id processed
  rcases ran.accounted id processed with before | ⟨authorization, known, same, inTime⟩
  · exact .inl before
  · exact .inr ⟨authorization, known, same, produced.later.trans inTime⟩

theorem Precedes.trans (first : Precedes published a b) (second : Precedes published b c) :
    Precedes published a c := by
  refine ⟨first.later.trans second.later, fun id flag => second.kept id (first.kept id flag), ?_⟩
  intro id processed
  rcases second.accounted id processed with before | ⟨authorization, known, same, inTime⟩
  · exact first.accounted id before
  · exact .inr ⟨authorization, known, same, first.later.trans inTime⟩

theorem Precedes.mono (precedes : Precedes published a b)
    (more : ∀ authorization, published authorization → published' authorization) :
    Precedes published' a b := by
  refine ⟨precedes.later, precedes.kept, ?_⟩
  intro id processed
  rcases precedes.accounted id processed with before | ⟨authorization, known, rest⟩
  · exact .inl before
  · exact .inr ⟨authorization, more _ known, rest⟩

end BaseBlock

end KinicBridge
