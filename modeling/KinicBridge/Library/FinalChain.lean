import Mathlib.Tactic

/-! A chain of blocks with a final part, which only grows; blocks past it may be dropped. Whatever
order links generate holds between any two blocks of the chain. -/
namespace KinicBridge

open List

structure FinalChain (Block : Type) where
  blocks : List Block
  finalized : Nat
  bounded : finalized ≤ blocks.length

namespace FinalChain

variable {Block : Type}

def start (genesis : Block) : FinalChain Block := ⟨[genesis], 1, Nat.le_refl 1⟩

section

variable (chain : FinalChain Block)

def Final (block : Block) : Prop :=
  block ∈ chain.blocks.take chain.finalized

def mine (block : Block) : FinalChain Block :=
  ⟨chain.blocks ++ [block], chain.finalized,
    chain.bounded.trans (by rw [length_append]; exact Nat.le_add_right _ _)⟩

def rewind (n : Nat) (kept : chain.finalized ≤ n) : FinalChain Block :=
  ⟨chain.blocks.take n, chain.finalized, by
    rw [length_take]
    exact Nat.le_min.mpr ⟨kept, chain.bounded⟩⟩

end

inductive Step (links : Block → Block → Prop) (chain : FinalChain Block) :
    FinalChain Block → Prop where
  | mined (tip : chain.blocks.getLast? = some parent) (linked : links parent block) :
      Step links chain (chain.mine block)
  | reorganized (kept : chain.finalized ≤ n) : Step links chain (chain.rewind n kept)
  | finalized (grown : chain.finalized ≤ n) (bounded : n ≤ chain.blocks.length) :
      Step links chain ⟨chain.blocks, n, bounded⟩

variable {chain chain' : FinalChain Block} {block : Block} {links order : Block → Block → Prop}

theorem Final.mem (final : chain.Final block) : block ∈ chain.blocks :=
  mem_of_mem_take final

theorem Final.step (final : chain.Final block) (next : Step links chain chain') :
    chain'.Final block := by
  cases next with
  | mined =>
    rw [Final, mine, take_append_of_le_length chain.bounded]
    exact final
  | reorganized kept =>
    rw [Final, rewind, take_take, Nat.min_eq_left kept]
    exact final
  | finalized grown => exact mem_of_mem_take (by
      rw [take_take, Nat.min_eq_left grown]
      exact final)

theorem Step.block_cases (next : Step links chain chain') (present : block ∈ chain'.blocks) :
    block ∈ chain.blocks ∨ ∃ parent ∈ chain.blocks, links parent block := by
  cases next with
  | mined tip linked =>
    rcases mem_append.mp present with before | new
    · exact .inl before
    · cases mem_singleton.mp new
      exact .inr ⟨_, mem_of_getLast? tip, linked⟩
  | reorganized => exact .inl (mem_of_mem_take present)
  | finalized => exact .inl present

/-- The chain is ordered by every transitive relation its links imply. -/
theorem Step.ordered (next : Step links chain chain') (ordered : chain.blocks.Pairwise order)
    (trans : ∀ a b c, order a b → order b c → order a c)
    (implied : ∀ a b, links a b → order a b) : chain'.blocks.Pairwise order := by
  cases next with
  | @mined parent block tip linked =>
    obtain ⟨before, whole⟩ := getLast?_eq_some_iff.mp tip
    have earlier : ∀ b ∈ before, order b parent := by
      have split := whole ▸ ordered
      intro b mem
      exact (pairwise_append.mp split).2.2 b mem parent (mem_singleton_self _)
    refine pairwise_append.mpr ⟨ordered, pairwise_singleton _ _, ?_⟩
    intro b mem c new
    cases mem_singleton.mp new
    have last := implied _ _ linked
    rw [whole] at mem
    rcases mem_append.mp mem with old | tip
    · exact trans _ _ _ (earlier b old) last
    · cases mem_singleton.mp tip
      exact last
  | reorganized => exact ordered.sublist (take_sublist _ _)
  | finalized => exact ordered

theorem compare_blocks (ordered : chain.blocks.Pairwise order) (first : a ∈ chain.blocks)
    (second : b ∈ chain.blocks) : a = b ∨ order a b ∨ order b a := by
  by_cases same : a = b
  · exact .inl same
  · have either : chain.blocks.Pairwise fun a b => order a b ∨ order b a :=
      ordered.imp fun h => .inl h
    have : Std.Symm fun a b => order a b ∨ order b a := ⟨fun _ _ => Or.symm⟩
    exact .inr (either.forall first second same)

end FinalChain

end KinicBridge
