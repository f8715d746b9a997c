import KinicBridge.Ledger.ScanSound

/-! Scans that start after the window of their transfer has closed. Nothing that matches
can enter the ledger behind such a scan, so its absence verdict is final. -/
namespace KinicBridge

open Scan

structure ScanStart where
  time : Nat
  ledger : List Transaction

/-- Progress of a scan that started after its transfer's window: `seen` is the ledger of the
call or save it belongs to, `current` the ledger now. -/
structure LateScan (ledgerId : List UInt8) (target : ReconciliationTarget)
    (transfer : LedgerTransferIdentity) (start : ScanStart) (now : Nat)
    (seen current : List Transaction) (progress : ReconciliationScanProgress) : Prop where
  grown : seen <+: current
  expired : acceptanceDeadline transfer.createdAtTimeNs < start.time
  elapsed : start.time ≤ now
  reached : ∃ events, ScanReaches ledgerId target transfer start.ledger seen progress events
  after : ∀ i, start.ledger.length ≤ i → ∀ transaction, current[i]? = some transaction →
    matchesIdentity transaction transfer = false

namespace LateScan

theorem fresh (expired : acceptanceDeadline transfer.createdAtTimeNs < now)
    (ledger : List Transaction) :
    LateScan ledgerId target transfer ⟨now, ledger⟩ now ledger ledger (.new target transfer) where
  grown := List.prefix_rfl
  expired := expired
  elapsed := Nat.le_refl now
  reached := ⟨[], .started⟩
  after := by
    intro i beyond transaction block
    have within := (List.getElem?_eq_some_iff.mp block).1
    exact absurd within (Nat.not_lt.mpr beyond)

section

variable (scan : LateScan ledgerId target transfer start now seen current progress)

include scan

theorem tick
    (later : now ≤ now') : LateScan ledgerId target transfer start now' seen current progress :=
  { scan with elapsed := scan.elapsed.trans later }

theorem append (admits : ledgerRule.Admits now current transaction) :
    LateScan ledgerId target transfer start now seen (current ++ [transaction]) progress where
  grown := scan.grown.trans (List.prefix_append _ _)
  expired := scan.expired
  elapsed := scan.elapsed
  reached := scan.reached
  after := by
    intro i beyond entry block
    rcases Nat.lt_or_ge i current.length with old | new
    · rw [List.getElem?_append_left old] at block
      exact scan.after i beyond entry block
    · rw [List.getElem?_append_right new] at block
      cases List.mem_singleton.mp (List.mem_of_getElem? block)
      exact not_matches_of_expired admits (scan.expired.trans_le scan.elapsed)

/-- Saved progress may be taken up again on the ledger as it is now. -/
theorem refresh : LateScan ledgerId target transfer start now current current progress where
  grown := List.prefix_rfl
  expired := scan.expired
  elapsed := scan.elapsed
  reached := by
    obtain ⟨events, reached⟩ := scan.reached
    exact ⟨events, .grown reached scan.grown⟩
  after := scan.after

theorem save
    (call : Dialogue.Runs honestLedger seen (reconcileStep ledgerId progress) ended outcome noted)
    (saves : outcome = .progress saved ∨ outcome = .noProgress saved) (grown : ended <+: current) :
    LateScan ledgerId target transfer start now ended current saved where
  grown := grown
  expired := scan.expired
  elapsed := scan.elapsed
  reached := by
    obtain ⟨events, reached⟩ := scan.reached
    exact ⟨_, .resumed reached call saves⟩
  after := scan.after

theorem progress_transfer : progress.target = target ∧ progress.transfer = transfer := by
  obtain ⟨events, reached⟩ := scan.reached
  obtain ⟨sameTarget, sameTransfer, _, _⟩ := reached.invariant
  exact ⟨sameTarget, sameTransfer⟩

/-- The verdict of a late scan: its transfer is not in the ledger and never will be. -/
theorem dead (call : Dialogue.Runs honestLedger seen (reconcileStep ledgerId progress) ended
      (.absent ledgerWatermark indexWatermark) noted) (grown : ended <+: current) :
    Dead now current transfer := by
  obtain ⟨events, reached⟩ := scan.reached
  obtain ⟨tip, compared, clean⟩ := reached.outcome_sound call
  refine ⟨scan.expired.trans_le scan.elapsed, fun transaction member => ?_⟩
  obtain ⟨i, within, rfl⟩ := List.getElem_of_mem member
  have block : current[i]? = some current[i] := List.getElem?_eq_getElem within
  rcases Nat.lt_or_ge i start.ledger.length with old | new
  · -- the first page was at least as long as the ledger the scan started on
    have longEnough := clean.pages ledgerWatermark (mem_of_firstPage tip)
    obtain ⟨entry, inspected⟩ := compared i (by omega)
    obtain ⟨same, differs⟩ := clean.blocks i entry inspected
    cases block.symm.trans (block_kept grown same)
    exact differs
  · exact scan.after i new _ block

end

end LateScan

end KinicBridge
