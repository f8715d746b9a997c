import KinicBridge.Core.DepositAccounting
import KinicBridge.Core.WithdrawalRuns

/-! Ledger evidence. A record keeps the block of its funding, its refund or its release for
good, and whoever comes with another block for the same transfer is refused. -/
namespace KinicBridge

open DepositState Kernel

inductive DepositLedgerRole where
  | funding
  | refund
  deriving DecidableEq

def DepositRecord.evidence (r : DepositRecord) : DepositLedgerRole → Option Nat
  | .funding => r.state.ledgerBlocks.1
  | .refund => r.state.ledgerBlocks.2

def WithdrawalRecord.evidence (r : WithdrawalRecord) : Option Nat := releaseBlock r.state

namespace DepositOperation

def evidence : DepositOperation → Option (DepositLedgerRole × Nat)
  | .apply (.fundingSucceeded block) | .resolveHold _ (.fundingSucceeded block) =>
    some (.funding, block)
  | .apply (.refundSucceeded block) | .resolveHold _ (.refundSucceeded block) =>
    some (.refund, block)
  | _ => none

def hold : DepositOperation → Option ReconciliationHoldRecord
  | .resolveHold hold _ => some hold
  | _ => none

/-- The hold as an operation leaves it. The source works on copies and stores them back at
the very end, so an error keeps it. -/
def holdAfter (r : DepositRecord) : DepositOperation → Option ReconciliationHoldRecord
  | .resolveHold hold resolution =>
    match resolveDepositHold r hold resolution with
    | .ok (_, closed, _) => some closed
    | .error _ => some hold
  | _ => none

end DepositOperation

namespace WithdrawalOperation

def evidence : WithdrawalOperation → Option Nat
  | .apply (.releaseSucceeded block) | .resolveHold _ (.succeeded block) => some block
  | _ => none

def hold : WithdrawalOperation → Option ReconciliationHoldRecord
  | .resolveHold hold _ => some hold
  | _ => none

def holdAfter (r : WithdrawalRecord) : WithdrawalOperation → Option ReconciliationHoldRecord
  | .resolveHold hold resolution =>
    match resolveWithdrawalHold r hold resolution with
    | .ok (_, closed, _) => some closed
    | .error _ => some hold
  | _ => none

end WithdrawalOperation

/-! The kernel refuses a second block for a transfer. -/

namespace Kernel

theorem funding_conflict (refund : Option Nat) (other : block ≠ current) :
    depositLedgerBlockTransition (some current) refund 1 block = none := by
  simp [depositLedgerBlockTransition, other.symm]

theorem refund_conflict (funding : Option Nat) (other : block ≠ current) :
    depositLedgerBlockTransition funding (some current) 2 block = none := by
  cases funding <;> simp [depositLedgerBlockTransition, other.symm]

theorem release_conflict (other : block ≠ current) :
    withdrawalLedgerBlockTransition (some current) 1 block = none := by
  simp [withdrawalLedgerBlockTransition, other.symm]

end Kernel

namespace DepositRecord

variable {r : DepositRecord}

theorem Moves.evidence {next : DepositRecord} (moves : Moves r operation next)
    (recorded : r.evidence role = some block) : next.evidence role = some block := by
  cases moves with
  | same | dispatched => exact recorded
  | resolved resolved =>
    cases resolved with
    | fundingFound phase | fundingAbsent phase =>
      cases role <;> simp [DepositRecord.evidence, phase, ledgerBlocks] at recorded
    | refundFound phase | refundAbsent phase =>
      cases role <;> simp_all [DepositRecord.evidence, ledgerBlocks]
  | applied applied =>
    cases applied with
    | funded phase | fundingHeld phase | fundingCancelled phase =>
      cases role <;> simp [DepositRecord.evidence, phase, ledgerBlocks] at recorded
    | refundOffered phase =>
      rcases phase with phase | phase | phase <;> cases role <;>
        simp_all [DepositRecord.evidence, ledgerBlocks]
    | mintRecorded phase =>
      rcases phase with phase | ⟨_, phase⟩ <;> cases role <;>
        simp_all [DepositRecord.evidence, ledgerBlocks]
    | committed phase | installed phase | refundStarted phase | refundPaid phase
    | refundHeld phase =>
      cases role <;> simp_all [DepositRecord.evidence, ledgerBlocks]

theorem heldRefundBlocks_refunded
    (recorded : r.evidence .refund = some block) : r.heldRefundBlocks.2 = some block := by
  cases state : r.state <;> simp_all [evidence, heldRefundBlocks, ledgerBlocks]

theorem apply_conflict {event : DepositEvent}
    (conflict : depositLedgerBlockTransition r.state.ledgerBlocks.1 r.state.ledgerBlocks.2
      event.ledgerEvent.1 event.ledgerEvent.2 = none) :
    r.apply event = .error .ledgerBlockConflict := by
  simp only [apply, conflict]
  rfl

theorem resolve_conflict {hold : ReconciliationHoldRecord}
    (brings : (DepositOperation.resolveHold hold resolution).evidence = some (role, other))
    (recorded : r.evidence role = some block) (differs : other ≠ block) :
    ∃ error, resolveDepositHold r hold resolution = .error error := by
  cases resolution with
  | fundingAbsent | refundAbsent => cases brings
  | fundingSucceeded found =>
    cases brings
    have conflict := funding_conflict none differs
    rw [← (show r.state.ledgerBlocks.1 = some block from recorded)] at conflict
    by_cases foreign : hold.request ≠ .depositFunding r.id ∨ hold.transfer ≠ r.transfer
    · exact ⟨.holdMismatch, by simp [resolveDepositHold, depositHoldStep, foreign]; rfl⟩
    · exact ⟨.ledgerBlockConflict, by
        simp [resolveDepositHold, depositHoldStep, foreign, conflict]; rfl⟩
  | refundSucceeded found =>
    cases brings
    have conflict := refund_conflict r.heldRefundBlocks.1 differs
    rw [← heldRefundBlocks_refunded recorded] at conflict
    by_cases foreign : hold.request ≠ .depositRefund r.id
    · exact ⟨.holdMismatch, by simp [resolveDepositHold, depositHoldStep, foreign]; rfl⟩
    · exact ⟨.ledgerBlockConflict, by
        simp [resolveDepositHold, depositHoldStep, foreign, conflict]; rfl⟩

structure Refuses (r : DepositRecord) (operation : DepositOperation) : Prop where
  refused : r.report operation = none
  record : r.perform operation = r
  hold : operation.holdAfter r = operation.hold

theorem refuses_conflict (brings : operation.evidence = some (role, other))
    (recorded : r.evidence role = some block) (differs : other ≠ block) : r.Refuses operation := by
  cases operation with
  | dispatchSignature => cases brings
  | resolveHold hold resolution =>
    obtain ⟨error, refused⟩ := resolve_conflict brings recorded differs
    constructor <;>
      simp [report, perform, DepositOperation.holdAfter, DepositOperation.hold, refused,
        Except.toOption]
  | apply event =>
    have refused : r.apply event = .error .ledgerBlockConflict := by
      apply apply_conflict
      cases event with
      | fundingSucceeded found =>
        cases brings
        rw [show r.state.ledgerBlocks.1 = some block from recorded]
        exact funding_conflict _ differs
      | refundSucceeded found =>
        cases brings
        rw [show r.state.ledgerBlocks.2 = some block from recorded]
        exact refund_conflict _ differs
      | _ => cases brings
    constructor <;>
      simp [report, perform, DepositOperation.holdAfter, DepositOperation.hold, refused,
        Except.toOption]

end DepositRecord

namespace WithdrawalRecord

theorem Moves.evidence {r next : WithdrawalRecord} (moves : Moves r operation next)
    (recorded : r.evidence = some block) : next.evidence = some block := by
  cases moves with
  | same => exact recorded
  | applied applied =>
    cases applied <;> simp_all [WithdrawalRecord.evidence, releaseBlock]
  | resolved resolved =>
    cases resolved <;> simp_all [WithdrawalRecord.evidence, releaseBlock]

theorem resolve_conflict {r : WithdrawalRecord} (hold : ReconciliationHoldRecord)
    (recorded : r.evidence = some block) (differs : other ≠ block) :
    ∃ error, resolveWithdrawalHold r hold (.succeeded other) = .error error := by
  cases resolved : resolveWithdrawalHold r hold (.succeeded other) with
  | error error => exact ⟨error, rfl⟩
  | ok outcome =>
    -- past the checks of the hold, the kernel is asked before anything is closed
    simp only [resolveWithdrawalHold] at resolved
    obtain ⟨_, resolved⟩ := thrown_ok.mp resolved
    obtain ⟨_, _, rest⟩ := bind_ok.mp resolved
    obtain ⟨_, rest⟩ := thrown_ok.mp rest
    obtain ⟨_, stepped, _⟩ := bind_ok.mp rest
    obtain ⟨_, transition, _⟩ := bind_ok.mp stepped
    rw [show releaseBlock r.state = some block from recorded,
      release_conflict differs] at transition
    cases transition

structure Refuses (r : WithdrawalRecord) (operation : WithdrawalOperation) : Prop where
  refused : r.report operation = none
  record : r.perform operation = r
  hold : operation.holdAfter r = operation.hold

theorem refuses_conflict {r : WithdrawalRecord} (brings : operation.evidence = some other)
    (recorded : r.evidence = some block) (differs : other ≠ block) : r.Refuses operation := by
  cases operation with
  | resolveHold hold resolution =>
    cases resolution with
    | absent => cases brings
    | succeeded found =>
      cases brings
      obtain ⟨error, refused⟩ := resolve_conflict hold recorded differs
      constructor <;>
        simp [report, perform, WithdrawalOperation.holdAfter, WithdrawalOperation.hold, refused,
          Except.toOption]
  | apply event =>
    cases event with
    | startRelease | releaseAmbiguous => cases brings
    | releaseSucceeded found =>
      cases brings
      have refused : r.apply (.releaseSucceeded other) = .error .ledgerBlockConflict := by
        simp only [apply, ledgerEvent, show releaseBlock r.state = some block from recorded,
          release_conflict differs]
        rfl
      constructor <;>
        simp [report, perform, WithdrawalOperation.holdAfter, WithdrawalOperation.hold, refused,
          Except.toOption]

end WithdrawalRecord

theorem DepositRun.evidence_stays {run : DepositRun}
    (recorded : (run.record i).evidence role = some block) (later : i ≤ j) :
    (run.record j).evidence role = some block :=
  Runs.stateAt_keeps (P := fun r : DepositRecord => r.evidence role = some block)
    (fun r operation => (r.perform_moves operation).evidence) recorded later

theorem WithdrawalRun.evidence_stays {run : WithdrawalRun}
    (recorded : (run.record i).evidence = some block) (later : i ≤ j) :
    (run.record j).evidence = some block :=
  Runs.stateAt_keeps (P := fun r : WithdrawalRecord => r.evidence = some block)
    (fun r operation => (r.perform_moves operation).evidence) recorded later

/-- Once a record has the block of its funding, its refund or its release, it keeps it to the
end, and every event or resolution with another block is refused without a trace. -/
theorem ledger_evidence_write_once :
    (∀ (run : DepositRun) (role : DepositLedgerRole) (block i j : Nat), i ≤ j →
      (run.record i).evidence role = some block →
      (run.record j).evidence role = some block ∧
      ∀ operation other, operation.evidence = some (role, other) → other ≠ block →
        (run.record j).Refuses operation) ∧
    ∀ (run : WithdrawalRun) (block i j : Nat), i ≤ j →
      (run.record i).evidence = some block →
      (run.record j).evidence = some block ∧
      ∀ operation other, operation.evidence = some other → other ≠ block →
        (run.record j).Refuses operation := by
  constructor
  · intro run role block i j later recorded
    have stays := run.evidence_stays recorded later
    exact ⟨stays, fun operation other brings differs =>
      DepositRecord.refuses_conflict brings stays differs⟩
  · intro run block i j later recorded
    have stays := run.evidence_stays recorded later
    exact ⟨stays, fun operation other brings differs =>
      WithdrawalRecord.refuses_conflict brings stays differs⟩

/-- The refund found at block 2 stands against an answer that names block 3. -/
theorem ledger_evidence_write_once_sample :
    (DepositRun.heldRefundRun.record 5).evidence .refund = some 2 ∧
      (DepositRun.heldRefundRun.record 9).Refuses (.apply (.refundSucceeded 3)) :=
  have recorded : (DepositRun.heldRefundRun.record 5).evidence .refund = some 2 := by decide
  ⟨recorded, (ledger_evidence_write_once.1 DepositRun.heldRefundRun .refund 2 5 9 (by decide)
    recorded).2 (.apply (.refundSucceeded 3)) 3 rfl (by decide)⟩

end KinicBridge
