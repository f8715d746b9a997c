import KinicBridge.Core.DepositMoves
import KinicBridge.Settlement.Changes

/-! The stored changes, seen from one deposit: a change leaves its record alone, creates it
or moves it by one operation. -/
namespace KinicBridge

inductive DepositChanged (before : Option DepositRecord) (label : StoreChange)
    (after : Option DepositRecord) : Prop where
  | kept (same : after = before)
  | created (fresh : before = none) (accepted : DepositRecord.accept request = .ok record)
      (written : after = some record)
  | moved {r next : DepositRecord} (found : before = some r) (moves : r.Moves operation next)
      (written : after = some next)
      (starts : ∀ reason attempt expiryEvidence,
        operation = .apply (.startRefund reason attempt expiryEvidence) →
        label = .deposit r.id (.startRefund reason attempt expiryEvidence))

namespace SettlementStore

variable {store written : SettlementStore}

theorem depositChanged_put {deposits : Table DepositRecord.id} {record : DepositRecord}
    (changed : DepositChanged (deposits.get record.id) label (some record)) (id : Bytes32) :
    DepositChanged (deposits.get id) label ((deposits.put record).get id) := by
  by_cases same : id = record.id
  · subst same
    rwa [Table.get_put_self]
  · rw [Table.get_put_of_ne same]
    exact .kept rfl

theorem Change.deposit (change : store.Change label written) (id : Bytes32) :
    DepositChanged (store.deposits.get id) label (written.deposits.get id) := by
  cases change with
  | depositCreated accepted fresh =>
    exact depositChanged_put (.created fresh accepted rfl) id
  | signatureDispatched found authorization dispatched adjusted =>
    refine depositChanged_put ?_ id
    exact .moved found (.dispatched authorization dispatched) rfl nofun
  | depositApplied found applied adjusted credited =>
    refine depositChanged_put (.moved found (.applied applied) rfl ?_) id
    rintro reason attempt expiryEvidence ⟨⟩
    rw [applied.accepted.1]
  | depositParked found applied terms fresh =>
    refine depositChanged_put (.moved found (.applied applied) rfl ?_) id
    rintro reason attempt expiryEvidence ⟨⟩
    -- only ambiguous answers park a deposit
    unfold depositHoldTerms at terms
    split at terms <;> simp at terms
  | depositResolved found held isOpen resolved adjusted kept =>
    refine depositChanged_put ?_ id
    exact .moved found (.resolved resolved) rfl nofun
  | withdrawalObserved | withdrawalApplied | withdrawalParked | withdrawalResolved =>
    exact .kept rfl

end SettlementStore

end KinicBridge
