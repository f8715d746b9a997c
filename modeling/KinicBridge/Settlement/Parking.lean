import KinicBridge.Settlement.Payout

/-! How single transactions treat holds and payout attempts: a parked record always finds its
own hold, and a payout identity is replaced only by an absence answer about it. -/
namespace KinicBridge

open Table

def DepositState.payoutPhase : DepositState → AttemptPhase LedgerTransferIdentity
  | .refundPending _ _ attempt | .refundReconciliationHold _ _ _ attempt => .live attempt.identity
  | .refunded .. => .settled
  | _ => .idle

def WithdrawalState.payoutPhase : WithdrawalState → AttemptPhase LedgerTransferIdentity
  | .observed => .idle
  | .releasePending attempt _ | .reconciliationHold _ attempt _ => .live attempt.identity
  | .paid .. => .settled

def DepositRecord.holding (deposit : DepositRecord) :
    Option (Nat × RequestReference × LedgerTransferIdentity) :=
  match deposit.state with
  | .fundingReconciliationHold holdId =>
    some (holdId, .depositFunding deposit.id, deposit.transfer)
  | .refundReconciliationHold _ _ holdId attempt =>
    some (holdId, .depositRefund deposit.id, attempt.identity)
  | _ => none

def WithdrawalRecord.holding (withdrawal : WithdrawalRecord) :
    Option (Nat × RequestReference × LedgerTransferIdentity) :=
  match withdrawal.state with
  | .reconciliationHold holdId attempt _ =>
    some (holdId, .withdrawal withdrawal.id, attempt.identity)
  | _ => none

namespace SettlementStore

section

variable (store : SettlementStore)

/-- Where the payout of a request stands; funding is not a payout. -/
def payoutPhase : RequestReference → AttemptPhase LedgerTransferIdentity
  | .depositFunding _ => .idle
  | .depositRefund id => ((store.deposits.get id).map (·.state.payoutPhase)).getD .idle
  | .withdrawal id => ((store.withdrawals.get id).map (·.state.payoutPhase)).getD .idle

def Parked : Option (Nat × RequestReference × LedgerTransferIdentity) → Prop
  | none => True
  | some (holdId, request, transfer) =>
    ∃ hold, store.holds.get holdId = some hold ∧ hold.request = request ∧ hold.transfer = transfer

structure Held (store : SettlementStore) : Prop where
  deposits : ∀ id deposit, store.deposits.get id = some deposit → store.Parked deposit.holding
  withdrawals : ∀ id withdrawal, store.withdrawals.get id = some withdrawal →
    store.Parked withdrawal.holding

/-- No hold is lost and none changes its request or transfer. -/
def HoldsKept (store store' : SettlementStore) : Prop :=
  ∀ id hold, store.holds.get id = some hold →
    ∃ hold', store'.holds.get id = some hold' ∧ hold'.request = hold.request ∧
      hold'.transfer = hold.transfer

structure Respects (dead : LedgerTransferIdentity → Prop) (store store' : SettlementStore) :
    Prop where
  holds : store.HoldsKept store'
  held : store.Held → store'.Held
  scans : ∀ target progress, store'.scans.get target = some progress →
    store.scans.get target = some progress
  moves : ∀ request, AttemptPhase.Move dead (store.payoutPhase request) (store'.payoutPhase request)

theorem HoldsKept.refl : store.HoldsKept store :=
  fun _ hold found => ⟨hold, found, rfl, rfl⟩

theorem Respects.refl : store.Respects dead store :=
  ⟨.refl store, fun held => held, fun _ _ found => found, fun _ => .stay⟩

end

variable {store : SettlementStore} {deposit : DepositRecord} {withdrawal : WithdrawalRecord}
  {hold : ReconciliationHoldRecord}

section

variable {store' : SettlementStore}

theorem Parked.kept (parked : store.Parked terms)
    (kept : store.HoldsKept store') : store'.Parked terms := by
  cases terms with
  | none => trivial
  | some terms =>
    obtain ⟨holdId, request, transfer⟩ := terms
    obtain ⟨hold, found, sameRequest, sameTransfer⟩ := parked
    obtain ⟨hold', found', keptRequest, keptTransfer⟩ := kept holdId hold found
    exact ⟨hold', found', keptRequest.trans sameRequest, keptTransfer.trans sameTransfer⟩

theorem Held.putDeposit (held : store.Held) (kept : store.HoldsKept store')
    (deposits : store'.deposits = store.deposits.put deposit)
    (withdrawals : store'.withdrawals = store.withdrawals)
    (parked : store'.Parked deposit.holding) : store'.Held where
  deposits id seen found := by
    rw [deposits] at found
    rcases get_put_cases found with ⟨_, rfl⟩ | ⟨_, old⟩
    · exact parked
    · exact (held.deposits id seen old).kept kept
  withdrawals id seen found := by
    rw [withdrawals] at found
    exact (held.withdrawals id seen found).kept kept

theorem Held.putWithdrawal (held : store.Held) (kept : store.HoldsKept store')
    (deposits : store'.deposits = store.deposits)
    (withdrawals : store'.withdrawals = store.withdrawals.put withdrawal)
    (parked : store'.Parked withdrawal.holding) : store'.Held where
  deposits id seen found := by
    rw [deposits] at found
    exact (held.deposits id seen found).kept kept
  withdrawals id seen found := by
    rw [withdrawals] at found
    rcases get_put_cases found with ⟨_, rfl⟩ | ⟨_, old⟩
    · exact parked
    · exact (held.withdrawals id seen old).kept kept

theorem payoutPhase_putDeposit (deposits : store'.deposits = store.deposits.put deposit)
    (withdrawals : store'.withdrawals = store.withdrawals)
    (move : AttemptPhase.Move dead (store.payoutPhase (.depositRefund deposit.id))
      deposit.state.payoutPhase) (request : RequestReference) :
    AttemptPhase.Move dead (store.payoutPhase request) (store'.payoutPhase request) := by
  cases request with
  | depositFunding id => exact .stay
  | withdrawal id =>
    simp only [payoutPhase, withdrawals]
    exact .stay
  | depositRefund id =>
    by_cases same : id = deposit.id
    · subst same
      simpa [payoutPhase, deposits] using move
    · simp only [payoutPhase, deposits, get_put_of_ne same]
      exact .stay

theorem payoutPhase_putWithdrawal (deposits : store'.deposits = store.deposits)
    (withdrawals : store'.withdrawals = store.withdrawals.put withdrawal)
    (move : AttemptPhase.Move dead (store.payoutPhase (.withdrawal withdrawal.id))
      withdrawal.state.payoutPhase) (request : RequestReference) :
    AttemptPhase.Move dead (store.payoutPhase request) (store'.payoutPhase request) := by
  cases request with
  | depositFunding id => exact .stay
  | depositRefund id =>
    simp only [payoutPhase, deposits]
    exact .stay
  | withdrawal id =>
    by_cases same : id = withdrawal.id
    · subst same
      simpa [payoutPhase, withdrawals] using move
    · simp only [payoutPhase, withdrawals, get_put_of_ne same]
      exact .stay

end

/-- When a change is one of the canister's: records are parked only together with a hold, and
absence is answered only about a dead transfer. -/
def Sanctioned (dead : LedgerTransferIdentity → Prop) (store : SettlementStore) : StoreChange → Prop
  | .deposit _ event => event.code ≠ 1 ∧ event.code ≠ 9
  | .withdrawal _ event => event.phaseCode ≠ 3
  | .depositHold _ holdId (.refundAbsent ..) | .withdrawalHold _ holdId (.absent ..) =>
    ∀ hold, store.holds.get holdId = some hold → dead hold.transfer
  | _ => True

theorem holdsKept_put {store' : SettlementStore} (holds : store'.holds = store.holds.put hold)
    (same : ∀ old, store.holds.get hold.id = some old →
      hold.request = old.request ∧ hold.transfer = old.transfer) : store.HoldsKept store' := by
  intro id old found
  by_cases here : id = hold.id
  · subst here
    obtain ⟨request, transfer⟩ := same old found
    exact ⟨hold, by rw [holds, get_put_self], request, transfer⟩
  · exact ⟨old, by rw [holds, get_put_of_ne here, found], rfl, rfl⟩

theorem applied_holding {previous next : DepositRecord}
    (applied : previous.Applied event next fee) (unparked : event.code ≠ 1 ∧ event.code ≠ 9) :
    next.holding = none := by
  cases applied with
  | fundingHeld | refundHeld => simp [DepositEvent.code] at unparked
  | _ => simp [DepositRecord.holding, DepositRecord.unquoted]

theorem applied_payoutPhase {previous next : DepositRecord}
    (applied : previous.Applied event next fee) :
    AttemptPhase.Move dead previous.state.payoutPhase next.state.payoutPhase := by
  cases applied with
  | funded phase | fundingHeld phase | fundingCancelled phase | committed phase
  | installed phase =>
    simp only [phase, DepositState.payoutPhase, DepositRecord.unquoted]
    exact .stay
  | refundOffered phase =>
    rcases phase with phase | phase | phase <;> rw [phase] <;> exact .stay
  | mintRecorded phase => rcases phase with phase | ⟨_, phase⟩ <;> rw [phase] <;> exact .stay
  | refundStarted phase =>
    rw [phase]
    exact .start
  | refundPaid phase =>
    rw [phase]
    exact .settle
  | refundHeld phase =>
    rw [phase]
    exact .stay

theorem withdrawal_applied_holding {previous : WithdrawalRecord}
    (applied : previous.Applied event state fee) (unparked : event.phaseCode ≠ 3) :
    WithdrawalRecord.holding { previous with state } = none := by
  cases applied with
  | held => simp [WithdrawalEvent.phaseCode] at unparked
  | started | released => rfl

theorem withdrawal_applied_payoutPhase {previous : WithdrawalRecord}
    (applied : previous.Applied event state fee) :
    AttemptPhase.Move dead previous.state.payoutPhase state.payoutPhase := by
  cases applied with
  | started phase =>
    rw [phase]
    exact .start
  | released phase =>
    rw [phase]
    exact .settle
  | held phase =>
    rw [phase]
    exact .stay

theorem payoutPhase_of_deposit {id : Bytes32} (found : store.deposits.get id = some deposit) :
    store.payoutPhase (.depositRefund id) = deposit.state.payoutPhase := by
  simp [payoutPhase, found]

theorem payoutPhase_of_withdrawal {id : Bytes32}
    (found : store.withdrawals.get id = some withdrawal) :
    store.payoutPhase (.withdrawal id) = withdrawal.state.payoutPhase := by
  simp [payoutPhase, found]

theorem resolved_payoutPhase
    {state : DepositState} (resolved : DepositHoldResolved deposit hold resolution answer state)
    (gone : ∀ watermark identity, resolution = .refundAbsent watermark identity →
      dead hold.transfer) : AttemptPhase.Move dead deposit.state.payoutPhase state.payoutPhase := by
  cases resolved with
  | fundingFound phase | fundingAbsent phase =>
    rw [phase]
    exact .stay
  | refundFound phase =>
    rw [phase]
    exact .settle
  | refundAbsent phase _ transfer =>
    rw [phase]
    exact .retry (transfer ▸ gone _ _ rfl)

theorem resolved_holding {state : DepositState}
    (resolved : DepositHoldResolved deposit hold resolution answer state) :
    DepositRecord.holding { deposit with state } = none := by
  cases resolved <;> rfl

theorem withdrawal_resolved_payoutPhase {state : WithdrawalState}
    (resolved : WithdrawalHoldResolved withdrawal hold resolution answer state fee)
    (parked : store.Parked withdrawal.holding) (stored : store.holds.get hold.id = some hold)
    (gone : ∀ watermark identity, resolution = .absent watermark identity → dead hold.transfer) :
    AttemptPhase.Move dead withdrawal.state.payoutPhase state.payoutPhase := by
  cases resolved with
  | releaseFound phase =>
    rw [phase]
    exact .settle
  | @releaseAbsent attempt settlement _ _ _ phase =>
    -- the record waits for this very hold, which carries its attempt's transfer
    simp only [WithdrawalRecord.holding, phase] at parked
    obtain ⟨waiting, found, _, transfer⟩ := parked
    cases stored.symm.trans found
    rw [phase]
    exact .retry (transfer ▸ gone _ _ rfl)

theorem withdrawal_resolved_holding {state : WithdrawalState}
    (resolved : WithdrawalHoldResolved withdrawal hold resolution answer state fee) :
    WithdrawalRecord.holding { withdrawal with state } = none := by
  cases resolved <;> rfl

theorem holdTerms_holding {previous next : DepositRecord}
    (applied : previous.Applied event next fee)
    (terms : depositHoldTerms previous next = some (event, holdId, request, transfer)) :
    next.holding = some (holdId, request, transfer) := by
  cases applied with
  | fundingHeld phase | refundHeld phase =>
    simp only [depositHoldTerms, phase, DepositRecord.unquoted, Option.some.injEq,
      Prod.mk.injEq] at terms
    obtain ⟨_, rfl, rfl, rfl⟩ := terms
    rfl
  | funded phase | fundingCancelled phase | committed phase | installed phase
  | refundStarted phase | refundPaid phase =>
    simp [depositHoldTerms, phase, DepositRecord.unquoted] at terms
  | refundOffered phase => rcases phase with phase | phase | phase <;> simp [depositHoldTerms, phase] at terms
  | mintRecorded phase => rcases phase with phase | ⟨_, phase⟩ <;> simp [depositHoldTerms, phase] at terms

theorem scansKept_get {before after : Table ReconciliationScanProgress.target}
    (kept : ScansKept before after) (found : after.get target = some progress) :
    before.get target = some progress := by
  rcases kept with rfl | ⟨removed, rfl⟩
  · exact found
  · exact (get_remove_cases found).2

theorem withOpenedHold_kept {request : RequestReference}
    (fresh : store.holds.get store.counters.nextHoldId = none) :
    store.HoldsKept (store.withOpenedHold request transfer) := by
  refine holdsKept_put rfl fun old found => ?_
  have none : store.holds.get store.counters.nextHoldId = some old := found
  rw [fresh] at none
  cases none

theorem accept_state (accepted : DepositRecord.accept request = .ok record) :
    record.state = .fundingPending := by
  obtain ⟨_, rest⟩ := guarded_ok.mp accepted
  obtain ⟨_, rest⟩ := guarded_ok.mp rest
  cases rest
  rfl

theorem Change.respects {store' : SettlementStore} (change : store.Change label store')
    (held : store.Held) (sanctioned : store.Sanctioned dead label) :
    store.Respects dead store' := by
  cases change with
  | @depositCreated request record accepted fresh =>
    have kept : store.HoldsKept { store with deposits := store.deposits.put record } := .refl store
    have phase := accept_state accepted
    refine ⟨kept, fun held => held.putDeposit kept rfl rfl ?_, fun _ _ found => found,
      payoutPhase_putDeposit rfl rfl ?_⟩
    · simp [DepositRecord.holding, phase, Parked]
    · simp only [payoutPhase, fresh, phase]
      exact .stay
  | @signatureDispatched _ next deposit _ found authorization dispatched _ =>
    have kept : store.HoldsKept { store with
        deposits := store.deposits.put { deposit with mintAuthorization := some next } } :=
      .refl store
    refine ⟨kept, fun held => held.putDeposit kept rfl rfl ?_, fun _ _ found => found,
      payoutPhase_putDeposit rfl rfl ?_⟩
    · exact (held.deposits _ _ found).kept kept
    · have before := payoutPhase_of_deposit found
      rw [before]
      exact .stay
  | @withdrawalObserved record burned phase fresh =>
    have kept : store.HoldsKept { store with withdrawals := store.withdrawals.put record } :=
      .refl store
    refine ⟨kept, fun held => held.putWithdrawal kept rfl rfl ?_, fun _ _ found => found,
      payoutPhase_putWithdrawal rfl rfl ?_⟩
    · simp [WithdrawalRecord.holding, phase, Parked]
    · simp only [payoutPhase, fresh, phase]
      exact .stay
  | @depositApplied _ _ previous next _ _ found applied _ _ =>
    have kept : store.HoldsKept { store with deposits := store.deposits.put next } := .refl store
    refine ⟨kept, fun held => held.putDeposit kept rfl rfl ?_, fun _ _ found => found,
      payoutPhase_putDeposit rfl rfl ?_⟩
    · rw [applied_holding applied sanctioned]
      trivial
    · rw [payoutPhase_of_deposit found]
      exact applied_payoutPhase applied
  | @depositParked _ _ request transfer previous next found applied terms fresh =>
    have kept : store.HoldsKept (store.withOpenedHold request transfer) :=
      withOpenedHold_kept fresh
    refine ⟨kept, fun held => held.putDeposit kept rfl rfl ?_, fun _ _ found => found,
      payoutPhase_putDeposit rfl rfl ?_⟩
    · rw [holdTerms_holding applied terms]
      exact ⟨_, get_put_self, rfl, rfl⟩
    · rw [payoutPhase_of_deposit found]
      exact applied_payoutPhase applied
  | @depositResolved resolution answer state deposit hold _ _ found stored isOpen resolved _
      keptScans =>
    have kept : store.HoldsKept
        { store with holds := store.holds.put { hold with state := answer } } := by
      refine holdsKept_put rfl fun old seen => ?_
      cases stored.symm.trans seen
      exact ⟨rfl, rfl⟩
    refine ⟨kept, fun held => held.putDeposit kept rfl rfl ?_,
      fun _ _ found => scansKept_get keptScans found, payoutPhase_putDeposit rfl rfl ?_⟩
    · rw [resolved_holding resolved]
      trivial
    · rw [payoutPhase_of_deposit found]
      refine resolved_payoutPhase resolved fun watermark identity same => ?_
      subst same
      exact sanctioned hold stored
  | @withdrawalApplied event state _ previous _ found applied _ =>
    have kept : store.HoldsKept
        { store with withdrawals := store.withdrawals.put { previous with state } } := .refl store
    refine ⟨kept, fun held => held.putWithdrawal kept rfl rfl ?_, fun _ _ found => found,
      payoutPhase_putWithdrawal rfl rfl ?_⟩
    · rw [withdrawal_applied_holding applied sanctioned]
      trivial
    · have before := payoutPhase_of_withdrawal found
      rw [before]
      exact withdrawal_applied_payoutPhase applied
  | @withdrawalParked attempt settlement previous found phase fresh =>
    have kept : store.HoldsKept (store.withOpenedHold (.withdrawal previous.id) attempt.identity) :=
      withOpenedHold_kept fresh
    refine ⟨kept, fun held => held.putWithdrawal kept rfl rfl ?_, fun _ _ found => found,
      payoutPhase_putWithdrawal rfl rfl ?_⟩
    · exact ⟨_, get_put_self, rfl, rfl⟩
    · have before := payoutPhase_of_withdrawal found
      rw [before, phase]
      exact .stay
  | @withdrawalResolved resolution answer state _ withdrawal hold _ _ found stored isOpen request
      resolved _ keptScans =>
    have kept : store.HoldsKept
        { store with holds := store.holds.put { hold with state := answer } } := by
      refine holdsKept_put rfl fun old seen => ?_
      cases stored.symm.trans seen
      exact ⟨rfl, rfl⟩
    refine ⟨kept, fun held => held.putWithdrawal kept rfl rfl ?_,
      fun _ _ found => scansKept_get keptScans found, payoutPhase_putWithdrawal rfl rfl ?_⟩
    · rw [withdrawal_resolved_holding resolved]
      trivial
    · have before := payoutPhase_of_withdrawal found
      rw [before]
      refine withdrawal_resolved_payoutPhase resolved (held.withdrawals _ _ found) stored
        fun watermark identity same => ?_
      subst same
      exact sanctioned hold stored

end SettlementStore

end KinicBridge
