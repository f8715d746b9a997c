import KinicBridge.Storage.Operations

/-! Most operations of the store leave the rate limits and the funding attempts alone. -/
namespace KinicBridge

namespace StableStore

variable {store next : StableStore} {progress : ExternalProgress} {admin : StoredAdmin}
  {hash : Option Bytes32} {id : Bytes32}

def SameAdmission (before after : StableStore) : Prop :=
  after.admission = before.admission ∧ after.attempts = before.attempts

theorem SameAdmission.trans {first second third : StableStore}
    (one : first.SameAdmission second) (two : second.SameAdmission third) :
    first.SameAdmission third :=
  ⟨two.1.trans one.1, two.2.trans one.2⟩

theorem putDeposit_same (written : store.putDepositWithAudit value result = .ok next) :
    store.SameAdmission next := by
  simp only [putDepositWithAudit, prepareDeposit, PreparedDeposit.commit, bind_ok,
    pure_ok] at written
  obtain ⟨_, ⟨_, -, _, -, _, -, _, -, rfl⟩, _, -, rfl⟩ := written
  exact ⟨rfl, rfl⟩

theorem insertWithdrawal_same
    (written : store.insertWithdrawal record reason progress hash = .ok next) :
    store.SameAdmission next := by
  simp only [insertWithdrawal, bind_ok, pure_ok] at written
  obtain ⟨_, -, _, -, _, -, _, -, rfl⟩ := written
  exact ⟨rfl, rfl⟩

theorem feeGuardUpdate_same
    (written : store.commitWithdrawalFeeGuardUpdate previous record reason admin size = .ok next) :
    store.SameAdmission next := by
  simp only [commitWithdrawalFeeGuardUpdate, bind_ok, pure_ok] at written
  obtain ⟨_, -, _, -, _, -, _, -, rfl⟩ := written
  exact ⟨rfl, rfl⟩

theorem newRelease_same
    (written : store.commitNewWithdrawalReleaseBundle record reason progress hash size =
      .ok next) : store.SameAdmission next := by
  simp only [commitNewWithdrawalReleaseBundle, bind_ok] at written
  obtain ⟨_, -, written⟩ := written
  split at written
  · split at written <;> cases written
    exact ⟨rfl, rfl⟩
  · simp only [bind_ok, pure_ok] at written
    obtain ⟨_, -, _, -, _, inserted, rfl⟩ := written
    have same := insertWithdrawal_same inserted
    exact ⟨same.1, same.2⟩

theorem resolveDeposit_same
    (written : store.resolveDepositHoldAndScan id holdId resolution scanTarget = .ok next) :
    store.SameAdmission next := by
  simp only [resolveDepositHoldAndScan, bind_ok] at written
  obtain ⟨_, -, _, -, _, -, _, -, written⟩ := written
  split at written
  · cases pure_ok.mp written
    exact ⟨rfl, rfl⟩
  · simp only [persistResolvedDepositAndHold, bind_ok, pure_ok] at written
    obtain ⟨_, -, _, -, _, -, _, -, _, -, _, -, rfl⟩ := written
    exact ⟨rfl, rfl⟩

theorem resolveWithdrawal_same
    (written : store.resolveWithdrawalHoldAndScan id holdId resolution scanTarget = .ok next) :
    store.SameAdmission next := by
  simp only [resolveWithdrawalHoldAndScan, bind_ok] at written
  obtain ⟨_, -, _, -, _, -, _, -, written⟩ := written
  split at written
  · cases pure_ok.mp written
    exact ⟨rfl, rfl⟩
  · simp only [persistResolvedWithdrawalAndHold, bind_ok, pure_ok] at written
    obtain ⟨_, -, _, -, _, -, _, -, _, -, rfl⟩ := written
    exact ⟨rfl, rfl⟩

theorem putOpenHold_same (written : store.putOpenReconciliationHold hold = .ok next) :
    store.SameAdmission next := by
  simp only [putOpenReconciliationHold, bind_ok] at written
  obtain ⟨_, -, written⟩ := written
  split at written
  · split at written <;> cases written
    exact ⟨rfl, rfl⟩
  · simp only [bind_ok, pure_ok] at written
    obtain ⟨_, -, _, -, rfl⟩ := written
    exact ⟨rfl, rfl⟩

theorem releaseEach_same (finalizedTimestamp : Nat) (ids : List Bytes32) (store : StableStore) :
    store.SameAdmission (releaseEach finalizedTimestamp ids store).1 := by
  induction ids generalizing store with
  | nil => exact ⟨rfl, rfl⟩
  | cons id ids rest =>
    simp only [releaseEach]
    split
    next released written =>
      simp only [releaseExpiredDeposit, bind_ok] at written
      obtain ⟨_, -, _, -, _, -, written⟩ := written
      exact (putDeposit_same written).trans (rest released)
    · exact ⟨rfl, rfl⟩

theorem releaseExpired_same (store : StableStore) (finalizedTimestamp limit : Nat) :
    store.SameAdmission (store.releaseExpiredDepositReservations finalizedTimestamp limit).1 := by
  have each := releaseEach_same finalizedTimestamp
    (store.expiredDeposits finalizedTimestamp limit) store
  unfold releaseExpiredDepositReservations
  split
  · exact ⟨rfl, rfl⟩
  split
  all_goals
    rename_i released result
    rw [result] at each
    exact each

def movesAttempts : StoreOperation → Bool
  | .prepareAttempt .. | .updateAttempt .. | .removeAttempt .. | .admitDeposit .. => true
  | _ => false

theorem transact_same {operation : StoreOperation} (other : movesAttempts operation = false)
    (written : store.transact operation = .ok next) : store.SameAdmission next := by
  cases operation with
  | prepareAttempt | updateAttempt | removeAttempt | admitDeposit => cases other
  | putDeposit => exact putDeposit_same written
  | releaseExpired finalizedTimestamp limit =>
    cases written
    exact releaseExpired_same store finalizedTimestamp limit
  | newRelease => exact newRelease_same written
  | resolveDeposit => exact resolveDeposit_same written
  | resolveWithdrawal => exact resolveWithdrawal_same written
  | putOpenHold => exact putOpenHold_same written
  | setAdmin | setAccounting | setProgress =>
    cases written
    exact ⟨rfl, rfl⟩
  | tripFeeGuard =>
    simp only [transact, commitWithdrawalFeeGuardTripBundle, bind_ok, pure_ok] at written
    obtain ⟨_, -, _, -, _, -, _, inserted, rfl⟩ := written
    have same := insertWithdrawal_same inserted
    exact ⟨same.1, same.2⟩
  | continueFeeGuard =>
    simp only [transact, commitWithdrawalFeeGuardContinueBundle, bind_ok] at written
    obtain ⟨_, -, _, -, _, -, written⟩ := written
    exact feeGuardUpdate_same written
  | clearFeeGuard =>
    simp only [transact, commitWithdrawalFeeGuardClearBundle, bind_ok] at written
    obtain ⟨_, -, _, -, _, -, _, -, written⟩ := written
    exact feeGuardUpdate_same written
  | putWithdrawal | finishWithdrawalJob | holdDeposit | holdWithdrawal | putScan | removeScan
  | requestFeePayout | moveFeePayout | putFeePayoutScan | updateFeePayoutScan | appendAudit =>
    simp only [transact, putWithdrawal, finishWithdrawalJob, commitDepositHoldBundle,
      commitWithdrawalHoldBundle, putReconciliationScan, removeReconciliationScan,
      commitFeePayoutRequest, transitionFeePayout, commitFeePayoutScan, updateFeePayoutScan,
      appendAuditEvents, bind_ok, pure_ok] at written
    grind [SameAdmission]

end StableStore

end KinicBridge
