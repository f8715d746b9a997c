import KinicBridge.Ledger.Scan
import KinicBridge.Library.DedupLog

/-! What the token ledger promises about repeated transfers: an identity enters it at most
once and never later than its deduplication window. Ledger and canister read one clock,
in nanoseconds. -/
namespace KinicBridge

def ledgerDedupNs : Nat := 24 * 60 * 60 * 1000000000
def ledgerPermittedDriftNs : Nat := 60 * 1000000000

def ledgerIdentityCanStillBeAccepted (createdAtTimeNs nowNs : Nat) : Bool :=
  decide (nowNs ≤ Checked.saturatingAdd 64 (Checked.saturatingAdd 64 createdAtTimeNs ledgerDedupNs)
    ledgerPermittedDriftNs)

def acceptanceDeadline (createdAtTimeNs : Nat) : Nat :=
  createdAtTimeNs + ledgerDedupNs + ledgerPermittedDriftNs

theorem deadline_passed (clock : nowNs ≤ Checked.limit 64)
    (closed : ledgerIdentityCanStillBeAccepted createdAtTimeNs nowNs = false) :
    acceptanceDeadline createdAtTimeNs < nowNs := by
  have past := of_decide_eq_false closed
  unfold Checked.saturatingAdd at past
  unfold acceptanceDeadline
  omega

structure LedgerStamp where
  createdAtTimeNs : Nat
  memo : Option (List UInt8)
  amount : Nat
  from_ : List UInt8 × Bytes32
  to_ : List UInt8 × Bytes32
  deriving DecidableEq

def IcrcAccount.effective (account : IcrcAccount) : List UInt8 × Bytes32 :=
  (account.owner, account.subaccount.getD 0)

/-- Transfers without a creation time are never deduplicated. -/
def Transaction.stamp (transaction : Transaction) : Option LedgerStamp :=
  transaction.transfer.bind fun transfer => transfer.createdAtTime.map fun created =>
    ⟨created, transfer.memo, transfer.amount, transfer.from_.effective, transfer.to_.effective⟩

def ledgerRule : DedupRule Transaction LedgerStamp where
  stamp := Transaction.stamp
  deadline stamp := acceptanceDeadline stamp.createdAtTimeNs

def LedgerTransferIdentity.stamp (identity : LedgerTransferIdentity) : LedgerStamp :=
  ⟨identity.createdAtTimeNs, some (memoBytes identity.memo), identity.amount,
    (identity.from_.owner, identity.from_.subaccount),
    (identity.to_.owner, identity.to_.subaccount)⟩

theorem effective_of_matches (same : accountMatches actual expected = true) :
    actual.effective = (expected.owner, expected.subaccount) := by
  simp only [accountMatches, Bool.and_eq_true, beq_iff_eq] at same
  rw [IcrcAccount.effective, same.1, same.2]

theorem natU128_eq_some (parsed : natU128 value = some result) : result = value := by
  unfold natU128 at parsed
  split at parsed <;> cases parsed
  rfl

theorem stamp_of_matches (same : matchesIdentity tx identity = true) :
    tx.stamp = some identity.stamp := by
  unfold matchesIdentity at same
  split at same
  · contradiction
  next transfer present =>
    simp only [Bool.and_eq_true, beq_iff_eq] at same
    obtain ⟨⟨⟨⟨⟨⟨amount, _⟩, created⟩, memo⟩, sender⟩, receiver⟩, _⟩ := same
    simp only [Transaction.stamp, present, Option.bind_some, created, Option.map_some,
      LedgerTransferIdentity.stamp, memo, natU128_eq_some amount, effective_of_matches sender,
      effective_of_matches receiver]

theorem length_matches_le_one (distinct : ledgerRule.Distinct ledger)
    (identity : LedgerTransferIdentity) :
    (ledger.filter fun tx => matchesIdentity tx identity).length ≤ 1 :=
  distinct.length_filter_le_one fun _ _ same => stamp_of_matches same

/-- A transfer that is past its window and not in the ledger: it never will be. -/
structure Dead (now : Nat) (ledger : List Transaction) (identity : LedgerTransferIdentity) :
    Prop where
  expired : acceptanceDeadline identity.createdAtTimeNs < now
  absent : ∀ transaction ∈ ledger, matchesIdentity transaction identity = false

theorem Dead.later (dead : Dead now ledger identity) (later : now ≤ now') :
    Dead now' ledger identity :=
  ⟨dead.expired.trans_le later, dead.absent⟩

theorem not_matches_of_expired (admits : ledgerRule.Admits now ledger tx)
    (expired : acceptanceDeadline identity.createdAtTimeNs < now) :
    matchesIdentity tx identity = false := by
  have unstamped : tx.stamp ≠ some identity.stamp := admits.not_expired expired
  exact Bool.eq_false_iff.mpr fun same => unstamped (stamp_of_matches same)

theorem Dead.append (dead : Dead now ledger identity) (admits : ledgerRule.Admits now ledger tx) :
    Dead now (ledger ++ [tx]) identity := by
  refine ⟨dead.expired, fun entry member => ?_⟩
  rcases List.mem_append.mp member with earlier | last
  · exact dead.absent entry earlier
  · cases List.mem_singleton.mp last
    exact not_matches_of_expired admits dead.expired

end KinicBridge
