import KinicBridge.Rpc.Decoding
import KinicBridge.Rpc.Finality

/-! Receipts of finalized transactions, and what three providers can make the canister believe:
what it accepts was reported by two of them, one of which is honest, and does not depend on the
order in which they answer. -/
namespace KinicBridge

open Majority (Two Lists)

variable {RpcService : Type} [DecidableEq RpcService]

inductive CanonicalFinalizedReceiptOutcome
  | missing
  | pending (receiptBlockNumber : Nat)
  | confirmed (receipt : TransactionReceipt)
      (finalizedObservation receiptObservation : FinalizedObservation)
  deriving DecidableEq

def canonicalProbeError : RpcError → ObservationError
  | .jsonRpcError | .validationError => .invalidResponse
  | .providerError | .httpOutcallError => .rpc

def canonicalProbeResponse : MultiRpcResult RpcService (List Char) →
    Except ObservationError (List Char)
  | .consistent (.error error) => .error (canonicalProbeError error)
  | result => exactQuorumResponse result

/-- The bridge's snapshot at the receipt's block has to carry the block's number. -/
def validateCanonicalProbeResponse (observation : FinalizedObservation) (value : List Char) :
    Except ObservationError Unit := do
  let snapshot ← decodeBridgeSnapshot value
  if snapshot.mint.finalizedHeadBlockNumber ≠ observation.blockNumber then throw .invalidResponse

/-- `probe` answers a call that is pinned to the receipt's block, which has to be canonical. -/
def canonicalFinalizedReceiptWithHash (hash : Bytes32) (finalized : FinalizedObservation)
    (receipt : Option TransactionReceipt)
    (probe : FinalizedObservation → MultiRpcResult RpcService (List Char)) :
    Except ObservationError CanonicalFinalizedReceiptOutcome :=
  match receipt with
  | none => .ok .missing
  | some receipt => do
    if receipt.transactionHash ≠ hash then throw .invalidResponse
    if Checked.limit 64 < receipt.blockNumber then throw .overflow
    if finalized.blockNumber < receipt.blockNumber then return .pending receipt.blockNumber
    let receiptObservation : FinalizedObservation :=
      ⟨receipt.blockNumber, receipt.blockHash, finalized.observedAtNs⟩
    let probeValue ← canonicalProbeResponse (probe receiptObservation)
    validateCanonicalProbeResponse receiptObservation probeValue
    return .confirmed receipt finalized receiptObservation

/-- Two providers say so, and one that does is honest. -/
def Supported (providers : Finset RpcService) (faulty : RpcService → Prop)
    (reports : RpcService → Prop) : Prop :=
  Two providers reports ∧ ∃ provider ∈ providers, ¬faulty provider ∧ reports provider

section

variable {providers : Finset RpcService} {faulty : RpcService → Prop}

theorem confirmed_ok {hash : Bytes32} {finalized finalized' observation : FinalizedObservation}
    {receipt : Option TransactionReceipt} {confirmed : TransactionReceipt}
    {probe : FinalizedObservation → MultiRpcResult RpcService (List Char)}
    (accepted : canonicalFinalizedReceiptWithHash hash finalized receipt probe =
      .ok (.confirmed confirmed finalized' observation)) :
    receipt = some confirmed ∧ confirmed.transactionHash = hash ∧
      confirmed.blockNumber ≤ finalized.blockNumber ∧ finalized' = finalized ∧
      observation = ⟨confirmed.blockNumber, confirmed.blockHash, finalized.observedAtNs⟩ := by
  unfold canonicalFinalizedReceiptWithHash at accepted
  split at accepted
  · cases accepted
  next found =>
    obtain ⟨hashed, accepted⟩ := thrown_ok.mp accepted
    obtain ⟨_, accepted⟩ := thrown_ok.mp accepted
    split at accepted
    · cases accepted
    next older =>
      obtain ⟨_, _, accepted⟩ := bind_ok.mp accepted
      obtain ⟨_, _, ⟨⟩⟩ := returned_ok.mp accepted
      exact ⟨rfl, not_not.mp hashed, Nat.not_lt.mp older, rfl, rfl⟩

/-- Of three providers of which at most one is faulty: a call result, a receipt up to its gas
accounting and bloom filter, and the number and hash of a finalized block are accepted only if
two providers report them, one of them honest, whatever list of answers is returned; both
providers of a finalized block have finalized as far; and from every complete list of the same
answers, in any order, the same is accepted. -/
theorem quorum_sound (Value : Type) [DecidableEq Value] (three : providers.card = 3)
    (one : ∀ first ∈ providers, ∀ second ∈ providers, faulty first → faulty second →
      first = second) :
    (∀ (answer : RpcService → RpcResult Value) reply value,
      ThresholdReply providers answer reply → exactQuorumResponse reply = .ok value →
      Supported providers faulty (answer · = .ok value) ∧
      ∀ reply', ThresholdReply providers answer reply' → CompleteReply providers answer reply' →
        exactQuorumResponse reply' = .ok value) ∧
    (∀ answer reply receipt, ThresholdReply providers answer reply →
      quorumTransactionReceiptResponse reply = .ok receipt →
      Supported providers faulty (Reports answer receiptConsensusFieldsMatch receipt) ∧
      (∀ reply', ThresholdReply providers answer reply' → CompleteReply providers answer reply' →
        ∃ receipt', quorumTransactionReceiptResponse reply' = .ok receipt' ∧
          receiptConsensusFieldsMatch receipt receipt' = true) ∧
      ∀ hash finalized (probe : FinalizedObservation → MultiRpcResult RpcService (List Char))
        confirmed finalized' observation,
        canonicalFinalizedReceiptWithHash hash finalized receipt probe =
          .ok (.confirmed confirmed finalized' observation) →
        receipt = some confirmed ∧ confirmed.blockNumber ≤ finalized.blockNumber ∧
        observation.blockNumber = confirmed.blockNumber ∧
        observation.blockHash = confirmed.blockHash) ∧
    ∀ headAnswer observations reply blockAt now observation,
      ThresholdReply providers headAnswer reply →
      (∀ number, EqualityReply providers (observations number) (blockAt number)) →
      finalizedObservation reply blockAt now = .ok observation →
      Supported providers faulty
        (Vouches headAnswer observations observation.blockNumber observation.blockHash) ∧
      ∀ reply' blockAt', ThresholdReply providers headAnswer reply' →
        (∀ number, EqualityReply providers (observations number) (blockAt' number)) →
        CompleteReply providers headAnswer reply' →
        (∀ number, CompleteReply providers (observations number) (blockAt' number)) →
        finalizedObservation reply' blockAt' now = .ok observation := by
  refine ⟨fun answer reply value replied accepted => ?_,
    fun answer reply receipt replied accepted => ?_,
    fun headAnswer observations reply blockAt now observation replied replies accepted => ?_⟩
  · obtain ⟨_, two⟩ := quorumResponseBy_reported three equates_eq replied accepted
    have exact : Two providers (answer · = .ok value) := two.imp fun provider _ reports => by
      obtain ⟨reported, answered, same⟩ := reports
      rw [answered, of_decide_eq_true same]
    refine ⟨⟨exact, exact.honest one⟩, fun reply' replied' complete => ?_⟩
    obtain ⟨value', accepted', same⟩ :=
      quorumResponseBy_unique three equates_eq replied replied' complete accepted
    rw [of_decide_eq_true same]
    exact accepted'
  · obtain ⟨_, two⟩ := quorumResponseBy_reported three equates_receipts replied accepted
    refine ⟨⟨two, two.honest one⟩, fun reply' replied' complete =>
      quorumResponseBy_unique three equates_receipts replied replied' complete accepted,
      fun hash finalized probe confirmed finalized' observation confirms => ?_⟩
    obtain ⟨found, _, older, _, rfl⟩ := confirmed_ok confirms
    exact ⟨found, older, rfl, rfl⟩
  · obtain ⟨block, found, accepted⟩ := bind_ok.mp accepted
    split at accepted
    next bounded =>
      cases accepted
      have two := finalizedBlock_vouched three replied replies found
      refine ⟨⟨two, two.honest one⟩, fun reply' blockAt' replied' replies' complete completes => ?_⟩
      obtain ⟨block', found', number, hash⟩ :=
        finalizedBlock_unique three replied replied' replies replies' complete completes found
      refine bind_ok.mpr ⟨block', found', ?_⟩
      rw [if_pos (by rw [number]; exact bounded), number, hash]
    · contradiction

end

section

variable {Value : Type}

theorem thresholdReply_listed {answer : Fin 3 → RpcResult Value}
    {results : List (Fin 3 × RpcResult Value)} (lists : Lists .univ answer results)
    (apart : ∀ first second, answer first = answer second → first = second) :
    ThresholdReply .univ answer (.inconsistent results) where
  agreed value := by
    refine ⟨nofun, fun two => ?_⟩
    obtain ⟨first, _, second, _, differ, one, other⟩ := two
    exact absurd (apart first second (one.trans other.symm)) differ
  failed := nofun
  cited _ same := by
    cases same
    exact lists.cites

end

private def sampleHeads : Fin 3 → RpcResult RpcBlock
  | 0 => .ok ⟨101, 8, []⟩
  | 1 => .ok ⟨100, 7, []⟩
  | 2 => .ok ⟨90, 9, []⟩

private def sampleBlock (number : Nat) : Fin 3 → RpcResult RpcBlock
  | 0 | 1 => .ok ⟨number, 7, []⟩
  | 2 => .ok ⟨number, 9, []⟩

private def sampleHeadReply : MultiRpcResult (Fin 3) RpcBlock :=
  .inconsistent [(2, sampleHeads 2), (1, sampleHeads 1), (0, sampleHeads 0)]

private def sampleBlockReply (number : Nat) : MultiRpcResult (Fin 3) RpcBlock :=
  .inconsistent [(1, sampleBlock number 1), (2, sampleBlock number 2), (0, sampleBlock number 0)]

private theorem sample_accepted :
    finalizedObservation sampleHeadReply sampleBlockReply 5 = .ok ⟨100, 7, 5⟩ := by
  have heads : providerFinalizedHeads
      [((2 : Fin 3), sampleHeads 2), (1, sampleHeads 1), (0, sampleHeads 0)] =
      .ok [(2, some ⟨90, 9⟩), (1, some ⟨100, 7⟩), (0, some ⟨101, 8⟩)] := by
    decide
  have sorted : List.mergeSort [90, 100, 101] = [90, 100, 101] :=
    List.mergeSort_of_pairwise (by decide)
  have checkpoint : withdrawalCommonCheckpoint [some ⟨90, 9⟩, some ⟨100, 7⟩, some ⟨101, 8⟩] =
      some 100 := by
    simp [withdrawalCommonCheckpoint, sorted]
  have block : exactFinalizedBlock [(2, some ⟨90, 9⟩), (1, some ⟨100, 7⟩), (0, some ⟨101, 8⟩)] 100
      (sampleBlockReply 100) = .ok ⟨100, 7, []⟩ := by
    decide
  have found : finalizedBlock sampleHeadReply sampleBlockReply = .ok ⟨100, 7, []⟩ :=
    bind_ok.mpr ⟨_, heads, bind_ok.mpr ⟨100, okOr_ok.mpr checkpoint, block⟩⟩
  exact bind_ok.mpr ⟨_, found, by decide⟩

theorem quorum_sound_lagging :
    (∀ first ∈ (.univ : Finset (Fin 3)), ∀ second ∈ (.univ : Finset (Fin 3)),
      first = 2 → second = 2 → first = second) ∧
    Supported .univ (· = 2) (Vouches sampleHeads sampleBlock 100 7) := by
  have one : ∀ first ∈ (.univ : Finset (Fin 3)), ∀ second ∈ (.univ : Finset (Fin 3)),
      first = 2 → second = 2 → first = second :=
    fun first _ second _ is is' => is.trans is'.symm
  have heads : ThresholdReply .univ sampleHeads sampleHeadReply :=
    thresholdReply_listed ⟨by decide, by decide, by simp⟩ (by decide)
  have blocks : ∀ number, EqualityReply .univ (sampleBlock number) (sampleBlockReply number) := by
    refine fun number => ⟨fun value => ⟨nofun, fun all => ?_⟩, nofun, fun _ same => ?_⟩
    · have differ := (all 0 (Finset.mem_univ _)).trans (all 2 (Finset.mem_univ _)).symm
      simp [sampleBlock] at differ
    · cases same
      simp [Majority.Cites]
  exact ⟨one, ((quorum_sound Unit (by decide) one).2.2 _ _ _ _ _ _ heads blocks sample_accepted).1⟩

private def sampleReceipts : Fin 3 → RpcResult (Option TransactionReceipt)
  | 0 => .ok (some ⟨7, 100, 1, 32, 32, some 1, none, 5, none, 3, [], [], some 4, 0, 2⟩)
  | 1 => .ok (some ⟨7, 100, 1, 998, 998, some 1, none, 5, none, 3, [], [], some 4, 0, 2⟩)
  | 2 => .error .providerError

/-- Which of the two receipts is accepted depends on the order of the answers, and only one
provider reports all of it. -/
theorem accepted_receipt_gas_varies :
    ∃ (reply reply' : MultiRpcResult (Fin 3) (Option TransactionReceipt)) (receipt receipt' : _),
      ThresholdReply .univ sampleReceipts reply ∧ ThresholdReply .univ sampleReceipts reply' ∧
      quorumTransactionReceiptResponse reply = .ok receipt ∧
      quorumTransactionReceiptResponse reply' = .ok receipt' ∧ receipt ≠ receipt' ∧
      ¬Two .univ (sampleReceipts · = .ok receipt) := by
  have apart : ∀ first second, sampleReceipts first = sampleReceipts second → first = second := by
    decide
  refine ⟨.inconsistent [(0, sampleReceipts 0), (1, sampleReceipts 1), (2, sampleReceipts 2)],
    .inconsistent [(1, sampleReceipts 1), (0, sampleReceipts 0), (2, sampleReceipts 2)],
    _, _, thresholdReply_listed ⟨by decide, by decide, by simp⟩ apart,
    thresholdReply_listed ⟨by decide, by decide, by simp⟩ apart, rfl, rfl, by decide, ?_⟩
  rintro ⟨first, _, second, _, differ, one, other⟩
  exact differ (apart first second (one.trans other.symm))

end KinicBridge
