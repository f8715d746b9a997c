import KinicBridge.Core.Types
import KinicBridge.Library.Majority

/-! Reading Base through three RPC providers. A value is accepted when two of them agree on it,
and a block counts as finalized when two that agree on it have finalized as far. -/
namespace KinicBridge

open Checked

inductive ObservationError
  | insufficientCycles
  | rpc
  | inconsistent
  | invalidResponse
  | baseStateMismatch
  | overflow
  | transactionPending
  | transactionReverted
  deriving DecidableEq

inductive RpcError
  | providerError
  | httpOutcallError
  | jsonRpcError
  | validationError
  deriving DecidableEq

abbrev RpcResult (Value : Type) := Except RpcError Value

inductive MultiRpcResult (RpcService Value : Type)
  | consistent (result : RpcResult Value)
  | inconsistent (results : List (RpcService × RpcResult Value))

structure RpcBlock where
  number : Nat
  hash : Bytes32
  details : List UInt8
  deriving DecidableEq

structure LogEntry where
  address : Bytes20
  topics : List Bytes32
  data : List UInt8
  blockNumber : Option Nat
  transactionHash : Option Bytes32
  transactionIndex : Option Nat
  blockHash : Option Bytes32
  logIndex : Option Nat
  removed : Bool
  deriving DecidableEq

structure TransactionReceipt where
  blockHash : Bytes32
  blockNumber : Nat
  effectiveGasPrice : Nat
  gasUsed : Nat
  cumulativeGasUsed : Nat
  status : Option Nat
  root : Option Bytes32
  transactionHash : Bytes32
  contractAddress : Option Bytes20
  sender : Bytes20
  logs : List LogEntry
  logsBloom : List UInt8
  receiver : Option Bytes20
  transactionIndex : Nat
  txType : UInt8
  deriving DecidableEq

structure WithdrawalFinalizedIdentity where
  blockNumber : Nat
  blockHash : Bytes32
  deriving DecidableEq

def withdrawalFinalizedIdentity (block : RpcBlock) : Option WithdrawalFinalizedIdentity :=
  if block.number ≤ limit 64 then some ⟨block.number, block.hash⟩ else none

section Kernel

def withdrawalFinalizedIdentityQuorum :
    (first second third : Option WithdrawalFinalizedIdentity) → Option WithdrawalFinalizedIdentity
  | some a, some b, some c => if a = b ∨ a = c then some a else if b = c then some b else none
  | some a, some b, none | some a, none, some b | none, some a, some b =>
    if a = b then some a else none
  | _, _, _ => none

/-- A provider vouches only for a checkpoint that its own finalized head has reached. -/
def withdrawalFinalizedCheckpointAttestation
    (head observation : Option WithdrawalFinalizedIdentity) (checkpoint : Nat) :
    Option WithdrawalFinalizedIdentity :=
  match head, observation with
  | some head, some observation =>
    if checkpoint ≤ head.blockNumber ∧ observation.blockNumber = checkpoint then some observation
    else none
  | _, _ => none

def withdrawalFinalizedCheckpointQuorum
    (finalizedHeads checkpointObservations : List (Option WithdrawalFinalizedIdentity))
    (checkpoint : Nat) : Option WithdrawalFinalizedIdentity :=
  match List.zipWith (withdrawalFinalizedCheckpointAttestation · · checkpoint) finalizedHeads
      checkpointObservations with
  | [first, second, third] => withdrawalFinalizedIdentityQuorum first second third
  | _ => none

/-- The middle one of three heights, or the lower one of two. -/
def withdrawalCommonCheckpoint (heads : List (Option WithdrawalFinalizedIdentity)) : Option Nat :=
  let heights := (heads.filterMap (·.map (·.blockNumber))).mergeSort
  if heights.length < 2 then none else heights[if heights.length = 3 then 1 else 0]?

end Kernel

section Canister

variable {RpcService Value : Type} [DecidableEq RpcService]

def hasDuplicateRpcServices (entries : List (RpcService × Value)) : Bool :=
  entries.zipIdx.any fun entry => (entries.take entry.2).any (·.1 = entry.1.1)

def providerFinalizedHeads (results : List (RpcService × RpcResult RpcBlock)) :
    Except ObservationError (List (RpcService × Option WithdrawalFinalizedIdentity)) :=
  if results.length ≠ 3 ∨ hasDuplicateRpcServices results then .error .inconsistent
  else .ok (results.map fun entry =>
    (entry.1, entry.2.toOption.bind withdrawalFinalizedIdentity))

def correlateProviderResponses {Head : Type} (finalizedHeads : List (RpcService × Head))
    (responses : List (RpcService × Value)) : Except ObservationError (List Value) :=
  if finalizedHeads.length ≠ 3 ∨ responses.length ≠ finalizedHeads.length ∨
      hasDuplicateRpcServices finalizedHeads ∨ hasDuplicateRpcServices responses then
    .error .inconsistent
  else finalizedHeads.mapM fun head =>
    okOr .inconsistent ((responses.find? (·.1 = head.1)).map (·.2))

def exactFinalizedBlock
    (finalizedHeads : List (RpcService × Option WithdrawalFinalizedIdentity)) (checkpoint : Nat) :
    MultiRpcResult RpcService RpcBlock → Except ObservationError RpcBlock
  | .consistent (.ok block) =>
    if (withdrawalFinalizedIdentity block).map (·.blockNumber) ≠ some checkpoint then
      .error .inconsistent
    else .ok block
  | .consistent (.error _) => .error .rpc
  | .inconsistent results => do
    let correlated ← correlateProviderResponses finalizedHeads results
    let selected ← okOr .inconsistent (withdrawalFinalizedCheckpointQuorum
      (finalizedHeads.map (·.2))
      (correlated.map fun result => result.toOption.bind withdrawalFinalizedIdentity) checkpoint)
    okOr .inconsistent ((correlated.filterMap (·.toOption)).find? fun block =>
      withdrawalFinalizedIdentity block = some selected)

variable (heads : MultiRpcResult RpcService RpcBlock)
  (blockAt : Nat → MultiRpcResult RpcService RpcBlock)

def finalizedBlock : Except ObservationError RpcBlock :=
  match heads with
  | .consistent (.ok block) => .ok block
  | .consistent (.error _) => .error .rpc
  | .inconsistent results => do
    let finalizedHeads ← providerFinalizedHeads results
    let checkpoint ← okOr .inconsistent
      (withdrawalCommonCheckpoint (finalizedHeads.map (·.2)))
    exactFinalizedBlock finalizedHeads checkpoint (blockAt checkpoint)

structure FinalizedObservation where
  blockNumber : Nat
  blockHash : Bytes32
  observedAtNs : Nat
  deriving DecidableEq

def finalizedObservation (now : Nat) : Except ObservationError FinalizedObservation := do
  let block ← finalizedBlock heads blockAt
  if block.number ≤ limit 64 then .ok ⟨block.number, block.hash, now⟩
  else .error .overflow

/-- Everything but the gas accounting and the bloom filter. -/
def receiptConsensusFieldsMatch : (left right : Option TransactionReceipt) → Bool
  | none, none => true
  | some left, some right =>
    left.blockHash = right.blockHash && left.blockNumber = right.blockNumber &&
      left.status = right.status && left.root = right.root &&
      left.transactionHash = right.transactionHash &&
      left.contractAddress = right.contractAddress && left.sender = right.sender &&
      left.logs = right.logs && left.receiver = right.receiver &&
      left.transactionIndex = right.transactionIndex && left.txType = right.txType
  | _, _ => false

def exactProviderResponseQuorumBy (results : List (RpcService × RpcResult Value))
    (equivalent : Value → Value → Bool) : Except ObservationError Value :=
  if results.length ≠ 3 ∨ hasDuplicateRpcServices results then .error .inconsistent
  else
    let successes := results.filterMap (·.2.toOption)
    okOr .inconsistent
      (successes.find? fun candidate => 2 ≤ successes.countP (equivalent · candidate))

/-- The common answer of a reply, or one that two providers agree on. -/
def quorumResponseBy (equivalent : Value → Value → Bool) :
    MultiRpcResult RpcService Value → Except ObservationError Value
  | .consistent (.ok value) => .ok value
  | .consistent (.error _) => .error .rpc
  | .inconsistent results => exactProviderResponseQuorumBy results equivalent

def exactQuorumResponse [DecidableEq Value] (result : MultiRpcResult RpcService Value) :
    Except ObservationError Value :=
  quorumResponseBy (fun left right => left = right) result

def quorumTransactionReceiptResponse
    (result : MultiRpcResult RpcService (Option TransactionReceipt)) :
    Except ObservationError (Option TransactionReceipt) :=
  quorumResponseBy receiptConsensusFieldsMatch result

end Canister

section Replies

variable {RpcService Value : Type} [DecidableEq RpcService]

open Majority (Two Lists Cites)

/-! Without agreement the RPC canister returns a list of answers. The canister checks its length
and the names in it, so what it accepts is sound for any list of the providers' answers. -/

structure ThresholdReply (providers : Finset RpcService) (answer : RpcService → RpcResult Value)
    (reply : MultiRpcResult RpcService Value) : Prop where
  agreed : ∀ value, reply = .consistent (.ok value) ↔ Two providers (answer · = .ok value)
  failed : ∀ error, reply = .consistent (.error error) →
    Two providers fun provider => (answer provider).toOption = none
  cited : ∀ results, reply = .inconsistent results → Cites providers answer results

structure EqualityReply (providers : Finset RpcService) (answer : RpcService → RpcResult Value)
    (reply : MultiRpcResult RpcService Value) : Prop where
  agreed : ∀ value, reply = .consistent (.ok value) ↔ ∀ provider ∈ providers,
    answer provider = .ok value
  failed : ∀ error, reply = .consistent (.error error) → ∀ provider ∈ providers,
    (answer provider).toOption = none
  cited : ∀ results, reply = .inconsistent results → Cites providers answer results

def CompleteReply (providers : Finset RpcService) (answer : RpcService → RpcResult Value)
    (reply : MultiRpcResult RpcService Value) : Prop :=
  ∀ results, reply = .inconsistent results → Lists providers answer results

variable {providers : Finset RpcService} {answer : RpcService → RpcResult Value}
  {results : List (RpcService × RpcResult Value)} {equivalent : Value → Value → Bool}

theorem hasDuplicateRpcServices_eq_false {Entry : Type} {entries : List (RpcService × Entry)} :
    hasDuplicateRpcServices entries = false ↔ (entries.map (·.1)).Nodup := by
  simp only [hasDuplicateRpcServices, List.any_eq_false, List.Nodup, List.pairwise_iff_getElem,
    List.getElem_map, List.length_map]
  constructor
  · intro unique i j hi hj before same
    have := unique (entries[j], j) (by simp [List.mem_zipIdx_iff_getElem?])
    simp only [Bool.not_eq_true, List.any_eq_false, decide_eq_true_eq] at this
    exact this entries[i] (List.mem_take_iff_getElem.mpr ⟨i, by omega, rfl⟩) same
  · rintro distinct ⟨entry, j⟩ member
    obtain ⟨hj, found⟩ := List.getElem?_eq_some_iff.mp (List.mem_zipIdx_iff_getElem?.mp member)
    dsimp only at hj found ⊢
    subst found
    simp only [Bool.not_eq_true, List.any_eq_false, decide_eq_true_eq]
    intro earlier present
    obtain ⟨i, hi, rfl⟩ := List.mem_take_iff_getElem.mp present
    exact distinct i j (by omega) hj (by omega)

theorem wellFormed_of_lists {Answer : Type} {answer : RpcService → Answer}
    {entries : List (RpcService × Answer)} (three : providers.card = 3)
    (lists : Lists providers answer entries) :
    ¬(entries.length ≠ 3 ∨ hasDuplicateRpcServices entries = true) := by
  rw [lists.length_eq, three, hasDuplicateRpcServices_eq_false.mpr lists.once]
  simp

theorem lists_of_wellFormed {Answer : Type} {answer : RpcService → Answer}
    {entries : List (RpcService × Answer)} (three : providers.card = 3)
    (cites : Cites providers answer entries)
    (passes : ¬(entries.length ≠ 3 ∨ hasDuplicateRpcServices entries = true)) :
    Lists providers answer entries := by
  obtain ⟨many, unique⟩ := not_or.mp passes
  refine cites.lists ?_ ((not_not.mp many).trans three.symm)
  exact hasDuplicateRpcServices_eq_false.mp (Bool.of_not_eq_true unique)

def Reports (answer : RpcService → RpcResult Value) (equivalent : Value → Value → Bool)
    (value : Value) (provider : RpcService) : Prop :=
  ∃ reported, answer provider = .ok reported ∧ equivalent reported value = true

omit [DecidableEq RpcService] in
theorem countP_successes (lists : Lists providers answer results) (value : Value) :
    2 ≤ (results.filterMap (·.2.toOption)).countP (equivalent · value) ↔
      Two providers (Reports answer equivalent value) := by
  have passes : ∀ provider, ((answer provider).toOption.map (equivalent · value)).getD false = true ↔
      Reports answer equivalent value provider := by
    intro provider
    unfold Reports
    cases answer provider with
    | error => simp [Except.toOption]
    | ok reported => simp [Except.toOption]
  rw [List.countP_filterMap]
  constructor
  · intro counted
    exact (lists.two_of_countP counted).imp fun provider _ => (passes provider).mp
  · intro two
    exact lists.countP_of_two (two.imp fun provider _ => (passes provider).mpr)

theorem quorumBy_reported (three : providers.card = 3) (cites : Cites providers answer results)
    (accepted : exactProviderResponseQuorumBy results equivalent = .ok value) :
    (∃ provider ∈ providers, answer provider = .ok value) ∧
      Two providers (Reports answer equivalent value) := by
  obtain ⟨passes, accepted⟩ := guarded_ok.mp accepted
  have lists := lists_of_wellFormed three cites passes
  replace accepted := okOr_ok.mp accepted
  refine ⟨?_, (countP_successes lists value).mp (by simpa using List.find?_some accepted)⟩
  obtain ⟨entry, listed, success⟩ := List.mem_filterMap.mp (List.mem_of_find?_eq_some accepted)
  refine ⟨entry.1, (lists.all _).mp (List.mem_map_of_mem listed), ?_⟩
  rw [← lists.said entry listed]
  cases said : entry.2 with
  | error =>
    rw [said] at success
    contradiction
  | ok reported =>
    rw [said] at success
    rw [Option.some.inj success]

theorem quorumBy_accepts (three : providers.card = 3) (lists : Lists providers answer results)
    (reported : ∃ provider ∈ providers, answer provider = .ok value)
    (two : Two providers (Reports answer equivalent value)) :
    ∃ accepted, exactProviderResponseQuorumBy results equivalent = .ok accepted := by
  obtain ⟨provider, present, said⟩ := reported
  have success : value ∈ results.filterMap (·.2.toOption) := by
    refine List.mem_filterMap.mpr ⟨(provider, answer provider), lists.mem_iff.mpr present, ?_⟩
    rw [said]
    rfl
  have counted := (countP_successes lists value).mpr two
  rw [exactProviderResponseQuorumBy, if_neg (wellFormed_of_lists three lists)]
  simp only [okOr_ok]
  exact Option.isSome_iff_exists.mp (List.find?_isSome.mpr ⟨value, success, by simpa using counted⟩)

structure Equates (equivalent : Value → Value → Bool) : Prop where
  refl : ∀ value, equivalent value value = true
  symm : ∀ left right, equivalent left right = true → equivalent right left = true
  trans : ∀ left middle right, equivalent left middle = true → equivalent middle right = true →
    equivalent left right = true

omit [DecidableEq RpcService] in
theorem Two.reports (equates : Equates equivalent) (two : Two providers (answer · = .ok value)) :
    Two providers (Reports answer equivalent value) :=
  two.imp fun _ _ said => ⟨value, said, equates.refl value⟩

theorem quorumResponseBy_reported {reply : MultiRpcResult RpcService Value}
    (three : providers.card = 3) (equates : Equates equivalent)
    (replied : ThresholdReply providers answer reply)
    (accepted : quorumResponseBy equivalent reply = .ok value) :
    (∃ provider ∈ providers, answer provider = .ok value) ∧
      Two providers (Reports answer equivalent value) := by
  cases reply with
  | consistent result =>
    cases result with
    | error => contradiction
    | ok common =>
      cases accepted
      have two := (replied.agreed _).mp rfl
      obtain ⟨first, present, _, _, _, said, _⟩ := id two
      exact ⟨⟨first, present, said⟩, Two.reports equates two⟩
  | inconsistent results => exact quorumBy_reported three (replied.cited results rfl) accepted

theorem not_failed (three : providers.card = 3)
    (two : Two providers (Reports answer equivalent value))
    (failed : Two providers fun provider => (answer provider).toOption = none) : False := by
  obtain ⟨provider, _, ⟨reported, said, _⟩, none⟩ := two.meet three.le failed
  rw [said] at none
  contradiction

theorem quorumResponseBy_unique {reply reply' : MultiRpcResult RpcService Value}
    (three : providers.card = 3) (equates : Equates equivalent)
    (replied : ThresholdReply providers answer reply)
    (replied' : ThresholdReply providers answer reply') (complete : CompleteReply providers answer reply')
    (accepted : quorumResponseBy equivalent reply = .ok value) :
    ∃ value', quorumResponseBy equivalent reply' = .ok value' ∧ equivalent value value' = true := by
  obtain ⟨reported, two⟩ := quorumResponseBy_reported three equates replied accepted
  obtain ⟨value', accepted'⟩ : ∃ value', quorumResponseBy equivalent reply' = .ok value' := by
    cases reply' with
    | consistent result =>
      cases result with
      | error error => exact (not_failed three two (replied'.failed error rfl)).elim
      | ok common => exact ⟨common, rfl⟩
    | inconsistent results =>
      exact quorumBy_accepts three (complete results rfl) reported two
  refine ⟨value', accepted', ?_⟩
  obtain ⟨_, two'⟩ := quorumResponseBy_reported three equates replied' accepted'
  obtain ⟨provider, _, ⟨said, answered, same⟩, said', answered', same'⟩ := two.meet three.le two'
  cases answered.symm.trans answered'
  exact equates.trans _ _ _ (equates.symm _ _ same) same'

theorem equates_eq [DecidableEq Value] : Equates fun left right : Value => decide (left = right) :=
  ⟨by simp, by simp +contextual, by simp +contextual⟩

theorem equates_receipts : Equates receiptConsensusFieldsMatch := by
  refine ⟨fun value => ?_, fun left right => ?_, fun left middle right => ?_⟩
  · cases value <;> simp [receiptConsensusFieldsMatch]
  · cases left <;> cases right <;> simp +contextual [receiptConsensusFieldsMatch]
  · cases left <;> cases middle <;> cases right <;> simp +contextual [receiptConsensusFieldsMatch]

end Replies

end KinicBridge
