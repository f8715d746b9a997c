import KinicBridge.Rpc.Quorum

/-! The finalized block that the canister reads Base at. Two providers vouch for its number and
hash, both have finalized as far, and the order of their answers makes no difference. -/
namespace KinicBridge

open List

open Majority (Two Lists Cites)

variable {RpcService : Type} [DecidableEq RpcService] {providers : Finset RpcService}
  {identity : WithdrawalFinalizedIdentity}

section Kernel

theorem withdrawalFinalizedIdentityQuorum_eq_some
    {first second third : Option WithdrawalFinalizedIdentity} :
    withdrawalFinalizedIdentityQuorum first second third = some identity ↔
      2 ≤ [first, second, third].count (some identity) := by
  simp only [count_cons, count_nil, beq_iff_eq]
  cases first <;> cases second <;> cases third <;>
    simp only [withdrawalFinalizedIdentityQuorum, reduceCtorEq, if_false, Option.some.injEq] <;>
    grind

theorem two_reached {heads : List (Option WithdrawalFinalizedIdentity)}
    (selected : withdrawalCommonCheckpoint heads = some checkpoint) :
    2 ≤ heads.countP fun head => head.any fun identity => checkpoint ≤ identity.blockNumber := by
  have counted : (heads.filterMap (·.map (·.blockNumber))).mergeSort.countP (checkpoint ≤ ·) =
      heads.countP fun head => head.any fun identity => checkpoint ≤ identity.blockNumber := by
    rw [(mergeSort_perm ..).countP_eq, countP_filterMap]
    refine countP_congr fun head _ => ?_
    cases head <;> simp
  rw [← counted]
  have sorted := pairwise_mergeSort' (· ≤ ·) (heads.filterMap (·.map (·.blockNumber)))
  unfold withdrawalCommonCheckpoint at selected
  generalize (heads.filterMap (·.map (·.blockNumber))).mergeSort = heights at selected sorted ⊢
  match heights, sorted with
  | [], _ | [_], _ => contradiction
  | lowest :: next :: rest, sorted =>
    obtain ⟨lowest_le, sorted⟩ := pairwise_cons.mp sorted
    dsimp only at selected
    rw [if_neg (by simp)] at selected
    by_cases three : (lowest :: next :: rest).length = 3
    · rw [if_pos three] at selected
      obtain ⟨highest, rfl⟩ := length_eq_one_iff.mp (Nat.succ.inj (Nat.succ.inj three))
      cases selected
      have higher := (pairwise_cons.mp sorted).1 highest (mem_cons_self ..)
      simp [countP_cons, higher]
    · rw [if_neg three] at selected
      cases selected
      have higher := lowest_le next (mem_cons_self ..)
      simp [higher]

theorem withdrawalCommonCheckpoint_perm {heads others : List (Option WithdrawalFinalizedIdentity)}
    (perm : heads.Perm others) :
    withdrawalCommonCheckpoint heads = withdrawalCommonCheckpoint others := by
  have same : (heads.filterMap (·.map (·.blockNumber))).mergeSort =
      (others.filterMap (·.map (·.blockNumber))).mergeSort :=
    Perm.eq_of_sortedLE sortedLE_mergeSort sortedLE_mergeSort
      ((mergeSort_perm ..).trans ((perm.filterMap _).trans (mergeSort_perm ..).symm))
  unfold withdrawalCommonCheckpoint
  rw [same]

end Kernel

theorem withdrawalFinalizedIdentity_eq_some {block : RpcBlock} :
    withdrawalFinalizedIdentity block = some identity ↔
      block.number ≤ Checked.limit 64 ∧ identity = ⟨block.number, block.hash⟩ := by
  simp [withdrawalFinalizedIdentity, eq_comm]

section Correlation

variable {Head : Type} {head : RpcService → Head} {finalizedHeads : List (RpcService × Head)}
  {observation : RpcService → RpcResult RpcBlock}
  {results : List (RpcService × RpcResult RpcBlock)}

theorem find_response (lists : Lists providers observation results)
    {provider : RpcService} (present : provider ∈ providers) :
    (results.find? (·.1 = provider)).map (·.2) = some (observation provider) := by
  have found : (results.find? (·.1 = provider)).isSome = true :=
    find?_isSome.mpr ⟨(provider, observation provider), lists.mem_iff.mpr present, by simp⟩
  obtain ⟨entry, found⟩ := Option.isSome_iff_exists.mp found
  have same : entry.1 = provider := by simpa using find?_some found
  rw [found, Option.map_some, lists.said entry (mem_of_find?_eq_some found), same]

theorem correlate_eq (three : providers.card = 3) (heads : Lists providers head finalizedHeads)
    (lists : Lists providers observation results) :
    correlateProviderResponses finalizedHeads results =
      .ok (finalizedHeads.map fun entry => observation entry.1) := by
  have checks := wellFormed_of_lists three heads
  have checks' := wellFormed_of_lists three lists
  have lengths : results.length = finalizedHeads.length := by rw [lists.length_eq, heads.length_eq]
  unfold correlateProviderResponses
  rw [if_neg (by tauto)]
  have present : ∀ entry ∈ finalizedHeads, entry.1 ∈ providers := fun entry listed =>
    (heads.all _).mp (mem_map_of_mem listed)
  clear checks checks' lengths heads
  induction finalizedHeads with
  | nil => rfl
  | cons entry rest ih =>
    rw [mapM_cons, find_response lists (present entry (mem_cons_self ..)),
      ih fun other listed => present other (mem_cons_of_mem _ listed)]
    rfl

theorem correlated_lists (three : providers.card = 3) (heads : Lists providers head finalizedHeads)
    (cites : Cites providers observation results)
    (correlates : correlateProviderResponses finalizedHeads results = .ok correlated) :
    Lists providers observation results := by
  obtain ⟨passes, _⟩ := guarded_ok.mp correlates
  have many := heads.length_eq.trans three
  exact lists_of_wellFormed three cites (by rw [many] at passes; tauto)

end Correlation

section Checkpoint

variable {headAnswer : RpcService → RpcResult RpcBlock}
  {observation : RpcService → RpcResult RpcBlock}
  {finalizedHeads : List (RpcService × Option WithdrawalFinalizedIdentity)}
  {reply reply' : MultiRpcResult RpcService RpcBlock}

def headIdentity (answer : RpcService → RpcResult RpcBlock) (provider : RpcService) :
    Option WithdrawalFinalizedIdentity :=
  (answer provider).toOption.bind withdrawalFinalizedIdentity

omit [DecidableEq RpcService] in
theorem headIdentity_eq_some {answer : RpcService → RpcResult RpcBlock} {provider : RpcService} :
    headIdentity answer provider = some identity ↔
      ∃ block, answer provider = .ok block ∧ block.number ≤ Checked.limit 64 ∧
        identity = ⟨block.number, block.hash⟩ := by
  unfold headIdentity
  cases answer provider with
  | error => simp [Except.toOption]
  | ok block => simp [Except.toOption, withdrawalFinalizedIdentity_eq_some]

theorem providerFinalizedHeads_eq {results : List (RpcService × RpcResult RpcBlock)}
    (three : providers.card = 3) (lists : Lists providers headAnswer results) :
    ∃ heads, providerFinalizedHeads results = .ok heads ∧
      Lists providers (headIdentity headAnswer) heads := by
  refine ⟨_, if_neg (wellFormed_of_lists three lists), ?_, ?_, ?_⟩
  · rw [map_map]
    exact lists.once
  · rw [map_map]
    exact lists.all
  · intro entry listed
    obtain ⟨result, present, rfl⟩ := mem_map.mp listed
    rw [headIdentity, ← lists.said result present]

def Attests (headAnswer observation : RpcService → RpcResult RpcBlock)
    (identity : WithdrawalFinalizedIdentity) (provider : RpcService) : Prop :=
  (∃ head, headIdentity headAnswer provider = some head ∧
    identity.blockNumber ≤ head.blockNumber) ∧ headIdentity observation provider = some identity

theorem attestation_eq_some {head seen : Option WithdrawalFinalizedIdentity} :
    withdrawalFinalizedCheckpointAttestation head seen checkpoint = some identity ↔
      identity.blockNumber = checkpoint ∧
      (∃ reached, head = some reached ∧ identity.blockNumber ≤ reached.blockNumber) ∧
      seen = some identity := by
  unfold withdrawalFinalizedCheckpointAttestation
  cases head <;> cases seen <;> simp
  grind

section

variable (three : providers.card = 3)
  (heads : Lists providers (headIdentity headAnswer) finalizedHeads)

include three heads

theorem checkpointQuorum_eq_some : withdrawalFinalizedCheckpointQuorum (finalizedHeads.map (·.2))
        ((finalizedHeads.map fun entry => observation entry.1).map fun result =>
          result.toOption.bind withdrawalFinalizedIdentity) checkpoint = some identity ↔
      identity.blockNumber = checkpoint ∧
        Two providers (Attests headAnswer observation identity) := by
  have zipped : zipWith (withdrawalFinalizedCheckpointAttestation · · checkpoint)
      (finalizedHeads.map (·.2)) ((finalizedHeads.map fun entry => observation entry.1).map
        fun result => result.toOption.bind withdrawalFinalizedIdentity) =
      finalizedHeads.map fun entry => withdrawalFinalizedCheckpointAttestation entry.2
        (headIdentity observation entry.1) checkpoint := by
    rw [map_map, zipWith_map, zipWith_self]
    rfl
  have counted : withdrawalFinalizedCheckpointQuorum (finalizedHeads.map (·.2))
        ((finalizedHeads.map fun entry => observation entry.1).map fun result =>
          result.toOption.bind withdrawalFinalizedIdentity) checkpoint = some identity ↔
      2 ≤ finalizedHeads.countP fun entry => withdrawalFinalizedCheckpointAttestation entry.2
        (headIdentity observation entry.1) checkpoint == some identity := by
    unfold withdrawalFinalizedCheckpointQuorum
    rw [zipped]
    obtain ⟨first, second, third, rfl⟩ :=
      length_eq_three.mp (heads.length_eq.trans three)
    refine withdrawalFinalizedIdentityQuorum_eq_some.trans ?_
    simp only [count_cons, countP_cons, count_nil, countP_nil]
  rw [counted]
  constructor
  · intro two
    have attested := (heads.two_of_countP two).imp fun provider _ passed =>
      attestation_eq_some.mp (beq_iff_eq.mp passed)
    obtain ⟨_, _, _, _, _, ⟨number, _⟩, _⟩ := id attested
    exact ⟨number, attested.imp fun _ _ attests => attests.2⟩
  · rintro ⟨number, two⟩
    exact heads.countP_of_two (two.imp fun _ _ attests =>
      beq_iff_eq.mpr (attestation_eq_some.mpr ⟨number, attests⟩))

theorem exactFinalizedBlock_attested {block : RpcBlock}
    (replied : EqualityReply providers observation reply)
    (reached : Two providers fun provider => ∃ head,
      headIdentity headAnswer provider = some head ∧ checkpoint ≤ head.blockNumber)
    (accepted : exactFinalizedBlock finalizedHeads checkpoint reply = .ok block) :
    ∃ identity, withdrawalFinalizedIdentity block = some identity ∧
      identity.blockNumber = checkpoint ∧
      Two providers (Attests headAnswer observation identity) := by
  cases reply with
  | consistent result =>
    cases result with
    | error => contradiction
    | ok common =>
      obtain ⟨matches_, accepted⟩ := guarded_ok.mp accepted
      cases accepted
      obtain ⟨identity, known, number⟩ := Option.map_eq_some_iff.mp (not_not.mp matches_)
      refine ⟨identity, known, number, reached.imp fun provider present head => ?_⟩
      rw [← number] at head
      refine ⟨head, ?_⟩
      rw [headIdentity, (replied.agreed _).mp rfl provider present]
      exact known
  | inconsistent results =>
    obtain ⟨correlated, correlates, accepted⟩ := bind_ok.mp accepted
    have lists := correlated_lists three heads (replied.cited results rfl) correlates
    cases (correlate_eq three heads lists).symm.trans correlates
    obtain ⟨selected, quorum, found⟩ := found_ok.mp accepted
    obtain ⟨number, two⟩ := (checkpointQuorum_eq_some three heads).mp quorum
    have known := find?_some (okOr_ok.mp found)
    exact ⟨selected, by simpa using known, number, two⟩

theorem exactFinalizedBlock_accepts (replied : EqualityReply providers observation reply)
    (complete : CompleteReply providers observation reply)
    (two : Two providers (Attests headAnswer observation identity)) :
    ∃ block, exactFinalizedBlock finalizedHeads identity.blockNumber reply = .ok block ∧
      withdrawalFinalizedIdentity block = some identity := by
  obtain ⟨provider, present, _, _, _, ⟨_, said⟩, _⟩ := id two
  obtain ⟨reported, answered, bounded, rfl⟩ := headIdentity_eq_some.mp said
  have known : withdrawalFinalizedIdentity reported = some ⟨reported.number, reported.hash⟩ :=
    if_pos bounded
  cases reply with
  | consistent result =>
    cases result with
    | error error =>
      have failed := replied.failed error rfl provider present
      rw [answered] at failed
      contradiction
    | ok common =>
      cases answered.symm.trans ((replied.agreed common).mp rfl provider present)
      refine ⟨reported, if_neg ?_, known⟩
      rw [known]
      simp
  | inconsistent results =>
    have lists := complete results rfl
    have quorum := (checkpointQuorum_eq_some three heads).mpr ⟨rfl, two⟩
    have success : reported ∈ (finalizedHeads.map fun entry => observation entry.1).filterMap
        (·.toOption) := by
      refine mem_filterMap.mpr ⟨observation provider, ?_, by rw [answered]; rfl⟩
      exact mem_map.mpr ⟨_, heads.mem_iff.mpr present, rfl⟩
    obtain ⟨block, found⟩ : ∃ block, ((finalizedHeads.map fun entry => observation
        entry.1).filterMap (·.toOption)).find? (fun block => withdrawalFinalizedIdentity block =
          some ⟨reported.number, reported.hash⟩) = some block :=
      Option.isSome_iff_exists.mp (find?_isSome.mpr ⟨reported, success, decide_eq_true known⟩)
    refine ⟨block, ?_, by simpa using find?_some found⟩
    refine bind_ok.mpr ⟨_, correlate_eq three heads lists, ?_⟩
    exact bind_ok.mpr ⟨_, okOr_ok.mpr quorum, okOr_ok.mpr found⟩

end

end Checkpoint

section Head

variable {headAnswer : RpcService → RpcResult RpcBlock}
  {observations : Nat → RpcService → RpcResult RpcBlock}
  {reply reply' : MultiRpcResult RpcService RpcBlock}
  {blockAt blockAt' : Nat → MultiRpcResult RpcService RpcBlock} {block : RpcBlock}

def Vouches (headAnswer : RpcService → RpcResult RpcBlock)
    (observations : Nat → RpcService → RpcResult RpcBlock) (number : Nat) (hash : Bytes32)
    (provider : RpcService) : Prop :=
  (∃ head, headAnswer provider = .ok head ∧ number ≤ head.number) ∧
    ((∃ head, headAnswer provider = .ok head ∧ head.number = number ∧ head.hash = hash) ∨
      ∃ block, observations number provider = .ok block ∧ block.number = number ∧ block.hash = hash)

omit [DecidableEq RpcService] in
theorem Attests.vouches {provider : RpcService}
    (attests : Attests headAnswer (observations identity.blockNumber) identity provider) :
    Vouches headAnswer observations identity.blockNumber identity.blockHash provider := by
  obtain ⟨⟨head, known, reached⟩, seen⟩ := attests
  obtain ⟨headBlock, answered, _, rfl⟩ := headIdentity_eq_some.mp known
  obtain ⟨block, observed, _, rfl⟩ := headIdentity_eq_some.mp seen
  exact ⟨⟨headBlock, answered, reached⟩, .inr ⟨block, observed, rfl, rfl⟩⟩

theorem finalizedBlock_lists {results : List (RpcService × RpcResult RpcBlock)}
    (three : providers.card = 3) (cites : Cites providers headAnswer results)
    (accepted : finalizedBlock (.inconsistent results) blockAt = .ok block) :
    Lists providers headAnswer results := by
  obtain ⟨_, found, _⟩ := bind_ok.mp accepted
  exact lists_of_wellFormed three cites (guarded_ok.mp found).1

theorem checkpoint_attested {results : List (RpcService × RpcResult RpcBlock)}
    (three : providers.card = 3) (lists : Lists providers headAnswer results)
    (replies : ∀ number, EqualityReply providers (observations number) (blockAt number))
    (accepted : finalizedBlock (.inconsistent results) blockAt = .ok block) :
    ∃ identity, withdrawalFinalizedIdentity block = some identity ∧
      withdrawalCommonCheckpoint (results.map fun entry =>
        entry.2.toOption.bind withdrawalFinalizedIdentity) = some identity.blockNumber ∧
      Two providers (Attests headAnswer (observations identity.blockNumber) identity) := by
  obtain ⟨heads, found, listed⟩ := providerFinalizedHeads_eq three lists
  obtain ⟨_, found', accepted⟩ := bind_ok.mp accepted
  cases found.symm.trans found'
  obtain ⟨checkpoint, selected, accepted⟩ := found_ok.mp accepted
  have reached : Two providers fun provider => ∃ head,
      headIdentity headAnswer provider = some head ∧ checkpoint ≤ head.blockNumber := by
    have counted := two_reached selected
    rw [countP_map] at counted
    refine (listed.two_of_countP counted).imp fun provider _ passed => ?_
    obtain ⟨head, known, reached⟩ := (Option.any_eq_true _ _).mp passed
    exact ⟨head, known, of_decide_eq_true reached⟩
  obtain ⟨identity, known, rfl, two⟩ :=
    exactFinalizedBlock_attested three listed (replies checkpoint) reached accepted
  have heads_eq := (if_neg (wellFormed_of_lists three lists)).symm.trans found
  cases heads_eq
  rw [map_map] at selected
  exact ⟨identity, known, selected, two⟩

theorem finalizedBlock_vouched (three : providers.card = 3)
    (replied : ThresholdReply providers headAnswer reply)
    (replies : ∀ number, EqualityReply providers (observations number) (blockAt number))
    (accepted : finalizedBlock reply blockAt = .ok block) :
    Two providers (Vouches headAnswer observations block.number block.hash) := by
  cases reply with
  | consistent result =>
    cases result with
    | error => contradiction
    | ok common =>
      cases accepted
      exact ((replied.agreed _).mp rfl).imp fun provider _ answered =>
        ⟨⟨_, answered, Nat.le_refl _⟩, .inl ⟨_, answered, rfl, rfl⟩⟩
  | inconsistent results =>
    obtain ⟨identity, known, _, two⟩ :=
      checkpoint_attested three (finalizedBlock_lists three (replied.cited results rfl) accepted)
        replies accepted
    obtain ⟨_, rfl⟩ := withdrawalFinalizedIdentity_eq_some.mp known
    exact two.imp fun _ _ attests => attests.vouches

theorem finalizedBlock_unique (three : providers.card = 3)
    (replied : ThresholdReply providers headAnswer reply)
    (replied' : ThresholdReply providers headAnswer reply')
    (replies : ∀ number, EqualityReply providers (observations number) (blockAt number))
    (replies' : ∀ number, EqualityReply providers (observations number) (blockAt' number))
    (complete : CompleteReply providers headAnswer reply')
    (completes : ∀ number, CompleteReply providers (observations number) (blockAt' number))
    (accepted : finalizedBlock reply blockAt = .ok block) :
    ∃ block', finalizedBlock reply' blockAt' = .ok block' ∧ block'.number = block.number ∧
      block'.hash = block.hash := by
  cases reply with
  | consistent result =>
    cases result with
    | error => contradiction
    | ok common =>
      cases accepted
      rw [(replied'.agreed _).mpr ((replied.agreed _).mp rfl)]
      exact ⟨_, rfl, rfl, rfl⟩
  | inconsistent results =>
    have lists := finalizedBlock_lists three (replied.cited results rfl) accepted
    obtain ⟨identity, known, selected, two⟩ := checkpoint_attested three lists replies accepted
    cases reply' with
    | consistent result =>
      exfalso
      cases result with
      | error error =>
        obtain ⟨provider, _, ⟨⟨head, answered, _⟩, _⟩, failed⟩ :=
          two.meet three.le (replied'.failed error rfl)
        obtain ⟨block, answered, _⟩ := headIdentity_eq_some.mp answered
        rw [answered] at failed
        contradiction
      | ok common =>
        have agreed := (replied.agreed common).mpr ((replied'.agreed common).mp rfl)
        contradiction
    | inconsistent others =>
      have lists' := complete others rfl
      obtain ⟨heads', found', listed'⟩ := providerFinalizedHeads_eq three lists'
      obtain ⟨block', accepted', known'⟩ :=
        exactFinalizedBlock_accepts three listed' (replies' identity.blockNumber)
          (completes identity.blockNumber) two
      have selected' : withdrawalCommonCheckpoint (heads'.map (·.2)) =
          some identity.blockNumber := by
        cases (if_neg (wellFormed_of_lists three lists')).symm.trans found'
        rw [map_map, ← selected]
        exact withdrawalCommonCheckpoint_perm ((lists'.perm lists).map _)
      refine ⟨block', ?_, ?_⟩
      · refine bind_ok.mpr ⟨heads', found', ?_⟩
        exact bind_ok.mpr ⟨_, okOr_ok.mpr selected', accepted'⟩
      · obtain ⟨_, rfl⟩ := withdrawalFinalizedIdentity_eq_some.mp known
        obtain ⟨_, same⟩ := withdrawalFinalizedIdentity_eq_some.mp known'
        simp only [WithdrawalFinalizedIdentity.mk.injEq] at same
        exact ⟨same.1.symm, same.2.symm⟩

end Head

end KinicBridge
