import KinicBridge.Funding.Recovery

/-! A pull that the ledger accepted is remembered. An attempt goes away without a deposit only if
the ledger refused its only call, or if a scan that started after its window has read the whole
ledger. -/
namespace KinicBridge

def blockOf : TransferFromResult → Option Nat
  | .ok index | .error (.shared (.duplicate index)) => some index
  | .error _ => none

theorem blockOf_of_confirmed (read : (classifyTransferFrom result).confirmedBlock = some block) :
    blockOf result = some block := by
  have block_eq : ∀ index duplicate,
      (blockOutcome index duplicate).confirmedBlock = some block → index = block := by
    intro index duplicate confirmed
    unfold blockOutcome natU128 at confirmed
    split at confirmed
    next parsed =>
      split at parsed <;> cases parsed
      split at confirmed <;> cases confirmed <;> rfl
    · cases confirmed
  have amount_none : ∀ value build, (failureAmount value build).confirmedBlock ≠ some block := by
    intro value build
    unfold failureAmount
    split <;> exact nofun
  cases result with
  | ok index => exact congrArg some (block_eq index false read)
  | error error =>
    cases error with
    | insufficientAllowance => exact absurd read (amount_none _ _)
    | shared error =>
      cases error with
      | duplicate index => exact congrArg some (block_eq index true read)
      | badFee | badBurn | insufficientFunds => exact absurd read (amount_none _ _)
      | tooOld | createdInFuture | temporarilyUnavailable => cases read
      | genericError code =>
        simp only [classifyTransferFrom, classifyTransfer] at read
        split at read <;> cases read

theorem blockOf_of_failure (read : classifyTransferFrom result = .definitiveFailure code ∨
    classifyTransferFrom result = .retryableFailure code) : blockOf result = none := by
  have unfailed : ∀ index duplicate, blockOutcome index duplicate ≠ .definitiveFailure code ∧
      blockOutcome index duplicate ≠ .retryableFailure code := by
    intro index duplicate
    unfold blockOutcome
    split
    · split <;> exact ⟨nofun, nofun⟩
    · exact ⟨nofun, nofun⟩
  cases result with
  | ok index => exact (read.elim (unfailed index false).1 (unfailed index false).2).elim
  | error error =>
    cases error with
    | insufficientAllowance => rfl
    | shared error =>
      cases error with
      | duplicate index => exact (read.elim (unfailed index true).1 (unfailed index true).2).elim
      | _ => rfl

theorem LedgerPulls.names_block (pulls : LedgerPulls fee now ledger identity result ledger')
    (named : blockOf result = some index) :
    ∃ tx, ledger'[index]? = some tx ∧ matchesIdentity tx identity = true := by
  cases pulls with
  | accepted answers =>
    cases answers with
    | accepted charged admits carries =>
      cases named
      exact ⟨_, List.getElem?_concat_length, carries⟩
  | shared answers =>
    cases answers with
    | duplicate charged found carries =>
      cases named
      exact ⟨_, found, carries⟩
    | _ => cases named
  | insufficientAllowance => cases named

namespace FundingSubject

theorem account_of_matches (first : accountMatches actual account = true)
    (second : accountMatches actual other = true) : account = other := by
  simp only [accountMatches, Bool.and_eq_true, beq_iff_eq] at first second
  cases account
  cases other
  simp only [Account.mk.injEq]
  exact ⟨first.1.symm.trans second.1, first.2.symm.trans second.2⟩

theorem Owns.eq_of_matches {subject : FundingSubject} (mine : subject.Owns identity)
    (other : subject.Owns identity') (carries : matchesIdentity tx identity = true)
    (carries' : matchesIdentity tx identity' = true) : identity = identity' := by
  unfold matchesIdentity at carries carries'
  split at carries
  · cases carries
  rename_i transfer present
  simp only [present, Bool.and_eq_true, beq_iff_eq] at carries carries'
  obtain ⟨⟨⟨⟨⟨⟨amount, fee⟩, created⟩, _⟩, sender⟩, receiver⟩, _⟩ := carries
  obtain ⟨⟨⟨⟨⟨⟨amount', fee'⟩, created'⟩, _⟩, sender'⟩, receiver'⟩, _⟩ := carries'
  cases identity
  cases identity'
  simp only [LedgerTransferIdentity.mk.injEq]
  exact ⟨mine.operation.trans other.operation.symm,
    Option.some.inj (created.symm.trans created'), mine.memo.trans other.memo.symm,
    Option.some.inj (amount.symm.trans amount'), Option.some.inj (fee.symm.trans fee'),
    account_of_matches sender sender', account_of_matches receiver receiver',
    mine.spender.trans other.spender.symm⟩

theorem Owns.pulled {subject : FundingSubject} (mine : subject.Owns identity)
    (carries : matchesIdentity tx identity = true) : subject.Pulled tx := by
  unfold matchesIdentity at carries
  split at carries
  · cases carries
  rename_i transfer present
  simp only [Bool.and_eq_true, beq_iff_eq] at carries
  obtain ⟨⟨⟨_, memo⟩, _⟩, _⟩ := carries.1
  exact ⟨transfer, present, mine.memo ▸ memo, mine.spender ▸ carries.2⟩

end FundingSubject

section

variable (attempt : DepositFundingAttempt)

def DepositFundingAttempt.idle : Bool :=
  match attempt.state with
  | .prepared | .retryable _ => true
  | .dispatched _ | .reconciling .. => false

def DepositFundingAttempt.isReconciling : Bool :=
  match attempt.state with
  | .reconciling .. => true
  | _ => false

end

namespace FundingWorld

section

variable (subject : FundingSubject) (world : FundingWorld)

def Live (sent : DepositFundingAttempt) : Prop :=
  ∃ row, world.stored subject = some row ∧ row.transfer = sent.transfer ∧
    (row = sent ∨ row.isReconciling = true)

def Gone (identity : LedgerTransferIdentity) : Prop :=
  acceptanceDeadline identity.createdAtTimeNs < world.now ∧
    ∀ row, world.stored subject = some row → row.transfer ≠ identity

def Tended (sent : DepositFundingAttempt) : Prop :=
  world.Live subject sent ∨ world.Deposited subject sent.transfer ∨ world.Gone subject sent.transfer

inductive Outside (subject : FundingSubject) (world : FundingWorld) :
    LedgerTransferIdentity → Prop where
  | idle (found : world.stored subject = some row) (quiet : row.idle = true) :
      Outside subject world row.transfer
  | sent (member : call ∈ world.requests) : Outside subject world call.attempt.transfer
  | refused (member : (call, result) ∈ world.replies) (refuses : blockOf result = none)
      (waits : call ∈ world.waiting) : Outside subject world call.attempt.transfer

def Scanned (ledger : List Transaction)
    (identity : LedgerTransferIdentity) (progress : ReconciliationScanProgress)
    (seen : List Transaction) : Prop :=
  seen <+: ledger ∧ ∃ start events, ScanReaches subject.config.ledgerId
    (.fundingAttempt subject.id) identity start seen progress events

end

structure SavedScan (subject : FundingSubject) (now : Nat) (ledger : List Transaction)
    (begun : ScanStart) (identity : LedgerTransferIdentity)
    (progress : ReconciliationScanProgress) (nextCheckAtNs : Nat) (finalAbsenceScan : Bool) :
    Prop where
  reached : ∃ seen, Scanned subject ledger identity progress seen
  late : finalAbsenceScan = true → acceptanceDeadline identity.createdAtTimeNs < nextCheckAtNs ∧
    (progress = .new (.fundingAttempt subject.id) identity ∨
      ∃ seen, LateScan subject.config.ledgerId (.fundingAttempt subject.id) identity begun now
        seen ledger progress)

structure OpenScan (subject : FundingSubject) (now : Nat) (ledger : List Transaction)
    (scan : FundingScan) : Prop where
  mine : scan.attempt.id = subject.id
  state : ∃ nextCheckAtNs, scan.attempt.state =
    .reconciling scan.progress nextCheckAtNs scan.finalAbsenceScan
  reached : Scanned subject ledger scan.attempt.transfer scan.progress scan.seen
  late : scan.finalAbsenceScan = true → LateScan subject.config.ledgerId
    (.fundingAttempt subject.id) scan.attempt.transfer scan.start now scan.seen ledger
    scan.progress

structure Inv (subject : FundingSubject) (world : FundingWorld) : Prop where
  clock : world.now ≤ Checked.limit 64
  owned : ∀ identity ∈ world.issued, subject.Owns identity
  pulled : ∀ transaction ∈ world.ledger, subject.Pulled transaction →
    ∃ identity ∈ world.issued, matchesIdentity transaction identity = true
  remembered : ∀ identity ∈ world.issued, Accepted world.ledger identity →
    world.Remembered subject identity
  row : ∀ row, world.stored subject = some row →
    subject.Owns row.transfer ∧ world.recorded subject = none
  outside : ∀ identity, world.Outside subject identity → ¬Accepted world.ledger identity
  idle : ∀ row, world.stored subject = some row → row.idle = true →
    ∀ call ∈ world.requests, call.attempt.transfer ≠ row.transfer
  refused : ∀ call result, (call, result) ∈ world.replies → blockOf result = none →
    call ∈ world.waiting → ∀ other ∈ world.requests, other.attempt.transfer ≠ call.attempt.transfer
  sent : ∀ call ∈ world.requests, call.number ≤ world.calls ∧
    call.attempt.transfer ∈ world.issued ∧ world.Tended subject call.attempt
  alone : ∀ call ∈ world.requests, ∀ other ∈ world.requests,
    call.attempt.transfer = other.attempt.transfer → call = other
  waits : ∀ call ∈ world.waiting, call.number ≤ world.calls ∧
    call.attempt.transfer ∈ world.issued ∧ world.Tended subject call.attempt
  dispatched : ∀ call ∈ world.waiting, (∃ time, call.attempt.state = .dispatched time) ∧
    call.attempt.id = subject.id
  waitsAlone : ∀ call ∈ world.waiting, ∀ other ∈ world.waiting,
    call.attempt.transfer = other.attempt.transfer → call = other
  numbered : ∀ reply ∈ world.replies, reply.1.number ≤ world.calls
  named : ∀ call result index, (call, result) ∈ world.replies → blockOf result = some index →
    ∃ transaction, world.ledger[index]? = some transaction ∧
      matchesIdentity transaction call.attempt.transfer = true
  scan : ∀ row progress nextCheckAtNs finalAbsenceScan, world.stored subject = some row →
    row.state = .reconciling progress nextCheckAtNs finalAbsenceScan →
      SavedScan subject world.now world.ledger world.begun row.transfer progress nextCheckAtNs
        finalAbsenceScan
  scans : ∀ scan ∈ world.scans, OpenScan subject world.now world.ledger scan
  held : ∀ record holdId, world.recorded subject = some record →
    record.state = .fundingReconciliationHold holdId → record.transfer ∈ world.ambiguous

variable {world : FundingWorld} {row next : DepositFundingAttempt} {subject : FundingSubject}
  {record : DepositRecord}

theorem inv_initial (initial : world.Initial subject) : world.Inv subject := by
  obtain ⟨clock, none, unrecorded, foreign, ⟨waiting, requests, replies, scans⟩, issued, _⟩ := initial
  constructor
  case clock => exact clock
  case pulled =>
    intro tx member pulled
    exact absurd pulled (foreign tx member)
  case outside =>
    intro identity outside
    cases outside with
    | idle found => simp [none] at found
    | sent member => simp [requests] at member
    | refused member => simp [replies] at member
  case held =>
    intro record holdId found
    cases unrecorded.symm.trans found
  all_goals simp [none, waiting, requests, replies, scans, issued]

theorem Outside.mono {world' : FundingWorld} (outside : world'.Outside subject identity)
    (stored : world'.stored subject = world.stored subject)
    (requests : ∀ call ∈ world'.requests, call ∈ world.requests)
    (replies : ∀ reply ∈ world'.replies, reply ∈ world.replies)
    (waiting : ∀ call ∈ world'.waiting, call ∈ world.waiting) : world.Outside subject identity := by
  cases outside with
  | idle found quiet => exact .idle (stored ▸ found) quiet
  | sent member => exact .sent (requests _ member)
  | refused member refuses waits => exact .refused (replies _ member) refuses (waiting _ waits)

theorem Tended.tick (tended : world.Tended subject sent)
    (later : world.now ≤ time) : Tended subject { world with now := time } sent :=
  tended.imp_right fun settled => settled.imp_right fun gone =>
    ⟨Nat.lt_of_lt_of_le gone.1 later, gone.2⟩

theorem Inv.tick (inv : world.Inv subject) (later : world.now ≤ time)
    (clock : time ≤ Checked.limit 64) : Inv subject { world with now := time } :=
  { inv with
    clock := clock
    outside := fun identity outside => inv.outside identity
      (outside.mono rfl (fun _ => id) (fun _ => id) fun _ => id)
    sent := fun call member => by
      obtain ⟨number, issued, tended⟩ := inv.sent call member
      exact ⟨number, issued, tended.tick later⟩
    waits := fun call member => by
      obtain ⟨number, issued, tended⟩ := inv.waits call member
      exact ⟨number, issued, tended.tick later⟩
    scan := fun row progress next final found state => by
      obtain ⟨reached, late⟩ := inv.scan row progress next final found state
      refine ⟨reached, fun isFinal => ?_⟩
      obtain ⟨waits, fresh | ⟨seen, scan⟩⟩ := late isFinal
      · exact ⟨waits, .inl fresh⟩
      · exact ⟨waits, .inr ⟨seen, scan.tick later⟩⟩
    scans := fun scan member => by
      obtain ⟨mine, state, reached, late⟩ := inv.scans scan member
      exact ⟨mine, state, reached, fun isFinal => (late isFinal).tick later⟩ }

theorem Deposited.grown (deposited : world.Deposited subject identity)
    (growth : world.ledger <+: blocks) :
    Deposited subject { world with ledger := blocks } identity := by
  obtain ⟨record, found, transfer, funded | held⟩ := deposited
  · obtain ⟨block, tx, state, entry, carries⟩ := funded
    exact ⟨record, found, transfer, .inl ⟨block, tx, state, block_kept growth entry, carries⟩⟩
  · exact ⟨record, found, transfer, .inr held⟩

theorem Tended.grown (tended : world.Tended subject sent) (growth : world.ledger <+: blocks) :
    Tended subject { world with ledger := blocks } sent :=
  tended.imp_right fun settled => settled.imp_left fun deposited => deposited.grown growth

theorem Scanned.grown (scanned : Scanned subject before identity progress seen)
    (growth : before <+: after) : Scanned subject after identity progress seen :=
  ⟨scanned.1.trans growth, scanned.2⟩

section

variable (inv : world.Inv subject)

include inv

/-- A new block is no pull of the deposit, or one that the deposit remembers and that was not
known to stay outside. -/
theorem Inv.append (admits : ledgerRule.Admits world.now world.ledger tx)
    (apart : ∀ identity, world.Outside subject identity → matchesIdentity tx identity = false)
    (known : subject.Pulled tx → ∃ identity ∈ world.issued, matchesIdentity tx identity = true)
    (kept : ∀ identity ∈ world.issued, matchesIdentity tx identity = true →
      world.Remembered subject identity) :
    Inv subject { world with ledger := world.ledger ++ [tx] } := by
  have growth : world.ledger <+: world.ledger ++ [tx] := List.prefix_append _ _
  exact { inv with
    pulled := fun entry member pulled => by
      rcases List.mem_append.mp member with old | new
      · exact inv.pulled entry old pulled
      · cases List.mem_singleton.mp new
        exact known pulled
    remembered := fun identity issued accepted => by
      obtain ⟨entry, member, carries⟩ := accepted
      have before : world.Remembered subject identity := by
        rcases List.mem_append.mp member with old | new
        · exact inv.remembered identity issued ⟨entry, old, carries⟩
        · cases List.mem_singleton.mp new
          exact kept identity issued carries
      exact before.imp_right fun deposited => deposited.grown growth
    outside := fun identity outside accepted => by
      have before : world.Outside subject identity :=
        outside.mono rfl (fun _ => id) (fun _ => id) fun _ => id
      obtain ⟨entry, member, carries⟩ := accepted
      rcases List.mem_append.mp member with old | new
      · exact inv.outside identity before ⟨entry, old, carries⟩
      · cases List.mem_singleton.mp new
        rw [apart identity before] at carries
        cases carries
    sent := fun call member => by
      obtain ⟨number, issued, tended⟩ := inv.sent call member
      exact ⟨number, issued, tended.grown growth⟩
    waits := fun call member => by
      obtain ⟨number, issued, tended⟩ := inv.waits call member
      exact ⟨number, issued, tended.grown growth⟩
    named := fun call result index member names => by
      obtain ⟨entry, block, carries⟩ := inv.named call result index member names
      exact ⟨entry, block_kept growth block, carries⟩
    scan := fun row progress next final found state => by
      obtain ⟨⟨seen, reached⟩, late⟩ := inv.scan row progress next final found state
      refine ⟨⟨seen, reached.grown growth⟩, fun isFinal => ?_⟩
      obtain ⟨waits, fresh | ⟨seen, scan⟩⟩ := late isFinal
      · exact ⟨waits, .inl fresh⟩
      · exact ⟨waits, .inr ⟨seen, scan.append admits⟩⟩
    scans := fun scan member => by
      obtain ⟨mine, state, reached, late⟩ := inv.scans scan member
      exact ⟨mine, state, reached.grown growth, fun isFinal => (late isFinal).append admits⟩ }

theorem Inv.ambiguousGrown (more : ∀ identity ∈ world.ambiguous, identity ∈ unclear) :
    Inv subject { world with ambiguous := unclear } := by
  have deposited : ∀ {identity}, world.Deposited subject identity →
      Deposited subject { world with ambiguous := unclear } identity := by
    rintro identity ⟨record, found, transfer, funded | ⟨noted, hold⟩⟩
    · exact ⟨record, found, transfer, .inl funded⟩
    · exact ⟨record, found, transfer, .inr ⟨more identity noted, hold⟩⟩
  have tended : ∀ {sent}, world.Tended subject sent →
      Tended subject { world with ambiguous := unclear } sent :=
    fun before => before.imp_right fun settled => settled.imp_left deposited
  exact { inv with
    remembered := fun identity issued accepted =>
      (inv.remembered identity issued accepted).imp_right deposited
    outside := fun identity outside => inv.outside identity
      (outside.mono rfl (fun _ => id) (fun _ => id) fun _ => id)
    sent := fun call member => by
      obtain ⟨number, issued, before⟩ := inv.sent call member
      exact ⟨number, issued, tended before⟩
    waits := fun call member => by
      obtain ⟨number, issued, before⟩ := inv.waits call member
      exact ⟨number, issued, tended before⟩
    held := fun record holdId found state => more _ (inv.held record holdId found state) }

theorem Inv.narrow (requests : ∀ call ∈ asked, call ∈ world.requests)
    (waiting : ∀ call ∈ awaited, call ∈ world.waiting)
    (scans : ∀ scan ∈ running, scan ∈ world.scans) :
    Inv subject { world with requests := asked, waiting := awaited, scans := running } :=
  { inv with
    outside := fun identity outside => inv.outside identity
      (outside.mono rfl requests (fun _ => id) waiting)
    idle := fun row found quiet call member => inv.idle row found quiet call (requests call member)
    refused := fun call result member refuses waits other arrived =>
      inv.refused call result member refuses (waiting call waits) other (requests other arrived)
    sent := fun call member => inv.sent call (requests call member)
    alone := fun call member other arrived =>
      inv.alone call (requests call member) other (requests other arrived)
    waits := fun call member => inv.waits call (waiting call member)
    dispatched := fun call member => inv.dispatched call (waiting call member)
    waitsAlone := fun call member other arrived =>
      inv.waitsAlone call (waiting call member) other (waiting other arrived)
    scans := fun scan member => inv.scans scan (scans scan member) }

theorem Inv.dropRequest (call : FundingCall) :
    Inv subject { world with requests := world.requests.filter (· ≠ call) } :=
  inv.narrow (fun _ member => (List.mem_filter.mp member).1) (fun _ => id) fun _ => id

theorem Inv.stopWaiting (call : FundingCall) :
    Inv subject { world with waiting := world.waiting.filter (· ≠ call) } :=
  inv.narrow (fun _ => id) (fun _ member => (List.mem_filter.mp member).1) fun _ => id

theorem Inv.reply (known : call.number ≤ world.calls)
    (names : ∀ index, blockOf result = some index → ∃ tx, world.ledger[index]? = some tx ∧
        matchesIdentity tx call.attempt.transfer = true)
    (refusal : blockOf result = none → ¬Accepted world.ledger call.attempt.transfer ∧
      ∀ other ∈ world.requests, other.attempt.transfer ≠ call.attempt.transfer) :
    Inv subject { world with replies := (call, result) :: world.replies } :=
  { inv with
    outside := fun identity outside => by
      cases outside with
      | idle found quiet => exact inv.outside _ (.idle found quiet)
      | sent member => exact inv.outside _ (.sent member)
      | refused member refuses waits =>
        rcases List.mem_cons.mp member with same | member
        · cases same
          exact (refusal refuses).1
        · exact inv.outside _ (.refused member refuses waits)
    refused := fun other answer member refuses waits => by
      rcases List.mem_cons.mp member with same | member
      · cases same
        exact (refusal refuses).2
      · exact inv.refused other answer member refuses waits
    numbered := fun reply member => by
      rcases List.mem_cons.mp member with rfl | member
      · exact known
      · exact inv.numbered reply member
    named := fun other answer index member names' => by
      rcases List.mem_cons.mp member with same | member
      · cases same
        exact names index names'
      · exact inv.named other answer index member names' }

theorem Inv.owns_outside (outside : world.Outside subject identity) : subject.Owns identity := by
  cases outside with
  | idle found => exact (inv.row _ found).1
  | sent member => exact inv.owned _ (inv.sent _ member).2.1
  | refused _ _ waits => exact inv.owned _ (inv.waits _ waits).2.1

theorem Inv.not_outside_dropped (arrived : call ∈ world.requests)
    (outside : Outside subject { world with requests := world.requests.filter (· ≠ call) }
      identity) : identity ≠ call.attempt.transfer := by
  cases outside with
  | idle found quiet => exact (inv.idle _ found quiet call arrived).symm
  | @sent other member =>
    obtain ⟨member, apart⟩ := List.mem_filter.mp member
    intro same
    exact of_decide_eq_true apart (inv.alone other member call arrived same)
  | refused member refuses waits => exact (inv.refused _ _ member refuses waits call arrived).symm

theorem Inv.handled (arrived : call ∈ world.requests)
    (pulls : LedgerPulls world.fee world.now world.ledger call.attempt.transfer result blocks) :
    Inv subject { world with
        ledger := blocks
        requests := world.requests.filter (· ≠ call)
        replies := (call, result) :: world.replies } := by
  obtain ⟨known, issued, tended⟩ := inv.sent call arrived
  have owned := inv.owned _ issued
  have dropped := inv.dropRequest call
  have others : ∀ other ∈ world.requests.filter (· ≠ call),
      other.attempt.transfer ≠ call.attempt.transfer := fun other member =>
    inv.not_outside_dropped arrived (.sent member)
  have names := fun index (named : blockOf result = some index) => pulls.names_block named
  cases pulls with
  | accepted answers =>
    cases answers with
    | @accepted tx charged admits carries =>
      have appended := dropped.append admits
        (fun identity outside => by
          have apart := inv.not_outside_dropped arrived outside
          refine Bool.eq_false_iff.mpr fun same => apart ?_
          exact (dropped.owns_outside outside).eq_of_matches owned same carries)
        (fun _ => ⟨_, issued, carries⟩)
        (fun identity member same => by
          cases (inv.owned identity member).eq_of_matches owned same carries
          rcases tended with ⟨row, found, transfer, _⟩ | deposited | gone
          · exact .inl ⟨row, found, transfer⟩
          · exact .inr deposited
          · rw [not_matches_of_expired admits gone.1] at carries
            cases carries)
      exact appended.reply known names nofun
  | shared answers =>
    cases answers.same_of_error
    exact dropped.reply known names fun _ => ⟨inv.outside _ (.sent arrived), others⟩
  | insufficientAllowance =>
    exact dropped.reply known names fun _ => ⟨inv.outside _ (.sent arrived), others⟩

theorem Inv.rewrite (store : FundingStore) (start : ScanStart)
    (remembered : ∀ identity, world.Remembered subject identity → Accepted world.ledger identity →
        Remembered subject { world with store := store, begun := start } identity)
    (tended : ∀ call, call ∈ world.requests ∨ call ∈ world.waiting →
      world.Tended subject call.attempt →
        Tended subject { world with store := store, begun := start } call.attempt)
    (row : ∀ row, store.attempts.get subject.id = some row → subject.Owns row.transfer ∧
      store.settlement.deposits.get subject.id = none ∧
      (row.idle = true → ¬Accepted world.ledger row.transfer ∧
        ∀ call ∈ world.requests, call.attempt.transfer ≠ row.transfer) ∧
      ∀ progress nextCheckAtNs finalAbsenceScan,
        row.state = .reconciling progress nextCheckAtNs finalAbsenceScan →
          SavedScan subject world.now world.ledger start row.transfer progress nextCheckAtNs
            finalAbsenceScan)
    (held : ∀ record holdId, store.settlement.deposits.get subject.id = some record →
      record.state = .fundingReconciliationHold holdId → record.transfer ∈ world.ambiguous) :
    Inv subject { world with store := store, begun := start } :=
  { inv with
    remembered := fun identity issued accepted =>
      remembered identity (inv.remembered identity issued accepted) accepted
    row := fun other found => ⟨(row other found).1, (row other found).2.1⟩
    outside := fun identity outside => by
      cases outside with
      | idle found quiet => exact ((row _ found).2.2.1 quiet).1
      | sent member => exact inv.outside _ (.sent member)
      | refused member refuses waits => exact inv.outside _ (.refused member refuses waits)
    idle := fun other found quiet => ((row other found).2.2.1 quiet).2
    sent := fun call member => by
      obtain ⟨number, issued, before⟩ := inv.sent call member
      exact ⟨number, issued, tended call (.inl member) before⟩
    waits := fun call member => by
      obtain ⟨number, issued, before⟩ := inv.waits call member
      exact ⟨number, issued, tended call (.inr member) before⟩
    scan := fun other progress next final found => (row other found).2.2.2 progress next final
    held := held }

theorem Inv.elsewhere {written : FundingStore}
    (attempts : written.attempts.get subject.id = world.store.attempts.get subject.id)
    (deposits : written.settlement.deposits.get subject.id =
      world.store.settlement.deposits.get subject.id)
    (holds : ∀ hold, world.store.settlement.holds.get hold.id = some hold →
      hold.request = .depositFunding subject.id →
        written.settlement.holds.get hold.id = some hold) :
    Inv subject { world with store := written } := by
  have deposited : ∀ {identity}, world.Deposited subject identity →
      Deposited subject { world with store := written } identity := by
    rintro identity ⟨record, found, transfer, funded | ⟨noted, holdId, state, hold⟩⟩
    · exact ⟨record, deposits.trans found, transfer, .inl funded⟩
    · exact ⟨record, deposits.trans found, transfer, .inr ⟨noted, holdId, state,
        holds (.opened holdId (.depositFunding subject.id) identity) hold rfl⟩⟩
  refine inv.rewrite written world.begun ?_ ?_ ?_
    fun record holdId found => inv.held record holdId (deposits.symm.trans found)
  · rintro identity (⟨row, found, same⟩ | settled) _
    · exact .inl ⟨row, attempts.trans found, same⟩
    · exact .inr (deposited settled)
  · rintro call _ (⟨row, found, live⟩ | settled | ⟨expired, gone⟩)
    · exact .inl ⟨row, attempts.trans found, live⟩
    · exact .inr (.inl (deposited settled))
    · exact .inr (.inr ⟨expired, fun row found => gone row (attempts.symm.trans found)⟩)
  · intro row found
    have before := attempts.symm.trans found
    refine ⟨(inv.row row before).1, deposits.trans (inv.row row before).2, fun quiet => ?_, ?_⟩
    · exact ⟨inv.outside _ (.idle before quiet), inv.idle row before quiet⟩
    · exact fun progress next final => inv.scan row progress next final before

end

theorem stored_put (attempts : Table DepositFundingAttempt.id) (mine : next.id = subject.id) :
    (attempts.put next).get subject.id = some next := by
  rw [← mine]
  exact Table.get_put_self

theorem Inv.relive (inv : world.Inv subject) (found : world.stored subject = some row)
    (mine : next.id = subject.id) (kept : next.transfer = row.transfer)
    (reads : next.state = .reconciling progress nextCheckAtNs finalAbsenceScan)
    (saved : SavedScan subject world.now world.ledger start row.transfer progress nextCheckAtNs
      finalAbsenceScan) : Inv subject { world with
        store := { world.store with attempts := world.store.attempts.put next }
        begun := start } := by
  have put := stored_put world.store.attempts mine
  have live : next.isReconciling = true := by simp only [DepositFundingAttempt.isReconciling, reads]
  have busy : next.idle = false := by simp only [DepositFundingAttempt.idle, reads]
  refine inv.rewrite _ start ?_ ?_ ?_ inv.held
  · rintro identity (⟨old, stored, same⟩ | settled) _
    · cases found.symm.trans stored
      exact .inl ⟨next, put, kept.trans same⟩
    · exact .inr settled
  · rintro call _ (⟨old, stored, transfer, _⟩ | settled | ⟨expired, gone⟩)
    · cases found.symm.trans stored
      exact .inl ⟨next, put, kept.trans transfer, .inr live⟩
    · exact .inr (.inl settled)
    · refine .inr (.inr ⟨expired, fun other stored => ?_⟩)
      cases put.symm.trans stored
      exact kept ▸ gone row found
  · intro other stored
    cases put.symm.trans stored
    refine ⟨kept ▸ (inv.row row found).1, (inv.row row found).2, fun quiet => ?_, ?_⟩
    · rw [busy] at quiet
      cases quiet
    · intro progress' next' final' state
      cases reads.symm.trans state
      exact kept ▸ saved

theorem stored_remove (attempts : Table DepositFundingAttempt.id) (mine : row.id = subject.id) :
    (attempts.remove row.id).get subject.id = none := by
  rw [mine]
  exact Table.get_remove_self

/-- An attempt may go away once its pull is not in the ledger and none of its calls can
bring it there. -/
theorem Inv.removed (inv : world.Inv subject) (found : world.stored subject = some row)
    (mine : row.id = subject.id) (unpaid : ¬Accepted world.ledger row.transfer)
    (late : ∀ call, call ∈ world.requests ∨ call ∈ world.waiting →
      call.attempt.transfer = row.transfer →
        acceptanceDeadline row.transfer.createdAtTimeNs < world.now) : Inv subject { world with
        store := { world.store with attempts := world.store.attempts.remove row.id } } := by
  have none := stored_remove world.store.attempts mine
  refine inv.rewrite _ world.begun ?_ ?_ ?_ inv.held
  · rintro identity (⟨old, stored, same⟩ | settled) accepted
    · cases found.symm.trans stored
      exact absurd (same ▸ accepted) unpaid
    · exact .inr settled
  · rintro call out (⟨old, stored, transfer, _⟩ | settled | ⟨expired, _⟩)
    · cases found.symm.trans stored
      refine .inr (.inr ⟨transfer ▸ late call out transfer.symm, fun other stored => ?_⟩)
      cases none.symm.trans stored
    · exact .inr (.inl settled)
    · refine .inr (.inr ⟨expired, fun other stored => ?_⟩)
      cases none.symm.trans stored
  · intro other stored
    cases none.symm.trans stored

theorem deposited_of_promoted (mine : row.id = subject.id) (same : record.id = row.id)
    (transfer : record.transfer = row.transfer)
    (promoted : world.store.Promoted record row hold written)
    (stands : (∃ block tx, record.state = .escrowedUnquoted block ∧ world.ledger[block]? = some tx ∧
        matchesIdentity tx row.transfer = true) ∨ row.transfer ∈ world.ambiguous ∧ ∃ holdId,
        record.state = .fundingReconciliationHold holdId ∧
        hold = some (.opened holdId (.depositFunding record.id) record.transfer)) :
    Deposited subject { world with store := written } row.transfer := by
  have recorded : written.settlement.deposits.get subject.id = some record := by
    rw [promoted.deposits, ← mine, ← same]
    exact Table.get_put_self
  refine ⟨record, recorded, transfer, stands.imp_right fun ⟨noted, holdId, state, held⟩ => ?_⟩
  refine ⟨noted, holdId, state, ?_⟩
  simp only [promoted.holds, held, FundingStore.putHold, same, mine, transfer]
  exact Table.get_put_self

theorem Inv.promoted (inv : world.Inv subject) (mine : row.id = subject.id)
    (promoted : world.store.Promoted record row hold written)
    (deposited : Deposited subject { world with store := written } row.transfer) :
    Inv subject { world with store := written } := by
  have found : world.stored subject = some row := by
    rw [stored, ← mine]
    exact promoted.current
  have none : written.attempts.get subject.id = none := by
    rw [promoted.attempts]
    exact stored_remove world.store.attempts mine
  have unsettled : ∀ {identity}, ¬world.Deposited subject identity := by
    rintro identity ⟨other, stored, _⟩
    cases (inv.row row found).2.symm.trans stored
  refine inv.rewrite written world.begun ?_ ?_ ?_ ?_
  · rintro identity (⟨old, stored, same⟩ | settled) _
    · cases found.symm.trans stored
      exact .inr (same ▸ deposited)
    · exact absurd settled unsettled
  · rintro call _ (⟨old, stored, same, _⟩ | settled | ⟨expired, _⟩)
    · cases found.symm.trans stored
      exact .inr (.inl (same ▸ deposited))
    · exact absurd settled unsettled
    · refine .inr (.inr ⟨expired, fun other stored => ?_⟩)
      cases none.symm.trans stored
  · intro other stored
    cases none.symm.trans stored
  · intro other holdId recorded state
    obtain ⟨record, stored, transfer, ⟨_, _, funded, _⟩ | ⟨noted, _⟩⟩ := deposited <;>
      cases stored.symm.trans recorded
    · cases funded.symm.trans state
    · exact transfer ▸ noted

theorem Inv.putUncalled (inv : world.Inv subject)
    (same : ∀ row, world.stored subject = some row → row.transfer = next.transfer)
    (mine : next.id = subject.id) (owned : subject.Owns next.transfer)
    (unrecorded : world.recorded subject = none) (unpaid : ¬Accepted world.ledger next.transfer)
    (apart : ∀ call, call ∈ world.requests ∨ call ∈ world.waiting →
      call.attempt.transfer ≠ next.transfer) (unscanned : next.isReconciling = false) : Inv subject
      { world with store := { world.store with attempts := world.store.attempts.put next } } := by
  have put := stored_put world.store.attempts mine
  refine inv.rewrite _ world.begun ?_ ?_ ?_ inv.held
  · rintro identity (⟨old, stored, transfer⟩ | settled) _
    · exact .inl ⟨next, put, (same old stored).symm.trans transfer⟩
    · exact .inr settled
  · rintro call out (⟨old, stored, transfer, _⟩ | settled | ⟨expired, _⟩)
    · exact absurd (transfer.symm.trans (same old stored)) (apart call out)
    · exact .inr (.inl settled)
    · refine .inr (.inr ⟨expired, fun other stored => ?_⟩)
      cases put.symm.trans stored
      exact (apart call out).symm
  · intro other stored
    cases put.symm.trans stored
    refine ⟨owned, unrecorded, fun _ => ⟨unpaid, fun call member => apart call (.inl member)⟩, ?_⟩
    intro progress next final state
    simp [DepositFundingAttempt.isReconciling, state] at unscanned

theorem Inv.idle_unawaited
    (inv : world.Inv subject) (found : world.stored subject = some row) (quiet : row.idle = true)
    (waits : call ∈ world.waiting) : call.attempt.transfer ≠ row.transfer := by
  rcases (inv.waits call waits).2.2 with ⟨old, stored, _, same | live⟩ | settled | ⟨_, gone⟩
  · cases found.symm.trans stored
    obtain ⟨time, state⟩ := (inv.dispatched call waits).1
    simp [DepositFundingAttempt.idle, same, state] at quiet
  · cases found.symm.trans stored
    intro _
    cases state : row.state <;>
      simp [DepositFundingAttempt.idle, DepositFundingAttempt.isReconciling, state] at quiet live
  · obtain ⟨record, recorded, _⟩ := settled
    cases (inv.row row found).2.symm.trans recorded
  · exact (gone row found).symm

end FundingWorld

end KinicBridge
