import KinicBridge.Ledger.ScanSound

/-! Scans finish. Against canisters that answer every call, each call of `reconcileStep` ends the
scan or saves a phase with less left to read. -/
namespace KinicBridge

open Checked Nat Option Scan

namespace Scan

inductive Tiling (end_ : Nat) : Nat → List (Nat × Nat) → Prop where
  | nil : Tiling end_ end_ []
  | cons (grows : cursor < next) (rest : Tiling end_ next ranges) :
      Tiling end_ cursor ((cursor, next) :: ranges)

end Scan

def GetTransactionsResponse.ranges (response : GetTransactionsResponse) : List (Nat × Nat) :=
  (if response.transactions.isEmpty then []
    else [(response.firstIndex, response.firstIndex + response.transactions.length)]) ++
    response.archivedTransactions.map fun archived =>
      (archived.start, archived.start + archived.length)

/-- What a scan is to read: the blocks of the ledger when it starts, how many archive ranges a
page may name, and the history of each account, newest first, to its last entry during the
scan. Both may grow meanwhile. Indices fit the numbers the canister reads. -/
structure ScanService where
  blocks : List Transaction
  archiveRanges : Nat
  history : Account → List TransactionWithId
  representable : blocks.length ≤ limit 128
  known : ∀ account, ∀ entry ∈ history account, entry.id ≤ limit 128
  descending : ∀ account, (history account).Pairwise fun newer older => older.id < newer.id

namespace ScanService

variable (service : ScanService)

def older (account : Account) (start : Option Nat) : List TransactionWithId :=
  (service.history account).filter fun entry => start.all (entry.id < ·)

/-- A page shows its live blocks and says where the others are; together they are the blocks
asked for, in whatever order and however split. The page at zero is the first of a scan, so
its length is that of the ledger the scan starts on; later ones may be longer. -/
structure AnswersPage (service : ScanService) (start length : Nat)
    (response : GetTransactionsResponse) : Prop where
  opening : start = 0 → response.logLength = service.blocks.length
  grown : service.blocks.length ≤ response.logLength
  logLength : response.logLength ≤ limit 128
  firstIndex : response.firstIndex ≤ limit 128
  live : ∀ (k : Nat) transaction, response.transactions[k]? = some transaction →
    response.firstIndex + k < service.blocks.length →
    service.blocks[response.firstIndex + k]? = some transaction
  few : response.archivedTransactions.length ≤ service.archiveRanges
  callbacks : ∀ archived ∈ response.archivedTransactions,
    archived.canisterId.length ≤ 29 ∧ archived.method.utf8ByteSize ≤ 128
  split : ∃ ranges, response.ranges.Perm ranges ∧
    Tiling (max start (min (start + length) response.logLength)) start ranges

/-- An index page is the newest part of the history so far below the cursor, and not empty
unless that is. -/
structure AnswersIndex (service : ScanService) (account : Account) (start : Option Nat)
    (maxResults : Nat) (history : List TransactionWithId) (result : IndexTransactions) :
    Prop where
  grown : history <:+ service.history account
  newest : result.transactions <+: history.filter fun entry => start.all (entry.id < ·)
  some_ : 0 < maxResults → (history.filter fun entry => start.all (entry.id < ·)) ≠ [] →
    result.transactions ≠ []
  atMost : result.transactions.length ≤ maxResults
  oldest : result.oldestTxId = history.getLast?.map (·.id)

variable (ledgerId : List UInt8)

/-- The index serves this ledger and has read the blocks the scan covers. -/
def Answers : (query : ScanQuery) → ScanAnswer query → Prop
  | .getTransactions start length, (answer : Option GetTransactionsResponse) =>
    ∃ response, answer = some response ∧ service.AnswersPage start length response
  | .archive _ _ start length, (answer : Option (List Transaction)) =>
    start + length ≤ service.blocks.length → answer = some ((service.blocks.drop start).take length)
  | .indexLedgerId, (answer : Option (List UInt8)) => answer = some ledgerId
  | .indexStatus, (answer : Option Nat) => ∃ synced, answer = some synced ∧
      service.blocks.length ≤ synced ∧ synced ≤ limit 128
  | .getAccountTransactions account start maxResults, (answer : Option IndexTransactions) =>
    ∃ history result, answer = some result ∧
      service.AnswersIndex account start maxResults history result

/-- The canisters answer, each time as they like within what is correct. -/
def environment : Environment Unit ScanQuery ScanAnswer where
  moves _ _ := True
  answers _ := service.Answers ledgerId

end ScanService

namespace Scan

theorem Tiling.le (tiling : Tiling end_ cursor ranges) : cursor ≤ end_ := by
  induction tiling with
  | nil => exact le_refl _
  | cons grows _ ih => omega

theorem Tiling.mem (tiling : Tiling end_ cursor ranges) (member : range ∈ ranges) :
    cursor ≤ range.1 ∧ range.1 < range.2 ∧ range.2 ≤ end_ := by
  induction tiling with
  | nil => cases member
  | cons grows rest ih =>
    rcases List.mem_cons.mp member with rfl | later
    · exact ⟨le_refl _, grows, rest.le⟩
    · have within := ih later
      omega

theorem Tiling.tiles (tiling : Tiling end_ cursor ranges) : tiles end_ cursor ranges = true := by
  induction tiling with
  | nil => simp [Scan.tiles]
  | cons grows rest ih =>
    have below := rest.le
    rw [Scan.tiles, if_neg (by omega)]
    exact ih

theorem Tiling.exactCoverage (tiling : Tiling end_ start ranges) :
    exactCoverage start end_ ranges = true := by
  unfold Scan.exactCoverage
  split
  next empty =>
    cases tiling with
    | nil => rfl
    | cons grows rest =>
      have below := rest.le
      omega
  · exact tiling.tiles

theorem Tiling.sorted (tiling : Tiling end_ cursor ranges) :
    ranges.Pairwise fun a b => rangeLe a b = true := by
  induction tiling with
  | nil => exact .nil
  | cons grows rest ih =>
    refine List.pairwise_cons.mpr ⟨fun range member => ?_, ih⟩
    have after := (rest.mem member).1
    simp [rangeLe, lt_of_lt_of_le grows after]

theorem rangeLe_iff {a b : Nat × Nat} : rangeLe a b = true ↔ a.1 < b.1 ∨ a.1 = b.1 ∧ a.2 ≤ b.2 := by
  simp [rangeLe]

/-- Sorting puts the ranges of a tiling in their order. -/
theorem Tiling.sort (tiling : Tiling end_ start ranges) (perm : List.Perm coverage ranges) :
    coverage.insertionSort (fun a b => rangeLe a b) = ranges := by
  have trans : IsTrans (Nat × Nat) fun a b => rangeLe a b = true :=
    ⟨fun a b c first second => by rw [rangeLe_iff] at *; omega⟩
  have total : Std.Total fun a b : Nat × Nat => rangeLe a b = true :=
    ⟨fun a b => by rw [rangeLe_iff, rangeLe_iff]; omega⟩
  have sorted := List.pairwise_insertionSort (fun a b : Nat × Nat => rangeLe a b = true) coverage
  refine ((List.perm_insertionSort _ coverage).trans perm).eq_of_pairwise ?_ sorted tiling.sorted
  intro a b _ _ first second
  rw [rangeLe_iff] at first second
  ext <;> omega

theorem mapM_archiveRange {archived : List ArchivedTransactions}
    (accepted : ∀ entry ∈ archived, entry.start + entry.length ≤ limit 128 ∧
      0 < entry.length ∧ entry.method.utf8ByteSize ≤ 128) :
    archived.mapM archiveRange = some (archived.map fun entry =>
      ⟨entry.canisterId, entry.method, entry.start, entry.length⟩) := by
  induction archived with
  | nil => rfl
  | cons entry rest ih =>
    obtain ⟨bounded, nonempty, short⟩ := accepted entry List.mem_cons_self
    have read : archiveRange entry =
        some ⟨entry.canisterId, entry.method, entry.start, entry.length⟩ := by
      have start : natU128 entry.start = some entry.start := if_pos (by omega)
      have length : natU128 entry.length = some entry.length := if_pos (by omega)
      have added : add 128 entry.start entry.length = some (entry.start + entry.length) :=
        if_pos bounded
      simp only [archiveRange, start, length, added, bind_eq_bind, bind_some]
      rw [if_neg (by omega)]
      rfl
    rw [List.mapM_cons, read, ih fun other member => accepted other (List.mem_cons_of_mem _ member)]
    rfl

end Scan

namespace ScanService

variable {service : ScanService}

structure Readable (service : ScanService) (page : ReconciliationLedgerPage) : Prop where
  ends : page.end_ ≤ service.blocks.length
  few : page.archives.length ≤ service.archiveRanges
  archives : ∀ archive ∈ page.archives, archive.canisterId.length ≤ 29 ∧
    archive.start + archive.length ≤ service.blocks.length

variable {response : GetTransactionsResponse}

theorem AnswersPage.within
    (answers : service.AnswersPage start length response) (member : range ∈ response.ranges) :
    range.1 < range.2 ∧ range.2 ≤ max start (min (start + length) response.logLength) := by
  obtain ⟨ranges, perm, tiling⟩ := answers.split
  exact (tiling.mem (perm.mem_iff.mp member)).2

theorem AnswersPage.readPage (answers : service.AnswersPage start length response)
    (ends : requestedEnd = max start (min (start + length) response.logLength))
    (below : requestedEnd ≤ service.blocks.length) :
    ∃ page, Scan.readPage start requestedEnd response.firstIndex response = some page ∧
      page.end_ = requestedEnd ∧ page.nextArchive = 0 ∧ service.Readable page := by
  have fits := service.representable
  have archived (entry : ArchivedTransactions) (member : entry ∈ response.archivedTransactions) :
      0 < entry.length ∧ entry.start + entry.length ≤ service.blocks.length := by
    have within := answers.within
      (List.mem_append_right _ (List.mem_map_of_mem (f := fun archived : ArchivedTransactions =>
        (archived.start, archived.start + archived.length)) member))
    dsimp only at within
    omega
  have live : liveRange response.firstIndex response.transactions =
      some (if response.transactions.isEmpty then []
        else [(response.firstIndex, response.firstIndex + response.transactions.length)]) := by
    unfold liveRange
    split
    · rfl
    next shown =>
      have within := answers.within
        (List.mem_append_left _ (by rw [if_neg shown]; exact List.mem_singleton.mpr rfl))
      rw [← ends] at within
      rw [add, if_pos ((within.2.trans below).trans fits)]
      rfl
  have read := mapM_archiveRange fun entry member =>
    ⟨(archived entry member).2.trans fits, (archived entry member).1,
      (answers.callbacks entry member).2⟩
  obtain ⟨ranges, perm, tiling⟩ := answers.split
  rw [← ends] at tiling
  have covered : Scan.exactCoverage start requestedEnd
      (response.ranges.insertionSort fun a b => rangeLe a b) = true := by
    rw [tiling.sort perm]
    exact tiling.exactCoverage
  simp only [Scan.readPage, live, read, bind_eq_bind, bind_some, List.map_map, Function.comp_def]
  refine ⟨_, if_pos covered, rfl, rfl, below, ?_, fun archive member => ?_⟩
  · dsimp only
    rw [List.length_insertionSort, List.length_map]
    exact answers.few
  · obtain ⟨entry, listed, rfl⟩ := List.mem_map.mp ((List.mem_insertionSort _).mp member)
    exact ⟨(answers.callbacks entry listed).1, (archived entry listed).2⟩

def pagesLeft (blocks : Nat) : Nat := (blocks + 999) / pageSize

section

variable (service : ScanService) (account : Account)

def left : ReconciliationScanPhase → Nat
  | .ledger _ none _ =>
    pagesLeft service.blocks.length * (service.archiveRanges + 1) + service.archiveRanges +
      (service.history account).length + 4
  | .ledger nextBlock (some tip) none =>
    pagesLeft (tip - nextBlock) * (service.archiveRanges + 1) + (service.history account).length + 3
  | .ledger _ (some tip) (some page) =>
    pagesLeft (tip - page.end_) * (service.archiveRanges + 1) +
      (page.archives.length - page.nextArchive) + (service.history account).length + 3
  | .index _ none nextStart => (service.older account nextStart).length + 2
  | .index _ (some _) nextStart => (service.older account nextStart).length + 1

def Within : ReconciliationScanPhase → Prop
  | .ledger nextBlock none pendingPage => nextBlock = 0 ∧ pendingPage = none
  | .ledger nextBlock (some tip) pendingPage => tip = service.blocks.length ∧
      nextBlock ≤ tip ∧ ∀ page, pendingPage = some page → service.Readable page
  | .index ledgerWatermark _ _ => ledgerWatermark = service.blocks.length

def Advances (transfer : LedgerTransferIdentity) (bound : Nat) : ReconciliationOutcome → Prop
  | .succeeded _ | .absent .. => True
  | .noProgress _ => False
  | .progress saved => saved.transfer = transfer ∧ service.Within saved.phase ∧
      service.left transfer.from_ saved.phase < bound

def Room (bound budget : Nat) (phase : ReconciliationScanPhase) : Prop :=
  service.left account phase < bound ∨ service.left account phase = bound ∧ 0 < budget

theorem older_le (start : Option Nat) :
    (service.older account start).length ≤ (service.history account).length :=
  List.length_filter_le _ _

end

theorem older_lt {entry : TransactionWithId} (shown : entry ∈ service.older account start) :
    (service.older account (some entry.id)).length < (service.older account start).length := by
  have below : start.all (entry.id < ·) = true := by
    simpa [older] using (List.mem_filter.mp shown).2
  have same : service.older account (some entry.id) =
      (service.older account start).filter fun other => other.id < entry.id := by
    simp only [older, List.filter_filter]
    refine List.filter_congr fun other _ => ?_
    cases start with
    | none => simp
    | some start =>
      simp only [all_some, decide_eq_true_eq] at below
      simp only [all_some]
      by_cases lower : other.id < entry.id
      · simp [lower, lower.trans below]
      · simp [lower]
  rw [same]
  exact List.length_filter_lt_length_iff_exists.mpr ⟨entry, shown, by simp⟩

theorem pagesLeft_mono {few many : Nat} (le : few ≤ many) : pagesLeft few ≤ pagesLeft many := by
  simp only [pagesLeft, pageSize]
  omega

theorem pagesLeft_next (more : nextBlock < tip) :
    pagesLeft (tip - min tip (nextBlock + pageSize)) + 1 = pagesLeft (tip - nextBlock) := by
  simp only [pagesLeft, pageSize]
  omega

theorem indexPageBoundary_of_older (below : nextStart.all (last < ·) = true)
    (oldest : Option Nat) : indexPageBoundary nextStart last oldest = .exhausted ∨
      indexPageBoundary nextStart last oldest = .continue_ last := by
  unfold indexPageBoundary
  split
  · exact .inl rfl
  split
  next stalled =>
    rw [stalled] at below
    simp at below
  · exact .inr rfl

def Forward (service : ScanService) (ledgerId : List UInt8) (transfer : LedgerTransferIdentity)
    (bound : Nat) (program : ScanProgram) : Prop :=
  ∀ events, program.Holds (service.environment ledgerId)
    (fun _ _ outcome => service.Advances transfer bound outcome) () events

section Calls

variable {ledgerId : List UInt8} {progress : ReconciliationScanProgress}

theorem inspect_forward (otherwise : service.Forward ledgerId progress.transfer bound rest)
    (start : Nat) (transactions : List Transaction) :
    service.Forward ledgerId progress.transfer bound
      (inspect progress.transfer rest start transactions) := by
  induction transactions generalizing start with
  | nil => exact otherwise
  | cons transaction others ih =>
    intro events
    simp only [inspect, Dialogue.Holds]
    split
    · trivial
    · exact ih _ _

theorem indexPages_forward {nextStart : Option Nat} (budget : Nat)
    (room : service.Room progress.transfer.from_ bound budget
      (.index service.blocks.length (some indexWatermark) nextStart)) :
    service.Forward ledgerId progress.transfer bound
      (indexPages progress service.blocks.length indexWatermark budget nextStart) := by
  induction budget generalizing nextStart with
  | zero =>
    intro events
    exact ⟨rfl, rfl, room.resolve_right fun spent => lt_irrefl 0 spent.2⟩
  | succ budget ih =>
    intro events asked _ answer answered
    obtain ⟨history, result, rfl, answers⟩ := answered
    have known (entry : TransactionWithId) (shown : entry ∈ result.transactions) :
        entry ∈ service.older progress.transfer.from_ nextStart ∧
          natU128 entry.id = some entry.id := by
      obtain ⟨member, below⟩ := List.mem_filter.mp (answers.newest.subset shown)
      have member := answers.grown.subset member
      exact ⟨List.mem_filter.mpr ⟨member, below⟩, if_pos (service.known _ entry member)⟩
    dsimp only
    split
    next found match_ =>
      rw [(known found (List.mem_of_find?_eq_some match_)).2]
      trivial
    split
    · trivial
    rename_i last read
    obtain ⟨entry, ends, parsed⟩ := bind_eq_some_iff.mp read
    obtain ⟨member, same⟩ := known entry (List.mem_of_getLast? ends)
    cases same.symm.trans parsed
    have shrinks := older_lt member
    rcases indexPageBoundary_of_older (List.mem_filter.mp member).2
        (result.oldestTxId.bind natU128) with boundary | boundary <;> rw [boundary]
    · trivial
    · refine ih (.inl ?_) events
      simp only [Room, left] at room ⊢
      omega

theorem reconcileIndex_forward {indexWatermark nextStart : Option Nat} (budget : Nat)
    (room : service.Room progress.transfer.from_ bound budget
      (.index service.blocks.length indexWatermark nextStart))
    (handshake : indexWatermark = none → budget < 2 → service.left progress.transfer.from_
        (.index service.blocks.length indexWatermark nextStart) < bound) :
    service.Forward ledgerId progress.transfer bound
      (reconcileIndex ledgerId progress service.blocks.length indexWatermark nextStart budget) := by
  unfold reconcileIndex
  split
  · exact indexPages_forward budget room
  split
  next short =>
    exact fun events => ⟨rfl, rfl, handshake rfl short⟩
  intro events asked _ answer answered
  cases answered
  dsimp only
  split
  · contradiction
  intro asked _ answer answered
  obtain ⟨synced, rfl, indexed, representable⟩ := answered
  have observed : (some synced).bind natU128 = some synced := if_pos representable
  dsimp only
  rw [observed]
  dsimp only
  rw [if_neg (not_lt.mpr indexed)]
  refine indexPages_forward _ ?_ events
  simp only [Room, left] at room ⊢
  omega

theorem requestedEnd_eq (service : ScanService) (grown : service.blocks.length ≤ logLength)
    (tip : ledgerTip = none ∧ nextBlock = 0 ∧ logLength = service.blocks.length ∨
      ledgerTip = some service.blocks.length ∧ nextBlock ≤ service.blocks.length) :
    min service.blocks.length (saturatingAdd 128 nextBlock pageSize) =
      min service.blocks.length (nextBlock + pageSize) ∧
    max nextBlock (min (nextBlock + ledgerPageLength nextBlock ledgerTip pageSize) logLength) =
      min service.blocks.length (nextBlock + pageSize) := by
  have fits := service.representable
  unfold saturatingAdd
  generalize limit 128 = limit at fits ⊢
  rcases tip with ⟨rfl, rfl, rfl⟩ | ⟨rfl, below⟩
  · simp only [ledgerPageLength, map_none, getD_none]
    omega
  · simp only [ledgerPageLength, map_some, getD_some]
    omega

theorem examinePage_forward (tip : ledgerTip = none ∧ nextBlock = 0 ∨
      ledgerTip = some service.blocks.length ∧ nextBlock ≤ service.blocks.length)
    (answers : service.AnswersPage nextBlock (ledgerPageLength nextBlock ledgerTip pageSize)
      response) (goesOn : ∀ page, page.end_ = min service.blocks.length (nextBlock + pageSize) →
      page.nextArchive = 0 → service.Readable page →
      service.Forward ledgerId progress.transfer bound (goOn service.blocks.length page)) :
    service.Forward ledgerId progress.transfer bound
      (examinePage progress nextBlock ledgerTip response goOn) := by
  have logLength : natU128 response.logLength = some response.logLength :=
    if_pos answers.logLength
  have firstIndex : natU128 response.firstIndex = some response.firstIndex :=
    if_pos answers.firstIndex
  have fixed : ledgerTip.getD response.logLength = service.blocks.length := by
    rcases tip with ⟨rfl, start⟩ | ⟨rfl, _⟩
    · exact answers.opening start
    · rfl
  obtain ⟨ends, asked⟩ := requestedEnd_eq service answers.grown
    (tip.imp_left fun ⟨open_, start⟩ => ⟨open_, start, answers.opening start⟩)
  obtain ⟨page, read, ended, unread, readable⟩ :=
    answers.readPage (ends.trans asked.symm) (min_le_left _ _)
  simp only [examinePage, logLength, firstIndex, fixed, not_lt.mpr answers.grown, if_false, read]
  intro events
  exact inspect_forward (goesOn page (ended.trans ends) unread readable) _ _ _

theorem left_read {pendingPage : Option ReconciliationLedgerPage} (account : Account)
    (within : service.Within (.ledger nextBlock ledgerTip pendingPage))
    (read : unreadArchive pendingPage = none) :
    service.Within (.ledger ((pendingPage.map (·.end_)).getD nextBlock) ledgerTip none) ∧
      service.left account (.ledger ((pendingPage.map (·.end_)).getD nextBlock) ledgerTip none) =
        service.left account (.ledger nextBlock ledgerTip pendingPage) := by
  cases pendingPage with
  | none =>
    refine ⟨?_, rfl⟩
    cases ledgerTip <;> exact within
  | some page =>
    cases ledgerTip with
    | none => cases within.2
    | some tip =>
      obtain ⟨rfl, _, readable⟩ := within
      have ended : page.archives[page.nextArchive]? = none := by
        simpa [unreadArchive] using read
      have last := List.getElem?_eq_none_iff.mp ended
      refine ⟨⟨rfl, (readable page rfl).ends, by rintro _ ⟨⟩⟩, ?_⟩
      simp only [left, map_some, getD_some]
      omega

theorem archive_forward {page : ReconciliationLedgerPage} {archive : ReconciliationArchiveRange}
    (readable : service.Readable page) (found : page.archives[page.nextArchive]? = some archive)
    (goesOn : service.Forward ledgerId progress.transfer bound next) :
    service.Forward ledgerId progress.transfer bound
      (if 29 < archive.canisterId.length then ledgerProgress progress nextBlock ledgerTip (some page)
      else .ask (.archive archive.canisterId archive.method archive.start archive.length) fun
        | none => ledgerProgress progress nextBlock ledgerTip (some page) | some transactions =>
          if transactions.length ≠ archive.length then
            ledgerProgress progress nextBlock ledgerTip (some page)
          else inspect progress.transfer next archive.start transactions) := by
  obtain ⟨valid, within⟩ := readable.archives archive (List.mem_of_getElem? found)
  rw [if_neg (not_lt.mpr valid)]
  intro events asked _ answer answered
  cases answered within
  have full : ((service.blocks.drop archive.start).take archive.length).length =
      archive.length := by
    rw [List.length_take, List.length_drop]
    omega
  dsimp only
  rw [if_neg (not_not.mpr full)]
  exact inspect_forward goesOn _ _ _

theorem handover_forward (budget : Nat)
    (complete : ledgerComplete ledgerTip nextBlock = some ledgerWatermark)
    (within : service.Within (.ledger nextBlock ledgerTip none))
    (room : service.left progress.transfer.from_ (.ledger nextBlock ledgerTip none) ≤ bound) :
    service.Forward ledgerId progress.transfer bound
      (reconcileIndex ledgerId progress ledgerWatermark none none budget) := by
  obtain ⟨rfl, _⟩ := ledgerComplete_eq_some complete
  obtain ⟨rfl, _⟩ := within
  have history := service.older_le progress.transfer.from_ none
  have fewer : service.left progress.transfer.from_ (.index service.blocks.length none none) <
      bound := by
    simp only [left] at room ⊢
    omega
  exact reconcileIndex_forward budget (.inl fewer) fun _ _ => fewer

theorem nextBlock_lt_tip (more : ledgerComplete (some tip) nextBlock = none) : nextBlock < tip := by
  simp only [ledgerComplete, filter_eq_none_iff] at more
  have open_ := more tip rfl
  simp [Kernel.scanComplete] at open_
  omega

theorem reconcileLedger_forward {pendingPage : Option ReconciliationLedgerPage} (budget : Nat)
    (within : service.Within (.ledger nextBlock ledgerTip pendingPage))
    (room : service.Room progress.transfer.from_ bound budget
      (.ledger nextBlock ledgerTip pendingPage)) : service.Forward ledgerId progress.transfer bound
      (reconcileLedger ledgerId progress budget nextBlock ledgerTip pendingPage) := by
  induction budget generalizing nextBlock ledgerTip pendingPage with
  | zero =>
    have below := room.resolve_right fun spent => lt_irrefl 0 spent.2
    unfold reconcileLedger
    split
    next unread =>
      obtain ⟨rfl, _⟩ := unreadArchive_eq_some unread
      exact fun events => ⟨rfl, within, below⟩
    next read =>
      obtain ⟨within, same⟩ := left_read progress.transfer.from_ within read
      rw [← same] at below
      dsimp only
      split
      · exact handover_forward 0 ‹_› within (le_of_lt below)
      · exact fun events => ⟨rfl, within, below⟩
  | succ budget ih =>
    unfold reconcileLedger
    split
    next archive page unread =>
      obtain ⟨rfl, found⟩ := unreadArchive_eq_some unread
      cases ledgerTip with
      | none => cases within.2
      | some tip =>
        have readable := within.2.2 page rfl
        have unread := (List.getElem?_eq_some_iff.mp found).1
        refine archive_forward readable found (ih ⟨within.1, within.2.1, ?_⟩ (.inl ?_))
        · rintro _ ⟨⟩
          exact ⟨readable.ends, readable.few, readable.archives⟩
        · simp only [Room, left] at room ⊢
          omega
    next read =>
      obtain ⟨within, same⟩ := left_read progress.transfer.from_ within read
      have room : service.left progress.transfer.from_ _ ≤ bound := same.trans_le
        (room.elim le_of_lt fun spent => spent.1.le)
      generalize (pendingPage.map (·.end_)).getD nextBlock = nextBlock at within room ⊢
      dsimp only
      split
      · exact handover_forward _ ‹_› within room
      rename_i more
      intro events asked _ answer answered
      obtain ⟨response, rfl, answers⟩ := answered
      cases ledgerTip with
      | none =>
        obtain ⟨rfl, _⟩ := within
        refine examinePage_forward (.inl ⟨rfl, rfl⟩) answers
          (fun page ends unread readable => ?_) events
        refine ih ⟨rfl, zero_le _, by rintro _ ⟨⟩; exact readable⟩ (.inl ?_)
        have pages := pagesLeft_mono (sub_le service.blocks.length page.end_)
        have archives := mul_le_mul_right (service.archiveRanges + 1) pages
        have few := readable.few
        simp only [left] at room ⊢
        omega
      | some tip =>
        have below := nextBlock_lt_tip more
        obtain ⟨rfl, _⟩ := within
        refine examinePage_forward (.inr ⟨rfl, below.le⟩) answers
          (fun page ends unread readable => ?_) events
        refine ih ⟨rfl, below.le, by rintro _ ⟨⟩; exact readable⟩ (.inl ?_)
        have few := readable.few
        simp only [left, ← pagesLeft_next below, add_mul, ends] at room ⊢
        omega

theorem reconcileStep_forward (within : service.Within progress.phase) :
    service.Forward ledgerId progress.transfer
      (service.left progress.transfer.from_ progress.phase) (reconcileStep ledgerId progress) := by
  intro events
  refine Dialogue.holds_bind (Dialogue.Holds.weaken ((?forward : service.Forward ledgerId
    progress.transfer (service.left progress.transfer.from_ progress.phase) _) events)
      fun _ _ outcome advances => ?_)
  case forward =>
    cases phase : progress.phase with
    | ledger nextBlock ledgerTip pendingPage =>
      rw [phase] at within
      exact reconcileLedger_forward _ within (.inr ⟨rfl, by decide⟩)
    | index ledgerWatermark indexWatermark nextStart =>
      rw [phase] at within
      cases within
      exact reconcileIndex_forward _ (.inr ⟨rfl, by decide⟩) fun _ short => absurd short (by decide)
  cases outcome with
  | progress saved =>
    simp only [Dialogue.Holds, classifyReconciliationProgress]
    split
    next same =>
      obtain ⟨_, _, fewer⟩ := advances
      rw [same] at fewer
      exact absurd fewer (lt_irrefl _)
    · exact advances
  | noProgress saved => exact advances
  | succeeded blockIndex => exact advances
  | absent ledgerWatermark indexWatermark => exact advances

end Calls

end ScanService

def ReconciliationOutcome.final : ReconciliationOutcome → Bool
  | .succeeded _ | .absent .. => true
  | _ => false

def reconcileCalls (ledgerId : List UInt8)
    (respond : Nat → (query : ScanQuery) → ScanAnswer query) :
    Nat → Nat → ReconciliationScanProgress → List ReconciliationOutcome
  | 0, _, _ => []
  | calls + 1, moment, progress =>
    let (moment, outcome) := (reconcileStep ledgerId progress).play respond moment
    match outcome with
    | .progress saved | .noProgress saved =>
      outcome :: reconcileCalls ledgerId respond calls moment saved
    | .succeeded _ | .absent .. => [outcome]

/-- Calls that end in a verdict, all with progress, and no more of them than the bound. -/
structure ScanFinishes (outcomes : List ReconciliationOutcome) (bound : Nat) : Prop where
  ends : ∃ last, outcomes.getLast? = some last ∧ last.final = true
  never : ∀ saved, .noProgress saved ∉ outcomes
  bounded : outcomes.length ≤ bound

namespace ScanFinishes

theorem single {outcome : ReconciliationOutcome} (final : outcome.final = true) :
    ScanFinishes [outcome] 1 := by
  refine ⟨⟨outcome, rfl, final⟩, fun saved member => ?_, le_refl 1⟩
  rw [← List.mem_singleton.mp member] at final
  cases final

theorem cons (rest : ScanFinishes outcomes bound) (moves : ∀ saved, outcome ≠ .noProgress saved) :
    ScanFinishes (outcome :: outcomes) (bound + 1) := by
  obtain ⟨⟨last, ends, final⟩, never, bounded⟩ := rest
  refine ⟨⟨last, ?_, final⟩, fun saved member => ?_, by simpa using bounded⟩
  · rw [List.getLast?_cons, ends]
    rfl
  · rcases List.mem_cons.mp member with same | later
    · exact moves saved same.symm
    · exact never saved later

theorem mono (finishes : ScanFinishes outcomes few) (fewer : few ≤ many) :
    ScanFinishes outcomes many :=
  ⟨finishes.ends, finishes.never, finishes.bounded.trans fewer⟩

end ScanFinishes

def scanCallBound (tip archiveRanges transactions : Nat) : Nat :=
  ScanService.pagesLeft tip * (archiveRanges + 1) + archiveRanges + transactions + 4

namespace ScanService

variable {service : ScanService} {ledgerId : List UInt8}
  {respond : Nat → (query : ScanQuery) → ScanAnswer query}

theorem play_advances
    (correct : ∀ moment query, service.Answers ledgerId query (respond moment query))
    (moment : Nat) (within : service.Within progress.phase) :
    service.Advances progress.transfer (service.left progress.transfer.from_ progress.phase)
      ((reconcileStep ledgerId progress).play respond moment).2 := by
  have ran : ∃ noted, Dialogue.Runs (service.environment ledgerId) ()
      (reconcileStep ledgerId progress) ()
      ((reconcileStep ledgerId progress).play respond moment).2 noted :=
    Dialogue.play_runs _ respond () trivial correct moment
  obtain ⟨noted, runs⟩ := ran
  exact runs.satisfies (reconcileStep_forward within [])

theorem left_pos (service : ScanService) (account : Account) (phase : ReconciliationScanPhase) :
    0 < service.left account phase := by
  unfold left
  split <;> omega

theorem calls_finish
    (correct : ∀ moment query, service.Answers ledgerId query (respond moment query))
    (calls moment : Nat) (within : service.Within progress.phase)
    (enough : service.left progress.transfer.from_ progress.phase ≤ calls) :
    ScanFinishes (reconcileCalls ledgerId respond calls moment progress)
      (service.left progress.transfer.from_ progress.phase) := by
  induction calls generalizing moment progress with
  | zero => exact absurd enough (not_le.mpr (service.left_pos _ _))
  | succ calls ih =>
    have positive := service.left_pos progress.transfer.from_ progress.phase
    have advances := play_advances correct moment within
    unfold reconcileCalls
    generalize (reconcileStep ledgerId progress).play respond moment = played at advances ⊢
    obtain ⟨later, outcome⟩ := played
    cases outcome with
    | progress saved =>
      obtain ⟨same, within, fewer⟩ := advances
      rw [← same] at fewer
      have rest := ih later within (by rw [← same] at enough; omega)
      have moves (other : ReconciliationScanProgress) :
          ReconciliationOutcome.progress saved ≠ .noProgress other := by simp
      exact (rest.cons moves).mono (by rw [← same]; exact fewer)
    | noProgress saved => cases advances
    | succeeded blockIndex => exact (ScanFinishes.single rfl).mono positive
    | absent ledgerWatermark indexWatermark => exact (ScanFinishes.single rfl).mono positive

end ScanService

/-- Repeated calls of a fresh scan reach a verdict, and each of them makes progress. -/
theorem reconciliation_scan_finishes (service : ScanService) (ledgerId : List UInt8)
    (respond : Nat → (query : ScanQuery) → ScanAnswer query)
    (correct : ∀ moment query, service.Answers ledgerId query (respond moment query))
    (target : ReconciliationTarget) (transfer : LedgerTransferIdentity) (calls moment : Nat)
    (enough : scanCallBound service.blocks.length service.archiveRanges
      (service.history transfer.from_).length ≤ calls) :
    ScanFinishes (reconcileCalls ledgerId respond calls moment (.new target transfer))
      (scanCallBound service.blocks.length service.archiveRanges
        (service.history transfer.from_).length) :=
  ScanService.calls_finish correct calls moment ⟨rfl, rfl⟩ enough

namespace ScanService

variable (service : ScanService)

def archivedPage (start length : Nat) : GetTransactionsResponse where
  logLength := service.blocks.length
  firstIndex := 0
  transactions := []
  archivedTransactions :=
    if start < min (start + length) service.blocks.length then
      [⟨[1], "get_transactions", start, min (start + length) service.blocks.length - start⟩]
    else []

variable (ledgerId : List UInt8)

def respondArchived (_moment : Nat) : (query : ScanQuery) → ScanAnswer query
  | .getTransactions start length => some (service.archivedPage start length)
  | .archive _ _ start length => some ((service.blocks.drop start).take length)
  | .indexLedgerId => some ledgerId
  | .indexStatus => some service.blocks.length
  | .getAccountTransactions account start maxResults =>
    some ⟨(service.older account start).take maxResults,
      (service.history account).getLast?.map (·.id)⟩

theorem respondArchived_answers
    (archive : 1 ≤ service.archiveRanges) (moment : Nat) (query : ScanQuery) :
    service.Answers ledgerId query (service.respondArchived ledgerId moment query) := by
  cases query with
  | getTransactions start length =>
    refine ⟨_, rfl, fun _ => rfl, le_refl _, service.representable, zero_le _,
      by simp [archivedPage], ?_, ?_, ?_⟩
    · simp only [archivedPage]
      split
      · exact archive
      · exact zero_le _
    · intro archived listed
      simp only [archivedPage] at listed
      split at listed
      · cases List.mem_singleton.mp listed
        have short : [(1 : UInt8)].length ≤ 29 ∧ "get_transactions".utf8ByteSize ≤ 128 := by decide
        exact short
      · cases listed
    · simp only [archivedPage, GetTransactionsResponse.ranges, List.isEmpty_nil, if_true,
        List.nil_append]
      split
      next more =>
        refine ⟨_, .refl _, ?_⟩
        rw [List.map_singleton, Nat.add_sub_cancel' more.le, max_eq_right more.le]
        exact .cons more .nil
      next done =>
        refine ⟨_, .refl _, ?_⟩
        rw [max_eq_left (not_lt.mp done)]
        exact .nil
  | archive canisterId method start length => exact fun _ => rfl
  | indexLedgerId => rfl
  | indexStatus => exact ⟨_, rfl, le_refl _, service.representable⟩
  | getAccountTransactions account start maxResults =>
    refine ⟨service.history account, _, rfl, List.suffix_rfl, List.take_prefix _ _, ?_,
      List.length_take_le _ _, rfl⟩
    intro positive more empty
    rcases List.take_eq_nil_iff.mp empty with none_ | none_
    · omega
    · exact more none_

def twoBlocks : ScanService where
  blocks := [⟨none⟩, ⟨none⟩]
  archiveRanges := 1
  history _ := [⟨1, ⟨none⟩⟩]
  representable := by decide
  known _ entry member := by
    cases List.mem_singleton.mp member
    decide
  descending _ := List.pairwise_singleton _ _

def soughtTransfer : LedgerTransferIdentity where
  operation := .refundDeposit
  createdAtTimeNs := 0
  memo := 0
  amount := 1
  fee := 0
  from_ := ⟨[9], 0, owner_nine_valid⟩
  to_ := ⟨[1], 0, owner_one_valid⟩
  spender := none

end ScanService

theorem reconciliation_scan_finishes_archived :
    ScanFinishes (reconcileCalls [7] (ScanService.twoBlocks.respondArchived [7]) 8 0
      (.new (.hold 0) ScanService.soughtTransfer)) 8 ∧
    (reconcileCalls [7] (ScanService.twoBlocks.respondArchived [7]) 8 0
      (.new (.hold 0) ScanService.soughtTransfer)).getLast? = some (.absent 2 2) :=
  ⟨reconciliation_scan_finishes ScanService.twoBlocks [7] _
    (ScanService.twoBlocks.respondArchived_answers [7] (by decide)) _ _ 8 0 (by decide),
    by decide +kernel⟩

end KinicBridge
