import KinicBridge.Ledger.Window

/-! Soundness of the scan. Against a ledger that only grows, an absence verdict means that every
block below the tip of the first page was compared, and a success names a matching block. -/
namespace KinicBridge

open Scan

/-- A reply shows real blocks at the positions it claims, and a page reports the length the
ledger has when it answers. Which ranges are live and which archived is left open. -/
def honestAnswer (ledger : List Transaction) : (query : ScanQuery) → ScanAnswer query → Prop
  | .getTransactions .., (answer : Option GetTransactionsResponse) =>
    ∀ response, answer = some response → response.logLength = ledger.length ∧
      ∀ (k : Nat) transaction, response.transactions[k]? = some transaction →
        ledger[response.firstIndex + k]? = some transaction
  | .archive _ _ start _, (answer : Option (List Transaction)) =>
    ∀ transactions, answer = some transactions → ∀ (k : Nat) transaction,
      transactions[k]? = some transaction → ledger[start + k]? = some transaction
  | .indexLedgerId, _ => True
  | .indexStatus, (answer : Option Nat) => ∀ synced, answer = some synced → synced ≤ ledger.length
  | .getAccountTransactions .., (answer : Option IndexTransactions) =>
    ∀ result, answer = some result → ∀ entry ∈ result.transactions,
      ledger[entry.id]? = some entry.transaction

def honestLedger : Environment (List Transaction) ScanQuery ScanAnswer where
  moves before after := before <+: after
  answers := honestAnswer

theorem block_kept {before after : List Transaction} (grown : before <+: after)
    {i : Nat} (block : before[i]? = some tx) : after[i]? = some tx := by
  obtain ⟨rest, rfl⟩ := grown
  have below : i < before.length := (List.getElem?_eq_some_iff.mp block).1
  rw [List.getElem?_append_left below, block]

namespace Scan

section

variable (events : List ScanEvent)

def Compared (i : Nat) : Prop :=
  ∃ transaction, ScanEvent.compared i transaction ∈ events

/-- The history of a scan that has found nothing: the blocks it compared are real and do
not match, and its pages are at least as long as the ledger it started on. -/
structure Clean (start : Nat) (ledger : List Transaction) (transfer : LedgerTransferIdentity)
    (events : List ScanEvent) : Prop where
  started : start ≤ ledger.length
  pages : ∀ logLength, ScanEvent.page logLength ∈ events → start ≤ logLength
  blocks : ∀ i transaction, ScanEvent.compared i transaction ∈ events →
    ledger[i]? = some transaction ∧ matchesIdentity transaction transfer = false

def firstPage : Option Nat :=
  events.findSome? fun
    | .page logLength => some logLength
    | .compared .. => none

def Unread (page : ReconciliationLedgerPage) (i : Nat) : Prop :=
  ∃ (k : Nat) (archive : ReconciliationArchiveRange), page.nextArchive ≤ k ∧
    page.archives[k]? = some archive ∧ archive.start ≤ i ∧ i < archive.start + archive.length

/-- What saved progress stands for: the tip is the first page's, everything below the
cursor has been compared, and so has the pending page outside its unread archives. -/
def Covers : ReconciliationScanPhase → Prop
  | .ledger nextBlock ledgerTip pendingPage => firstPage events = ledgerTip ∧
      (∀ i < nextBlock, Compared events i) ∧
      ∀ page, pendingPage = some page → ∀ i, nextBlock ≤ i → i < page.end_ →
        Compared events i ∨ Unread page i
  | .index ledgerWatermark _ _ => firstPage events = some ledgerWatermark ∧
      ∀ i < ledgerWatermark, Compared events i

end

def Sound (start : Nat) (target : ReconciliationTarget) (transfer : LedgerTransferIdentity)
    (ledger : List Transaction) (events : List ScanEvent) : ReconciliationOutcome → Prop
  | .progress saved | .noProgress saved => saved.target = target ∧ saved.transfer = transfer ∧
      Clean start ledger transfer events ∧ Covers events saved.phase
  | .succeeded blockIndex => ∃ transaction, ledger[blockIndex]? = some transaction ∧
      matchesIdentity transaction transfer = true
  | .absent ledgerWatermark _ => firstPage events = some ledgerWatermark ∧
      (∀ i < ledgerWatermark, Compared events i) ∧ Clean start ledger transfer events

theorem Clean.grown {before after : List Transaction} (clean : Clean start before transfer events)
    (grown : before <+: after) : Clean start after transfer events where
  started := clean.started.trans grown.length_le
  pages := clean.pages
  blocks i tx compared := by
    obtain ⟨block, differs⟩ := clean.blocks i tx compared
    exact ⟨block_kept grown block, differs⟩

@[simp] theorem firstPage_nil : firstPage [] = none := rfl

theorem firstPage_append (left right : List ScanEvent) :
    firstPage (left ++ right) = (firstPage left).or (firstPage right) := by
  simp [firstPage, List.findSome?_append]

theorem mem_of_firstPage (first : firstPage events = some logLength) :
    ScanEvent.page logLength ∈ events := by
  obtain ⟨event, member, found⟩ := List.exists_of_findSome?_eq_some first
  cases event with
  | page read =>
    cases found
    exact member
  | compared index tx => contradiction

theorem Compared.append (compared : Compared left i) (right : List ScanEvent) :
    Compared (left ++ right) i := by
  obtain ⟨tx, member⟩ := compared
  exact ⟨tx, List.mem_append_left right member⟩

def comparisons : Nat → List Transaction → List ScanEvent
  | _, [] => []
  | index, transaction :: rest => .compared index transaction :: comparisons (index + 1) rest

theorem firstPage_comparisons (start : Nat) (transactions : List Transaction) :
    firstPage (comparisons start transactions) = none := by
  induction transactions generalizing start with
  | nil => rfl
  | cons tx rest ih => simpa [comparisons, firstPage] using ih (start + 1)

theorem page_notMem_comparisons : ScanEvent.page logLength ∉ comparisons start transactions := by
  induction transactions generalizing start with
  | nil => simp [comparisons]
  | cons tx rest ih => simp [comparisons, ih]

theorem mem_comparisons : ScanEvent.compared i tx ∈ comparisons start transactions ↔
    ∃ k, i = start + k ∧ transactions[k]? = some tx := by
  induction transactions generalizing start with
  | nil => simp [comparisons]
  | cons first rest ih =>
    rw [comparisons, List.mem_cons, ih]
    constructor
    · rintro (same | ⟨k, rfl, found⟩)
      · cases same
        exact ⟨0, rfl, rfl⟩
      · exact ⟨k + 1, by omega, by simpa using found⟩
    · rintro ⟨k, rfl, found⟩
      cases k with
      | zero => simp_all
      | succ k => exact .inr ⟨k, by omega, by simpa using found⟩

variable {transactions : List Transaction} {response : GetTransactionsResponse}
  {nextStart : Option Nat}

theorem compared_comparisons (start : Nat) (within : k < transactions.length) :
    Compared (comparisons start transactions) (start + k) :=
  ⟨transactions[k], mem_comparisons.mpr ⟨k, rfl, List.getElem?_eq_getElem within⟩⟩

/-- After a full comparison without a match everything read is clean. -/
theorem Clean.compare (clean : Clean start ledger transfer events)
    (real : ∀ (k : Nat) tx, transactions[k]? = some tx → ledger[first + k]? = some tx)
    (differ : ∀ tx ∈ transactions, matchesIdentity tx transfer = false) :
    Clean start ledger transfer (events ++ comparisons first transactions) where
  started := clean.started
  pages logLength read := by
    rcases List.mem_append.mp read with earlier | now
    · exact clean.pages logLength earlier
    · exact absurd now page_notMem_comparisons
  blocks i tx compared := by
    rcases List.mem_append.mp compared with earlier | now
    · exact clean.blocks i tx earlier
    · obtain ⟨k, rfl, found⟩ := mem_comparisons.mp now
      exact ⟨real k tx found, differ tx (List.mem_of_getElem? found)⟩

theorem Clean.page (clean : Clean start ledger transfer events) :
    Clean start ledger transfer (events ++ [.page ledger.length]) where
  started := clean.started
  pages logLength read := by
    rcases List.mem_append.mp read with earlier | now
    · exact clean.pages logLength earlier
    · cases List.mem_singleton.mp now
      exact clean.started
  blocks i tx compared := clean.blocks i tx (by simpa using compared)

theorem inspect_holds (real : ∀ (k : Nat) tx, transactions[k]? = some tx →
      ledger[start + k]? = some tx)
    (otherwise : (∀ tx ∈ transactions, matchesIdentity tx transfer = false) →
      rest.Holds honestLedger (Sound floor target transfer) ledger
        (events ++ comparisons start transactions)) :
    (inspect transfer rest start transactions).Holds honestLedger (Sound floor target transfer) ledger
      events := by
  induction transactions generalizing start events with
  | nil => simpa [inspect, comparisons] using otherwise (by simp)
  | cons first others ih =>
    simp only [inspect, Dialogue.Holds]
    by_cases found : matchesIdentity first transfer = true
    · rw [if_pos found]
      exact ⟨first, by simpa using real 0 first rfl, found⟩
    · rw [if_neg found]
      refine ih (fun k tx member => ?_) fun differ => ?_
      · have := real (k + 1) tx (by simpa using member)
        rwa [show start + 1 + k = start + (k + 1) by omega]
      · have := otherwise (by simpa [found] using differ)
        simpa [comparisons] using this

theorem tiles_covers (tiled : tiles end_ cursor ranges = true) (from_ : cursor ≤ i)
    (below : i < end_) : ∃ range ∈ ranges, range.1 ≤ i ∧ i < range.2 := by
  induction ranges generalizing cursor with
  | nil =>
    simp only [tiles, beq_iff_eq] at tiled
    omega
  | cons range rest ih =>
    obtain ⟨rangeStart, rangeEnd⟩ := range
    simp only [tiles] at tiled
    split at tiled
    · contradiction
    next fits =>
      simp only [not_or, not_not, not_le, not_lt] at fits
      by_cases inside : i < rangeEnd
      · exact ⟨_, List.mem_cons_self, by simp only; omega, inside⟩
      · obtain ⟨range, member, within⟩ := ih tiled (by omega)
        exact ⟨range, List.mem_cons_of_mem _ member, within⟩

theorem exactCoverage_covers (covered : exactCoverage start end_ ranges = true) (from_ : start ≤ i)
    (below : i < end_) : ∃ range ∈ ranges, range.1 ≤ i ∧ i < range.2 := by
  unfold exactCoverage at covered
  split at covered
  · omega
  · exact tiles_covers covered from_ below

theorem liveRange_mem (ranges : liveRange firstIndex transactions = some live)
    (member : range ∈ live) : range = (firstIndex, firstIndex + transactions.length) := by
  unfold liveRange at ranges
  split at ranges
  · cases ranges
    contradiction
  · obtain ⟨end_, sum, rfl⟩ := Option.map_eq_some_iff.mp ranges
    rw [(Checked.add_eq_some.mp sum).1]
    exact List.mem_singleton.mp member

theorem readPage_covers (read : readPage nextBlock requestedEnd firstIndex response = some page) :
    page.end_ = requestedEnd ∧ ∀ i, nextBlock ≤ i → i < requestedEnd →
      (firstIndex ≤ i ∧ i < firstIndex + response.transactions.length) ∨ Unread page i := by
  obtain ⟨live, ranges, read⟩ := Option.bind_eq_some_iff.mp read
  obtain ⟨archives, _, read⟩ := Option.bind_eq_some_iff.mp read
  dsimp only at read
  split at read
  next covered =>
    cases read
    refine ⟨rfl, fun i from_ below => ?_⟩
    obtain ⟨range, member, within⟩ := exactCoverage_covers covered from_ below
    rcases List.mem_append.mp ((List.mem_insertionSort _).mp member) with shown | archived
    · rw [liveRange_mem ranges shown] at within
      exact .inl within
    · obtain ⟨archive, listed, rfl⟩ := List.mem_map.mp archived
      have sorted : archive ∈ archives.insertionSort fun a b => a.start ≤ b.start :=
        (List.mem_insertionSort _).mpr listed
      obtain ⟨k, inBounds, found⟩ := List.getElem_of_mem sorted
      exact .inr ⟨k, archive, Nat.zero_le k, by rw [← found, List.getElem?_eq_getElem inBounds],
        within⟩
  · contradiction

section

variable (progress : ReconciliationScanProgress)

theorem indexPages_holds (budget : Nat) (clean : Clean start ledger progress.transfer events)
    (covers : Covers events (.index ledgerWatermark none none)) :
    (indexPages progress ledgerWatermark indexWatermark budget nextStart).Holds honestLedger
      (Sound start progress.target progress.transfer) ledger events := by
  induction budget generalizing ledger nextStart with
  | zero => exact ⟨rfl, rfl, clean, covers⟩
  | succ budget ih =>
    intro asked grown answer honest
    have clean := clean.grown grown
    cases answer with
    | none => exact ⟨rfl, rfl, clean, covers⟩
    | some result =>
      dsimp only
      split
      next entry found =>
        have real := honest result rfl entry (List.mem_of_find?_eq_some found)
        have matching := List.find?_some found
        split
        next blockIndex parsed =>
          unfold natU128 at parsed
          split at parsed <;> cases parsed
          exact ⟨entry.transaction, real, matching⟩
        · exact ⟨rfl, rfl, clean, covers⟩
      · split
        · exact ⟨covers.1, covers.2, clean⟩
        · split
          · exact ⟨covers.1, covers.2, clean⟩
          · exact ⟨rfl, rfl, clean, covers⟩
          · exact ih clean

theorem reconcileIndex_holds (ledgerId : List UInt8) (progress : ReconciliationScanProgress)
    (budget : Nat) {indexWatermark : Option Nat}
    (clean : Clean start ledger progress.transfer events)
    (covers : Covers events (.index ledgerWatermark indexWatermark nextStart)) :
    (reconcileIndex ledgerId progress ledgerWatermark indexWatermark nextStart budget).Holds
      honestLedger (Sound start progress.target progress.transfer) ledger events := by
  unfold reconcileIndex
  split
  · exact indexPages_holds progress budget clean covers
  split
  · exact ⟨rfl, rfl, clean, covers⟩
  intro asked grown answer _
  have clean := clean.grown grown
  dsimp only
  split
  · exact ⟨rfl, rfl, clean, covers⟩
  intro asked' grown' answer' _
  have clean := clean.grown grown'
  dsimp only
  split
  · exact ⟨rfl, rfl, clean, covers⟩
  split
  · exact ⟨rfl, rfl, clean, covers⟩
  · exact indexPages_holds progress _ clean covers

theorem unreadArchive_eq_some (unread : unreadArchive pendingPage = some (archive, page)) :
    pendingPage = some page ∧ page.archives[page.nextArchive]? = some archive := by
  obtain ⟨held, pending, unread⟩ := Option.bind_eq_some_iff.mp unread
  obtain ⟨next, found, same⟩ := Option.map_eq_some_iff.mp unread
  cases same
  exact ⟨pending, found⟩

theorem unread_of_unreadArchive_none (unread : unreadArchive (some page) = none) :
    ¬Unread page i := by
  rintro ⟨k, archive, later, found, _⟩
  have ended : page.archives[page.nextArchive]? = none := by simpa [unreadArchive] using unread
  have short := List.getElem?_eq_none_iff.mp ended
  have within := (List.getElem?_eq_some_iff.mp found).1
  omega

theorem covers_next (covers : Covers events (.ledger nextBlock ledgerTip pendingPage))
    (read : unreadArchive pendingPage = none) :
    ∀ i < (pendingPage.map (·.end_)).getD nextBlock, Compared events i := by
  intro i below
  cases pendingPage with
  | none => exact covers.2.1 i below
  | some page =>
    rcases Nat.lt_or_ge i nextBlock with earlier | later
    · exact covers.2.1 i earlier
    · exact (covers.2.2 page rfl i later below).resolve_right (unread_of_unreadArchive_none read)

theorem covers_archive (covers : Covers events (.ledger nextBlock ledgerTip (some page)))
    (found : page.archives[page.nextArchive]? = some archive)
    (full : transactions.length = archive.length) :
    Covers (events ++ comparisons archive.start transactions)
      (.ledger nextBlock ledgerTip (some { page with nextArchive := page.nextArchive + 1 })) := by
  refine ⟨?_, fun i below => (covers.2.1 i below).append _, ?_⟩
  · rw [firstPage_append, firstPage_comparisons, covers.1, Option.or_none]
  rintro _ ⟨⟩ i from_ below
  rcases covers.2.2 page rfl i from_ below with compared | ⟨k, other, later, listed, within⟩
  · exact .inl (compared.append _)
  rcases Nat.eq_or_lt_of_le later with same | beyond
  · -- the block is in the archive just read
    subst same
    cases found.symm.trans listed
    obtain ⟨offset, rfl⟩ := Nat.exists_eq_add_of_le within.1
    obtain ⟨tx, member⟩ := compared_comparisons archive.start
      (show offset < transactions.length by omega)
    exact .inl ⟨tx, List.mem_append_right _ member⟩
  · exact .inr ⟨k, other, beyond, listed, within⟩

theorem ledgerComplete_eq_some (complete : ledgerComplete ledgerTip nextBlock = some watermark) :
    ledgerTip = some watermark ∧ watermark ≤ nextBlock := by
  obtain ⟨tip, reached⟩ := Option.filter_eq_some_iff.mp complete
  refine ⟨tip, ?_⟩
  simp [Kernel.scanComplete] at reached
  omega

theorem covers_page (tip : firstPage events = ledgerTip)
    (compared : ∀ i < nextBlock, Compared events i)
    (read : readPage nextBlock requestedEnd response.firstIndex response = some page) :
    Covers (events ++ [.page logLength] ++ comparisons response.firstIndex response.transactions)
      (.ledger nextBlock (some (ledgerTip.getD logLength)) (some page)) := by
  refine ⟨?_, fun i below => ((compared i below).append _).append _, ?_⟩
  · rw [firstPage_append, firstPage_append, firstPage_comparisons, tip]
    cases ledgerTip <;> rfl
  rintro _ ⟨⟩ i from_ below
  obtain ⟨ends, shown⟩ := readPage_covers read
  rcases shown i from_ (ends ▸ below) with live | unread
  · obtain ⟨offset, rfl⟩ := Nat.exists_eq_add_of_le live.1
    obtain ⟨tx, member⟩ := compared_comparisons response.firstIndex
      (show offset < response.transactions.length by omega)
    exact .inl ⟨tx, List.mem_append_right _ member⟩
  · exact .inr unread

theorem examinePage_holds
    (clean : Clean start ledger progress.transfer events) (tip : firstPage events = ledgerTip)
    (compared : ∀ i < nextBlock, Compared events i) (length : response.logLength = ledger.length)
    (real : ∀ (k : Nat) tx, response.transactions[k]? = some tx →
      ledger[response.firstIndex + k]? = some tx)
    (goesOn : ∀ events fixedTip page, Clean start ledger progress.transfer events →
      Covers events (.ledger nextBlock (some fixedTip) (some page)) →
      (goOn fixedTip page).Holds honestLedger (Sound start progress.target progress.transfer) ledger
        events) : (examinePage progress nextBlock ledgerTip response goOn).Holds honestLedger
      (Sound start progress.target progress.transfer) ledger events := by
  unfold examinePage
  split
  · exact ⟨rfl, rfl, clean, tip, compared, by simp⟩
  rename_i logLength parsedLength
  cases natU128_eq_some parsedLength
  rw [length]
  -- reading the page is the only event that can fix the tip
  have fixed : firstPage (events ++ [.page ledger.length]) =
      some (ledgerTip.getD ledger.length) := by
    rw [firstPage_append, tip]
    cases ledgerTip <;> rfl
  have clean' := clean.page
  have compared' : ∀ i < nextBlock, Compared (events ++ [.page ledger.length]) i :=
    fun i below => (compared i below).append _
  simp only [Dialogue.Holds]
  split
  · exact ⟨rfl, rfl, clean', fixed, compared', by simp⟩
  split
  · exact ⟨rfl, rfl, clean', fixed, compared', by simp⟩
  rename_i firstIndex parsed
  cases natU128_eq_some parsed
  refine inspect_holds real fun differ => ?_
  have cleanAfter := clean'.compare real differ
  split
  · refine ⟨rfl, rfl, cleanAfter, ?_, fun i below => (compared' i below).append _, by simp⟩
    rw [firstPage_append, firstPage_comparisons, fixed, Option.or_none]
  next page read =>
    exact goesOn _ _ _ cleanAfter (covers_page tip compared read)

end

theorem reconcileLedger_holds (ledgerId : List UInt8) (progress : ReconciliationScanProgress)
    (budget : Nat) (clean : Clean start ledger progress.transfer events)
    (covers : Covers events (.ledger nextBlock ledgerTip pendingPage)) :
    (reconcileLedger ledgerId progress budget nextBlock ledgerTip pendingPage).Holds honestLedger
      (Sound start progress.target progress.transfer) ledger events := by
  induction budget generalizing ledger events nextBlock ledgerTip pendingPage with
  | zero =>
    unfold reconcileLedger
    split
    next unread =>
      obtain ⟨rfl, _⟩ := unreadArchive_eq_some unread
      exact ⟨rfl, rfl, clean, covers⟩
    next allRead =>
      have compared := covers_next covers allRead
      dsimp only
      split
      next complete =>
        obtain ⟨rfl, reached⟩ := ledgerComplete_eq_some complete
        exact reconcileIndex_holds ledgerId progress 0 clean
          ⟨covers.1, fun i below => compared i (by omega)⟩
      · exact ⟨rfl, rfl, clean, covers.1, compared, by simp⟩
  | succ budget ih =>
    unfold reconcileLedger
    split
    next unread =>
      obtain ⟨rfl, found⟩ := unreadArchive_eq_some unread
      dsimp only
      split
      · exact ⟨rfl, rfl, clean, covers⟩
      intro asked grown answer honest
      have clean := clean.grown grown
      cases answer with
      | none => exact ⟨rfl, rfl, clean, covers⟩
      | some transactions =>
        dsimp only
        split
        · exact ⟨rfl, rfl, clean, covers⟩
        next full =>
          refine inspect_holds (honest transactions rfl) fun differ => ?_
          exact ih (clean.compare (honest transactions rfl) differ)
            (covers_archive covers found (not_not.mp full))
    next allRead =>
      have compared := covers_next covers allRead
      dsimp only
      split
      next complete =>
        obtain ⟨rfl, reached⟩ := ledgerComplete_eq_some complete
        exact reconcileIndex_holds ledgerId progress _ clean
          ⟨covers.1, fun i below => compared i (by omega)⟩
      intro asked grown answer honest
      have clean := clean.grown grown
      cases answer with
      | none => exact ⟨rfl, rfl, clean, covers.1, compared, by simp⟩
      | some response =>
        exact examinePage_holds progress clean covers.1 compared (honest response rfl).1
          (honest response rfl).2 fun events fixedTip page clean covers => ih clean covers

theorem classify_sound (sound : Sound start target transfer ledger events outcome) :
    Sound start target transfer ledger events (classifyReconciliationProgress phase outcome) := by
  cases outcome with
  | progress saved =>
    simp only [classifyReconciliationProgress]
    split <;> exact sound
  | noProgress saved => exact sound
  | succeeded blockIndex => exact sound
  | absent ledgerWatermark indexWatermark => exact sound

end Scan

theorem reconcileStep_holds (ledgerId : List UInt8) (progress : ReconciliationScanProgress)
    (clean : Clean start ledger progress.transfer events) (covers : Covers events progress.phase) :
    (reconcileStep ledgerId progress).Holds honestLedger
      (Sound start progress.target progress.transfer) ledger events := by
  refine Dialogue.holds_bind (Dialogue.Holds.weaken ?_ fun _ _ _ sound => classify_sound sound)
  obtain ⟨target, transfer, phase⟩ := progress
  cases phase with
  | ledger nextBlock ledgerTip pendingPage =>
    exact reconcileLedger_holds ledgerId _ callBudget clean covers
  | index ledgerWatermark indexWatermark nextStart =>
    exact reconcileIndex_holds ledgerId _ callBudget clean covers

/-- Progress a scan has saved: the ledger it started on, the ledger it has seen last and
its whole history. Calls may fail anywhere and be resumed any number of times. -/
inductive ScanReaches (ledgerId : List UInt8) (target : ReconciliationTarget)
    (transfer : LedgerTransferIdentity) (start : List Transaction) :
    List Transaction → ReconciliationScanProgress → List ScanEvent → Prop where
  | started : ScanReaches ledgerId target transfer start start (.new target transfer) []
  | grown (scan : ScanReaches ledgerId target transfer start ledger saved events)
      (growth : ledger <+: ledger') :
      ScanReaches ledgerId target transfer start ledger' saved events
  | resumed (scan : ScanReaches ledgerId target transfer start ledger saved events)
      (call : Dialogue.Runs honestLedger ledger (reconcileStep ledgerId saved) ledger' outcome noted)
      (saves : outcome = .progress saved' ∨ outcome = .noProgress saved') :
      ScanReaches ledgerId target transfer start ledger' saved' (events ++ noted)

section

variable (scan : ScanReaches ledgerId target transfer start ledger saved events)

include scan

theorem ScanReaches.invariant : saved.target = target ∧ saved.transfer = transfer ∧
    Clean start.length ledger transfer events ∧ Covers events saved.phase := by
  induction scan with
  | started =>
    exact ⟨rfl, rfl, ⟨le_rfl, by simp, by simp⟩, by simp [Covers, ReconciliationScanProgress.new]⟩
  | grown _ growth ih =>
    obtain ⟨target, transfer, clean, covers⟩ := ih
    exact ⟨target, transfer, clean.grown growth, covers⟩
  | resumed _ call saves ih =>
    obtain ⟨rfl, rfl, clean, covers⟩ := ih
    have sound := call.satisfies (reconcileStep_holds _ _ clean covers)
    rcases saves with rfl | rfl <;> exact sound

theorem ScanReaches.outcome_sound
    (call : Dialogue.Runs honestLedger ledger (reconcileStep ledgerId saved) ledger' outcome noted) :
    Sound start.length target transfer ledger' (events ++ noted) outcome := by
  obtain ⟨rfl, rfl, clean, covers⟩ := scan.invariant
  exact call.satisfies (reconcileStep_holds _ _ clean covers)

end

/-- An absence verdict rests on a comparison of every block below the tip that the first
page fixed, none of which matches; a success names a block that matches. -/
theorem scan_verdict_sound
    (scan : ScanReaches ledgerId target transfer start ledger saved events)
    (call : Dialogue.Runs honestLedger ledger (reconcileStep ledgerId saved) ledger' outcome noted) :
    (∀ ledgerWatermark indexWatermark, outcome = .absent ledgerWatermark indexWatermark →
      firstPage (events ++ noted) = some ledgerWatermark ∧
      ∀ i < ledgerWatermark, ∃ transaction, ledger'[i]? = some transaction ∧
        .compared i transaction ∈ events ++ noted ∧
        matchesIdentity transaction transfer = false) ∧
    ∀ blockIndex, outcome = .succeeded blockIndex → ∃ transaction,
      ledger'[blockIndex]? = some transaction ∧ matchesIdentity transaction transfer = true := by
  have sound := scan.outcome_sound call
  refine ⟨?_, ?_⟩
  · rintro ledgerWatermark indexWatermark rfl
    obtain ⟨tip, compared, clean⟩ := sound
    refine ⟨tip, fun i below => ?_⟩
    obtain ⟨transaction, member⟩ := compared i below
    obtain ⟨block, differs⟩ := clean.blocks i transaction member
    exact ⟨transaction, block, member, differs⟩
  · rintro blockIndex rfl
    exact sound

def scanIdentity : LedgerTransferIdentity :=
  ⟨.refundDeposit, 5, 9, 100, 10, ⟨[1], 0, owner_one_valid⟩, ⟨[2], 0, owner_two_valid⟩, none⟩

/-! A scan of two mints, the first of them archived. The archive does not answer the first call;
the second call goes on with it and reports the transfer absent. -/

def scannedLedger : List Transaction := [⟨none⟩, ⟨none⟩]

def newScan : ReconciliationScanProgress := .new (.hold 0) scanIdentity

def archivedPage (nextArchive : Nat) : ReconciliationLedgerPage :=
  ⟨2, [⟨[5], "get_transactions", 0, 1⟩], nextArchive⟩

def savedScan : ReconciliationScanProgress :=
  { newScan with phase := .ledger 0 (some 2) (some (archivedPage 0)) }

theorem single_block {block tx : Transaction} (found : [block][k]? = some tx) :
    k = 0 ∧ block = tx := by
  cases k with
  | zero => exact ⟨rfl, Option.some.inj found⟩
  | succ k => simp at found

theorem archive_unread : Dialogue.Runs honestLedger scannedLedger (reconcileStep [7] newScan)
    scannedLedger (.progress savedScan) [.page 2, .compared 1 ⟨none⟩] := by
  have stay : honestLedger.moves scannedLedger scannedLedger := List.prefix_rfl
  refine .ask (some ⟨2, 1, [⟨none⟩], [⟨[5], "get_transactions", 0, 1⟩]⟩) stay ?_ ?_
  · rintro _ ⟨⟩
    refine ⟨rfl, fun k tx found => ?_⟩
    obtain ⟨rfl, rfl⟩ := single_block found
    rfl
  refine .note (.note ?_)
  show Dialogue.Runs honestLedger scannedLedger
    ((reconcileLedger [7] newScan 3 0 (some 2) (some (archivedPage 0))).bind _) scannedLedger _ _
  unfold reconcileLedger
  exact .ask none stay (fun _ none => by cases none) .done

theorem archive_read : Dialogue.Runs honestLedger scannedLedger (reconcileStep [7] savedScan)
    scannedLedger (.absent 2 2) [.compared 0 ⟨none⟩] := by
  have stay : honestLedger.moves scannedLedger scannedLedger := List.prefix_rfl
  have archived : honestLedger.answers scannedLedger (.archive [5] "get_transactions" 0 1)
      (some [⟨none⟩]) := by
    rintro _ ⟨⟩ k tx found
    obtain ⟨rfl, rfl⟩ := single_block found
    rfl
  have read : reconcileLedger [7] savedScan 3 0 (some 2) (some (archivedPage 1)) =
      reconcileIndex [7] savedScan 2 none none 3 := by
    unfold reconcileLedger
    rfl
  refine .ask (some [⟨none⟩]) stay archived (.note ?_)
  show Dialogue.Runs honestLedger scannedLedger
    ((reconcileLedger [7] savedScan 3 0 (some 2) (some (archivedPage 1))).bind _) scannedLedger _ _
  rw [read]
  refine .ask (some [7]) stay trivial ?_
  refine .ask (some 2) stay (by rintro _ ⟨⟩; exact le_rfl) ?_
  refine .ask (some ⟨[], none⟩) stay (by rintro _ ⟨⟩; simp) ?_
  exact .done

/-- The resumed scan has compared both blocks, one in each call. -/
theorem scan_verdict_sound_resumed :
    firstPage [.page 2, .compared 1 ⟨none⟩, .compared 0 ⟨none⟩] = some 2 ∧
    ∀ i < 2, ∃ transaction, scannedLedger[i]? = some transaction ∧
      .compared i transaction ∈ [ScanEvent.page 2, .compared 1 ⟨none⟩, .compared 0 ⟨none⟩] ∧
      matchesIdentity transaction scanIdentity = false :=
  (scan_verdict_sound (.resumed .started archive_unread (.inl rfl)) archive_read).1 2 2 rfl

end KinicBridge
