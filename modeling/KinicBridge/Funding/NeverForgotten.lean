import KinicBridge.Funding.Remembered

/-! Every step of a deposit's funding remembers accepted pulls: the steps of a request, of
the timer and of the ledger keep the invariant, and so does every run. -/
namespace KinicBridge

open FundingStore

namespace FundingWorld

variable {world world' : FundingWorld} {attempt row : DepositFundingAttempt} {scan : FundingScan}
  {intent : DepositIntent} {call : FundingCall}

theorem mem_ambiguousAfter (call : FundingCall) (outcome : LedgerCallOutcome) :
    ∀ identity ∈ world.ambiguous, identity ∈ world.ambiguousAfter call outcome := by
  intro identity noted
  unfold ambiguousAfter
  split
  · exact List.mem_cons_of_mem _ noted
  · exact noted

section

variable (inv : world.Inv subject)

include inv

theorem Inv.prepared (mine : intent.depositId = subject.id)
    (done : subject.config.prepareFunding world.now world.store intent grossAmount
      maxServiceFee = .ok (written, outcome)) : Inv subject { world with store := written } := by
  rcases BridgeConfig.prepareFunding_ok done with rfl | ⟨unrecorded, fresh, valid, rfl⟩
  · exact inv
  rw [mine] at unrecorded fresh
  have none : world.stored subject = none := fresh
  have unsettled : world.recorded subject = Option.none := unrecorded
  have owned : subject.Owns (subject.config.pullIdentity world.now intent grossAmount valid) :=
    ⟨rfl, congrArg subject.config.depositMemo mine, rfl⟩
  refine inv.putUncalled (fun row found => ?_) mine owned unsettled ?_ ?_ rfl
  · cases none.symm.trans found
  · rintro ⟨tx, member, carries⟩
    obtain ⟨identity, issued, carries'⟩ := inv.pulled tx member (owned.pulled carries)
    rcases inv.remembered identity issued ⟨tx, member, carries'⟩ with
      ⟨row, found, _⟩ | ⟨record, found, _⟩
    · cases none.symm.trans found
    · cases unsettled.symm.trans found
  · intro call out same
    have tended : world.Tended subject call.attempt :=
      out.elim (fun member => (inv.sent call member).2.2) fun member => (inv.waits call member).2.2
    rcases tended with ⟨row, found, _⟩ | ⟨record, found, _⟩ | ⟨expired, _⟩
    · cases none.symm.trans found
    · cases unsettled.symm.trans found
    · -- the new pull is created now, so its window is not over
      rw [same] at expired
      simp only [BridgeConfig.pullIdentity, acceptanceDeadline] at expired
      omega

theorem Inv.addCall (found : world.stored subject = some attempt)
    (mine : attempt.id = subject.id) (state : attempt.state = .dispatched time)
    (unpaid : ¬Accepted world.ledger attempt.transfer)
    (apart : ∀ call, call ∈ world.requests ∨ call ∈ world.waiting →
      call.attempt.transfer ≠ attempt.transfer) : Inv subject { world with
        calls := world.calls + 1
        waiting := ⟨world.calls + 1, attempt⟩ :: world.waiting
        requests := ⟨world.calls + 1, attempt⟩ :: world.requests
        issued := attempt.transfer :: world.issued } := by
  have busy : attempt.idle = false := by simp only [DepositFundingAttempt.idle, state]
  have unanswered : ∀ result, (⟨world.calls + 1, attempt⟩, result) ∉ world.replies := by
    intro result member
    have earlier := inv.numbered _ member
    simp at earlier
  exact { inv with
    owned := List.forall_mem_cons.mpr ⟨(inv.row attempt found).1, inv.owned⟩
    pulled := fun tx member pulled => by
      obtain ⟨identity, issued, carries⟩ := inv.pulled tx member pulled
      exact ⟨identity, List.mem_cons_of_mem _ issued, carries⟩
    remembered := List.forall_mem_cons.mpr ⟨fun _ => .inl ⟨attempt, found, rfl⟩, inv.remembered⟩
    outside := fun identity outside => by
      cases outside with
      | idle stored quiet => exact inv.outside _ (.idle stored quiet)
      | sent member =>
        rcases List.mem_cons.mp member with rfl | member
        · exact unpaid
        · exact inv.outside _ (.sent member)
      | refused member refuses waits =>
        rcases List.mem_cons.mp waits with rfl | waits
        · exact absurd member (unanswered _)
        · exact inv.outside _ (.refused member refuses waits)
    idle := fun row stored quiet => by
      cases found.symm.trans stored
      rw [busy] at quiet
      cases quiet
    refused := fun call result member refuses waits => by
      rcases List.mem_cons.mp waits with rfl | waits
      · exact absurd member (unanswered _)
      · exact List.forall_mem_cons.mpr ⟨(apart call (.inr waits)).symm,
          inv.refused call result member refuses waits⟩
    sent := List.forall_mem_cons.mpr ⟨⟨Nat.le_refl _, List.mem_cons_self, .inl
        ⟨attempt, found, rfl, .inl rfl⟩⟩, fun call member => by
      obtain ⟨number, issued, tended⟩ := inv.sent call member
      exact ⟨number.trans (Nat.le_succ _), List.mem_cons_of_mem _ issued, tended⟩⟩
    alone := fun call member other arrived same => by
      rcases List.mem_cons.mp member with rfl | member <;>
        rcases List.mem_cons.mp arrived with rfl | arrived
      · rfl
      · exact absurd same.symm (apart other (.inl arrived))
      · exact absurd same (apart call (.inl member))
      · exact inv.alone call member other arrived same
    waits := List.forall_mem_cons.mpr ⟨⟨Nat.le_refl _, List.mem_cons_self, .inl
        ⟨attempt, found, rfl, .inl rfl⟩⟩, fun call member => by
      obtain ⟨number, issued, tended⟩ := inv.waits call member
      exact ⟨number.trans (Nat.le_succ _), List.mem_cons_of_mem _ issued, tended⟩⟩
    dispatched := List.forall_mem_cons.mpr ⟨⟨⟨time, state⟩, mine⟩, inv.dispatched⟩
    waitsAlone := fun call member other arrived same => by
      rcases List.mem_cons.mp member with rfl | member <;>
        rcases List.mem_cons.mp arrived with rfl | arrived
      · rfl
      · exact absurd same.symm (apart other (.inr arrived))
      · exact absurd same (apart call (.inr member))
      · exact inv.waitsAlone call member other arrived same
    numbered := fun reply member => (inv.numbered reply member).trans (Nat.le_succ _) }

theorem Inv.dispatch (mine : intent.depositId = subject.id)
    (done : world.store.dispatchFunding world.now intent = .ok (written, attempt)) : Inv subject
      { world with
        store := written
        calls := world.calls + 1
        waiting := ⟨world.calls + 1, attempt⟩ :: world.waiting
        requests := ⟨world.calls + 1, attempt⟩ :: world.requests
        issued := attempt.transfer :: world.issued } := by
  obtain ⟨row, found, sendable, made, rfl⟩ := dispatchFunding_ok done
  rw [mine] at found
  have quiet : row.idle = true := by
    cases state : row.state <;>
      simp [DepositFundingAttempt.sendable, DepositFundingAttempt.idle, state] at sendable ⊢
  have keyed : attempt.id = subject.id := by
    have same := world.store.attempts.keyed _ _ found
    rw [made]
    exact same
  have kept : attempt.transfer = row.transfer := by rw [made]
  have apart : ∀ call, call ∈ world.requests ∨ call ∈ world.waiting →
      call.attempt.transfer ≠ attempt.transfer := by
    rintro call (arrived | waits)
    · exact kept ▸ inv.idle row found quiet call arrived
    · exact kept ▸ inv.idle_unawaited found quiet waits
  have sent : attempt.state = .dispatched world.now := by rw [made]
  have unpaid : ¬Accepted world.ledger attempt.transfer := kept ▸ inv.outside _ (.idle found quiet)
  have unscanned : attempt.isReconciling = false := by
    simp only [DepositFundingAttempt.isReconciling, sent]
  refine (inv.putUncalled (fun old stored => ?_) keyed (kept ▸ (inv.row row found).1)
    (inv.row row found).2 unpaid apart unscanned).addCall
    (stored_put world.store.attempts keyed) keyed sent unpaid apart
  cases found.symm.trans stored
  exact kept.symm

theorem Inv.promotedSuccess (mine : attempt.id = subject.id)
    (block : ∃ tx, world.ledger[index]? = some tx ∧ matchesIdentity tx attempt.transfer = true)
    (done : world.store.promoteFundingSuccess attempt index = .ok written) :
    Inv subject { world with store := written } := by
  rcases promoteFundingSuccess_ok done with
    rfl | ⟨record, same, transfer, funded, promoted⟩
  · exact inv
  · obtain ⟨tx, entry, carries⟩ := block
    exact inv.promoted mine promoted (deposited_of_promoted mine same transfer promoted
      (.inl ⟨index, tx, funded, entry, carries⟩))

theorem Inv.promotedAmbiguous (mine : attempt.id = subject.id)
    (noted : attempt.transfer ∈ world.ambiguous)
    (done : world.store.promoteFundingAmbiguous attempt = .ok written) :
    Inv subject { world with store := written } := by
  rcases promoteFundingAmbiguous_ok done with
    rfl | ⟨record, holdId, same, transfer, held, promoted⟩
  · exact inv
  · exact inv.promoted mine promoted
      (deposited_of_promoted mine same transfer promoted (.inr ⟨noted, holdId, held, rfl⟩))

theorem Inv.answered (waits : call ∈ world.waiting) (arrived : (call, result) ∈ world.replies)
    (resumed : world.store.resumeFunding world.now call.attempt (classifyTransferFrom result) =
      .ok written) : Inv subject { world with
        store := written
        waiting := world.waiting.filter (· ≠ call)
        ambiguous := world.ambiguousAfter call (classifyTransferFrom result) } := by
  generalize read : classifyTransferFrom result = outcome at resumed ⊢
  have stopped := (inv.stopWaiting call).ambiguousGrown (mem_ambiguousAfter call outcome)
  have mine := (inv.dispatched call waits).2
  -- once the call is answered, no call of its pull is out
  have apart : blockOf result = none → ∀ other,
      other ∈ world.requests ∨ other ∈ world.waiting.filter (· ≠ call) →
        other.attempt.transfer ≠ call.attempt.transfer := by
    rintro refuses other (asked | waiting)
    · exact inv.refused call result arrived refuses waits other asked
    · obtain ⟨member, differs⟩ := List.mem_filter.mp waiting
      intro same
      exact of_decide_eq_true differs (inv.waitsAlone other member call waits same)
  have unpaid : blockOf result = none → ¬Accepted world.ledger call.attempt.transfer :=
    fun refuses => inv.outside _ (.refused arrived refuses waits)
  rw [resumeFunding_eq] at resumed
  cases outcome with
  | succeeded block | duplicate block =>
    have named : blockOf result = some block := blockOf_of_confirmed (by rw [read]; rfl)
    exact stopped.promotedSuccess mine (inv.named call result block arrived named) resumed
  | ambiguous =>
    exact stopped.promotedAmbiguous mine List.mem_cons_self resumed
  | definitiveFailure code =>
    have refuses := blockOf_of_failure (.inl read)
    obtain ⟨found, rfl⟩ := removeDepositFundingAttempt_ok resumed
    rw [mine] at found
    exact stopped.removed found mine (unpaid refuses) fun other out same =>
      absurd same (apart refuses other out)
  | retryableFailure code =>
    have refuses := blockOf_of_failure (.inr read)
    obtain ⟨_, _, _, found, rfl⟩ := updateDepositFundingAttempt_ok resumed
    rw [mine] at found
    refine stopped.putUncalled (fun row stored => ?_) mine (inv.row _ found).1 (inv.row _ found).2
      (unpaid refuses) (apart refuses) rfl
    cases found.symm.trans stored
    rfl

theorem Inv.pruned (found : world.stored subject = some attempt)
    (recovered : world.store.recoverFunding world.now attempt = .ok (written, none)) :
    Inv subject { world with store := written } := by
  obtain ⟨state, done⟩ := recoverFunding_pruned recovered
  have quiet : attempt.idle = true := by
    rcases state with state | ⟨_, state⟩ <;> simp only [DepositFundingAttempt.idle, state]
  obtain ⟨_, rfl⟩ := removeDepositFundingAttempt_ok done
  have mine := world.store.attempts.keyed _ _ found
  refine inv.removed found mine (inv.outside _ (.idle found quiet)) ?_
  rintro call (asked | waits) same
  · exact absurd same (inv.idle attempt found quiet call asked)
  · exact absurd same (inv.idle_unawaited found quiet waits)

end

theorem SavedScan.open_
    (saved : SavedScan subject world.now world.ledger world.begun attempt.transfer progress
      nextCheckAtNs finalAbsenceScan) (mine : attempt.id = subject.id)
    (reads : attempt.state = .reconciling progress nextCheckAtNs finalAbsenceScan)
    (due : nextCheckAtNs ≤ world.now) : OpenScan subject world.now world.ledger
      ⟨attempt, progress, finalAbsenceScan, world.scanStart subject progress, world.ledger⟩ where
  mine := mine
  state := ⟨nextCheckAtNs, reads⟩
  reached := by
    obtain ⟨seen, grown, start, events, reached⟩ := saved.reached
    exact ⟨List.prefix_rfl, start, events, .grown reached grown⟩
  late := by
    intro isFinal
    obtain ⟨waited, scan⟩ := saved.late isFinal
    by_cases fresh : progress = .new (.fundingAttempt subject.id) progress.transfer
    · have transfer : progress.transfer = attempt.transfer := by
        obtain ⟨seen, _, start, events, reached⟩ := saved.reached
        exact reached.invariant.2.1
      simp only [scanStart, if_pos fresh]
      rw [fresh, transfer]
      exact .fresh (Nat.lt_of_lt_of_le waited due) world.ledger
    · simp only [scanStart, if_neg fresh]
      rcases scan with new | ⟨seen, late⟩
      · exact absurd (by rw [new]; rfl) fresh
      · exact late.refresh

theorem Inv.addScan (inv : world.Inv subject)
    (opened : OpenScan subject world.now world.ledger started) :
    Inv subject { world with scans := started :: world.scans } :=
  { inv with
    outside := fun identity outside => inv.outside identity
      (outside.mono rfl (fun _ => id) (fun _ => id) fun _ => id)
    scans := List.forall_mem_cons.mpr ⟨opened, inv.scans⟩ }

theorem Inv.scanning {current : DepositFundingAttempt}
    (inv : world.Inv subject) (found : world.stored subject = some attempt)
    (due : attempt.due ≤ world.now)
    (recovered : world.store.recoverFunding world.now attempt = .ok (written, some current))
    (reads : current.state = .reconciling progress nextCheckAtNs finalAbsenceScan) : Inv subject
      { world with
        store := written
        scans := ⟨current, progress, finalAbsenceScan, world.scanStart subject progress,
          world.ledger⟩ :: world.scans } := by
  have mine := world.store.attempts.keyed _ _ found
  rcases recoverFunding_scans recovered with ⟨rfl, rfl⟩ | ⟨made, rfl⟩
  · have saved := inv.scan current progress nextCheckAtNs finalAbsenceScan found reads
    simp only [DepositFundingAttempt.due, reads] at due
    exact inv.addScan (saved.open_ mine reads due)
  · have kept : current.transfer = attempt.transfer := by rw [made]
    have keyed : current.id = subject.id := by
      rw [made]
      exact mine
    have state : current.state = .reconciling (.new (.fundingAttempt subject.id) attempt.transfer)
        world.now false := by
      rw [made, ← mine]
    cases reads.symm.trans state
    have saved : SavedScan subject world.now world.ledger world.begun attempt.transfer
        (.new (.fundingAttempt subject.id) attempt.transfer) world.now false :=
      ⟨⟨world.ledger, List.prefix_rfl, world.ledger, [], .started⟩, nofun⟩
    have taken := inv.relive found keyed kept state saved
    exact taken.addScan (SavedScan.open_ (kept ▸ saved) keyed reads (Nat.le_refl _))

theorem OpenScan.saved (opened : OpenScan subject world.now world.ledger scan)
    (ran : Dialogue.Runs honestLedger scan.seen
      (reconcileStep subject.config.ledgerId scan.progress) ended outcome noted)
    (saves : outcome = .progress next ∨ outcome = .noProgress next)
    (grown : ended <+: world.ledger) (clock : world.now ≤ Checked.limit 64) :
    SavedScan subject world.now world.ledger scan.start scan.attempt.transfer next
      (Checked.saturatingAdd 64 world.now 30000000000) scan.finalAbsenceScan where
  reached := by
    obtain ⟨_, start, events, reached⟩ := opened.reached
    exact ⟨ended, grown, start, _, .resumed reached ran saves⟩
  late := by
    intro isFinal
    have late := opened.late isFinal
    refine ⟨?_, .inr ⟨ended, late.save ran saves grown⟩⟩
    have passed := late.expired
    have elapsed := late.elapsed
    unfold Checked.saturatingAdd
    omega

theorem Inv.restarted
    {progress : ReconciliationScanProgress} (inv : world.Inv subject) (mine : attempt.id = subject.id)
    (transfer : progress.target = .fundingAttempt subject.id ∧ progress.transfer = attempt.transfer)
    (done : world.store.updateDepositFundingAttempt attempt { attempt with
        state := .reconciling (.new progress.target progress.transfer)
          (max (fundingFinalScanAtNs attempt.transfer.createdAtTimeNs) world.now) true
        updatedAtNs := world.now } = .ok written) :
    Inv subject { world with store := written } := by
  obtain ⟨_, _, fits, found, rfl⟩ := updateDepositFundingAttempt_ok done
  rw [mine] at found
  refine inv.relive found mine rfl rfl ⟨⟨world.ledger, List.prefix_rfl, world.ledger, [], ?_⟩,
    fun _ => ⟨deadline_lt_finalScan fits, .inl ?_⟩⟩
  · rw [transfer.1, transfer.2]
    exact .started
  · rw [transfer.1, transfer.2]

def LateAbsence (subject : FundingSubject) (world : FundingWorld)
    (identity : LedgerTransferIdentity) : Prop :=
  ∃ scan ∈ world.scans, ∃ events ended ledgerWatermark indexWatermark noted,
    acceptanceDeadline identity.createdAtTimeNs < scan.start.time ∧
    ScanReaches subject.config.ledgerId (.fundingAttempt subject.id) identity scan.start.ledger
      scan.seen scan.progress events ∧
    Dialogue.Runs honestLedger scan.seen (reconcileStep subject.config.ledgerId scan.progress)
      ended (.absent ledgerWatermark indexWatermark) noted ∧
    ended <+: world.ledger

section

variable (inv : world.Inv subject)
  (ran : Dialogue.Runs honestLedger scan.seen (reconcileStep subject.config.ledgerId scan.progress)
    ended (.absent ledgerWatermark indexWatermark) noted) (grown : ended <+: world.ledger)
  (resumed : world.store.resumeAbsent world.now scan.attempt scan.progress
    scan.finalAbsenceScan = .ok written)

include inv ran grown resumed

theorem Inv.absent (opened : OpenScan subject world.now world.ledger scan) :
    Inv subject { world with store := written } := by
  have mine := opened.mine
  unfold resumeAbsent at resumed
  cases isFinal : scan.finalAbsenceScan with
  | false =>
    obtain ⟨_, start, events, reached⟩ := opened.reached
    have transfer := reached.invariant
    rw [isFinal] at resumed
    exact inv.restarted mine ⟨transfer.1, transfer.2.1⟩ resumed
  | true =>
    have late := opened.late isFinal
    have dead := late.dead ran grown
    rw [isFinal] at resumed
    cases expired : fundingDedupExpired scan.attempt.transfer.createdAtTimeNs
        world.now with
    | false =>
      rw [expired] at resumed
      cases resumed
      exact inv
    | true =>
      rw [expired] at resumed
      obtain ⟨found, rfl⟩ := removeDepositFundingAttempt_ok resumed
      rw [mine] at found
      refine inv.removed found mine ?_ fun _ _ _ => dead.expired
      rintro ⟨tx, member, carries⟩
      rw [dead.absent tx member] at carries
      cases carries

theorem Inv.absence_of_release (waits : scan ∈ world.scans)
    (found : world.stored subject = some row) (gone : written.attempts.get subject.id = none) :
    world.LateAbsence subject row.transfer := by
  have opened := inv.scans scan waits
  unfold resumeAbsent at resumed
  cases isFinal : scan.finalAbsenceScan with
  | false =>
    rw [isFinal] at resumed
    obtain ⟨same, _, _, _, rfl⟩ := updateDepositFundingAttempt_ok resumed
    cases gone.symm.trans (stored_put world.store.attempts (same.trans opened.mine))
  | true =>
    rw [isFinal] at resumed
    have late := opened.late isFinal
    cases expired : fundingDedupExpired scan.attempt.transfer.createdAtTimeNs
        world.now with
    | false =>
      rw [expired] at resumed
      cases resumed
      cases gone.symm.trans found
    | true =>
      rw [expired] at resumed
      obtain ⟨current, rfl⟩ := removeDepositFundingAttempt_ok resumed
      rw [opened.mine] at current
      cases found.symm.trans current
      obtain ⟨events, reached⟩ := late.reached
      exact ⟨scan, waits, events, ended, ledgerWatermark, indexWatermark, noted, late.expired,
        reached, ran, grown⟩

end

theorem Inv.scanned (inv : world.Inv subject) (waits : scan ∈ world.scans)
    (ran : Dialogue.Runs honestLedger scan.seen
      (reconcileStep subject.config.ledgerId scan.progress) ended outcome noted)
    (grown : ended <+: world.ledger)
    (resumed : world.store.resumeRecovery world.now scan.attempt scan.progress
      scan.finalAbsenceScan outcome = .ok written) :
    Inv subject { world with store := written, begun := world.startAfter scan outcome } := by
  have opened := inv.scans scan waits
  cases outcome with
  | progress saved =>
    obtain ⟨_, _, _, found, rfl⟩ := updateDepositFundingAttempt_ok resumed
    rw [opened.mine] at found
    exact inv.relive found opened.mine rfl rfl (opened.saved ran (.inl rfl) grown inv.clock)
  | noProgress saved =>
    obtain ⟨_, _, _, found, rfl⟩ := updateDepositFundingAttempt_ok resumed
    rw [opened.mine] at found
    exact inv.relive found opened.mine rfl rfl (opened.saved ran (.inr rfl) grown inv.clock)
  | succeeded block =>
    obtain ⟨_, start, events, reached⟩ := opened.reached
    obtain ⟨tx, entry, carries⟩ := reached.outcome_sound ran
    exact inv.promotedSuccess opened.mine ⟨tx, block_kept grown entry, carries⟩ resumed
  | absent => exact inv.absent ran grown resumed opened

theorem Inv.step (inv : world.Inv subject)
    (next : Step subject world world') : world'.Inv subject := by
  cases next with
  | tick later clock => exact inv.tick later clock
  | feeChanged =>
    exact { inv with
      outside := fun identity outside => inv.outside identity
        (outside.mono rfl (fun _ => id) (fun _ => id) fun _ => id) }
  | otherBlock admits other =>
    refine inv.append admits (fun identity outside => Bool.eq_false_iff.mpr fun carries => ?_)
      (fun pulled => absurd pulled other) fun identity issued carries => ?_
    · exact other ((inv.owns_outside outside).pulled carries)
    · exact absurd ((inv.owned identity issued).pulled carries) other
  | elsewhere attempts deposits holds => exact inv.elsewhere attempts deposits holds
  | prepared mine done => exact inv.prepared mine done
  | dispatched mine done => exact inv.dispatch mine done
  | handled arrived pulls => exact inv.handled arrived pulls
  | dropped call => exact inv.dropRequest call
  | answered waits arrived resumed => exact inv.answered waits arrived resumed
  | lost waits resumed =>
    rw [resumeFunding_eq] at resumed
    exact ((inv.stopWaiting _).ambiguousGrown
      (mem_ambiguousAfter _ .ambiguous)).promotedAmbiguous (inv.dispatched _ waits).2
      List.mem_cons_self resumed
  | ignored call => exact inv.stopWaiting call
  | pruned found _ recovered => exact inv.pruned found recovered
  | scanning found due recovered reads => exact inv.scanning found due recovered reads
  | scanned waits ran grown resumed => exact inv.scanned waits ran grown resumed
  | upgraded => exact inv.narrow (fun _ => id) (List.forall_mem_nil _) (List.forall_mem_nil _)

theorem Reaches.inv (reached : Reaches subject world) : world.Inv subject := by
  induction reached with
  | start initial => exact inv_initial initial
  | step _ next before => exact before.step next

theorem Inv.kept_by_reply (inv : world.Inv subject) (waits : call ∈ world.waiting)
    (found : world.stored subject = some row) (scanned : row.isReconciling = true)
    (resumed : world.store.resumeFunding world.now call.attempt outcome = .ok written) :
    written.attempts.get subject.id = some row := by
  obtain ⟨⟨time, state⟩, mine⟩ := inv.dispatched call waits
  have stale : world.store.attempts.get call.attempt.id ≠ some call.attempt := by
    intro current
    rw [mine] at current
    cases found.symm.trans current
    simp [DepositFundingAttempt.isReconciling, state] at scanned
  rw [resumeFunding_eq] at resumed
  cases outcome with
  | succeeded block | duplicate block =>
    rcases promoteFundingSuccess_ok resumed with rfl | ⟨_, _, _, _, promoted⟩
    · exact found
    · exact absurd promoted.current stale
  | ambiguous =>
    rcases promoteFundingAmbiguous_ok resumed with rfl | ⟨_, _, _, _, _, promoted⟩
    · exact found
    · exact absurd promoted.current stale
  | definitiveFailure code =>
    exact absurd (removeDepositFundingAttempt_ok resumed).1 stale
  | retryableFailure code =>
    exact absurd (updateDepositFundingAttempt_ok resumed).2.2.2.1 stale

/-- An attempt the timer has taken over goes away only for a deposit that stands for it, or
on the absence a late scan has found. -/
theorem Inv.removal (inv : world.Inv subject) (next : Step subject world world')
    (found : world.stored subject = some row) (scanned : row.isReconciling = true)
    (gone : world'.stored subject = none) :
    world'.Deposited subject row.transfer ∨ world.LateAbsence subject row.transfer := by
  cases next with
  | tick | feeChanged | otherBlock | handled | dropped | ignored | upgraded =>
    cases found.symm.trans gone
  | elsewhere attempts => cases (attempts.trans found).symm.trans gone
  | prepared mine done =>
    rcases BridgeConfig.prepareFunding_ok done with rfl | ⟨_, fresh, _⟩
    · cases found.symm.trans gone
    · rw [mine] at fresh
      cases found.symm.trans fresh
  | @dispatched written attempt intent mine done =>
    obtain ⟨previous, stored, _, made, rfl⟩ := dispatchFunding_ok done
    have keyed : attempt.id = subject.id := by
      have same := world.store.attempts.keyed _ _ stored
      rw [made, ← mine]
      exact same
    cases gone.symm.trans (stored_put world.store.attempts keyed)
  | answered waits arrived resumed =>
    cases gone.symm.trans (inv.kept_by_reply waits found scanned resumed)
  | lost waits resumed => cases gone.symm.trans (inv.kept_by_reply waits found scanned resumed)
  | pruned stored _ recovered =>
    cases found.symm.trans stored
    obtain ⟨state | ⟨_, state⟩, _⟩ := recoverFunding_pruned recovered <;>
      simp [DepositFundingAttempt.isReconciling, state] at scanned
  | scanning stored _ recovered =>
    cases found.symm.trans stored
    rcases recoverFunding_scans recovered with ⟨rfl, _⟩ | ⟨made, rfl⟩
    · cases found.symm.trans gone
    · have mine : row.id = subject.id := world.store.attempts.keyed _ _ found
      cases gone.symm.trans (stored_put world.store.attempts (by rw [made]; exact mine))
  | @scanned scan ended outcome noted written waits ran grown resumed =>
    have opened := inv.scans scan waits
    cases outcome with
    | progress saved | noProgress saved =>
      obtain ⟨same, _, _, _, rfl⟩ := updateDepositFundingAttempt_ok resumed
      cases gone.symm.trans (stored_put world.store.attempts (same.trans opened.mine))
    | succeeded block =>
      rcases promoteFundingSuccess_ok resumed with
        rfl | ⟨record, same, transfer, funded, promoted⟩
      · cases found.symm.trans gone
      · have current := promoted.current
        rw [opened.mine] at current
        cases found.symm.trans current
        obtain ⟨_, start, events, reached⟩ := opened.reached
        obtain ⟨tx, entry, carries⟩ := reached.outcome_sound ran
        exact .inl (deposited_of_promoted opened.mine same transfer promoted
          (.inl ⟨block, tx, funded, block_kept grown entry, carries⟩))
    | absent => exact .inr (inv.absence_of_release ran grown resumed waits found gone)

/-- A reply or a scan with a block, written while the attempt is as it was sent or taken over. -/
inductive Settles (subject : FundingSubject) (world : FundingWorld) :
    DepositFundingAttempt → Nat → FundingStore → Prop where
  | answered {call : FundingCall} (waits : call ∈ world.waiting)
      (arrived : (call, result) ∈ world.replies)
      (current : world.stored subject = some call.attempt)
      (names : (classifyTransferFrom result).confirmedBlock = some block)
      (resumed : world.store.resumeFunding world.now call.attempt (classifyTransferFrom result) =
        .ok written) : Settles subject world call.attempt block written
  | scanned {scan : FundingScan} (waits : scan ∈ world.scans)
      (ran : Dialogue.Runs honestLedger scan.seen
        (reconcileStep subject.config.ledgerId scan.progress) ended (.succeeded block) noted)
      (current : world.stored subject = some scan.attempt)
      (resumed : world.store.resumeRecovery world.now scan.attempt scan.progress
        scan.finalAbsenceScan (.succeeded block) = .ok written) :
      Settles subject world scan.attempt block written

theorem Inv.settles (inv : world.Inv subject) (settles : Settles subject world row block written) :
    ∃ record, written.settlement.deposits.get subject.id = some record ∧
      record.transfer = row.transfer ∧ record.state = .escrowedUnquoted block := by
  have records : ∀ {attempt : DepositFundingAttempt}, attempt.id = subject.id →
      world.stored subject = some attempt →
      world.store.promoteFundingSuccess attempt block = .ok written →
      ∃ record, written.settlement.deposits.get subject.id = some record ∧
        record.transfer = attempt.transfer ∧ record.state = .escrowedUnquoted block := by
    intro attempt mine current done
    have unrecorded : world.store.settlement.deposits.get subject.id = none :=
      (inv.row attempt current).2
    rw [← mine] at unrecorded ⊢
    exact promoteFundingSuccess_records unrecorded done
  cases settles with
  | answered waits _ current names resumed =>
    rw [resumeFunding_eq] at resumed
    generalize classifyTransferFrom _ = outcome at names resumed
    cases outcome with
    | succeeded index | duplicate index =>
      cases names
      exact records (inv.dispatched _ waits).2 current resumed
    | ambiguous | definitiveFailure | retryableFailure => cases names
  | scanned waits _ current resumed => exact records (inv.scans _ waits).mine current resumed

/-- A pull that the ledger accepted has its attempt stored or a deposit that stands for it,
and an attempt that is being scanned for goes away only for such a deposit or on a complete
scan whose first read was after the end of its window. A success, a duplicate and a scan that
finds the pull leave a deposit with the block; a deposit is held only after an ambiguous or
lost reply. -/
theorem accepted_pull_remembered (subject : FundingSubject) (world : FundingWorld)
    (reached : Reaches subject world) :
    (∀ identity ∈ world.issued, Accepted world.ledger identity →
      world.Remembered subject identity) ∧
    (∀ world' row, Step subject world world' → world.stored subject = some row →
      row.isReconciling = true → world'.stored subject = none →
        world'.Deposited subject row.transfer ∨ world.LateAbsence subject row.transfer) ∧
    (∀ row block written, Settles subject world row block written →
      ∃ record, written.settlement.deposits.get subject.id = some record ∧
        record.transfer = row.transfer ∧ record.state = .escrowedUnquoted block) ∧
    ∀ record holdId, world.recorded subject = some record →
      record.state = .fundingReconciliationHold holdId → record.transfer ∈ world.ambiguous :=
  ⟨reached.inv.remembered, fun _ _ next found scanned gone =>
    reached.inv.removal next found scanned gone, fun _ _ _ => reached.inv.settles,
    reached.inv.held⟩

/-! A deposit whose pull is accepted. If the reply comes back the deposit is funded; if it is
lost, the deposit is recorded without its block and held. -/

def sampleIntent : DepositIntent := ⟨3, [1], 0, 2, 0, 7⟩

def samplePull : FundingSubject := ⟨⟨⟨[9], 0, owner_nine_valid⟩, [8], 100, fun _ => 5, 8453⟩, 3⟩

def samplePullIdentity : LedgerTransferIdentity :=
  samplePull.config.pullIdentity 0 sampleIntent 1000 (by decide)

def pullBlock : Transaction :=
  ⟨some ⟨1000, some 100, some 0, some (memoBytes 5), ⟨[1], none⟩, ⟨[9], none⟩, some ⟨[9], none⟩⟩⟩

def unfundedStore : FundingStore := ⟨.empty, .empty, fun _ => none, fun _ => 0, false⟩

def unfundedWorld : FundingWorld :=
  ⟨0, 100, [], unfundedStore, 0, [], [], [], ⟨0, []⟩, [], [], []⟩

def preparedAttempt : DepositFundingAttempt :=
  ⟨sampleIntent, 1000, 200, samplePullIdentity, .prepared, 0, 0, none⟩

def sampleAttempt : DepositFundingAttempt := { preparedAttempt with state := .dispatched 0 }

def preparedStore : FundingStore :=
  { unfundedStore with attempts := unfundedStore.attempts.put preparedAttempt }

def dispatchedStore : FundingStore :=
  { preparedStore with attempts := preparedStore.attempts.put sampleAttempt }

def sampleCall : FundingCall := ⟨1, sampleAttempt⟩

def pulledWorld : FundingWorld :=
  { unfundedWorld with
    ledger := [pullBlock]
    store := dispatchedStore
    calls := 1
    waiting := [sampleCall]
    requests := [sampleCall].filter (· ≠ sampleCall)
    replies := [(sampleCall, .ok 0)]
    issued := [samplePullIdentity] }

theorem pullBlock_carries : matchesIdentity pullBlock samplePullIdentity = true := by
  decide +kernel

theorem sample_prepared : samplePull.config.prepareFunding 0 unfundedStore sampleIntent 1000 200 =
      .ok (preparedStore, .inserted) := by
  have due : preparedAttempt.recoveryDueNs = .ok 120000000000 := by decide +kernel
  change preparedAttempt.recoveryDueNs.map
    (fun _ => (preparedStore, FundingStore.AdmissionOutcome.inserted)) = _
  rw [due]
  rfl

theorem sample_dispatched :
    preparedStore.dispatchFunding 0 sampleIntent = .ok (dispatchedStore, sampleAttempt) := by
  have due : sampleAttempt.recoveryDueNs = .ok 30000000000 := by decide +kernel
  change (sampleAttempt.recoveryDueNs >>= fun _ => Except.ok dispatchedStore).map
    (fun store => (store, sampleAttempt)) = _
  rw [due]
  rfl

theorem pulledWorld_reached : Reaches samplePull pulledWorld := by
  have start : Reaches samplePull unfundedWorld :=
    .start ⟨Nat.zero_le _, rfl, rfl, by simp [unfundedWorld], ⟨rfl, rfl, rfl, rfl⟩, rfl, rfl⟩
  have prepared := start.step (.prepared rfl sample_prepared)
  have dispatched := prepared.step (.dispatched rfl sample_dispatched)
  have admits : ledgerRule.Admits 0 [] pullBlock := by
    intro stamp _
    exact ⟨Nat.zero_le _, by simp⟩
  exact dispatched.step (.handled (List.mem_singleton.mpr rfl)
    (.accepted (.accepted rfl admits pullBlock_carries)))

theorem accepted_pull_remembered_funded :
    ∃ world block, Reaches samplePull world ∧ Accepted world.ledger samplePullIdentity ∧
      world.stored samplePull = none ∧
      (world.recorded samplePull).map (·.state) = some (.escrowedUnquoted block) ∧
      world.Remembered samplePull samplePullIdentity := by
  have accepted : Accepted [pullBlock] samplePullIdentity :=
    ⟨pullBlock, List.mem_singleton.mpr rfl, pullBlock_carries⟩
  have funded := pulledWorld_reached.step
    (.answered (List.mem_singleton.mpr rfl) (List.mem_singleton.mpr rfl) rfl)
  exact ⟨_, 0, funded, accepted, rfl, rfl, (accepted_pull_remembered samplePull _ funded).1
    samplePullIdentity (List.mem_singleton.mpr rfl) accepted⟩

/-- The reply is lost: the attempt is gone and the deposit does not hold the block. -/
theorem accepted_pull_without_block :
    ∃ world record, Reaches samplePull world ∧ samplePullIdentity ∈ world.issued ∧
      Accepted world.ledger samplePullIdentity ∧ world.stored samplePull = none ∧
      world.recorded samplePull = some record ∧ record.state.ledgerBlocks = (none, none) := by
  have held := pulledWorld_reached.step (.lost (List.mem_singleton.mpr rfl) rfl)
  exact ⟨_, _, held, List.mem_singleton.mpr rfl,
    ⟨pullBlock, List.mem_singleton.mpr rfl, pullBlock_carries⟩, rfl, rfl, rfl⟩

/-- No two requests on the way, nor two calls that wait, are for the same pull; an idle attempt has
none on the way, and a reply with a block names one that carries the pull. -/
theorem pulls_called_once (reached : Reaches subject world) :
    (∀ calls ∈ [world.requests, world.waiting], ∀ call ∈ calls, ∀ other ∈ calls,
      call.attempt.transfer = other.attempt.transfer → call = other) ∧
    (∀ row, world.stored subject = some row → row.idle = true →
      ∀ call ∈ world.requests, call.attempt.transfer ≠ row.transfer) ∧
    ∀ call result index, (call, result) ∈ world.replies → blockOf result = some index →
      ∃ transaction, world.ledger[index]? = some transaction ∧
        matchesIdentity transaction call.attempt.transfer = true := by
  have inv := reached.inv
  refine ⟨?_, inv.idle, inv.named⟩
  simpa using ⟨inv.alone, inv.waitsAlone⟩

theorem pulls_called_once_pulled : ∃ transaction, pulledWorld.ledger[0]? = some transaction ∧
    matchesIdentity transaction samplePullIdentity = true :=
  (pulls_called_once pulledWorld_reached).2.2 _ _ 0 (List.mem_singleton_self _) rfl

end FundingWorld

end KinicBridge
