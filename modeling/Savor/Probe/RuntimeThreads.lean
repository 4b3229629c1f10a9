import Savor.Probe.LossAccounts

/-!
# The threads of a capture

Where the threads can stand at the same time.  While the recorder finishes, no
other thread does anything.
-/

namespace Savor.Probe

open Capture (CaptureHost Continues)
open Capture.CaptureWriter

/-- Where the threads stand, whatever happened. -/
structure Threads (state : CaptureRuntime) : Prop where
  live : state.active = true ↔ state.session = .running ∨ state.session = .reloaded
  stop : state.recorderStop = !state.active
  idle : state.active = false → state.cpu = []
  ending : state.recorder.phase = .finishing ∨
    state.recorder.phase = .finished → state.active = false
  opened : state.session ≠ .stopped → state.writer.isOpen = state.options.capturePath.isSome
  closed : state.session = .stopped → state.recorder.phase = .finished ∧ state.writer.isOpen = false

variable {before after : CaptureRuntime}

namespace Threads

/-- An operation that is no business of the threads. -/
theorem of_same (threads : Threads before) (same : SameThreads before after) : Threads after where
  live := by rw [same.active, same.session]; exact threads.live
  stop := by rw [same.recorderStop, same.active]; exact threads.stop
  idle := by rw [same.active, same.cpu]; exact threads.idle
  ending := by rw [same.phase, same.active]; exact threads.ending
  opened := by
    rw [same.session, same.writer.isOpen, same.path]
    exact threads.opened
  closed := by
    rw [same.session, same.phase, same.writer.isOpen]
    exact threads.closed

theorem process (threads : Threads before) (active : before.active = true) (cpu : List CpuAct)
    (same : SameThreads { before with cpu } after) : Threads after := by
  refine @of_same { before with cpu } after ?_ same
  exact
    { live := threads.live
      stop := threads.stop
      idle := fun inactive => by
        rw [show before.active = false from inactive] at active
        cases active
      ending := threads.ending
      opened := threads.opened
      closed := threads.closed }

theorem toPhase (threads : Threads before) {phase : RecorderPhase}
    (going : before.recorder.phase ≠ .finished)
    (ending : phase = .finishing ∨ phase = .finished → before.active = false) :
    Threads (before.toPhase phase) where
  live := threads.live
  stop := threads.stop
  idle := threads.idle
  ending := ending
  opened := threads.opened
  closed stopped := absurd (threads.closed stopped).1 going

end Threads

variable {host : CaptureHost}

/-- What a step of the recorder does to the threads: it moves on in its loop, and
leaves the loop only if it is to stop. -/
theorem record_threads {progressPending : Bool} {appending : Appending}
    (stepped : before.record host progressPending = some appending) :
    before.recorder.phase ≠ .finished ∧ ∃ phase, phase ≠ .finished ∧
      (phase = .finishing → before.recorderStop = true) ∧
      SameThreads (before.toPhase phase) appending.2 := by
  unfold CaptureRuntime.record at stepped
  cases phase : before.recorder.phase with
  | triggering =>
    rw [phase] at stepped
    cases stepped
    refine ⟨nofun, .draining, nofun, nofun, ?_⟩
    unfold CaptureRuntime.recordTrigger
    split
    · refine .trans ?_ (CaptureRuntime.emit_appends host _ _).threads
      exact ⟨rfl, rfl, rfl, rfl, rfl, rfl, .refl _⟩
    · exact .refl _
  | draining =>
    rw [phase] at stepped
    cases stepped
    refine ⟨nofun, ?_⟩
    unfold CaptureRuntime.recordEvent
    cases before.captureQueue.tryPop with
    | none => exact ⟨.marking, nofun, nofun, .refl _⟩
    | some taken =>
      refine ⟨.draining, nofun, nofun, .trans ?_ (CaptureRuntime.emit_appends host _ _).threads⟩
      exact ⟨rfl, rfl, rfl, phase, rfl, rfl, .refl _⟩
  | marking =>
    rw [phase] at stepped
    cases stepped
    refine ⟨nofun, .checking, nofun, nofun, ?_⟩
    unfold CaptureRuntime.recordMark
    dsimp only
    split
    · exact ⟨rfl, rfl, rfl, rfl, rfl, rfl, markIncomplete_continues _ _⟩
    · exact .refl _
  | checking =>
    rw [phase] at stepped
    cases stepped
    refine ⟨nofun, ?_⟩
    unfold CaptureRuntime.recordCheck
    split
    · rename_i stops
      simp only [Bool.and_eq_true] at stops
      exact ⟨.finishing, nofun, fun _ => stops.1.1, .refl _⟩
    · exact ⟨.triggering, nofun, nofun, .refl _⟩
  | finishing | finished => rw [phase] at stepped; cases stepped

theorem finishRecorder_threads (report : MetricsReport) : SameThreads (before.toPhase .finished)
      (before.finishRecorder host report).2 := by
  rw [CaptureRuntime.finishRecorder_eq]
  have retained := (CaptureRuntime.emit_appends host
    (before.recorder.retention.finish host.sorting) before).threads
  have gap := (CaptureRuntime.appendGap_appends host
    (before.emit host (before.recorder.retention.finish host.sorting)).2).threads
  have reports := (CaptureRuntime.appendReports_appends host report
    before.recorder.retention.flightStates
    (((before.emit host (before.recorder.retention.finish host.sorting)).andThen
      (CaptureRuntime.appendGap host)).2)).threads
  have all := (retained.trans gap).trans reports
  exact { all with phase := rfl }

theorem processRoutedPc_threads (hit : RoutedPc) : SameThreads before (before.processRoutedPc hit) ∨
      before.active = true ∧
        SameThreads { before with cpu := (before.processRoutedPc hit).cpu }
          (before.processRoutedPc hit) := by
  unfold CaptureRuntime.processRoutedPc
  split
  · exact Or.inl (.refl before)
  rename_i active
  refine Or.inr ⟨by simpa using active, ?_⟩
  exact ⟨rfl, rfl, rfl, rfl, rfl, rfl, .refl _⟩

theorem processRoutedMemory_threads (hit : RoutedMemory) :
    SameThreads before (before.processRoutedMemory hit) ∨ before.active = true ∧
        SameThreads { before with cpu := (before.processRoutedMemory hit).cpu }
          (before.processRoutedMemory hit) := by
  unfold CaptureRuntime.processRoutedMemory
  split
  · exact Or.inl (.refl before)
  rename_i active
  simp only [Bool.or_eq_true, not_or, Bool.not_eq_true', Bool.not_eq_false] at active
  split
  · exact Or.inl ⟨rfl, rfl, rfl, rfl, rfl, rfl, .refl _⟩
  · refine Or.inr ⟨active.1, ?_⟩
    exact ⟨rfl, rfl, rfl, rfl, rfl, rfl, .refl _⟩

/-- The session is stopped and the capture closed; the threads stay. -/
structure Closes (before after : CaptureRuntime) : Prop where
  active : after.active = before.active
  stop : after.recorderStop = before.recorderStop
  session : after.session = .stopped
  phase : after.recorder.phase = before.recorder.phase
  cpu : after.cpu = before.cpu
  closed : after.writer.isOpen = false

theorem finishReload_threads (profile : CaptureProfile)
    (profileJson : Program.ByteString) (armed : Bool) (monotonicNs : UInt64) :
    let appending :=
      before.finishReload host profile profileJson armed monotonicNs
    (appending.2.active = true ∧ appending.2.recorderStop = false ∧
        appending.2.session = .reloaded ∧ appending.2.recorder.phase = .triggering ∧
        appending.2.options.capturePath = before.options.capturePath ∧
        Continues before.writer appending.2.writer) ∨
      ((armed = false ∨ ∃ appended ∈ appending.1, appended.accepted = false) ∧
        Closes before appending.2 ∧
        (before.writer.complete = false → appending.2.writer.complete = false)) := by
  have abandoned (reason : Program.ByteString) (state : CaptureRuntime) :
      let failed := state.abandonReload host reason
      Closes state failed ∧ (state.writer.complete = false → failed.writer.complete = false) := by
    intro failed
    have same := state.markCaptureIncomplete_threads reason 0
    have eq : failed.writer = if (state.markCaptureIncomplete reason
        0).writer.isOpen then ((state.markCaptureIncomplete reason 0).writer.close host).2
        else (state.markCaptureIncomplete reason 0).writer := rfl
    refine ⟨⟨same.active, same.recorderStop, rfl, same.phase, same.cpu, ?_⟩, fun incomplete => ?_⟩
    · rw [eq]
      split
      · exact close_isOpen host _
      · rename_i closed
        simpa using closed
    have marked := same.writer.incomplete incomplete
    rw [eq]
    split
    · exact close_incomplete host _ marked
    · exact marked
  unfold CaptureRuntime.finishReload
  cases armed with
  | false =>
    obtain ⟨⟨active, stop, session, phase, cpu, closed⟩, incomplete⟩ :=
      abandoned (Program.text "capture profile reload arm failed")
        (before.withProfile profile profileJson)
    exact Or.inr ⟨Or.inl rfl, ⟨active, stop, session, phase, cpu, closed⟩, incomplete⟩
  | true =>
    dsimp only
    rw [if_pos rfl]
    unfold CaptureRuntime.recordReload
    split
    · exact Or.inl ⟨rfl, rfl, rfl, rfl, rfl, .refl _⟩
    dsimp only
    have writer := (before.withProfile profile profileJson).writer.append_continues host
        ((before.withProfile profile profileJson).reloadEvent monotonicNs)
    split
    · exact Or.inl ⟨rfl, rfl, rfl, rfl, rfl, writer⟩
    obtain ⟨⟨active, stop, session, phase, cpu, closed⟩, incomplete⟩ :=
      abandoned (Program.text "capture profile reload record failed")
        { before.withProfile profile profileJson with
          writer := ((before.withProfile profile
            profileJson).writer.append host ((before.withProfile profile
              profileJson).reloadEvent monotonicNs)).2
          nextCaptureSequence := before.nextCaptureSequence + 1
          nextRecordSequence := before.nextRecordSequence + 1
          nextSnapshotId := before.nextSnapshotId + 1 }
    exact Or.inr ⟨Or.inr ⟨_, List.mem_singleton_self _, rfl⟩,
      ⟨active, stop, session, phase, cpu, closed⟩, fun was => incomplete (writer.incomplete was)⟩

theorem finishStop_threads : Closes before (before.finishStop host) := by
  unfold CaptureRuntime.finishStop
  split
  · exact ⟨rfl, rfl, rfl, rfl, rfl, close_isOpen host _⟩
  · rename_i closed
    exact ⟨rfl, rfl, rfl, rfl, rfl, by simpa using closed⟩

namespace Threads

variable {input : RuntimeInput}

theorem closing (threads : Threads before) (finished : before.recorder.phase = .finished)
    (closes : Closes before after) : Threads after where
  live := by
    rw [closes.active, closes.session, threads.ending (Or.inr finished)]
    simp
  stop := by rw [closes.stop, closes.active]; exact threads.stop
  idle := by rw [closes.active, closes.cpu]; exact threads.idle
  ending := by rw [closes.phase, closes.active]; exact threads.ending
  opened going := absurd closes.session going
  closed _ := ⟨closes.phase.trans finished, closes.closed⟩

theorem step {appended : List Appended} (threads : Threads before)
    (stepped : before.step host input = some (appended, after)) : Threads after := by
  unfold CaptureRuntime.step at stepped
  cases input with
    try simp only [Option.ite_none_right_eq_some] at stepped
  | routedPc hit =>
    obtain ⟨-, ⟨⟩⟩ := stepped
    rcases processRoutedPc_threads hit with same | ⟨active, same⟩
    · exact threads.of_same same
    · exact threads.process active _ same
  | routedMemory hit =>
    obtain ⟨-, ⟨⟩⟩ := stepped
    rcases processRoutedMemory_threads hit with same | ⟨active, same⟩
    · exact threads.of_same same
    · exact threads.process active _ same
  | cpu =>
    split at stepped
    · cases stepped
    rename_i act acts pending
    cases stepped
    have active : before.active = true := by
      by_contra inactive
      have none := threads.idle (by simpa using inactive)
      rw [pending] at none
      cases none
    exact threads.process active acts (CaptureRuntime.perform_threads _ act)
  | emitMarker id value monotonicNs =>
    cases stepped
    exact threads.of_same (before.emitMarker_threads id value monotonicNs)
  | setGroupEnabled rebound =>
    split at stepped
    · cases stepped
      exact threads.of_same (before.markCaptureIncomplete_threads _ _)
    · cases stepped
      exact threads
  | triggerFlightRecorder | setFrameIndex | setGuestWorksetEpoch =>
    cases stepped
    exact threads.of_same ⟨rfl, rfl, rfl, rfl, rfl, rfl, .refl _⟩
  | record progressPending =>
    obtain ⟨going, phase, unfinished, stops, same⟩ := record_threads stepped
    refine (threads.toPhase going fun ending => ?_).of_same same
    have stop := threads.stop
    rw [stops (ending.resolve_right unfinished)] at stop
    simpa using stop.symm
  | finishRecorder report =>
    obtain ⟨finishing, finished⟩ := stepped
    have same := @finishRecorder_threads before host report
    rw [Option.some.inj finished] at same
    refine (threads.toPhase ?_ fun _ => ?_).of_same same
    · rw [finishing]
      exact nofun
    · exact threads.ending (Or.inl finishing)
  | beginReload profile profileJson monotonicNs =>
    obtain ⟨allowed, ⟨⟩⟩ := stepped
    simp only [CaptureRuntime.isIdle, Bool.and_eq_true, decide_eq_true_eq,
      List.isEmpty_iff] at allowed
    obtain ⟨⟨running, empty⟩, -⟩ := allowed
    have kept := threads.of_same (before.emitMarker_threads
      (Program.text "profile.reload.begin") profile.revision monotonicNs)
    have same := before.emitMarker_threads
      (Program.text "profile.reload.begin") profile.revision monotonicNs
    exact
      { live := ⟨nofun, by rintro (wrong | wrong) <;> cases wrong⟩
        stop := rfl
        idle := fun _ => same.cpu.trans empty
        ending := fun _ => rfl
        opened := fun _ => kept.opened (by
          rw [same.session, running]
          exact nofun)
        closed := nofun }
  | finishReload armed monotonicNs =>
    split at stepped
    · rename_i profile profileJson reloading
      split at stepped
      · rename_i finished
        have ends := @finishReload_threads before host profile profileJson armed monotonicNs
        rw [Option.some.inj stepped] at ends
        dsimp only at ends
        rcases ends with ⟨active, stop, session, phase, path, writer⟩ | ⟨-, closes, -⟩
        · have opened := threads.opened (by rw [reloading]; exact nofun)
          exact
            { live := ⟨fun _ => Or.inr session, fun _ => active⟩
              stop := by rw [stop, active]; rfl
              idle := fun inactive => by
                rw [active] at inactive
                cases inactive
              ending := by
                rw [phase]
                rintro (wrong | wrong) <;> cases wrong
              opened := fun _ => by rw [writer.isOpen, path]; exact opened
              closed := fun stopped => by
                rw [session] at stopped
                cases stopped }
        · exact threads.closing finished closes
      · cases stepped
    · cases stepped
  | endReload monotonicNs =>
    obtain ⟨reloaded, ⟨⟩⟩ := stepped
    have same := before.emitMarker_threads
      (Program.text "profile.reload.end") before.profile.revision monotonicNs
    have kept := threads.of_same same
    have active := threads.live.mpr (Or.inr reloaded)
    exact
      { live := ⟨fun _ => Or.inl rfl, fun _ => same.active.trans active⟩
        stop := kept.stop
        idle := kept.idle
        ending := kept.ending
        opened := fun _ => kept.opened (by
          rw [same.session, reloaded]
          exact nofun)
        closed := nofun }
  | beginStop =>
    obtain ⟨allowed, ⟨⟩⟩ := stepped
    simp only [CaptureRuntime.isIdle, Bool.and_eq_true, decide_eq_true_eq,
      List.isEmpty_iff] at allowed
    exact
      { live := ⟨nofun, by rintro (wrong | wrong) <;> cases wrong⟩
        stop := rfl
        idle := fun _ => allowed.2
        ending := fun _ => rfl
        opened := fun _ => threads.opened (by
          rw [allowed.1]
          exact nofun)
        closed := nofun }
  | finishStop =>
    obtain ⟨joined, ⟨⟩⟩ := stepped
    exact threads.closing joined.2 finishStop_threads

end Threads

/-- Only the end of the recorder and those of reloads and of the session bring a
thread to its end. -/
structure GoesOn (before after : CaptureRuntime) : Prop where
  writer : Continues before.writer after.writer
  phase : after.recorder.phase = .finished → before.recorder.phase = .finished
  session : after.session = .stopped → before.session = .stopped

namespace GoesOn

theorem of_same (same : SameThreads before after) : GoesOn before after where
  writer := same.writer
  phase finished := same.phase.symm.trans finished
  session stopped := same.session.symm.trans stopped

theorem step {input : RuntimeInput} {appended : List Appended}
    (stepped : before.step host input = some (appended, after))
    (recorder : ∀ report, input ≠ .finishRecorder report)
    (reload : ∀ armed monotonicNs, input ≠ .finishReload armed monotonicNs)
    (stop : input ≠ .finishStop) : GoesOn before after := by
  unfold CaptureRuntime.step at stepped
  cases input with
    try simp only [Option.ite_none_right_eq_some] at stepped
  | routedPc hit =>
    obtain ⟨-, ⟨⟩⟩ := stepped
    rcases processRoutedPc_threads hit with same | ⟨-, same⟩
    · exact of_same same
    · exact ⟨same.writer, fun finished => same.phase.symm.trans finished,
        fun stopped => same.session.symm.trans stopped⟩
  | routedMemory hit =>
    obtain ⟨-, ⟨⟩⟩ := stepped
    rcases processRoutedMemory_threads hit with same | ⟨-, same⟩
    · exact of_same same
    · exact ⟨same.writer, fun finished => same.phase.symm.trans finished,
        fun stopped => same.session.symm.trans stopped⟩
  | cpu =>
    split at stepped
    · cases stepped
    rename_i act acts pending
    cases stepped
    have same := CaptureRuntime.perform_threads { before with cpu := acts } act
    exact ⟨same.writer, fun finished => same.phase.symm.trans finished,
      fun stopped => same.session.symm.trans stopped⟩
  | emitMarker id value monotonicNs =>
    cases stepped
    exact of_same (before.emitMarker_threads id value monotonicNs)
  | setGroupEnabled rebound =>
    split at stepped
    · cases stepped
      exact of_same (before.markCaptureIncomplete_threads _ _)
    · cases stepped
      exact of_same (.refl before)
  | triggerFlightRecorder | setFrameIndex | setGuestWorksetEpoch =>
    cases stepped
    exact ⟨.refl _, id, id⟩
  | record progressPending =>
    obtain ⟨going, phase, unfinished, -, same⟩ := record_threads stepped
    exact ⟨same.writer, fun finished => absurd (same.phase.symm.trans finished) unfinished,
      fun stopped => same.session.symm.trans stopped⟩
  | finishRecorder report => exact absurd rfl (recorder report)
  | beginReload profile profileJson monotonicNs =>
    obtain ⟨-, ⟨⟩⟩ := stepped
    have same := before.emitMarker_threads
      (Program.text "profile.reload.begin") profile.revision monotonicNs
    exact ⟨same.writer, fun finished => same.phase.symm.trans finished, nofun⟩
  | finishReload armed monotonicNs => exact absurd rfl (reload armed monotonicNs)
  | endReload monotonicNs =>
    obtain ⟨-, ⟨⟩⟩ := stepped
    have same := before.emitMarker_threads
      (Program.text "profile.reload.end") before.profile.revision monotonicNs
    exact ⟨same.writer, fun finished => same.phase.symm.trans finished, nofun⟩
  | beginStop =>
    obtain ⟨-, ⟨⟩⟩ := stepped
    exact ⟨.refl _, id, nofun⟩
  | finishStop => exact absurd rfl stop

end GoesOn
end Savor.Probe
