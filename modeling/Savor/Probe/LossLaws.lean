import Savor.Capture.CaptureLaws
import Savor.Probe.LossSteps
import Savor.Probe.RuntimeThreads

/-!
# Losses are visible

A capture that lost events is closed as incomplete, and has a gap event that
tells of all of them, as long as every loss is one that the runtime counts.
-/

namespace Savor.Probe

open Capture (CaptureHost Event Field)
open Library (Run)
open Program (ByteString text)

/-! ## What a capture tells -/

/-- The value of a field of an event. -/
def fieldValue (event : Event) (name : ByteString) : Option UInt64 :=
  (event.fields.find? fun field => field.name = name).map Field.value

/-- A gap event tells of losses: they are in its range, and it has their
number. -/
structure ShowsLosses (gap : Event) (lost : List UInt64) : Prop where
  kind : gap.kind = .gap
  range : ∃ first last,
    fieldValue gap (text "first_capture_sequence") = some first ∧
      fieldValue gap (text "last_capture_sequence") = some last ∧
      ∀ sequence ∈ lost, first ≤ sequence ∧ sequence ≤ last
  count : (fieldValue gap (text "lost_events")).map UInt64.toNat = some lost.length

/-- A capture tells of its losses: it is closed as incomplete and has a gap event
if there are any, and has none if there are none. -/
structure LossesVisible (lost : List UInt64) (written : List Event)
    (state : CaptureRuntime) : Prop where
  incomplete : lost ≠ [] → state.writer.isOpen = false ∧ state.writer.complete = false
  gap : lost ≠ [] → ∃ gap ∈ written, ShowsLosses gap lost
  noGap : lost = [] → ∀ event ∈ written, event.kind ≠ .gap

variable {host : CaptureHost} {before after : CaptureRuntime}
variable {lost : List UInt64} {input : RuntimeInput} {appended : List Appended}

/-! ## The gap event -/

theorem Accounts.gapEvent_shows (accounts : Accounts lost before) (same : SameLosses before after) :
    ShowsLosses (after.numberRecord after.gapEvent).1 lost where
  kind := after.numberRecord_kind _
  range := by
    refine ⟨after.captureGapFirstSequence, after.captureGapLastSequence, ?_, ?_, ?_⟩
    · rw [fieldValue, CaptureRuntime.numberRecord_fields]
      rfl
    · rw [fieldValue, CaptureRuntime.numberRecord_fields]
      rfl
    · rw [same.first, same.last]
      exact accounts.range
  count := by
    have value : fieldValue (after.numberRecord after.gapEvent).1
        (text "lost_events") = some (UInt64.ofNat after.captureDrops) := by
      rw [fieldValue, CaptureRuntime.numberRecord_fields]
      rfl
    rw [value, same.drops, ← accounts.drops, Option.map_some]
    exact congrArg some (UInt64.toNat_ofNat_of_lt accounts.bounded)

theorem finishRecorder_gap (accounts : Accounts lost before)
    (threads : Threads before) (phase : before.recorder.phase = .finishing)
    (some : lost ≠ []) (report : MetricsReport)
    (written : ∀ appended ∈ (before.finishRecorder host report).1, appended.accepted = true) :
    ∃ appended ∈ (before.finishRecorder host report).1, ShowsLosses appended.event lost := by
  rw [CaptureRuntime.finishRecorder_eq] at written ⊢
  have retained :=
    CaptureRuntime.emit_appends host (before.recorder.retention.finish host.sorting) before
  have ended := List.forall_mem_append.mp written
  have reported := List.forall_mem_append.mp ended.1
  have closing := List.forall_mem_append.mp reported.1
  have losses := retained.losses closing.1
  obtain ⟨-, path, positive⟩ := accounts.something some
  have going : before.session ≠ .stopped := by
    intro stopped
    have finished := (threads.closed stopped).1
    rw [phase] at finished
    cases finished
  have opened := threads.opened going
  rw [path, ← retained.threads.writer.isOpen] at opened
  have gap : ∃ last,
      ((before.emit host (before.recorder.retention.finish host.sorting)).2.appendGap host).1 =
        [⟨((before.emit host (before.recorder.retention.finish host.sorting)).2.numberRecord
          (before.emit host (before.recorder.retention.finish host.sorting)).2.gapEvent).1,
            last⟩] := by
    unfold CaptureRuntime.appendGap
    rw [if_pos (by rw [losses.first]; exact positive)]
    unfold CaptureRuntime.appendCapture
    rw [if_neg (by rw [opened]; exact Bool.false_ne_true)]
    dsimp only
    split <;> exact ⟨_, rfl⟩
  obtain ⟨last, appended⟩ := gap
  refine ⟨⟨_, last⟩, ?_, accounts.gapEvent_shows losses⟩
  refine List.mem_append_left _ (List.mem_append_left _ (List.mem_append_right _ ?_))
  rw [appended]
  exact List.mem_singleton_self _

theorem record_kinds {progressPending : Bool} {appending : Appending}
    (stepped : before.record host progressPending = some appending) :
    ∀ appended ∈ appending.1, appended.event.kind ≠ .gap := by
  unfold CaptureRuntime.record at stepped
  split at stepped
  · cases stepped
    unfold CaptureRuntime.recordTrigger
    split
    · exact (CaptureRuntime.emit_appends host _ _).kinds
    · exact nofun
  · cases stepped
    unfold CaptureRuntime.recordEvent
    split
    · exact nofun
    · exact (CaptureRuntime.emit_appends host _ _).kinds
  · cases stepped
    exact nofun
  · cases stepped
    exact nofun
  · cases stepped
  · cases stepped

/-- A gap event is written at the end of a recorder only, and only if there is
something to tell. -/
theorem gap_of_step (accounts : Accounts lost before) (counted : before.LossCounted host input)
    (stepped : before.step host input = some (appended, after))
    {gap : Appended} (member : gap ∈ appended) (kind : gap.event.kind = .gap) : lost ≠ [] := by
  have written := counted.written _ stepped
  unfold CaptureRuntime.step at stepped
  cases input with
  | record progressPending => exact absurd kind (record_kinds stepped gap member)
  | finishRecorder report =>
    dsimp only at stepped
    split at stepped
    · have finished := Option.some.inj stepped
      rw [CaptureRuntime.finishRecorder_eq] at finished
      have same := congrArg Prod.fst finished
      dsimp only at same
      rw [← same] at member written
      have retained :=
        CaptureRuntime.emit_appends host (before.recorder.retention.finish host.sorting) before
      have ended := List.forall_mem_append.mp written
      have reported := List.forall_mem_append.mp ended.1
      have closing := List.forall_mem_append.mp reported.1
      have losses := retained.losses closing.1
      rcases List.mem_append.mp member with early | none
      · rcases List.mem_append.mp early with early | reports
        · rcases List.mem_append.mp early with emitted | own
          · exact absurd kind (retained.kinds gap emitted)
          intro nothing
          have zero := (losses.first).trans (accounts.nothing nothing)
          change gap ∈ ((before.emit host
            (before.recorder.retention.finish host.sorting)).2.appendGap host).1 at own
          unfold CaptureRuntime.appendGap at own
          rw [if_neg (by rw [zero]; simp)] at own
          cases own
        · exact absurd kind ((CaptureRuntime.appendReports_appends host _ _ _).kinds gap reports)
      · cases none
    · cases stepped
  | finishReload armed monotonicNs =>
    refine absurd kind ?_
    dsimp only at stepped
    split at stepped
    · split at stepped
      · have finished := congrArg Prod.fst (Option.some.inj stepped)
        dsimp only at finished
        rw [← finished] at member
        unfold CaptureRuntime.finishReload at member
        dsimp only at member
        split at member
        · unfold CaptureRuntime.recordReload at member
          split at member
          · cases member
          dsimp only at member
          split at member
          all_goals
            rw [List.mem_singleton.mp member]
            exact nofun
        · cases member
      · cases stepped
    · cases stepped
  | cpu =>
    dsimp only at stepped
    split at stepped
    · cases stepped
    · cases stepped
      cases member
  | _ =>
    dsimp only at stepped
    (try split at stepped) <;> cases stepped <;> cases member

/-! ## Runs -/

theorem due_of_inactive (threads : Threads before)
    (inactive : before.active = false) : before.due input = none := by
  have marker (id : ByteString) (value monotonicNs : UInt64) :
      before.dueMarker id value monotonicNs = none := by
    unfold CaptureRuntime.dueMarker CaptureRuntime.takesMarker
    rw [inactive]
    rfl
  unfold CaptureRuntime.due
  split
  · rfl
  split
  · rw [threads.idle inactive]
    rfl
  · exact marker _ _ _
  · exact marker _ _ _
  · exact marker _ _ _
  · rfl

theorem lostInQueue_of_inactive (threads : Threads before) (inactive : before.active = false) :
    lostInQueue ⟨before, input, appended, after⟩ = [] := by
  unfold lostInQueue
  rw [due_of_inactive threads inactive]

/-- What has been told of the losses so far. -/
structure Shown (lost : List UInt64) (written : List Event) (state : CaptureRuntime) : Prop where
  gaps : ∀ event ∈ written, event.kind = .gap → lost ≠ []
  shown : state.recorder.phase = .finished → lost ≠ [] → ∃ gap ∈ written, ShowsLosses gap lost
  marked : state.session = .stopped → lost ≠ [] → state.writer.complete = false

namespace Shown

variable {written : List Event}

section

variable (shown : Shown lost written before)
include shown

/-- A step that brings no thread to its end. -/
theorem goesOn (threads : Threads before) (goes : GoesOn before after) {new : List Event}
    (gaps : ∀ event ∈ new, event.kind = .gap → lost ≠ []) :
    Shown (lost ++ lostInQueue ⟨before, input, appended, after⟩) (written ++ new) after where
  gaps event member kind none := by
    have nothing := (List.append_eq_nil_iff.mp none).1
    rcases List.mem_append.mp member with old | fresh
    · exact shown.gaps event old kind nothing
    · exact gaps event fresh kind nothing
  shown finished := by
    have phase := goes.phase finished
    rw [lostInQueue_of_inactive threads (threads.ending (Or.inr phase)), List.append_nil]
    intro some
    obtain ⟨gap, there, shows⟩ := shown.shown phase some
    exact ⟨gap, List.mem_append_left _ there, shows⟩
  marked stopped := by
    have session := goes.session stopped
    rw [lostInQueue_of_inactive threads
      (threads.ending (Or.inr (threads.closed session).1)), List.append_nil]
    intro some
    exact goes.writer.incomplete (shown.marked session some)

theorem finishRecorder (accounts : Accounts lost before) (threads : Threads before)
    (phase : before.recorder.phase = .finishing) (report : MetricsReport)
    (accepted : ∀ appended ∈ (before.finishRecorder host report).1, appended.accepted = true)
    (gaps : ∀ appended ∈ (before.finishRecorder host report).1,
      appended.event.kind = .gap → lost ≠ []) :
    Shown lost (written ++ ((before.finishRecorder host report).1.filter
        Appended.accepted).map Appended.event)
      (before.finishRecorder host report).2 where
  gaps event member kind := by
    rcases List.mem_append.mp member with old | fresh
    · exact shown.gaps event old kind
    · obtain ⟨appended, there, rfl⟩ := List.mem_map.mp fresh
      exact gaps appended (List.mem_filter.mp there).1 kind
  shown _ some := by
    obtain ⟨appended, there, shows⟩ :=
      finishRecorder_gap accounts threads phase some report accepted
    refine ⟨appended.event, List.mem_append_right _ (List.mem_map_of_mem ?_), shows⟩
    exact List.mem_filter.mpr ⟨there, accepted appended there⟩
  marked stopped := by
    have same := @finishRecorder_threads before host report
    have session : before.session = .stopped := same.session.symm.trans stopped
    have finished := (threads.closed session).1
    rw [phase] at finished
    cases finished

/-- The end of a reload, and that of the session: the writer is closed, or goes
on with the threads. -/
theorem closing (phase : before.recorder.phase = .finished) {new : List Event}
    (gaps : ∀ event ∈ new, event.kind = .gap → lost ≠ [])
    (marked : after.session = .stopped → lost ≠ [] → after.writer.complete = false) :
    Shown lost (written ++ new) after where
  gaps event member kind := by
    rcases List.mem_append.mp member with old | fresh
    · exact shown.gaps event old kind
    · exact gaps event fresh kind
  shown _ some := by
    obtain ⟨gap, there, shows⟩ := shown.shown phase some
    exact ⟨gap, List.mem_append_left _ there, shows⟩
  marked := marked

/-- A step whose losses are counted tells of them in the end. -/
theorem step (accounts : Accounts lost before) (threads : Threads before)
    (counted : before.LossCounted host input)
    (stepped : before.step host input = some (appended, after)) :
    Shown (lost ++ lostInQueue ⟨before, input, appended, after⟩)
      (written ++ (appended.filter Appended.accepted).map Appended.event) after := by
  have accepted := counted.written _ stepped
  have gaps : ∀ event ∈ (appended.filter Appended.accepted).map Appended.event,
      event.kind = .gap → lost ≠ [] := by
    intro event member kind
    obtain ⟨own, there, rfl⟩ := List.mem_map.mp member
    exact gap_of_step accounts counted stepped (List.mem_filter.mp there).1 kind
  by_cases recorder : ∃ report, input = .finishRecorder report
  · obtain ⟨report, rfl⟩ := recorder
    obtain ⟨phase, finished⟩ := Option.ite_none_right_eq_some.mp stepped
    have finished := Option.some.inj finished
    rw [lostInQueue_of_inactive threads (threads.ending (Or.inl phase)), List.append_nil]
    have ends := @finishRecorder host before lost written shown accounts
      threads phase report (by rw [finished]; exact accepted) (by
        rw [finished]
        exact fun own member => gap_of_step accounts counted stepped member)
    rw [finished] at ends
    exact ends
  by_cases reload : ∃ armed monotonicNs, input = .finishReload armed monotonicNs
  · obtain ⟨armed, monotonicNs, rfl⟩ := reload
    have reloaded := stepped
    unfold CaptureRuntime.step at reloaded
    dsimp only at reloaded
    split at reloaded
    · rename_i profile profileJson reloading
      split at reloaded
      · rename_i phase
        have finished := Option.some.inj reloaded
        rw [lostInQueue_of_inactive threads (threads.ending (Or.inr phase)), List.append_nil]
        refine shown.closing phase gaps fun stopped some => ?_
        have ends := @finishReload_threads before host profile profileJson armed monotonicNs
        rw [finished] at ends
        dsimp only at ends
        rcases ends with ⟨-, -, session, -⟩ | ⟨unarmed | ⟨own, member, refused⟩, -, incomplete⟩
        · rw [session] at stopped
          cases stopped
        · rcases counted.armed monotonicNs (by rw [unarmed]) with
            complete | marked
          · exact absurd (accounts.nothing_of_complete complete) some
          · exact incomplete marked
        · rw [accepted own member] at refused
          cases refused
      · cases reloaded
    · cases reloaded
  by_cases stop : input = .finishStop
  · subst stop
    obtain ⟨joined, ended⟩ := Option.ite_none_right_eq_some.mp stepped
    rw [lostInQueue_of_inactive threads (threads.ending (Or.inr joined.2)), List.append_nil]
    refine shown.closing joined.2 gaps fun _ some => ?_
    obtain ⟨incomplete, path, -⟩ := accounts.something some
    have opened := threads.opened (by rw [joined.1]; exact nofun)
    cases ended
    unfold CaptureRuntime.finishStop
    rw [if_pos (by rw [opened, path]), incomplete]
    exact Capture.CaptureWriter.close_incomplete host _ rfl
  have goes := GoesOn.step stepped (fun report same => recorder ⟨report, same⟩)
    (fun armed monotonicNs same => reload ⟨armed, monotonicNs, same⟩) stop
  exact shown.goesOn threads goes gaps

end

end Shown

theorem lostInWriter_of_counted (counted : before.LossCounted host input)
    (stepped : before.step host input = some (appended, after)) :
    lostInWriter ⟨before, input, appended, after⟩ = [] := by
  unfold lostInWriter
  rw [List.map_eq_nil_iff, List.filter_eq_nil_iff]
  intro own member
  rw [counted.written _ stepped own member]
  simp

theorem start_holds {sizeofRawEvent : Nat} {profile : CaptureProfile}
    {options : SessionOptions} {files : Capture.Files} {start : CaptureRuntime}
    (started : CaptureRuntime.start host sizeofRawEvent profile options files = some start) :
    Threads start ∧ Accounts [] start ∧ Shown [] [] start := by
  have holds (writer : Capture.CaptureWriter)
      (opened : writer.isOpen = options.capturePath.isSome) :
      let state : CaptureRuntime :=
        { profile, options
          captureEnabled := options.capturePath.isSome
          captureQueue := .configure (CaptureRuntime.captureCapacity
            sizeofRawEvent profile.limits) {}
          writer
          recorder := { retention := .create profile } }
      Threads state ∧ Accounts [] state ∧ Shown [] [] state := by
    refine ⟨?_, ?_, ?_⟩
    · exact
        { live := ⟨fun _ => Or.inl rfl, fun _ => rfl⟩
          stop := rfl
          idle := nofun
          ending := by rintro (wrong | wrong) <;> cases wrong
          opened := fun _ => opened
          closed := nofun }
    · exact
        { enabled := (Bool.and_true _).symm
          drops := rfl
          bounded := Nat.two_pow_pos 64
          nothing := fun _ => rfl
          something := fun some => absurd rfl some
          range := nofun }
    · exact ⟨nofun, nofun, nofun⟩
  unfold CaptureRuntime.start at started
  dsimp only at started
  split at started
  · rename_i none
    cases started
    refine holds _ ?_
    rw [none]
    rfl
  rename_i path there
  split at started
  · rename_i opened
    cases started
    refine holds _ ?_
    rw [there]
    exact Capture.CaptureWriter.open_isOpen host _ (Option.isNone_iff_eq_none.mp opened)
  · cases started

/-- What holds in every run whose losses are counted. -/
structure Told (history : List RuntimeStep) (state : CaptureRuntime) : Prop where
  threads : Threads state
  accounts : Accounts (lostEvents history) state
  shown : Shown (lostEvents history) (writtenEvents history) state

theorem Told.step {history : List RuntimeStep} (told : Told history before)
    (counted : before.LossCounted host input)
    (stepped : before.step host input = some (appended, after)) :
    Told (history ++ [⟨before, input, appended, after⟩]) after := by
  have lost : lostEvents (history ++ [⟨before, input, appended, after⟩]) =
      lostEvents history ++ lostInQueue ⟨before, input, appended, after⟩ := by
    unfold lostEvents
    rw [List.flatMap_append, List.flatMap_singleton,
      lostInWriter_of_counted counted stepped, List.append_nil]
  have written : writtenEvents (history ++ [⟨before, input, appended, after⟩]) =
      writtenEvents history ++ (appended.filter Appended.accepted).map Appended.event := by
    unfold writtenEvents
    rw [List.flatMap_append, List.flatMap_singleton]
  constructor
  · exact told.threads.step stepped
  · rw [lost]
    exact told.accounts.step counted stepped
  · rw [lost, written]
    exact told.shown.step told.accounts told.threads counted stepped

namespace Sample

/-- A probe whose events are queued in a queue of the smallest capacity. -/
def capturedProfile : CaptureProfile where
  limits := { maxEvents := 16 }
  probes := [{ id := text "hit" }]

def capturedOptions : SessionOptions where
  capturePath := some { stem := text "probe" }

/-- A host on which everything can be written. -/
def recordingHost : CaptureHost := Capture.Sample.storingHost fun _ => true

/-- The recorder takes nothing before it is to stop. -/
def lateRecorder : List RuntimeInput :=
  .beginStop :: List.replicate 20 (.record false) ++ [.finishRecorder {}, .finishStop]

/-- A hit of the probe. -/
def captured : List RuntimeInput :=
  [.routedPc
      { pc := 0x80001000
        guest := { gpr := fun _ => 0, linkRegister := 0
                   readGuestValue := fun _ _ => none }
        sampled := [⟨0, 1, true⟩] }, .cpu]

theorem capturing_starts : (CaptureRuntime.start recordingHost 65536 capturedProfile capturedOptions
      (fun _ => none)).isSome = true := by
  decide +kernel

end Sample

end Savor.Probe
