import Savor.Capture.WriterSteps

/-!
# Captures come back

What is read of a capture whose calls all returned true are its events, and a
capture of which a call failed is not verified.
-/

namespace Savor.Capture

open Program (ByteString text)

variable {host : CaptureHost} {base : CapturePath}

namespace CaptureWriter

variable {writer : CaptureWriter} {log : CaptureLog}

/-! ## What is read of the files -/

/-- A segment that is found and not complete is enough. -/
theorem Abandoned.verify (abandoned : Abandoned host base writer) :
    (verify host writer.files base).ok = false := by
  obtain ⟨index, few, there, content, held, unfinished⟩ := abandoned.broken
  have found := mem_discoverSegments there few
  have read : readSegment host content ∈ readSegments host writer.files base := by
    refine List.mem_map.mpr ⟨index, found, ?_⟩
    rw [held]
    rfl
  have nonempty : (readSegments host writer.files base).isEmpty = false := by
    rw [List.isEmpty_eq_false_iff]
    exact List.ne_nil_of_mem read
  unfold Capture.verify
  simp only [nonempty, Bool.false_eq_true, if_false, Bool.and_eq_false_iff]
  refine Or.inr (List.all_eq_false.mpr ⟨_, read, ?_⟩)
  rw [Bool.not_eq_true]
  exact unfinished

/-- A capture that goes on has no footer yet. -/
theorem Recording.unfinished (recording : Recording host log writer)
    (basePath : writer.basePath = base) : Abandoned host base { writer with stream := none } := by
  subst basePath
  have done := recording.done
  have same : writer.files = Function.update writer.files
      (writer.path log.closed.length)
      (some (fileHeaderBytes writer.metadata ++ recordBytes log.records)) :=
    (Function.update_eq_self_iff.mpr recording.content.symm).symm
  have within : fileHeaderBytes writer.metadata ++ recordBytes log.records <+:
      fileHeaderBytes writer.metadata ++ (recordBytes log.records ++ []) := by
    simp only [List.append_nil, List.prefix_rfl]
  refine done.abandoned rfl rfl same (unfinished_of_start done.fits recording.formed within ?_)
  intro other rest _
  rw [List.prefix_nil.mp rest]
  exact .nil

variable {closed : List SealedSegment}

section

variable (finished : Finished host closed writer)
include finished

/-- The segments that are found are the sealed ones. -/
theorem Finished.readSegments (nonempty : closed ≠ []) :
    readSegments host writer.files writer.basePath =
      closed.map fun segment => readSegment host (segment.bytes writer.metadata) := by
  have positive := List.length_pos_iff.mpr nonempty
  have few := finished.few
  have last : closed.length - 1 + 1 = closed.length := by omega
  have found : discoverSegments writer.files writer.basePath = List.range closed.length := by
    rw [← last]
    refine discoverSegments_eq ?_ ?_ (by omega)
    · intro index within
      have segment := finished.segments index (by omega)
      unfold path at segment
      rw [segment]
      rfl
    · rw [last]
      exact finished.absent closed.length (Nat.le_refl _)
  unfold Capture.readSegments
  rw [found]
  apply List.ext_getElem
  · simp
  intro index left right
  have there : index < closed.length := by simpa using right
  have segment := finished.segments index there
  unfold path at segment
  simp [segment]

theorem Finished.read (segment : SealedSegment) (member : segment ∈ closed) :
    let read := readSegment host (segment.bytes writer.metadata)
    read.events = (recordEvents segment.records).map Event.carried ∧
      read.errors = [] ∧ read.hasFooter = true ∧ read.complete = segment.footer.complete ∧
      (segment.footer.complete = true → read.warnings = []) :=
  readSegment_sealed finished.fits (finished.formed segment member)

theorem Finished.errors (nonempty : closed ≠ []) :
    (Capture.readSegments host writer.files writer.basePath).flatMap SegmentInfo.errors = [] := by
  rw [finished.readSegments nonempty, List.flatMap_map, List.flatMap_eq_nil_iff]
  intro segment member
  exact (finished.read segment member).2.1

theorem Finished.events (nonempty : closed ≠ []) :
    (Capture.readSegments host writer.files writer.basePath).flatMap SegmentInfo.events =
      (CaptureLog.events { closed }).map Event.carried := by
  rw [finished.readSegments nonempty, List.flatMap_map]
  have each : ∀ segment ∈ closed,
      (readSegment host (segment.bytes writer.metadata)).events =
        (recordEvents segment.records).map Event.carried :=
    fun segment member => (finished.read segment member).1
  rw [List.flatMap_congr each]
  simp [CaptureLog.events, recordEvents, List.map_flatMap]

theorem Finished.verify (nonempty : closed ≠ []) :
    (Capture.verify host writer.files writer.basePath).ok = true ↔
      ∀ segment ∈ closed, segment.footer.complete = true := by
  have segments := finished.readSegments nonempty
  have errors := finished.errors nonempty
  have some : (Capture.readSegments host writer.files writer.basePath).isEmpty = false := by
    rw [segments, List.isEmpty_eq_false_iff, ne_eq, List.map_eq_nil_iff]
    exact nonempty
  unfold Capture.verify
  simp only [some, errors, Bool.false_eq_true, if_false, List.isEmpty_nil,
    Bool.true_and, List.all_eq_true, Bool.and_eq_true]
  rw [segments]
  constructor
  · intro all segment member
    obtain ⟨-, -, -, complete, -⟩ := finished.read segment member
    rw [← complete]
    exact (all _ (List.mem_map_of_mem member)).2
  intro all read member
  obtain ⟨segment, there, rfl⟩ := List.mem_map.mp member
  obtain ⟨-, -, footer, complete, -⟩ := finished.read segment there
  exact ⟨footer, complete.trans (all segment there)⟩

theorem Finished.warnings (nonempty : closed ≠ [])
    (complete : ∀ segment ∈ closed, segment.footer.complete = true) :
    (Capture.readSegments host writer.files writer.basePath).flatMap SegmentInfo.warnings = [] := by
  rw [finished.readSegments nonempty, List.flatMap_map, List.flatMap_eq_nil_iff]
  intro segment member
  exact (finished.read segment member).2.2.2.2 (complete segment member)

end

/-! ## Following the calls -/

/-- Where a capture stands after some calls.  It goes on, and holds the events if
all calls returned true; if one did not, it is marked as incomplete.  Or it was
abandoned. -/
inductive Stands (host : CaptureHost) (base : CapturePath)
    (events : List Event) (succeeded marked : Bool) (writer : CaptureWriter) : Prop
  | recording (log : CaptureLog) (recording : Recording host log writer)
      (isOpen : writer.isOpen = true) (basePath : writer.basePath = base)
      (holds : succeeded = true → log.events ++ writer.pending = events)
      (failed : succeeded = false → writer.complete = false)
      (complete : succeeded = true → marked = false → writer.complete = true)
  | abandoned (abandoned : Abandoned host base writer) (failed : succeeded = false)

/-- The events that calls append. -/
def callEvents (calls : List WriterCall) : List Event :=
  calls.filterMap fun
    | .append event => some event
    | .markIncomplete _ => none

/-- Whether a call marks the capture as incomplete. -/
def marks : WriterCall → Bool
  | .append _ => false
  | .markIncomplete _ => true

/-- A call meets the conditions of the reader and of the directory: an appended
event does not move backwards, and if a chunk is due, it can be written. -/
def CallAllowed (host : CaptureHost) (writer : CaptureWriter) : WriterCall → Prop
  | .append event =>
    writer.isOpen = true →
      writer.movesBackwards event = false ∧
        ((writer.addPending host event).isChunkDue event = true →
          ChunkAllowed host (writer.addPending host event))
  | .markIncomplete _ => True

/-- Every call meets the conditions, and so does closing. -/
def CallsAllowed (host : CaptureHost) : CaptureWriter → List WriterCall → Prop
  | writer, [] => writer.isOpen = true → writer.pending ≠ [] → ChunkAllowed host writer
  | writer, call :: calls =>
    CallAllowed host writer call ∧ CallsAllowed host (writer.call host call).2 calls

/-- An event that waits with the others. -/
theorem Recording.addPending (recording : Recording host log writer)
    (event : Event) : Recording host log (writer.addPending host event) :=
  { recording with
    done := { recording.done with }
    events := by
      change writer.segmentEventCount + 1 = _
      rw [recording.events]
      simp [CaptureWriter.addPending, UInt64.add_assoc] }

section Append

variable {events : List Event} {marked : Bool}

/-- Appending to a capture that goes on. -/
theorem Recording.append (faithful : host.Faithful)
    (recording : Recording host log writer) (isOpen : writer.isOpen = true)
    {event : Event} (allowed : CallAllowed host writer (.append event)) :
    (∃ after, writer.append host event = (none, after) ∧
        writer.Keeps after ∧ ∃ next, Recording host next after ∧
          next.events ++ after.pending = log.events ++ writer.pending ++ [event]) ∨
      Interrupted host writer (writer.append host event) ∨
      ((writer.append host event).1.isSome = true ∧
        Abandoned host writer.basePath (writer.append host event).2) := by
  obtain ⟨forwards, chunk⟩ := allowed isOpen
  have added := recording.addPending event
  unfold CaptureWriter.append
  rw [if_neg (by simp [isOpen]), if_neg (by simp [forwards])]
  by_cases due : (writer.addPending host event).isChunkDue event = true
  · rw [if_pos due]
    rcases added.flushChunk faithful fun _ => chunk due with
      interrupted | ⟨error, flushed⟩ | ⟨failed, abandoned⟩
    · exact Or.inr (Or.inl { interrupted with })
    · refine Or.inl ⟨_, Prod.ext error rfl, ?_, ?_⟩
      · exact ⟨flushed.keeps.isOpen, flushed.keeps.basePath,
          flushed.keeps.metadata, flushed.keeps.options,
          flushed.keeps.complete, flushed.keeps.reason⟩
      obtain ⟨next, recorded, same⟩ := flushed.recording
      refine ⟨next, recorded, ?_⟩
      rw [flushed.pending, same, List.append_nil, List.append_assoc]
      rfl
    · exact Or.inr (Or.inr ⟨failed, abandoned⟩)
  · rw [if_neg due]
    refine Or.inl ⟨_, rfl, ⟨rfl, rfl, rfl, rfl, rfl, rfl⟩, log, added, ?_⟩
    rw [List.append_assoc]
    rfl

end Append

theorem call_of_failed (host : CaptureHost) (failed : writer.stream = none) (call : WriterCall) :
    Idles writer (writer.call host call).2 := by
  cases call with
  | markIncomplete reason => exact ⟨rfl, failed, rfl⟩
  | append event =>
    unfold CaptureWriter.call CaptureWriter.append
    dsimp only
    split
    · exact ⟨rfl, failed, rfl⟩
    split
    · exact ⟨rfl, failed, rfl⟩
    split
    · have stopped : (writer.addPending host event).stream = none := failed
      exact flushChunk_of_failed host stopped
    · exact ⟨rfl, failed, rfl⟩

theorem Abandoned.idle {after : CaptureWriter}
    (abandoned : Abandoned host base writer) (idles : Idles writer after) :
    Abandoned host base after :=
  abandoned.congr idles.1 idles.2.1 idles.2.2

section Following

variable {events : List Event} {succeeded marked : Bool}

theorem Stands.call (faithful : host.Faithful)
    (stands : Stands host base events succeeded marked writer)
    {call : WriterCall} (allowed : CallAllowed host writer call) :
    Stands host base (events ++ callEvents [call])
      (succeeded && (writer.call host call).1.isNone) (marked || marks call)
      (writer.call host call).2 := by
  cases stands with
  | abandoned abandoned failed =>
    refine .abandoned (abandoned.idle (call_of_failed host abandoned.stream call)) ?_
    rw [failed, Bool.false_and]
  | recording log recording isOpen basePath holds failed complete =>
    cases call with
    | markIncomplete reason =>
      refine .recording log (recording.markIncomplete reason) isOpen basePath ?_ (fun _ => rfl) ?_
      · intro all
        have before := (Bool.and_eq_true_iff.mp all).1
        have none : callEvents [.markIncomplete reason] = [] := rfl
        rw [none, List.append_nil]
        exact holds before
      · intro _ unmarked
        simp [marks] at unmarked
    | append event =>
      have called : callEvents [.append event] = [event] := rfl
      rcases recording.append faithful isOpen allowed with
        ⟨after, same, keeps, next, recorded, written⟩ | interrupted |
        ⟨error, abandoned⟩
      · have equal : writer.call host (.append event) = (none, after) := same
        rw [equal]
        refine .recording next recorded (keeps.isOpen.trans isOpen)
          (keeps.basePath.trans basePath) ?_ ?_ ?_
        · intro all
          rw [Option.isNone_none, Bool.and_true] at all
          rw [written, holds all, called]
        · intro wrong
          rw [Option.isNone_none, Bool.and_true] at wrong
          exact keeps.complete.trans (failed wrong)
        intro all unmarked
        rw [Option.isNone_none, Bool.and_true] at all
        rw [marks, Bool.or_false] at unmarked
        exact keeps.complete.trans (complete all unmarked)
      · obtain ⟨next, recorded⟩ := interrupted.recording
        have wrong : (writer.append host event).1.isNone = false := by
          rw [Option.isNone_eq_false_iff]
          exact interrupted.failed
        have refused : ¬(succeeded && (writer.append host event).1.isNone) = true := by
          rw [wrong, Bool.and_false]
          exact Bool.false_ne_true
        exact .recording next recorded (interrupted.isOpen.trans isOpen)
          (interrupted.basePath.trans basePath)
          (fun all => absurd all refused)
          (fun _ => interrupted.complete)
          (fun all => absurd all refused)
      · have wrong : (writer.append host event).1.isNone = false := by
          rw [Option.isNone_eq_false_iff]
          exact error
        rw [basePath] at abandoned
        refine .abandoned abandoned ?_
        exact (congrArg (succeeded && ·) wrong).trans (Bool.and_false _)

/-- What the calls do to the standing of a capture.  The induction is on the
calls. -/
theorem Stands.callAll (faithful : host.Faithful) {calls : List WriterCall}
    (stands : Stands host base events succeeded marked writer)
    (allowed : CallsAllowed host writer calls) : Stands host base (events ++ callEvents calls)
        (succeeded && (writer.callAll host calls).1.all Option.isNone)
        (marked || calls.any marks) (writer.callAll host calls).2 ∧
      CallsAllowed host (writer.callAll host calls).2 [] := by
  induction calls generalizing writer events succeeded marked with
  | nil =>
    refine ⟨?_, allowed⟩
    simpa [CaptureWriter.callAll, callEvents] using stands
  | cons call calls ih =>
    obtain ⟨first, rest⟩ := allowed
    have called := stands.call faithful first
    obtain ⟨all, closing⟩ := ih called rest
    refine ⟨?_, closing⟩
    have split : callEvents (call :: calls) = callEvents [call] ++ callEvents calls := by
      cases call <;> rfl
    rw [split, ← List.append_assoc, List.any_cons, ← Bool.or_assoc]
    simpa [CaptureWriter.callAll, Bool.and_assoc] using all

end Following

/-! ## Closing -/

/-- How a capture ends: all its segments are sealed, or it is not complete. -/
inductive Concludes (host : CaptureHost) (base : CapturePath)
    (events : List Event) (succeeded marked : Bool) (written : Written) : Prop
  | sealed (error : written.1 = none) (closed : List SealedSegment)
      (nonempty : closed ≠ []) (finished : Finished host closed written.2)
      (basePath : written.2.basePath = base)
      (holds : succeeded = true → CaptureLog.events { closed } = events)
      (failed : succeeded = false → ∃ segment ∈ closed, segment.footer.complete = false)
      (complete : succeeded = true → marked = false →
        ∀ segment ∈ closed, segment.footer.complete = true)
  | abandoned (abandoned : Abandoned host base written.2)
      (failed : succeeded = false ∨ written.1.isSome = true)

theorem close_of_failed (host : CaptureHost) (failed : writer.stream = none) :
    Idles writer (writer.close host).2 := by
  unfold CaptureWriter.close
  split
  · exact ⟨rfl, failed, rfl⟩
  obtain ⟨basePath, stream, files⟩ := flushChunk_of_failed host failed
  unfold Written.andThen
  split
  · exact ⟨basePath, rfl, files⟩
  · obtain ⟨basePath', -, files'⟩ := writeFooter_of_failed host stream
    exact ⟨basePath'.trans basePath, rfl, files'.trans files⟩

theorem Stands.close {events : List Event} {succeeded marked : Bool} (faithful : host.Faithful)
    (stands : Stands host base events succeeded marked writer)
    (allowed : CallsAllowed host writer []) :
    Concludes host base events succeeded marked (writer.close host) := by
  cases stands with
  | abandoned abandoned failed =>
    have idles := close_of_failed host abandoned.stream
    exact .abandoned (abandoned.idle idles) (Or.inl failed)
  | recording log recording isOpen basePath holds failed complete =>
    unfold CaptureWriter.close
    rw [if_neg (by simp [isOpen])]
    rcases recording.flushChunk faithful (allowed isOpen) with
      interrupted | flushed
    · obtain ⟨next, recorded⟩ := interrupted.recording
      obtain ⟨error, wrong⟩ := Option.isSome_iff_exists.mp interrupted.failed
      rw [andThen_of_failed wrong]
      refine .abandoned ?_ (Or.inr rfl)
      have unfinished := recorded.unfinished (interrupted.basePath.trans basePath)
      exact unfinished.congr rfl rfl rfl
    have ends : Ends host writer.basePath
        (fun after => ∃ last middle, Sealing host last middle after ∧
          writer.Keeps middle ∧ last.events = log.events ++ writer.pending)
        ((writer.flushChunk host).andThen fun flushed =>
          flushed.writeFooter host) := by
      refine flushed.andThen ?_
      intro middle ⟨keeps, pending, last, recorded, same⟩
      rw [← keeps.basePath]
      refine (recorded.writeFooter pending).imp ?_
      intro after sealing
      exact ⟨last, middle, sealing, keeps, same⟩
    rcases ends with ⟨error, last, middle, sealing, keeps, same⟩ | ⟨wrong, abandoned⟩
    · obtain ⟨segment, sameEvents, footer, finished⟩ := sealing.finished
      refine .sealed error (last.closed ++ [segment]) (by simp) { finished with } ?_ ?_ ?_ ?_
      · exact (sealing.keeps.basePath.trans keeps.basePath).trans basePath
      · intro all
        rw [last.events_seal sameEvents, same]
        exact holds all
      · intro wrong
        refine ⟨segment, by simp, ?_⟩
        rw [footer, keeps.complete]
        exact failed wrong
      intro all unmarked
      apply finished.complete
      rw [sealing.keeps.complete, keeps.complete]
      exact complete all unmarked
    · rw [basePath] at abandoned
      exact .abandoned (abandoned.congr rfl rfl rfl) (Or.inr wrong)

/-! ## Opening -/

theorem verify_of_absent {files : Files} (absent : ∀ index, files (segmentPath base index) = none) :
    (Capture.verify host files base).ok = false := by
  have none : discoverSegments files base = [] := by
    have later : discoverFrom files base maximumSegmentIndex 1 = List.range' 1 0 :=
      discoverFrom_eq (fun index first before => by omega) (absent 1) (by decide)
    unfold discoverSegments
    rw [later, absent 0]
    rfl
  unfold Capture.verify Capture.readSegments
  rw [none]
  rfl

theorem callAll_of_failed (host : CaptureHost)
    (failed : writer.stream = none) (calls : List WriterCall) :
    Idles writer (writer.callAll host calls).2 := by
  induction calls generalizing writer with
  | nil => exact ⟨rfl, failed, rfl⟩
  | cons call calls ih =>
    obtain ⟨basePath, stream, files⟩ := call_of_failed host failed call
    obtain ⟨basePath', stream', files'⟩ := ih stream
    exact ⟨basePath'.trans basePath, stream', files'.trans files⟩

/-- How opening a capture ends: a capture that goes on, no file at all, or a
first file that is not complete. -/
theorem open_cases {files : Files} (absent : ∀ index, files (segmentPath base index) = none)
    {metadata : FileMetadata} (fits : (encodeMetadata metadata).length ≤ maximumMetadataSize)
    (options : WriterOptions) :
    let opened := CaptureWriter.open host { files } base metadata options
    (opened.1 = none ∧ opened.2.isOpen = true ∧ Stands host base [] true false opened.2) ∨
      (opened.1.isSome = true ∧ opened.2.stream = none ∧
        (Capture.verify host opened.2.files base).ok = false) := by
  unfold CaptureWriter.open
  rw [if_neg Bool.false_ne_true]
  split
  · exact Or.inr ⟨rfl, rfl, verify_of_absent absent⟩
  let prepared := prepare { files } base metadata options
  have finished : Finished host [] prepared :=
    { fits
      few := Nat.zero_le _
      segments := fun index there => absurd there (Nat.not_lt_zero _)
      absent := fun index _ => absent index
      formed := by simp
      complete := by simp
      reason := fun _ => rfl }
  cases opens : host.opens (prepared.path 0) with
  | true =>
    have ends := finished.openSegment rfl (by decide) opens rfl
    unfold finishOpen
    rcases ends with ⟨error, keeps, pending, recorded⟩ | ⟨error, abandoned⟩
    · refine Or.inl ?_
      rw [error]
      refine ⟨error, keeps.isOpen, .recording _ recorded keeps.isOpen
        keeps.basePath ?_ ?_ fun _ _ => keeps.complete⟩
      · intro _
        rw [pending]
        rfl
      · rintro ⟨⟩
    obtain ⟨message, failed⟩ := Option.isSome_iff_exists.mp error
    refine Or.inr ?_
    rw [failed]
    exact ⟨rfl, abandoned.stream, abandoned.verify⟩
  | false =>
    have refused : prepared.openSegment host =
        (some (text "failed opening capture segment " ++ prepared.path 0),
          { prepared with stream := none }) := by
      have closed : prepared.truncate host (prepared.path 0) =
          { prepared with stream := none } := by
        unfold truncate
        rw [opens, if_neg Bool.false_ne_true]
      have name : segmentPath prepared.basePath prepared.segmentIndex = prepared.path 0 := rfl
      unfold CaptureWriter.openSegment
      rw [name]
      dsimp only
      rw [closed]
      rfl
    refine Or.inr ?_
    unfold finishOpen
    rw [refused]
    exact ⟨rfl, rfl, verify_of_absent absent⟩

end CaptureWriter

/-!
## The round trip of a capture

A capture is opened, appended to and closed.  If everything returns true, the
reader finds its events; if something does not, the capture is not verified.
The directory has to go along: once a footer is written, a capture whose next
segment cannot be opened looks complete.
-/

open CaptureWriter (callEvents marks CallsAllowed)

/-- The events of a capture. -/
def CapturePlan.events (plan : CapturePlan) : List Event := callEvents plan.calls

/-- Whether a capture is to be complete. -/
def CapturePlan.isComplete (plan : CapturePlan) : Bool := !plan.calls.any marks

/-- What is read of a capture are its events, without an error.  If it was not
marked as incomplete, there is no warning, and it is verified. -/
structure ReadsBack (host : CaptureHost) (plan : CapturePlan) (files : Files) : Prop where
  ok : (readAll host files plan.path).ok = true
  events : (readAll host files plan.path).events = plan.events.map Event.carried
  error : (readAll host files plan.path).error = none
  errors : (verify host files plan.path).errors = []
  warnings : plan.isComplete = true →
    (readAll host files plan.path).report.map VerificationReport.warnings = some [] ∧
      (verify host files plan.path).warnings = []
  verified : plan.isComplete = true → (verify host files plan.path).ok = true

/-- A capture whose calls all returned true is read back, and no other one is
verified. -/
def CaptureRoundTrips (host : CaptureHost) (plan : CapturePlan) (outcome : CaptureOutcome) : Prop :=
  (outcome.succeeded = true → ReadsBack host plan outcome.files) ∧
    (outcome.succeeded = false → (verify host outcome.files plan.path).ok = false)

/-- No file has the name of a segment. -/
def NoSegments (files : Files) (base : CapturePath) : Prop :=
  ∀ index, files (segmentPath base index) = none

/-- The conditions of the reader and of the directory: the metadata are not too
large, and every call meets them. -/
structure CaptureAllowed (host : CaptureHost) (plan : CapturePlan) (files : Files) : Prop where
  metadata : (encodeMetadata plan.metadata).length ≤ maximumMetadataSize
  calls : CallsAllowed host
    (CaptureWriter.open host { files } plan.path plan.metadata plan.options).2 plan.calls

namespace CaptureWriter

variable {writer : CaptureWriter}
variable {closed : List SealedSegment}

theorem Finished.readsBack (finished : Finished host closed writer)
    (nonempty : closed ≠ []) {plan : CapturePlan} (basePath : writer.basePath = plan.path)
    (holds : CaptureLog.events { closed } = plan.events) (complete : plan.isComplete = true →
      ∀ segment ∈ closed, segment.footer.complete = true) :
    ReadsBack host plan writer.files := by
  have errors := finished.errors nonempty
  have events := finished.events nonempty
  have warnings := finished.warnings nonempty
  have verified := finished.verify nonempty
  have some : (Capture.readSegments host writer.files writer.basePath).isEmpty = false := by
    rw [finished.readSegments nonempty, List.isEmpty_eq_false_iff, ne_eq, List.map_eq_nil_iff]
    exact nonempty
  rw [basePath] at errors events warnings verified some
  rw [holds] at events
  constructor
  · simp [readAll, some, errors]
  · simpa [readAll, some] using events
  · simp [readAll, some, errors]
  · simp [Capture.verify, some, errors]
  · intro all
    have silent := warnings (complete all)
    simp [readAll, Capture.verify, some, silent]
  · intro all
    exact verified.mpr (complete all)

theorem Concludes.roundTrips {plan : CapturePlan} {succeeded : Bool} {written : Written}
    (concludes : Concludes host plan.path plan.events succeeded (plan.calls.any marks) written) :
    ((succeeded && written.1.isNone) = true → ReadsBack host plan written.2.files) ∧
      ((succeeded && written.1.isNone) = false →
        (Capture.verify host written.2.files plan.path).ok = false) := by
  cases concludes with
  | sealed error closed nonempty finished basePath holds failed complete =>
    rw [error, Option.isNone_none, Bool.and_true]
    constructor
    · intro all
      refine finished.readsBack nonempty basePath (holds all) ?_
      intro unmarked
      rw [CapturePlan.isComplete, Bool.not_eq_true'] at unmarked
      exact complete all unmarked
    intro wrong
    obtain ⟨segment, member, incomplete⟩ := failed wrong
    rw [← basePath, ← Bool.not_eq_true, finished.verify nonempty]
    intro all
    rw [all segment member] at incomplete
    cases incomplete
  | abandoned abandoned failed =>
    refine ⟨fun all => ?_, fun _ => abandoned.verify⟩
    obtain ⟨called, closed⟩ := Bool.and_eq_true_iff.mp all
    rcases failed with wrong | wrong
    · rw [wrong] at called
      cases called
    · rw [← Option.not_isSome, wrong] at closed
      cases closed

end CaptureWriter

/-- A capture whose condition is met is read back if all its calls returned
true, and is not verified if one did not. -/
theorem capture_round_trips (host : CaptureHost) (plan : CapturePlan)
    (files : Files) (faithful : host.Faithful) (absent : NoSegments files plan.path)
    (allowed : CaptureAllowed host plan files) :
    CaptureRoundTrips host plan (plan.capture host files) := by
  have opening := @CaptureWriter.open_cases host _ _ absent
    _ allowed.metadata plan.options
  have calls := allowed.calls
  unfold CapturePlan.capture
  dsimp only at opening ⊢
  generalize CaptureWriter.open host { files } plan.path plan.metadata
    plan.options = opened at opening calls ⊢
  rcases opening with ⟨error, -, stands⟩ | ⟨failed, stopped, unverified⟩
  · obtain ⟨after, closing⟩ := stands.callAll faithful calls
    rw [List.nil_append, Bool.true_and, Bool.false_or] at after
    have concludes := after.close faithful closing
    generalize opened.2.callAll host plan.calls = called at concludes ⊢
    rw [CaptureRoundTrips, CaptureOutcome.succeeded, error]
    rw [Option.isNone_none, Bool.true_and]
    exact concludes.roundTrips
  obtain ⟨basePath, stream, files'⟩ := CaptureWriter.callAll_of_failed host stopped plan.calls
  obtain ⟨-, -, same⟩ := CaptureWriter.close_of_failed host stream
  constructor
  · intro succeeded
    rw [CaptureOutcome.succeeded, Option.isNone_eq_false_iff.mpr failed] at succeeded
    cases succeeded
  intro _
  rw [same, files']
  exact unverified

/-! ## Two captures -/

namespace Sample

/-- Blocks are stored as they are, no write fails, and these files can be
opened. -/
def storingHost (opens : ByteString → Bool) : CaptureHost where
  sizeofEvent := 112
  sizeofField := 152
  compress _ _ bytes := .ok bytes
  decompress size packed := if packed.length = size then some packed else none
  checksum bytes := UInt64.ofNat (bytes.map UInt8.toNat).sum
  opens
  keeps _ := none
  sorting := .insertion

theorem storingHost_faithful (opens : ByteString → Bool) : (storingHost opens).Faithful := by
  intro call level bytes packed stored
  cases stored
  exact if_pos rfl

def first : Event where
  recordSequence := 1
  fields := [{ type := .text, bytes := [9] }]

def second : Event where
  recordSequence := 2

/-- Every event is a chunk, and every chunk a segment. -/
def plan : CapturePlan where
  path := { stem := text "probe", extension := text ".savorcap" }
  metadata := { sessionId := text "7" }
  options := { eventsPerChunk := 1, rotateBytes := 1 }
  calls := [.append first, .append second]

theorem chunkAllowed {writer : CaptureWriter} (event : Event)
    (waiting : writer.pending = [event]) (readable : event.Readable)
    (small : writer.pendingBytes.length ≤ maximumCompressedBytes)
    (index : writer.pendingIndex.length + 1 < 2 ^ 32)
    (segment : (writer.writeChunk (storingHost fun _ => true)).2.segmentIndex +
      1 < maximumSegmentIndex) :
    CaptureWriter.ChunkAllowed (storingHost fun _ => true) writer where
  count := by
    rw [waiting]
    exact Nat.one_lt_two_pow (by decide)
  readable := by
    rw [waiting]
    exact List.forall_mem_singleton.mpr readable
  uncompressed := Nat.le_trans small (by decide)
  compressed := by
    intro compressed stored
    cases stored
    exact small
  index := index
  rotation := by
    intro written wrote _
    rw [wrote] at segment
    exact ⟨rfl, segment⟩

end Sample

open Sample in
/-- Two segments are read back, an event from each. -/
theorem storing_capture_round_trips : CaptureRoundTrips (storingHost fun _ => true) plan
      (plan.capture (storingHost fun _ => true) fun _ => none) := by
  refine capture_round_trips _ plan _ (storingHost_faithful _) (fun _ => rfl) ?_
  refine ⟨by decide +kernel, ?_, ?_, fun _ waiting => absurd (by decide +kernel) waiting⟩
  all_goals refine fun _ => ⟨by decide +kernel, fun _ => ?_⟩
  · refine chunkAllowed first (by decide +kernel) ?_ (by decide +kernel)
      (by decide +kernel) (by decide +kernel)
    simp [first, Event.Readable, Field.Readable, maximumFields]
  · refine chunkAllowed second (by decide +kernel) ?_ (by decide +kernel)
      (by decide +kernel) (by decide +kernel)
    simp [second, Event.Readable, maximumFields]

open Sample in
/-- The next segment cannot be opened. -/
theorem refused_segment_is_verified :
    let host := storingHost (· = text "probe.savorcap")
    host.Faithful ∧ NoSegments (fun _ => none) plan.path ∧
      ¬CaptureRoundTrips host plan (plan.capture host fun _ => none) := by
  refine ⟨storingHost_faithful _, fun _ => rfl, ?_⟩
  rintro ⟨-, unverified⟩
  have failed := unverified (by decide +kernel)
  revert failed
  decide +kernel

end Savor.Capture

