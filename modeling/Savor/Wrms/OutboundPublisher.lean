import Savor.Wrms.ChannelReaders
import Savor.Library.Transition

/-!
# The outbound publisher

The worker queues its messages for a thread that writes them to a pipe.  Where
the queue has no room, what is not authoritative gives way.
-/

namespace Savor.Wrms

open Library
open Program (ByteString)

/-- `OutboundPublisher::IsAuthoritative`. -/
def MessageKind.isAuthoritative (eventTraffic : Bool) (kind : MessageKind) : Bool :=
  !eventTraffic || kind ∉ [invocationProgress, hostEvent, runtimeDiagnostic, executionState]

def kMaximumQueuedRecords : Nat := 128

def kMaximumQueuedBytes : Nat := 128 * 1024 * 1024

/-- A queued message, which `PublishRaw` has found to fit a frame. -/
structure Record extends SentFrame where
  residentBytes : Nat
  authoritative : Bool

/-- The record of a message, if it passes the first check of `PublishRaw`. -/
def Record.make (sizeofRecord : Nat) (eventTraffic : Bool) (kind : MessageKind)
    (requestId : UInt64) (payload : ByteString) : Option Record :=
  if valid : kind.isKnown ∧ payload.length ≤ maximumPayloadSize then
    some {
      kind, requestId, payload
      encoded := by
        have fits : ¬(payload.length > maximumPayloadSize ∨ payload.length > 2 ^ 32 - 1) := by
          have := valid.2
          rw [maximumPayloadSize] at this ⊢
          omega
        rw [encodeFrame, if_neg (by simp [valid.1]), if_neg fits]
      residentBytes := payload.length + sizeofRecord
      authoritative := kind.isAuthoritative eventTraffic }
  else none

/-- `writing` is the record that the writer thread has taken; `finished` tells
that this thread has ended. -/
structure OutboundPublisher where
  eventTraffic : Bool
  queue : List Record := []
  queuedBytes : Nat := 0
  stopping : Bool := false
  healthy : Bool := true
  writing : Option Record := none
  finished : Bool := false
  output : ByteString := []

inductive PublisherInput
  /-- `Publish`, where `EncodePayload` may fail. -/
  | publish (kind : MessageKind) (requestId : UInt64) (payload : Option ByteString)
  | take
  /-- `WriteAll`: the pipe accepts so many bytes before it fails. -/
  | write (accepted : Nat)
  | fail
  | stopAndDrain

inductive PublisherEvent
  | accepted (record : Record)
  | refused
  | wrote (record : Record)
  | broke
  | quiet

@[simp] def PublisherEvent.accepted? : PublisherEvent → Option Record
  | accepted record => some record
  | _ => none

@[simp] def PublisherEvent.written? : PublisherEvent → Option Record
  | wrote record => some record
  | _ => none

namespace OutboundPublisher

@[simp] def markUnhealthy (publisher : OutboundPublisher) : OutboundPublisher :=
  { publisher with healthy := false, stopping := true }

def fits (size queuedBytes residentBytes : Nat) : Bool :=
  size < kMaximumQueuedRecords && residentBytes ≤ kMaximumQueuedBytes &&
    queuedBytes ≤ kMaximumQueuedBytes - residentBytes

/-- Drop what is not authoritative, the oldest first, until there is room. -/
def makeRoom (residentBytes : Nat) : List Record → (size queuedBytes : Nat) → List Record × Nat
  | [], _, queuedBytes => ([], queuedBytes)
  | record :: records, size, queuedBytes =>
    if fits size queuedBytes residentBytes then (record :: records, queuedBytes)
    else if record.authoritative then
      let kept := makeRoom residentBytes records size queuedBytes
      (record :: kept.1, kept.2)
    else makeRoom residentBytes records (size - 1) (queuedBytes - record.residentBytes)

/-- Make room for a record. -/
def roomFor (publisher : OutboundPublisher) (record : Record) : OutboundPublisher :=
  let room := makeRoom record.residentBytes publisher.queue
    publisher.queue.length publisher.queuedBytes
  { publisher with queue := room.1, queuedBytes := room.2 }

def publishRaw (publisher : OutboundPublisher) (record : Record) :
    PublisherEvent × OutboundPublisher :=
  if publisher.stopping then (.refused, publisher)
  else
    let room := publisher.roomFor record
    if fits room.queue.length room.queuedBytes record.residentBytes then
      (.accepted record,
        { room with
          queue := room.queue ++ [record]
          queuedBytes := room.queuedBytes + record.residentBytes })
    else if record.authoritative then (.refused, room.markUnhealthy)
    else (.accepted record, room)

def step (sizeofRecord : Nat) (input : PublisherInput) (publisher : OutboundPublisher) :
    Option (PublisherEvent × OutboundPublisher) :=
  match input with
  | .publish kind requestId payload =>
    some (match payload.bind (Record.make sizeofRecord publisher.eventTraffic kind requestId) with
      | none => (.refused, publisher.markUnhealthy)
      | some record => publisher.publishRaw record)
  | .take =>
    match publisher.writing, publisher.queue with
    | some _, _ => none
    | none, [] =>
      if publisher.stopping && !publisher.finished then
        some (.quiet, { publisher with finished := true })
      else none
    | none, record :: queue =>
      if publisher.finished then none
      else some (.quiet,
        { publisher with
          queue
          queuedBytes := publisher.queuedBytes - record.residentBytes
          writing := some record })
  | .write accepted =>
    publisher.writing.map fun record =>
      let written := { publisher with
        writing := none
        output := publisher.output ++ record.bytes.take accepted }
      if record.bytes.length ≤ accepted then (.wrote record, written)
      else
        (.broke,
          { written.markUnhealthy with
            queue := [], queuedBytes := 0, finished := true })
  | .fail => some (.quiet, publisher.markUnhealthy)
  | .stopAndDrain => some (.quiet, { publisher with stopping := true })

/-- What the publisher has taken over and not written yet. -/
def pending (publisher : OutboundPublisher) : List Record :=
  publisher.writing.toList ++ publisher.queue

end OutboundPublisher

abbrev PublisherStep : Type := Transition OutboundPublisher PublisherInput PublisherEvent

/-- The records for which `PublishRaw` has returned true. -/
def accepted (history : List PublisherStep) : List Record := history.filterMap (·.event.accepted?)

/-- The records that were written whole. -/
def written (history : List PublisherStep) : List Record := history.filterMap (·.event.written?)

/-- A write has failed. -/
def Broken (history : List PublisherStep) : Prop := ∃ step ∈ history, step.event = .broke

abbrev frames (records : List Record) : List SentFrame := records.map Record.toSentFrame

/-- Of these records only some are left, in their order and each once, but all
that are authoritative. -/
structure Keeps (left records : List Record) : Prop where
  ordered : left.Sublist records
  authoritative : left.filter Record.authoritative = records.filter Record.authoritative

namespace Keeps

variable {left records : List Record}

theorem refl (records : List Record) : Keeps records records := ⟨.refl _, rfl⟩

theorem append {left' records' : List Record} (keeps : Keeps left records)
    (keeps' : Keeps left' records') : Keeps (left ++ left') (records ++ records') := by
  refine ⟨keeps.ordered.append keeps'.ordered, ?_⟩
  rw [List.filter_append, List.filter_append, keeps.authoritative, keeps'.authoritative]

theorem trans {others : List Record} (keeps : Keeps left records)
    (keeps' : Keeps records others) : Keeps left others :=
  ⟨keeps.ordered.trans keeps'.ordered, keeps.authoritative.trans keeps'.authoritative⟩

end Keeps

theorem keeps_makeRoom (residentBytes : Nat) (records : List Record) (size queuedBytes : Nat) :
    Keeps (OutboundPublisher.makeRoom residentBytes records size queuedBytes).1 records := by
  induction records generalizing size queuedBytes with
  | nil => exact .refl _
  | cons record records ih =>
    unfold OutboundPublisher.makeRoom
    split_ifs with enough kept
    · exact .refl _
    · exact (Keeps.refl [record]).append (ih size queuedBytes)
    · have keeps := ih (size - 1) (queuedBytes - record.residentBytes)
      exact ⟨keeps.ordered.cons record, by simp [kept, keeps.authoritative]⟩

variable {sizeofRecord : Nat} {history : List PublisherStep}
variable {input : PublisherInput} {event : PublisherEvent}
variable {before after : OutboundPublisher}

/-- A call adds its record, and a write takes one out. -/
theorem OutboundPublisher.step_keeps
    (stepped : before.step sizeofRecord input = some (event, after)) :
    (event = .broke → after.pending = []) ∧ (event ≠ .broke →
      Keeps (event.written?.toList ++ after.pending)
        (before.pending ++ event.accepted?.toList)) := by
  cases input with
  | publish kind requestId payload =>
    simp only [step, Option.some.injEq] at stepped
    split at stepped
    · cases stepped
      simpa [pending] using Keeps.refl before.pending
    rename_i record _
    have room : Keeps (before.roomFor record).pending before.pending :=
      (Keeps.refl _).append (keeps_makeRoom _ _ _ _)
    unfold publishRaw at stepped
    dsimp only at stepped
    split_ifs at stepped with stops fits major <;> cases stepped
    · simpa [pending] using Keeps.refl before.pending
    · simpa [pending] using room.append (.refl [record])
    · simpa [pending] using room
    · refine ⟨by rintro ⟨⟩, fun _ => ?_⟩
      have dropped : Keeps [] [record] := ⟨by simp, by simp [major]⟩
      simpa using room.append dropped
  | take =>
    simp only [step] at stepped
    split at stepped
    · cases stepped
    all_goals
      rename_i writing queue
      split_ifs at stepped
      cases stepped
      simpa [pending, writing, queue] using Keeps.refl _
  | write count =>
    simp only [step, Option.map_eq_some_iff] at stepped
    obtain ⟨record, writing, stepped⟩ := stepped
    split_ifs at stepped <;> cases stepped
    · simpa [pending, writing] using Keeps.refl _
    · simp [pending]
  | fail | stopAndDrain =>
    cases stepped
    simpa [pending] using Keeps.refl before.pending

theorem SentFrame.within_append (frames later : List SentFrame) (count : Nat) :
    within (frames ++ later) ((frames.flatMap bytes).length + count) =
      frames ++ within later count := by
  induction frames with
  | nil => simp
  | cons frame frames ih =>
    rw [List.cons_append, within, List.flatMap_cons, List.length_append, if_pos (by omega)]
    rw [show frame.bytes.length + (frames.flatMap bytes).length + count -
      frame.bytes.length = (frames.flatMap bytes).length + count by omega, ih,
      List.cons_append]

/-- The output is cut off after these records, or within the next one. -/
def Cut (written : List Record) (output : ByteString) : Prop :=
  ∃ sent count, output = (sent.flatMap SentFrame.bytes).take count ∧
    SentFrame.within sent count = frames written

theorem cut_append (written : List Record) (rest : List SentFrame) (count : Nat)
    (short : SentFrame.within rest count = []) :
    Cut written ((frames written).flatMap SentFrame.bytes ++
      (rest.flatMap SentFrame.bytes).take count) := by
  refine ⟨frames written ++ rest, _, ?_, (SentFrame.within_append _ rest count).trans ?_⟩
  · simp [List.take_append]
  · rw [short, List.append_nil]

/-- What the writer thread has written, by whether it has ended and by what it
is writing. -/
inductive Writes (written : List Record) : (finished : Bool) → Option Record → ByteString → Prop
  | running (writing : Option Record) :
      Writes written false writing ((frames written).flatMap SentFrame.bytes)
  | ended {output : ByteString} (cut : Cut written output) : Writes written true none output

section

variable {written : List Record} {finished : Bool} {writing : Option Record}
variable {output : ByteString}

theorem Writes.runs (writes : Writes written finished writing output)
    (runs : finished = false ∨ writing.isSome) : finished = false ∧
      output = (frames written).flatMap SentFrame.bytes := by
  cases writes with
  | running => exact ⟨rfl, rfl⟩
  | ended => simp at runs

theorem Writes.cut (writes : Writes written finished writing output) : Cut written output := by
  cases writes with
  | running =>
    rw [← List.append_nil (List.flatMap _ _)]
    exact cut_append written [] 0 rfl
  | ended cut => exact cut

theorem Writes.step (writes : Writes written before.finished before.writing before.output)
    (stepped : before.step sizeofRecord input = some (event, after)) :
    Writes (written ++ event.written?.toList) after.finished after.writing after.output := by
  cases input with
  | publish kind requestId payload =>
    simp only [OutboundPublisher.step, Option.some.injEq] at stepped
    split at stepped
    · cases stepped
      simpa using writes
    unfold OutboundPublisher.publishRaw at stepped
    dsimp only at stepped
    split_ifs at stepped <;> cases stepped <;> simpa [OutboundPublisher.roomFor] using writes
  | take =>
    simp only [OutboundPublisher.step] at stepped
    split at stepped
    · cases stepped
    · rename_i writing _
      split_ifs at stepped
      cases stepped
      simpa [writing] using Writes.ended writes.cut
    · rename_i record _ _ _
      split_ifs at stepped with ends
      cases stepped
      obtain ⟨runs, output⟩ := writes.runs (by simp [ends])
      simpa [runs, output] using Writes.running (some record)
  | write count =>
    simp only [OutboundPublisher.step, Option.map_eq_some_iff] at stepped
    obtain ⟨record, writing, stepped⟩ := stepped
    obtain ⟨runs, output⟩ := writes.runs (by simp [writing])
    split_ifs at stepped with whole <;> cases stepped
    · have ended : before.output ++ record.bytes.take count =
          (frames (written ++ [record])).flatMap SentFrame.bytes := by
        simp [output, List.take_of_length_le whole]
      rw [ended, runs]
      exact .running none
    · rw [output]
      simpa using Writes.ended (cut_append written [record.toSentFrame] count (if_neg whole))
  | fail | stopAndDrain =>
    cases stepped
    simpa using writes

end

theorem SentFrame.within_mono (sent : List SentFrame) {small large : Nat}
    (smaller : small ≤ large) : within sent small <+: within sent large := by
  induction sent generalizing small large with
  | nil => exact List.prefix_rfl
  | cons frame sent ih =>
    unfold within
    split_ifs with fits larger
    · exact (List.prefix_cons_inj frame).mpr (ih (by omega))
    · omega
    all_goals exact List.nil_prefix

/-- Of the first bytes of a stream of frames a reader handles the frames that
end in them. -/
theorem FrameHandler.handles_within {State : Type}
    (handle : FrameHandler State) (start : State) {chunks : List ByteString}
    {sent : List SentFrame} {count : Nat}
    (arrived : chunks.flatten = (sent.flatMap SentFrame.bytes).take count) :
    let channel := chunks.foldl handle.readChunk { state := start }
    (channel.state, channel.stop) = handle.handleFrames
      ((SentFrame.within sent count).map SentFrame.view) start := by
  have reads := handle.readChunks_reads start chunks
  have receives := receiveFrames_receives sent count _ (Nat.le_refl _)
  rw [arrived] at reads
  have undecided : (receive ((sent.flatMap SentFrame.bytes).take count)).result.stop = none := by
    rw [FrameDecodeResult.stop, if_neg]
    rw [show (receive _).result.status = _ from receives.undecided]
    decide
  dsimp only
  rw [reads.state, reads.stop, undecided, Option.or_none]
  exact congrArg (handle.handleFrames · start) receives.decoded

abbrev PublisherRun (sizeofRecord : Nat) (eventTraffic : Bool) :=
  Run (OutboundPublisher.step sizeofRecord) (fun _ _ => True) { eventTraffic }

/-- Over a run nothing is written that was not accepted, and nothing twice; and
unless a write fails nothing authoritative is lost. -/
theorem PublisherRun.keeps {eventTraffic : Bool} {publisher : OutboundPublisher}
    (run : PublisherRun sizeofRecord eventTraffic history publisher) :
    (written history ++ publisher.pending).Sublist (accepted history) ∧
      (¬Broken history → Keeps (written history ++ publisher.pending) (accepted history)) ∧
      Writes (written history) publisher.finished publisher.writing publisher.output := by
  induction run with
  | nil => exact ⟨.slnil, fun _ => .refl _, .running _⟩
  | @snoc history before input event after _ _ stepped ih =>
    obtain ⟨ordered, keeps, writes⟩ := ih
    obtain ⟨breaks, moves⟩ := OutboundPublisher.step_keeps stepped
    have wrote : written (history ++ [⟨before, input, event, after⟩]) =
        written history ++ event.written?.toList := by
      rw [written, List.filterMap_append]
      cases event <;> rfl
    have accepts : accepted (history ++ [⟨before, input, event, after⟩]) =
        accepted history ++ event.accepted?.toList := by
      rw [accepted, List.filterMap_append]
      cases event <;> rfl
    rw [wrote, accepts]
    refine ⟨?_, fun whole => ?_, writes.step stepped⟩
    · by_cases broke : event = .broke
      · have left := List.sublist_append_left (written history) before.pending
        simpa [breaks broke, broke] using left.trans ordered
      · have moved := (List.Sublist.refl (written history)).append
          (moves broke).ordered
        simp only [← List.append_assoc] at moved
        exact moved.trans (ordered.append (.refl _))
    · simp only [Broken, List.mem_append, List.mem_singleton, or_and_right,
        exists_or, not_or, exists_eq_left] at whole
      have moved := (Keeps.refl (written history)).append (moves whole.2)
      simp only [← List.append_assoc] at moved
      exact moved.trans ((keeps whole.1).append (.refl _))

/-- What a reader has handled of the messages of a publisher: some that were
accepted, in their order and each once, and at the end all authoritative ones. -/
def Delivers {State : Type} (handle : FrameHandler State) (start : State)
    (history : List PublisherStep) (publisher : OutboundPublisher)
    (chunks : List ByteString) : Prop :=
  let channel := chunks.foldl handle.readChunk { state := start }
  ∃ delivered : List Record, delivered.Sublist (accepted history) ∧
    (channel.state, channel.stop) =
      handle.handleFrames ((frames delivered).map SentFrame.view) start ∧
    (chunks.flatten = publisher.output → publisher.pending = [] →
      ¬Broken history → delivered.filter Record.authoritative =
        (accepted history).filter Record.authoritative)

end Savor.Wrms
