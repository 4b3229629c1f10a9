import Savor.Probe.SamplePayloads

/-!
# Stacks come back from the payload

The loop over the frames of a stack leaves whole frames behind the header, and
bytes of a last one that is not counted if there was no room for it.
-/

namespace Savor.Probe

open Capture (Field StackFrame StackTraceValue appendPod)
open Program (ByteString)
open StackSampling
open StackFrame

variable {guest : Guest}

theorem length_stackFramePieces (frame : StackFrame) :
    (stackFramePieces frame).flatten.length = frameSize := by
  simp [stackFramePieces, appendPod, Library.Stream.Word.length_encode]
  rfl

theorem StackSampling.append_cases (sampling : StackSampling) (frame : StackFrame) :
    (sampling.payload.length + frameSize ≤ rawPayloadBytes ∧
        sampling.append frame = (true, { sampling with
          payload := sampling.payload ++ (stackFramePieces frame).flatten
          frameCount := sampling.frameCount + 1 })) ∨
      (rawPayloadBytes < sampling.payload.length + frameSize ∧
        ∃ junk, sampling.append frame = (false, { sampling with
          payload := sampling.payload ++ junk }.truncate)) := by
  unfold append
  rcases @payloadAppendAll_cases sampling.payload
      (stackFramePieces frame) (by simp [stackFramePieces]) with
    ⟨room, appended⟩ | ⟨overflows, junk, appended⟩
  · rw [length_stackFramePieces] at room
    refine Or.inl ⟨room, ?_⟩
    rw [appended]
  rw [length_stackFramePieces] at overflows
  refine Or.inr ⟨overflows, junk, ?_⟩
  rw [appended]

variable {frame : StackFrame} {stackPointer : UInt32} {frames : List StackFrame}
variable {seen : List UInt32} {remaining : Nat} {sampling : StackSampling}

theorem readStackFrame_stackPointer (read : readStackFrame guest stackPointer = some frame) :
    frame.stackPointer = stackPointer := by
  unfold readStackFrame at read
  simp only [Option.bind_eq_bind, Option.bind_eq_some_iff] at read
  obtain ⟨next, -, returnPc, -, same⟩ := read
  cases same
  rfl

/-! ## The frames of the guest -/

/-- Nothing follows a null pointer. -/
theorem StackFrom.of_null (stacked : StackFrom guest seen 0 frames) : frames = [] := by
  cases stacked with
  | null | cycle => rfl
  | last new | frame new => exact absurd rfl new.1

theorem StackFrom.of_again (again : stackPointer ∈ seen)
    (stacked : StackFrom guest seen stackPointer frames) : frames = [] := by
  cases stacked with
  | null | cycle => rfl
  | last new | frame new => exact absurd again new.2

theorem StackFrom.of_new (new : stackPointer ≠ 0 ∧ stackPointer ∉ seen)
    (stacked : StackFrom guest seen stackPointer frames) :
    ∃ frame others, readStackFrame guest stackPointer = some frame ∧ frames = frame :: others ∧
      (isLast frame = true → others = []) ∧ (isLast frame = false →
        StackFrom guest (seen ++ [stackPointer]) frame.nextStackPointer others) := by
  cases stacked with
  | null => exact absurd rfl new.1
  | cycle again => exact absurd again new.2
  | last _ read ends =>
    refine ⟨_, _, read, rfl, fun _ => rfl, fun goes => ?_⟩
    rw [ends] at goes
    cases goes
  | frame _ read goes rest =>
    refine ⟨_, _, read, rfl, fun ends => ?_, fun _ => rest⟩
    rw [goes] at ends
    cases ends

/-! ## The loop -/

/-- The bytes of frames in the payload. -/
def frameBytes (frames : List StackFrame) : ByteString :=
  frames.flatMap fun frame => (stackFramePieces frame).flatten

/-- What the loop over the frames has done. -/
structure StackWalked (guest : Guest) (remaining : Nat)
    (sampling walked : StackSampling) (frames : List StackFrame) : Prop where
  payload : ∃ junk, walked.payload = sampling.payload ++ (frameBytes frames ++ junk)
  count : walked.frameCount = sampling.frameCount + frames.length
  few : frames.length ≤ remaining
  room : frames ≠ [] → sampling.payload.length + frameSize ≤ rawPayloadBytes
  kept : sampling.flags.truncated = true → walked.flags.truncated = true
  cut : sampling.flags.truncated = false →
    ((walked.flags.truncated = true ∨ (walked.stackPointer ≠ 0 ∧
        sampling.frameCount + remaining ≤ walked.frameCount)) ↔
      StackCut guest remaining sampling.payload.length sampling.seen sampling.stackPointer)
  complete : ¬StackCut guest remaining sampling.payload.length sampling.seen
      sampling.stackPointer →
    ∀ all, StackFrom guest sampling.seen sampling.stackPointer all → all = frames

variable {walked : StackSampling}

/-- A loop that does not go on. -/
theorem StackWalked.stop (payload : ∃ junk, walked.payload = sampling.payload ++ junk)
    (count : walked.frameCount = sampling.frameCount)
    (kept : sampling.flags.truncated = true → walked.flags.truncated = true)
    (cut : sampling.flags.truncated = false →
      ((walked.flags.truncated = true ∨ (walked.stackPointer ≠ 0 ∧
          sampling.frameCount + remaining ≤ walked.frameCount)) ↔
        StackCut guest remaining sampling.payload.length sampling.seen sampling.stackPointer))
    (complete : ¬StackCut guest remaining sampling.payload.length sampling.seen
        sampling.stackPointer →
      ∀ all, StackFrom guest sampling.seen sampling.stackPointer all → all = []) :
    StackWalked guest remaining sampling walked [] where
  payload := payload
  count := count
  few := Nat.zero_le _
  room := fun nonempty => absurd rfl nonempty
  kept := kept
  cut := cut
  complete := complete

theorem StackWalked.last (fits : sampling.payload.length + frameSize ≤ rawPayloadBytes)
    (new : sampling.stackPointer ≠ 0 ∧ sampling.stackPointer ∉ sampling.seen)
    (read : readStackFrame guest sampling.stackPointer = some frame) (ends : isLast frame = true) :
    StackWalked guest (remaining + 1) sampling
      { sampling with
        seen := sampling.seen ++ [sampling.stackPointer]
        payload := sampling.payload ++ (stackFramePieces frame).flatten
        frameCount := sampling.frameCount + 1 } [frame] where
  payload := ⟨[], by simp [frameBytes]⟩
  count := rfl
  few := by simp
  room := fun _ => fits
  kept := id
  cut := by
    intro whole
    simp [StackCut, whole, new, read, ends, Nat.not_lt.mpr fits]
  complete := by
    intro _ all stacked
    obtain ⟨other, others, there, rfl, nothing, -⟩ := stacked.of_new new
    rw [read] at there
    cases there
    rw [nothing ends]

theorem StackWalked.follow (fits : sampling.payload.length + frameSize ≤ rawPayloadBytes)
    (new : sampling.stackPointer ≠ 0 ∧ sampling.stackPointer ∉ sampling.seen)
    (read : readStackFrame guest sampling.stackPointer = some frame) (goes : isLast frame = false)
    (rest : StackWalked guest remaining
      { sampling with
        seen := sampling.seen ++ [sampling.stackPointer]
        payload := sampling.payload ++ (stackFramePieces frame).flatten
        frameCount := sampling.frameCount + 1
        stackPointer := frame.nextStackPointer } walked frames) :
    StackWalked guest (remaining + 1) sampling walked (frame :: frames) := by
  obtain ⟨⟨junk, payload⟩, count, few, -, kept, cut, complete⟩ := rest
  have length : (sampling.payload ++
      (stackFramePieces frame).flatten).length = sampling.payload.length + frameSize := by
    rw [List.length_append, length_stackFramePieces]
  dsimp only at payload count kept cut complete
  rw [length] at cut complete
  have cutIff : StackCut guest (remaining + 1) sampling.payload.length
        sampling.seen sampling.stackPointer ↔
      StackCut guest remaining (sampling.payload.length + frameSize)
        (sampling.seen ++ [sampling.stackPointer]) frame.nextStackPointer := by
    simp [StackCut, new, read, goes, Nat.not_lt.mpr fits]
  refine ⟨⟨junk, ?_⟩, ?_, ?_, fun _ => fits, kept, ?_, ?_⟩
  · rw [payload]
    simp [frameBytes]
  · rw [count, List.length_cons]
    omega
  · rw [List.length_cons]
    omega
  · intro whole
    rw [cutIff, ← cut whole, Nat.add_assoc, Nat.add_comm 1]
  intro notCut all stacked
  obtain ⟨other, others, there, rfl, -, listed⟩ := stacked.of_new new
  rw [read] at there
  cases there
  rw [complete (fun isCut => notCut (cutIff.mpr isCut)) others (listed goes)]

/-- The loop goes as far as the stack and the room go.  The induction is on how
many frames may follow. -/
theorem sampleStackFrames_walked (remaining : Nat) (sampling : StackSampling) :
    ∃ frames, StackWalked guest remaining sampling
      (sampleStackFrames guest remaining sampling) frames := by
  induction remaining generalizing sampling with
  | zero =>
    refine ⟨[], .stop ⟨[], (List.append_nil _).symm⟩ rfl id ?_ ?_⟩
    · intro whole
      simp [sampleStackFrames, whole, StackCut]
    intro notCut all stacked
    have null : sampling.stackPointer = 0 := Decidable.not_not.mp notCut
    rw [null] at stacked
    exact stacked.of_null
  | succ remaining ih =>
    unfold sampleStackFrames
    by_cases null : sampling.stackPointer = 0
    · rw [if_pos null]
      refine ⟨[], .stop ⟨[], (List.append_nil _).symm⟩ rfl id ?_ ?_⟩
      · intro whole
        simp [whole, StackCut, null]
      intro _ all stacked
      rw [null] at stacked
      exact stacked.of_null
    rw [if_neg null]
    by_cases again : sampling.stackPointer ∈ sampling.seen
    · rw [if_pos again]
      refine ⟨[], .stop ⟨[], (List.append_nil _).symm⟩ rfl id ?_ ?_⟩
      · intro whole
        simp [whole, StackCut, again]
      · intro _ all stacked
        exact stacked.of_again again
    rw [if_neg again]
    have new : sampling.stackPointer ≠ 0 ∧ sampling.stackPointer ∉ sampling.seen := ⟨null, again⟩
    dsimp only
    cases read : readStackFrame guest sampling.stackPointer with
    | none =>
      refine ⟨[], .stop ⟨[], (List.append_nil _).symm⟩ rfl id ?_ ?_⟩
      · intro whole
        simp [unreadable, whole, StackCut, read]
      intro _ all stacked
      obtain ⟨frame, -, there, -⟩ := stacked.of_new new
      rw [read] at there
      cases there
    | some frame =>
      dsimp only
      have pointer := readStackFrame_stackPointer read
      rcases append_cases
          { sampling with
            seen := sampling.seen ++ [sampling.stackPointer] } frame with
        ⟨room, appended⟩ | ⟨overflows, junk, appended⟩
      · rw [appended]
        dsimp only
        have last : (frame.nextStackPointer = 0 ∨ frame.nextStackPointer = sampling.stackPointer ∨
            frame.nextStackPointer &&& 3 ≠ 0) ↔ isLast frame = true := by
          simp [isLast, pointer]
        by_cases ends : isLast frame = true
        · rw [if_pos (last.mpr ends)]
          exact ⟨_, .last room new read ends⟩
        rw [if_neg (fun wrong => ends (last.mp wrong))]
        obtain ⟨frames, walked⟩ := ih _
        exact ⟨_, .follow room new read (Bool.not_eq_true _ ▸ ends) walked⟩
      · rw [appended]
        have cut : StackCut guest (remaining + 1) sampling.payload.length
            sampling.seen sampling.stackPointer := by
          refine ⟨null, again, ?_⟩
          rw [read]
          exact Or.inl overflows
        refine ⟨[], .stop ⟨junk, rfl⟩ rfl (fun _ => rfl) ?_ ?_⟩
        · intro _
          simp [truncate, cut]
        · exact fun notCut => absurd cut notCut

/-! ## The frame of the function that is running -/

/-- What the frame of the registers and the loop after it have done. -/
structure StackSampled (guest : Guest) (maxFrames used : Nat)
    (before : ByteString) (walked : StackSampling) (frames : List StackFrame) : Prop where
  payload : ∃ junk, walked.payload = before ++ (frameBytes frames ++ junk)
  count : walked.frameCount = frames.length
  few : frames.length ≤ maxFrames
  cut : (walked.flags.truncated = true ∨
      (walked.stackPointer ≠ 0 ∧ maxFrames ≤ walked.frameCount)) ↔
    StackIsCut guest maxFrames used
  complete : ¬StackIsCut guest maxFrames used →
    ∀ all, StackFrom guest [] (guest.gpr 1) all → frames = (registerFrame guest).toList ++ all

theorem sampleStackFrames_sampled {sample : SampleDefinition}
    (positive : sample.maxFrames ≠ 0) (before : ByteString) :
    let first := sampleRegisterFrame guest sample { payload := before, stackPointer := guest.gpr 1 }
    ∃ frames, StackSampled guest sample.maxFrames.toNat before.length before
      (sampleStackFrames guest (sample.maxFrames.toNat - first.frameCount) first) frames := by
  dsimp only
  unfold sampleRegisterFrame
  have some' : 0 < sample.maxFrames.toNat := by
    rw [Nat.pos_iff_ne_zero, ne_eq, ← UInt32.toNat_zero, UInt32.toNat_inj]
    exact positive
  by_cases called : guest.linkRegister = 0
  · have none : registerFrame guest = none := if_pos called
    rw [if_neg (by simp [called])]
    obtain ⟨frames, payload, count, few, -, -, cut, complete⟩ :=
      @sampleStackFrames_walked guest sample.maxFrames.toNat
        { payload := before, stackPointer := guest.gpr 1 }
    refine ⟨frames, payload, ?_, few, ?_, ?_⟩
    · exact count.trans (Nat.zero_add _)
    · rw [StackIsCut, none, ← cut rfl, Nat.zero_add]
      rfl
    rw [StackIsCut, none]
    intro notCut all stacked
    exact (complete notCut all stacked).symm
  · have register : registerFrame guest = some
        { stackPointer := 0
          nextStackPointer := guest.gpr 1
          returnPc := guest.linkRegister
          callsitePc := callsite guest.linkRegister } := if_neg called
    rw [if_pos ⟨positive, called⟩]
    generalize callee : ({ stackPointer := 0, nextStackPointer := _
                           returnPc := _, callsitePc := _ } : StackFrame) =
      frame at register ⊢
    rcases append_cases
        { payload := before, stackPointer := guest.gpr 1 } frame with
      ⟨room, appended⟩ | ⟨overflows, junk, appended⟩
    · rw [appended]
      dsimp only at room ⊢
      obtain ⟨frames, ⟨junk, payload⟩, count, few, -, -, cut, complete⟩ :=
        @sampleStackFrames_walked guest (sample.maxFrames.toNat - 1)
          { payload := before ++ (stackFramePieces frame).flatten
            stackPointer := guest.gpr 1, frameCount := 1 }
      dsimp only at payload count cut complete
      rw [List.length_append, length_stackFramePieces] at cut complete
      have total : 1 + (sample.maxFrames.toNat - 1) = sample.maxFrames.toNat := by omega
      have cutIff : StackIsCut guest sample.maxFrames.toNat before.length ↔
          StackCut guest (sample.maxFrames.toNat - 1)
            (before.length + frameSize) [] (guest.gpr 1) := by
        rw [StackIsCut, register]
        exact or_iff_right (Nat.not_lt.mpr room)
      refine ⟨frame :: frames, ⟨junk, ?_⟩, ?_, ?_, ?_, ?_⟩
      · rw [Nat.zero_add, payload]
        simp [frameBytes]
      · rw [Nat.zero_add, count, List.length_cons, Nat.add_comm]
      · rw [List.length_cons]
        omega
      · rw [cutIff, ← cut rfl, total, Nat.zero_add]
      rw [cutIff]
      intro notCut all stacked
      rw [complete notCut all stacked, register]
      rfl
    · rw [appended]
      dsimp only [truncate] at overflows ⊢
      obtain ⟨frames, ⟨rest, payload⟩, count, -, room, kept, -, -⟩ :=
        @sampleStackFrames_walked guest sample.maxFrames.toNat
          { payload := before ++ junk, stackPointer := guest.gpr 1
            flags := { truncated := true } }
      have cut : StackIsCut guest sample.maxFrames.toNat before.length := by
        rw [StackIsCut, register]
        exact Or.inl overflows
      have nothing : frames = [] := by
        by_contra nonempty
        have fits := room nonempty
        rw [List.length_append] at fits
        omega
      subst nothing
      refine ⟨[], ⟨junk ++ rest, ?_⟩, ?_, Nat.zero_le _, ?_, ?_⟩
      · rw [Nat.sub_zero, payload]
        simp [frameBytes]
      · exact count
      · rw [Nat.sub_zero]
        simp [kept rfl, cut]
      · exact fun notCut => absurd cut notCut

/-! ## Reading it back -/

theorem readFrame_eq (frame : StackFrame) (rest : ByteString) :
    readFrame ((stackFramePieces frame).flatten ++ rest) = some (frame, rest) := by
  unfold readFrame stackFramePieces
  simp only [List.flatten_cons, List.flatten_nil, List.append_nil,
    List.append_assoc, Option.bind_eq_bind]
  rw [readPayload_pod]
  simp only [Option.bind_some]
  rw [readPayload_pod]
  simp only [Option.bind_some]
  rw [readPayload_pod]
  simp only [Option.bind_some]
  rw [readPayload_pod]
  rfl

theorem readFrames_eq (frames : List StackFrame) (rest : ByteString) :
    readFrames frames.length (frameBytes frames ++ rest) = ⟨frames, true, rest⟩ := by
  induction frames with
  | nil => rfl
  | cons frame frames ih =>
    have split : frameBytes (frame :: frames) ++ rest =
        (stackFramePieces frame).flatten ++ (frameBytes frames ++ rest) := by
      simp [frameBytes]
    rw [split, List.length_cons]
    unfold readFrames
    rw [readFrame_eq]
    dsimp only
    rw [ih]

theorem readStackHeader_eq (count flags : UInt8) (rest : ByteString) :
    readStackHeader ([count, flags] ++ rest) = some ((count, flags), rest) := by
  have bytes : [count, flags] ++ rest =
      appendPod .u8 count ++ (appendPod .u8 flags ++ rest) := by
    rw [← singleton_eq_pod, ← singleton_eq_pod]
    rfl
  unfold readStackHeader
  rw [bytes, readPayload_pod]
  simp only [Option.bind_eq_bind, Option.bind_some]
  rw [readPayload_pod]
  rfl

variable {sample : SampleDefinition}

theorem sampleStack_overflows {sampled : Sampled}
    (overflows : rawPayloadBytes < sampled.payload.length + stackHeaderSize) :
    let result := sampleStack guest sample sampled
    SampledAs sampled result ∧ result.field.status = .truncated ∧
      result.field.payloadSize = sampled.field.payloadSize ∧
      ∃ junk, result.payload = sampled.payload ++ junk := by
  unfold sampleStack
  obtain ⟨junk, appended⟩ := @payloadAppendAll_overflows
    sampled.payload [[0], [0]] (by simp) overflows
  rw [appended]
  exact ⟨⟨rfl, rfl, rfl⟩, rfl, rfl, junk, rfl⟩

/-- The stack after its frames: it is truncated if it was cut off, and the header
tells how many frames there are. -/
theorem sampleStackFrom_eq (begin : Nat) (started : StackSampling) :
    let first := sampleRegisterFrame guest sample started
    let walked := sampleStackFrames guest (sample.maxFrames.toNat - first.frameCount) first
    let stacked := sampleStackFrom guest sample begin started
    (stacked.flags.truncated = true ↔ (walked.flags.truncated = true ∨ (walked.stackPointer ≠ 0 ∧
          sample.maxFrames.toNat ≤ walked.frameCount))) ∧
      stacked.payload = payloadPatch walked.payload begin
        [UInt8.ofNat walked.frameCount, stacked.flags.byte] := by
  dsimp only
  unfold sampleStackFrom
  dsimp only
  split
  · rename_i cut
    simp [truncate, cut]
  · rename_i whole
    simp [whole]

/-- There was room for the header: the stack comes back, and the field is
truncated if the stack was cut off. -/
theorem sampleStack_fits {sampled : Sampled}
    (fits : sampled.payload.length + stackHeaderSize ≤ rawPayloadBytes)
    (positive : sample.maxFrames ≠ 0) (few : sample.maxFrames.toNat ≤ 64) :
    let result := sampleStack guest sample sampled
    let isCut := StackIsCut guest sample.maxFrames.toNat (sampled.payload.length + stackHeaderSize)
    SampledAs sampled result ∧
      (¬isCut → result.field.status = sampled.field.status) ∧
      (isCut → result.field.status = .truncated) ∧
      result.field.payloadOffset = sampled.payload.length ∧
      ∃ chunk, result.payload = sampled.payload ++ chunk ∧
        result.field.payloadSize = chunk.length ∧
        ∃ stack : StackTraceValue,
          stack.frames.length ≤ sample.maxFrames.toNat ∧
          (¬isCut → ∀ all, StackFrom guest [] (guest.gpr 1) all →
            stack.frames = (registerFrame guest).toList ++ all) ∧
          ∀ field, decodeStackTrace field chunk =
            { field with type := .stackTrace, stackTrace := some stack } := by
  unfold sampleStack
  dsimp only
  rw [payloadAppendAll_fits (show _ + [[0], [0]].flatten.length ≤ _ from fits)]
  dsimp only
  obtain ⟨frames, ⟨junk, payload⟩, count, few', cut, complete⟩ :=
    @sampleStackFrames_sampled guest sample positive (sampled.payload ++ [[0], [0]].flatten)
  obtain ⟨truncated, patched⟩ := @sampleStackFrom_eq guest
    sample sampled.payload.length
    { payload := sampled.payload ++ [[0], [0]].flatten
      stackPointer := guest.gpr 1 }
  have length : (sampled.payload ++ [[0], [0]].flatten).length =
      sampled.payload.length + stackHeaderSize := List.length_append
  rw [length] at cut complete
  rw [cut] at truncated
  rw [count, payload] at patched
  generalize sampleStackFrom guest sample sampled.payload.length _ = stacked at truncated patched ⊢
  have counted : (UInt8.ofNat frames.length).toNat = frames.length := Nat.mod_eq_of_lt (by omega)
  have chunk : stacked.payload = sampled.payload ++
      ([UInt8.ofNat frames.length, stacked.flags.byte] ++ (frameBytes frames ++ junk)) := by
    rw [patched, List.append_assoc, payloadPatch_eq]
    rfl
  refine ⟨⟨rfl, rfl, rfl⟩, ?_, ?_, rfl, _, chunk, ?_, ?_⟩
  · intro notCut
    exact if_neg fun stopped => notCut (truncated.mp stopped)
  · intro isCut
    exact if_pos (truncated.mpr isCut)
  · rw [chunk, List.length_append, Nat.add_sub_cancel_left]
  let value : StackTraceValue :=
    { readOk := stacked.flags.byte &&& 0x4 = 0
      truncated := stacked.flags.byte &&& 0x1 ≠ 0
      cycleDetected := stacked.flags.byte &&& 0x2 ≠ 0
      frames }
  refine ⟨value, few', complete, fun field => ?_⟩
  have within : ¬64 < UInt8.ofNat frames.length := by
    rw [UInt8.lt_iff_toNat_lt, counted]
    exact Nat.not_lt.mpr (Nat.le_trans few' few)
  unfold decodeStackTrace
  rw [readStackHeader_eq]
  dsimp only
  rw [if_neg within, counted, readFrames_eq]
  simp [validIf, value]

end Savor.Probe
