import Savor.Wrms.WrmsFrames

/-!
# WRMS channel readers

A process that reads a channel gathers the bytes that arrive, hands over the
frames in them one by one and stops at the first that it does not accept.
-/

namespace Savor.Wrms

open Program (ByteString)

inductive MessageChannel
  | command
  | response
  | event
  deriving DecidableEq

/-- `ChannelOf`. -/
def MessageKind.channel (kind : MessageKind) : MessageChannel :=
  if kind.direction = .parentToWorker then .command
  else if kind ∈ [processHello, commandResult, openSessionResult, shutdownResult,
      executionResult] then
    .response
  else .event

/-- Why a reader stops before its channel ends. -/
inductive ReaderStop
  | invalidFrame (error : FrameError)
  | foreignMessage
  | handler

structure Channel (State : Type) where
  state : State
  buffered : ByteString := []
  stop : Option ReaderStop := none

def FrameDecodeResult.stop (result : FrameDecodeResult) : Option ReaderStop :=
  if result.status = .error then some (.invalidFrame result.error) else none

/-- What a process does with a frame, and whether it reads on. -/
abbrev FrameHandler (State : Type) := FrameView → State → State × Option ReaderStop

namespace FrameHandler

variable {State : Type}

/-- In `ProcessWorker::read_channel`: `handle_frame` tells whether the protocol
has failed. -/
def processWorker (channel : MessageChannel)
    (handleFrame : FrameView → State → State × Bool) : FrameHandler State :=
  fun frame state =>
    let kind := frame.header.kind
    if kind.direction ≠ .workerToParent ∨ kind.channel ≠ channel then
      (state, some .foreignMessage)
    else
      let (next, failed) := handleFrame frame state
      (next, if failed then some .handler else none)

/-- In the loop of the worker: `SubmitFrame` tells whether to keep reading. -/
def worker (submitFrame : FrameView → State → State × Bool) : FrameHandler State :=
  fun frame state =>
    if frame.header.kind.direction ≠ .parentToWorker then
      (state, some .foreignMessage)
    else
      let (next, keepReading) := submitFrame frame state
      (next, if keepReading then none else some .handler)

variable (handle : FrameHandler State)

/-- The inner loop, which ends when more bytes are needed or the reader stops.
What is buffered then is not looked at again. -/
def drain (state : State) (buffered : ByteString) : Channel State :=
  let decoded := decodeFrame buffered
  if _ : decoded.status = .complete then
    let handled := handle decoded.frame state
    if handled.2.isSome then { state := handled.1, buffered, stop := handled.2 }
    else drain handled.1 (buffered.drop decoded.consumedSize)
  else { state, buffered, stop := decoded.stop }
termination_by buffered.length
decreasing_by
  have consumed := consumedSize_eq ‹_›
  rw [headerSize] at consumed
  rw [List.length_drop]
  omega

/-- `ReadFile` has returned bytes. -/
def readChunk (channel : Channel State) (chunk : ByteString) : Channel State :=
  if channel.stop.isSome then channel
  else handle.drain channel.state (channel.buffered ++ chunk)

/-- Frames one after the other, up to the one that ends the reading. -/
def handleFrames : List FrameView → State → State × Option ReaderStop
  | [], state => (state, none)
  | frame :: frames, state =>
    let handled := handle frame state
    if handled.2.isSome then handled else handleFrames frames handled.1

end FrameHandler

/-- At its end the channel is left with a frame that is not whole. -/
def Channel.endsTruncated {State : Type} (channel : Channel State) : Bool :=
  channel.stop.isNone && !channel.buffered.isEmpty &&
    (decodeFrame channel.buffered true).status = .error

/-- What a reader makes of the bytes that have arrived. -/
structure Reads {State : Type} (handle : FrameHandler State) (start : State)
    (received : Received) (channel : Channel State) : Prop where
  state : channel.state = (handle.handleFrames received.frames start).1
  stop : channel.stop = (handle.handleFrames received.frames start).2.or received.result.stop
  buffered : channel.stop = none → channel.buffered = received.rest

variable {State : Type} (handle : FrameHandler State) (start : State)
variable {input : ByteString}

namespace FrameHandler

/-- A run of the inner loop handles the frames that have arrived. -/
theorem drain_reads (fuel : Nat) (enough : input.length ≤ fuel) :
    Reads handle start (receiveFrames fuel input) (handle.drain start input) := by
  induction fuel generalizing start input with
  | zero =>
    rw [List.eq_nil_of_length_eq_zero (Nat.le_zero.mp enough), drain, dif_neg (by decide)]
    exact ⟨rfl, rfl, fun _ => rfl⟩
  | succ fuel ih =>
    rw [drain, receiveFrames]
    dsimp only
    split_ifs with complete stops
    · obtain ⟨stop, stopped⟩ := Option.isSome_iff_exists.mp stops
      refine ⟨?_, ?_, by simp [stopped]⟩ <;> rw [handleFrames, if_pos stops]
      rw [stopped]
      rfl
    · have consumed := consumedSize_eq complete
      rw [headerSize] at consumed
      have later := @ih (handle (decodeFrame input).frame start).1
        (input.drop (decodeFrame input).consumedSize) (by rw [List.length_drop]; omega)
      refine ⟨?_, ?_, later.buffered⟩ <;> rw [handleFrames, if_neg stops]
      · exact later.state
      · exact later.stop
    · exact ⟨rfl, rfl, fun _ => rfl⟩

/-- A reader that goes on is left with bytes that await more. -/
theorem drain_awaits (input : ByteString) (reading : (handle.drain start input).stop = none) :
    (decodeFrame (handle.drain start input).buffered).status = .needMoreData := by
  fun_induction drain handle start input with
  | case1 state input decoded complete handled stops =>
    rw [Option.isSome_iff_ne_none] at stops
    exact absurd reading stops
  | case2 state input decoded complete handled stops ih => exact ih reading
  | case3 state input decoded incomplete =>
    unfold FrameDecodeResult.stop at reading
    dsimp only at reading ⊢
    split_ifs at reading with refused
    cases status : decoded.status
    · exact absurd status incomplete
    · rfl
    · exact absurd status refused

/-- What arrives later is read after what has arrived. -/
theorem drain_append (input more : ByteString) : handle.drain start (input ++ more) =
      let channel := handle.drain start input
      if channel.stop.isSome then { channel with buffered := channel.buffered ++ more }
      else handle.drain channel.state (channel.buffered ++ more) := by
  fun_induction drain handle start input with
  | case1 state input decoded complete handled stops =>
    have same := @decodeFrame_append input more (by rw [complete]; decide)
    rw [drain, same, dif_pos complete, if_pos stops]
    exact (if_pos stops).symm
  | case2 state input decoded complete handled stops ih =>
    have same := @decodeFrame_append input more (by rw [complete]; decide)
    rw [← ih, drain, same, dif_pos complete]
    rw [if_neg stops, List.drop_append_of_le_length (consumedSize_eq complete).2]
  | case3 state input decoded incomplete =>
    dsimp only
    split_ifs with refused
    · have same := @decodeFrame_append input more (by
        intro undecided
        rw [FrameDecodeResult.stop, undecided] at refused
        cases refused)
      rw [drain, same, dif_neg incomplete]
    · rfl

/-- The reader has read what has arrived, up to where it stopped. -/
theorem readChunks_drain (chunks : List ByteString) :
    let channel := chunks.foldl handle.readChunk { state := start }
    let whole := handle.drain start chunks.flatten
    channel.state = whole.state ∧ channel.stop = whole.stop ∧
      (channel.stop = none → channel.buffered = whole.buffered) := by
  induction chunks using List.reverseRecOn with
  | nil =>
    have empty : handle.drain start [] = { state := start } := by
      rw [drain, dif_neg (by decide)]
      rfl
    simp [empty]
  | append_singleton chunks chunk ih =>
    rw [List.foldl_append, List.flatten_append, List.flatten_singleton,
      drain_append, List.foldl_cons, List.foldl_nil]
    generalize chunks.foldl handle.readChunk { state := start } = channel at *
    obtain ⟨state, stop, buffered⟩ := ih
    dsimp only
    rw [readChunk, ← stop]
    split_ifs with stopped
    · refine ⟨state, rfl, fun reading => ?_⟩
      simp [reading] at stopped
    · rw [← state, ← buffered (by simpa using stopped)]
      exact ⟨rfl, rfl, fun _ => rfl⟩

/-- The reader does what handling the frames in the pieces does. -/
theorem readChunks_reads (chunks : List ByteString) : Reads handle start (receive chunks.flatten)
      (chunks.foldl handle.readChunk { state := start }) := by
  obtain ⟨state, stop, buffered⟩ := handle.readChunks_drain start chunks
  have reads := handle.drain_reads start _ (Nat.le_refl chunks.flatten.length)
  refine ⟨state.trans reads.state, stop.trans reads.stop, fun reading => ?_⟩
  exact (buffered reading).trans (reads.buffered (stop ▸ reading))

end FrameHandler

theorem decodeFrame_of_ended (undecided : (decodeFrame input).status = .needMoreData) :
    (decodeFrame input true).status = .error := by
  unfold decodeFrame at undecided ⊢
  simp only [FrameDecodeResult.awaiting] at undecided ⊢
  split_ifs at undecided ⊢ <;> rfl

end Savor.Wrms
