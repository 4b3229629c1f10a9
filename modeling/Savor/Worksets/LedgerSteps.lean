import Savor.Model.Identifiers
import Savor.Library.Sequence
import Savor.Library.Transition

/-!
# The completion ledger of a worker

The ledger keeps the terminals of finished workset items until they are
acknowledged.  It assigns terminal ids and the terminal order at reservation,
and it is the one source of the outbound sequence of the worker.
-/

namespace Savor.Worksets

open Library Program
open Keyed

inductive WorkerWorksetIdTag

inductive WorkerWorksetItemIdTag

inductive WorkerTerminalIdTag

inductive WorkerTerminalOrderTag

inductive WorkerOutboundSequenceTag

abbrev WorkerWorksetId := StrongId WorkerWorksetIdTag

abbrev WorkerWorksetItemId := StrongId WorkerWorksetItemIdTag

abbrev WorkerTerminalId := StrongId WorkerTerminalIdTag

abbrev WorkerTerminalOrder := StrongId WorkerTerminalOrderTag

abbrev WorkerOutboundSequence := StrongId WorkerOutboundSequenceTag

/-- The limits that the ledger reads, with their defaults. -/
structure WorkerWorksetLimits where
  maximumRetainedTerminals : UInt32 := 32
  maximumRetainedTerminalBytes : Nat := 128 * 1024 * 1024

structure WorkerItemTerminalCorrelation where
  worksetId : WorkerWorksetId
  itemId : WorkerWorksetItemId
  itemOrdinal : UInt32
  invocationId : InvocationId
  attemptId : AttemptId
  terminalId : WorkerTerminalId
  terminalOrder : WorkerTerminalOrder
  deriving DecidableEq

namespace WorkerItemTerminalCorrelation

/-- `SameItem`: everything but the terminal identity agrees. -/
def sameItem (lhs rhs : WorkerItemTerminalCorrelation) : Bool :=
  lhs.worksetId = rhs.worksetId && lhs.itemId = rhs.itemId && lhs.itemOrdinal = rhs.itemOrdinal &&
    lhs.invocationId = rhs.invocationId && lhs.attemptId = rhs.attemptId

/-- `CompleteCorrelation`: every id is present. -/
def completeCorrelation (correlation : WorkerItemTerminalCorrelation) : Bool :=
  correlation.worksetId.isSet && correlation.itemId.isSet &&
    correlation.invocationId.isSet && correlation.attemptId.isSet &&
    correlation.terminalId.isSet && correlation.terminalOrder.isSet

end WorkerItemTerminalCorrelation

inductive CompletionLedgerErrorCode
  | wrongThread
  | invalidArgument
  | capacityExceeded
  | duplicateTerminal
  | terminalNotFound
  | terminalMismatch
  | invalidState
  | sequenceExhausted

structure CompletionLedgerFailure where
  code : CompletionLedgerErrorCode
  message : ByteString

inductive RetainedTerminalState
  | pendingFinalization
  | ready
  | publishing
  | awaitingAcknowledgement
  deriving DecidableEq

structure WorkerTerminalPublication where
  correlation : WorkerItemTerminalCorrelation
  outboundSequence : WorkerOutboundSequence
  payload : ByteString

/-- A retained terminal.  Its payload exists from completion on. -/
structure LedgerEntry where
  correlation : WorkerItemTerminalCorrelation
  state : RetainedTerminalState := .pendingFinalization
  retainedBytes : Nat := 0
  outboundSequence : WorkerOutboundSequence := .none
  payload : Option ByteString := none

/-- Sizes are natural numbers: every subtraction of the source is guarded or
takes a part off a sum. -/
structure WorkerCompletionLedger where
  actorThread : Option ThreadId
  (maximumTerminals maximumBytes retainedBytes : Nat)
  (nextTerminalId nextTerminalOrder nextOutboundSequence : UInt64)
  openOutboundSequence : WorkerOutboundSequence
  entries : List LedgerEntry
  acknowledgedTombstones : List WorkerItemTerminalCorrelation

/-- What a successful operation returns. -/
inductive LedgerReply
  | done
  | terminal (correlation : WorkerItemTerminalCorrelation)
  | sequence (sequence : WorkerOutboundSequence)
  | publication (publication : Option WorkerTerminalPublication)

abbrev LedgerResult := Except CompletionLedgerFailure LedgerReply

namespace WorkerCompletionLedger

def failure (code : CompletionLedgerErrorCode) (message : String) : LedgerResult :=
  .error ⟨code, text message⟩

/-- `Find`: the entry with a terminal id. -/
def terminalKey (entry : LedgerEntry) : WorkerTerminalId := entry.correlation.terminalId

/-- The ledger as constructed, not yet bound to a thread. -/
def new (limits : WorkerWorksetLimits) : WorkerCompletionLedger where
  actorThread := none
  maximumTerminals := limits.maximumRetainedTerminals.toNat
  maximumBytes := limits.maximumRetainedTerminalBytes
  retainedBytes := 0
  nextTerminalId := 1
  nextTerminalOrder := 1
  nextOutboundSequence := 1
  openOutboundSequence := .none
  entries := []
  acknowledgedTombstones := []

def onActorThread (current : ThreadId) (ledger : WorkerCompletionLedger) : Bool :=
  ledger.actorThread == some current

/-- `RequireActorThread`, in front of the body of an operation. -/
def requireActorThread (current : ThreadId)
    (body : WorkerCompletionLedger → LedgerResult × WorkerCompletionLedger)
    (ledger : WorkerCompletionLedger) : LedgerResult × WorkerCompletionLedger :=
  if ledger.onActorThread current then body ledger
  else
    (failure .wrongThread "Worker completion ledger is actor-thread-owned", ledger)

def bindActorThread (current : ThreadId) (ledger : WorkerCompletionLedger) :
    LedgerResult × WorkerCompletionLedger :=
  match ledger.actorThread with
  | none => (.ok .done, { ledger with actorThread := some current })
  | some thread =>
    if thread = current then (.ok .done, ledger)
    else
      (failure .wrongThread "Worker completion ledger is already bound to another actor thread",
        ledger)

def reserveTerminal (correlation : WorkerItemTerminalCorrelation)
    (maximumEncodedBytes : Nat) (ledger : WorkerCompletionLedger) :
    LedgerResult × WorkerCompletionLedger :=
  if !correlation.worksetId.isSet || !correlation.itemId.isSet ||
      !correlation.invocationId.isSet || !correlation.attemptId.isSet ||
      correlation.terminalId.isSet || correlation.terminalOrder.isSet ||
      maximumEncodedBytes = 0 then
    (failure .invalidArgument ("Terminal reservation requires complete item identity, " ++
        "unassigned terminal identity, and a nonzero byte bound"), ledger)
  else if ledger.entries.any (·.correlation.sameItem correlation) then
    (failure .duplicateTerminal "The workset item already has a retained terminal", ledger)
  else if ledger.maximumTerminals = 0 ∨
      ledger.maximumTerminals ≤ ledger.entries.length ∨
      ledger.maximumBytes < maximumEncodedBytes ∨
      ledger.maximumBytes - maximumEncodedBytes < ledger.retainedBytes then
    (failure .capacityExceeded ("Terminal retention exceeds the configured completion-ledger " ++
        "count or byte bound"), ledger)
  else if ledger.nextTerminalId = 0 ∨ ledger.nextTerminalOrder = 0 then
    (failure .sequenceExhausted "Terminal identity sequence is exhausted", ledger)
  else
    let assigned := { correlation with
      terminalId := ⟨ledger.nextTerminalId⟩
      terminalOrder := ⟨ledger.nextTerminalOrder⟩ }
    (.ok (.terminal assigned), { ledger with
      nextTerminalId := ledger.nextTerminalId + 1
      nextTerminalOrder := ledger.nextTerminalOrder + 1
      entries := ledger.entries ++
        [{ correlation := assigned, retainedBytes := maximumEncodedBytes }]
      retainedBytes := ledger.retainedBytes + maximumEncodedBytes })

def completeTerminal (correlation : WorkerItemTerminalCorrelation)
    (payload : ByteString) (ledger : WorkerCompletionLedger) :
    LedgerResult × WorkerCompletionLedger :=
  if !correlation.completeCorrelation then
    (failure .invalidArgument "Terminal completion requires exact correlation", ledger)
  else
    match lookup terminalKey ledger.entries correlation.terminalId with
    | none =>
      (failure .terminalNotFound "Terminal reservation was not found", ledger)
    | some entry =>
      if entry.correlation ≠ correlation then
        (failure .terminalMismatch
          "Terminal completion does not match the exact reservation", ledger)
      else if entry.state ≠ .pendingFinalization then
        (failure .invalidState "Terminal is no longer pending finalization", ledger)
      else
        let complete (retained : Nat) :
            LedgerResult × WorkerCompletionLedger :=
          (.ok .done, { ledger with
            retainedBytes := retained
            entries := update terminalKey correlation.terminalId
              (fun entry => { entry with
                retainedBytes := payload.length
                payload := some payload
                state := .ready })
              ledger.entries })
        if entry.retainedBytes < payload.length then
          let growth := payload.length - entry.retainedBytes
          if ledger.maximumBytes < growth ∨
              ledger.maximumBytes - growth < ledger.retainedBytes then
            (failure .capacityExceeded
              ("Final terminal encoding exceeds its reservation and the " ++
                "completion-ledger byte bound"), ledger)
          else complete (ledger.retainedBytes + growth)
        else
          complete (ledger.retainedBytes - (entry.retainedBytes - payload.length))

variable (ledger : WorkerCompletionLedger)

/-- `ReserveOutboundSequenceUnchecked`, with the sequence it opens. -/
def reserveOutboundSequenceUnchecked : Except CompletionLedgerFailure
      (WorkerOutboundSequence × WorkerCompletionLedger) :=
  if ledger.openOutboundSequence.isSet then
    .error ⟨.invalidState, text "A prior outbound publication remains unresolved"⟩
  else if ledger.nextOutboundSequence = 0 then
    .error ⟨.sequenceExhausted, text "Outbound event sequence is exhausted"⟩
  else
    .ok (⟨ledger.nextOutboundSequence⟩, { ledger with
      openOutboundSequence := ⟨ledger.nextOutboundSequence⟩
      nextOutboundSequence := ledger.nextOutboundSequence + 1 })

def reserveOutboundSequence : LedgerResult × WorkerCompletionLedger :=
  match ledger.reserveOutboundSequenceUnchecked with
  | .error refused => (.error refused, ledger)
  | .ok (sequence, ledger) => (.ok (.sequence sequence), ledger)

/-- Close the open outbound sequence when it is the one named. -/
def closeOutboundSequence (mismatch : String)
    (sequence : WorkerOutboundSequence) (ledger : WorkerCompletionLedger) :
    LedgerResult × WorkerCompletionLedger :=
  if !sequence.isSet || sequence ≠ ledger.openOutboundSequence then
    (failure .terminalMismatch mismatch, ledger)
  else (.ok .done, { ledger with openOutboundSequence := .none })

def confirmOutboundSequence : WorkerOutboundSequence → WorkerCompletionLedger →
      LedgerResult × WorkerCompletionLedger :=
  closeOutboundSequence
    "Outbound confirmation does not match the active publication"

def abandonOutboundSequence : WorkerOutboundSequence → WorkerCompletionLedger →
      LedgerResult × WorkerCompletionLedger :=
  closeOutboundSequence
    "Outbound abandonment does not match the active publication"

/-- Publish the ready entry between `before` and `after` under a sequence. -/
def publish (before : List LedgerEntry) (entry : LedgerEntry)
    (after : List LedgerEntry) (sequence : WorkerOutboundSequence)
    (payload : ByteString) (ledger : WorkerCompletionLedger) :
    LedgerResult × WorkerCompletionLedger :=
  (.ok (.publication (some ⟨entry.correlation, sequence, payload⟩)),
    { ledger with
      entries := before ++
        { entry with outboundSequence := sequence, state := .publishing } :: after })

/-- The loop of `BeginNextPublication` over the entries after `before`. -/
def beginFirst (ledger : WorkerCompletionLedger) (before : List LedgerEntry) :
    List LedgerEntry → LedgerResult × WorkerCompletionLedger
  | [] => (.ok (.publication none), ledger)
  | entry :: after =>
    match entry.state, entry.payload with
    | .awaitingAcknowledgement, _ => ledger.beginFirst (before ++ [entry]) after
    | .pendingFinalization, _ => (.ok (.publication none), ledger)
    | .publishing, _ =>
      (failure .invalidState "A terminal publication is already in progress", ledger)
    | .ready, none =>
      (failure .invalidState "Ready terminal has no immutable payload", ledger)
    | .ready, some payload =>
      if !entry.outboundSequence.isSet then
        match ledger.reserveOutboundSequenceUnchecked with
        | .error refused => (.error refused, ledger)
        | .ok (sequence, ledger) => ledger.publish before entry after sequence payload
      else if ledger.openOutboundSequence ≠ entry.outboundSequence then
        (failure .invalidState "Terminal retry lost its exclusive outbound reservation", ledger)
      else
        ledger.publish before entry after entry.outboundSequence payload

def beginNextPublication : LedgerResult × WorkerCompletionLedger :=
  ledger.beginFirst [] ledger.entries

/-- The entry that is being published, for `ConfirmPublished` and
`AbortPublication`. -/
def findPublishing (missing mismatch : String) (correlation : WorkerItemTerminalCorrelation)
    (ledger : WorkerCompletionLedger) : Except CompletionLedgerFailure LedgerEntry :=
  match lookup terminalKey ledger.entries correlation.terminalId with
  | none => .error ⟨.terminalNotFound, text missing⟩
  | some entry =>
    if entry.correlation ≠ correlation then
      .error ⟨.terminalMismatch, text mismatch⟩
    else if entry.state ≠ .publishing then
      .error ⟨.invalidState, text "Terminal is not being published"⟩
    else .ok entry

/-- Move the entry with a terminal id to another state. -/
def setState (terminalId : WorkerTerminalId) (state : RetainedTerminalState)
    (ledger : WorkerCompletionLedger) : WorkerCompletionLedger :=
  { ledger with
    entries := update terminalKey terminalId
      (fun entry => { entry with state := state }) ledger.entries }

def confirmPublished (correlation : WorkerItemTerminalCorrelation)
    (ledger : WorkerCompletionLedger) : LedgerResult × WorkerCompletionLedger :=
  match ledger.findPublishing "Published terminal was not found"
    "Publication confirmation does not match the exact terminal"
    correlation with
  | .error refused => (.error refused, ledger)
  | .ok entry =>
    match ledger.confirmOutboundSequence entry.outboundSequence with
    | (.error refused, ledger) => (.error refused, ledger)
    | (.ok _, ledger) =>
      (.ok .done, ledger.setState correlation.terminalId .awaitingAcknowledgement)

/-- `AbortPublication`: the entry keeps its outbound sequence. -/
def abortPublication (correlation : WorkerItemTerminalCorrelation)
    (ledger : WorkerCompletionLedger) : LedgerResult × WorkerCompletionLedger :=
  match ledger.findPublishing "Terminal publication was not found"
    "Publication abort does not match the exact terminal" correlation with
  | .error refused => (.error refused, ledger)
  | .ok _ => (.ok .done, ledger.setState correlation.terminalId .ready)

def acknowledgeTerminal (correlation : WorkerItemTerminalCorrelation)
    (ledger : WorkerCompletionLedger) : LedgerResult × WorkerCompletionLedger :=
  if !correlation.completeCorrelation then
    (failure .invalidArgument
      "Terminal acknowledgement requires complete exact correlation", ledger)
  else
    match lookup terminalKey ledger.entries correlation.terminalId with
    | none =>
      match lookup (·.terminalId) ledger.acknowledgedTombstones correlation.terminalId with
      | some tombstone =>
        if tombstone = correlation then (.ok .done, ledger)
        else
          (failure .terminalMismatch ("Acknowledgement reuses a terminal identity with " ++
              "different correlation"), ledger)
      | none =>
        (failure .terminalNotFound "Acknowledged terminal was not retained", ledger)
    | some found =>
      if found.correlation ≠ correlation then
        (failure .terminalMismatch "Acknowledgement does not match the exact retained terminal",
          ledger)
      else if found.state ≠ .awaitingAcknowledgement then
        (failure .invalidState "Terminal cannot be acknowledged before publication", ledger)
      else
        let tombstones := ledger.acknowledgedTombstones ++ [found.correlation]
        let maximumTombstones := max 1 ledger.maximumTerminals
        (.ok .done, { ledger with
          retainedBytes := ledger.retainedBytes - found.retainedBytes
          -- the oldest tombstones make room for the new one
          acknowledgedTombstones := tombstones.drop (tombstones.length - maximumTombstones)
          entries := remove terminalKey correlation.terminalId ledger.entries })

end WorkerCompletionLedger

inductive LedgerOperation
  | bindActorThread
  | reserveTerminal
      (correlation : WorkerItemTerminalCorrelation)
      (maximumEncodedBytes : Nat)
  | completeTerminal
      (correlation : WorkerItemTerminalCorrelation)
      (payload : ByteString)
  | reserveOutboundSequence
  | confirmOutboundSequence (sequence : WorkerOutboundSequence)
  | abandonOutboundSequence (sequence : WorkerOutboundSequence)
  | beginNextPublication
  | confirmPublished (correlation : WorkerItemTerminalCorrelation)
  | abortPublication (correlation : WorkerItemTerminalCorrelation)
  | acknowledgeTerminal (correlation : WorkerItemTerminalCorrelation)

/-- An operation and the thread that calls it. -/
structure LedgerCall where
  thread : ThreadId
  operation : LedgerOperation

namespace WorkerCompletionLedger

/-- The body of an operation, on the actor thread. -/
def perform : LedgerOperation → ThreadId → WorkerCompletionLedger →
      LedgerResult × WorkerCompletionLedger
  | .bindActorThread, current => bindActorThread current
  | .reserveTerminal correlation bytes, current =>
    requireActorThread current (reserveTerminal correlation bytes)
  | .completeTerminal correlation payload, current =>
    requireActorThread current (completeTerminal correlation payload)
  | .reserveOutboundSequence, current => requireActorThread current reserveOutboundSequence
  | .confirmOutboundSequence sequence, current =>
    requireActorThread current (confirmOutboundSequence sequence)
  | .abandonOutboundSequence sequence, current =>
    requireActorThread current (abandonOutboundSequence sequence)
  | .beginNextPublication, current => requireActorThread current beginNextPublication
  | .confirmPublished correlation, current =>
    requireActorThread current (confirmPublished correlation)
  | .abortPublication correlation, current =>
    requireActorThread current (abortPublication correlation)
  | .acknowledgeTerminal correlation, current =>
    requireActorThread current (acknowledgeTerminal correlation)

/-- Every call is answered. -/
def step (call : LedgerCall) (ledger : WorkerCompletionLedger) :
    Option (LedgerResult × WorkerCompletionLedger) :=
  some (perform call.operation call.thread ledger)

end WorkerCompletionLedger

/-!
## Steps of the completion ledger

Everything that an operation of the ledger can do, said once.  An operation
that fails does nothing; the others touch at most one entry, which splits the
retained entries into those before it and those after it.
-/

variable {operation : LedgerOperation}

/-- The terminal and its entry were handed to the transport or are waiting for
the acknowledgement. -/
def LedgerEntry.published (entry : LedgerEntry) : Prop := entry.state = .awaitingAcknowledgement

instance (entry : LedgerEntry) : Decidable entry.published :=
  inferInstanceAs (Decidable (entry.state = .awaitingAcknowledgement))

/-- What an operation answers and leaves behind. -/
inductive LedgerStep (ledger : WorkerCompletionLedger) :
    LedgerOperation → LedgerResult → WorkerCompletionLedger → Prop
  | refused {operation failure} : LedgerStep ledger operation (.error failure) ledger
  | bound {thread} :
      LedgerStep ledger .bindActorThread (.ok .done) { ledger with actorThread := thread }
  | reserved
      {correlation assigned : WorkerItemTerminalCorrelation} {bytes : Nat}
      (few : ledger.entries.length < ledger.maximumTerminals)
      (small : ledger.retainedBytes + bytes ≤ ledger.maximumBytes)
      (idsLeft : ledger.nextTerminalId ≠ 0)
      (ordersLeft : ledger.nextTerminalOrder ≠ 0)
      (terminalId : assigned.terminalId = ⟨ledger.nextTerminalId⟩)
      (terminalOrder : assigned.terminalOrder = ⟨ledger.nextTerminalOrder⟩) :
      LedgerStep ledger (.reserveTerminal correlation bytes)
        (.ok (.terminal assigned))
        { ledger with
          nextTerminalId := ledger.nextTerminalId + 1
          nextTerminalOrder := ledger.nextTerminalOrder + 1
          entries := ledger.entries ++ [{ correlation := assigned, retainedBytes := bytes }]
          retainedBytes := ledger.retainedBytes + bytes }
  | completed
      {correlation payload before entry after retained}
      (split : ledger.entries = before ++ entry :: after)
      (matching : entry.correlation = correlation)
      (pending : entry.state = .pendingFinalization)
      (retains : entry.retainedBytes ≤ ledger.retainedBytes →
        retained + entry.retainedBytes = ledger.retainedBytes + payload.length)
      (small : ledger.retainedBytes ≤ ledger.maximumBytes → retained ≤ ledger.maximumBytes) :
      LedgerStep ledger (.completeTerminal correlation payload) (.ok .done)
        { ledger with
          retainedBytes := retained
          entries := before ++
            { entry with
              retainedBytes := payload.length
              payload := some payload
              state := .ready } :: after }
  | opened
      (left : ledger.nextOutboundSequence ≠ 0) :
      LedgerStep ledger .reserveOutboundSequence
        (.ok (.sequence ⟨ledger.nextOutboundSequence⟩))
        { ledger with
          openOutboundSequence := ⟨ledger.nextOutboundSequence⟩
          nextOutboundSequence := ledger.nextOutboundSequence + 1 }
  | closed
      {operation sequence}
      (closes : operation = .confirmOutboundSequence sequence ∨
        operation = .abandonOutboundSequence sequence) :
      LedgerStep ledger operation (.ok .done) { ledger with openOutboundSequence := .none }
  | idle : LedgerStep ledger .beginNextPublication (.ok (.publication none)) ledger
  | began
      {before entry after payload}
      (split : ledger.entries = before ++ entry :: after)
      (earlier : ∀ other ∈ before, other.published)
      (ready : entry.state = .ready)
      (fresh : entry.outboundSequence = .none)
      (left : ledger.nextOutboundSequence ≠ 0) :
      LedgerStep ledger .beginNextPublication
        (.ok (.publication (some ⟨entry.correlation, ⟨ledger.nextOutboundSequence⟩, payload⟩)))
        { ledger with
          openOutboundSequence := ⟨ledger.nextOutboundSequence⟩
          nextOutboundSequence := ledger.nextOutboundSequence + 1
          entries := before ++
            { entry with
              outboundSequence := ⟨ledger.nextOutboundSequence⟩
              state := .publishing } :: after }
  | retried
      {before entry after payload}
      (split : ledger.entries = before ++ entry :: after)
      (earlier : ∀ other ∈ before, other.published)
      (ready : entry.state = .ready)
      (reserved : entry.outboundSequence.isSet) :
      LedgerStep ledger .beginNextPublication
        (.ok (.publication (some ⟨entry.correlation, entry.outboundSequence, payload⟩)))
        { ledger with
          entries := before ++ { entry with state := .publishing } :: after }
  | published
      {correlation before entry after}
      (split : ledger.entries = before ++ entry :: after)
      (matching : entry.correlation = correlation)
      (publishing : entry.state = .publishing) :
      LedgerStep ledger (.confirmPublished correlation) (.ok .done)
        { ledger with
          openOutboundSequence := .none
          entries := before ++ { entry with state := .awaitingAcknowledgement } :: after }
  | aborted
      {correlation before entry after}
      (split : ledger.entries = before ++ entry :: after)
      (matching : entry.correlation = correlation)
      (publishing : entry.state = .publishing) :
      LedgerStep ledger (.abortPublication correlation) (.ok .done)
        { ledger with
          entries := before ++ { entry with state := .ready } :: after }
  | acknowledged
      {correlation before entry after tombstones}
      (split : ledger.entries = before ++ entry :: after)
      (matching : entry.correlation = correlation)
      (awaiting : entry.published) :
      LedgerStep ledger (.acknowledgeTerminal correlation) (.ok .done)
        { ledger with
          retainedBytes := ledger.retainedBytes - entry.retainedBytes
          acknowledgedTombstones := tombstones
          entries := before ++ after }
  | repeated {correlation} : LedgerStep ledger (.acknowledgeTerminal correlation) (.ok .done) ledger

namespace WorkerCompletionLedger

variable (ledger : WorkerCompletionLedger)

theorem bindActorThread_step (current : ThreadId) :
    LedgerStep ledger .bindActorThread (ledger.bindActorThread current).1
      (ledger.bindActorThread current).2 := by
  unfold bindActorThread
  cases bound : ledger.actorThread with
  | none => exact .bound
  | some thread =>
    by_cases same : thread = current
    · have unchanged : LedgerStep ledger .bindActorThread (.ok .done)
          { ledger with actorThread := ledger.actorThread } := .bound
      simpa [same] using unchanged
    · simpa [same, failure] using LedgerStep.refused

theorem reserveTerminal_step (correlation : WorkerItemTerminalCorrelation) (bytes : Nat) :
    LedgerStep ledger (.reserveTerminal correlation bytes)
      (ledger.reserveTerminal correlation bytes).1
      (ledger.reserveTerminal correlation bytes).2 := by
  unfold reserveTerminal
  split
  · exact .refused
  split
  · exact .refused
  split
  · exact .refused
  split
  · exact .refused
  rename_i capacity left
  simp only [not_or, Nat.not_le, Nat.not_lt] at capacity left
  obtain ⟨-, few, small, room⟩ := capacity
  exact .reserved few (by omega) left.1 left.2 rfl rfl

theorem completeTerminal_step (correlation : WorkerItemTerminalCorrelation) (payload : ByteString) :
    LedgerStep ledger (.completeTerminal correlation payload)
      (ledger.completeTerminal correlation payload).1
      (ledger.completeTerminal correlation payload).2 := by
  unfold completeTerminal
  split
  · exact .refused
  split
  · exact .refused
  rename_i entry found
  obtain ⟨before, after, split, -, -, updated, -⟩ := lookup_split found
  split
  · exact .refused
  split
  · exact .refused
  rename_i matching pending
  rw [not_ne_iff] at matching pending
  simp only [updated]
  split
  · split
    · exact .refused
    rename_i grows room
    simp only [not_or, Nat.not_lt] at room
    apply LedgerStep.completed split matching pending <;> intro <;> omega
  · apply LedgerStep.completed split matching pending <;> intro <;> omega

theorem reserveOutboundSequenceUnchecked_ok {sequence : WorkerOutboundSequence}
    {after : WorkerCompletionLedger}
    (opened : ledger.reserveOutboundSequenceUnchecked = .ok (sequence, after)) :
    ledger.nextOutboundSequence ≠ 0 ∧ sequence = ⟨ledger.nextOutboundSequence⟩ ∧
      after = { ledger with
        openOutboundSequence := ⟨ledger.nextOutboundSequence⟩
        nextOutboundSequence := ledger.nextOutboundSequence + 1 } := by
  unfold reserveOutboundSequenceUnchecked at opened
  iterate 2 (split at opened; · cases opened)
  · rename_i left
    simp only [Except.ok.injEq, Prod.mk.injEq] at opened
    exact ⟨left, opened.1.symm, opened.2.symm⟩

theorem reserveOutboundSequence_step : LedgerStep ledger .reserveOutboundSequence
      ledger.reserveOutboundSequence.1 ledger.reserveOutboundSequence.2 := by
  unfold reserveOutboundSequence
  split
  · exact .refused
  rename_i opened
  obtain ⟨left, rfl, rfl⟩ := ledger.reserveOutboundSequenceUnchecked_ok opened
  exact .opened left

theorem closeOutboundSequence_step (mismatch : String) (sequence : WorkerOutboundSequence)
    (closes : operation = .confirmOutboundSequence sequence ∨
      operation = .abandonOutboundSequence sequence) :
    LedgerStep ledger operation (ledger.closeOutboundSequence mismatch sequence).1
      (ledger.closeOutboundSequence mismatch sequence).2 := by
  unfold closeOutboundSequence
  split
  · exact .refused
  · exact .closed closes

theorem beginFirst_step {before rest : List LedgerEntry} (split : ledger.entries = before ++ rest)
    (earlier : ∀ other ∈ before, other.published) : LedgerStep ledger .beginNextPublication
      (ledger.beginFirst before rest).1 (ledger.beginFirst before rest).2 := by
  induction rest generalizing before with
  | nil => exact .idle
  | cons entry after ih =>
    unfold beginFirst
    split
    · rename_i awaiting
      apply ih
      · rw [split, List.append_assoc, List.singleton_append]
      intro other member
      rcases List.mem_append.mp member with old | new
      · exact earlier other old
      · rw [List.mem_singleton] at new
        exact new ▸ awaiting
    · exact .idle
    · exact .refused
    · exact .refused
    rename_i payload ready _
    split
    · rename_i unset
      split
      · exact .refused
      rename_i opened
      obtain ⟨left, rfl, rfl⟩ := ledger.reserveOutboundSequenceUnchecked_ok opened
      have fresh : entry.outboundSequence = .none := by
        apply StrongId.ext
        simpa [StrongId.isSet, StrongId.none] using unset
      exact .began split earlier ready fresh left
    · rename_i set
      split
      · exact .refused
      · exact .retried split earlier ready (by simpa using set)

theorem findPublishing_ok {missing mismatch : String}
    {correlation : WorkerItemTerminalCorrelation} {entry : LedgerEntry}
    (found : ledger.findPublishing missing mismatch correlation = .ok entry) :
    lookup terminalKey ledger.entries correlation.terminalId = some entry ∧
      entry.correlation = correlation ∧ entry.state = .publishing := by
  unfold findPublishing at found
  split at found
  · cases found
  rename_i first looked
  iterate 2 (split at found; · cases found)
  rename_i matching publishing
  cases found
  exact ⟨looked, not_ne_iff.mp matching, not_ne_iff.mp publishing⟩

theorem confirmPublished_step (correlation : WorkerItemTerminalCorrelation) :
    LedgerStep ledger (.confirmPublished correlation) (ledger.confirmPublished correlation).1
      (ledger.confirmPublished correlation).2 := by
  unfold confirmPublished
  split
  · exact .refused
  rename_i entry found
  obtain ⟨looked, matching, publishing⟩ := ledger.findPublishing_ok found
  obtain ⟨before, after, split, -, -, updated, -⟩ := lookup_split looked
  unfold confirmOutboundSequence closeOutboundSequence
  by_cases mismatch : (!entry.outboundSequence.isSet ||
      decide (entry.outboundSequence ≠ ledger.openOutboundSequence)) = true
  · rw [if_pos mismatch]
    exact .refused
  rw [if_neg mismatch]
  simp only [setState, updated]
  exact .published split matching publishing

theorem abortPublication_step (correlation : WorkerItemTerminalCorrelation) :
    LedgerStep ledger (.abortPublication correlation) (ledger.abortPublication correlation).1
      (ledger.abortPublication correlation).2 := by
  unfold abortPublication
  split
  · exact .refused
  rename_i entry found
  obtain ⟨looked, matching, publishing⟩ := ledger.findPublishing_ok found
  obtain ⟨before, after, split, -, -, updated, -⟩ := lookup_split looked
  simp only [setState, updated]
  exact .aborted split matching publishing

theorem acknowledgeTerminal_step (correlation : WorkerItemTerminalCorrelation) :
    LedgerStep ledger (.acknowledgeTerminal correlation) (ledger.acknowledgeTerminal correlation).1
      (ledger.acknowledgeTerminal correlation).2 := by
  unfold acknowledgeTerminal
  split
  · exact .refused
  split
  · split
    · split
      · exact .repeated
      · exact .refused
    · exact .refused
  rename_i entry found
  obtain ⟨before, after, split, -, -, -, removed⟩ := lookup_split found
  split
  · exact .refused
  split
  · exact .refused
  rename_i matching awaiting
  simp only [removed]
  exact .acknowledged split (not_ne_iff.mp matching) (not_ne_iff.mp awaiting)

theorem requireActorThread_step
    {body : WorkerCompletionLedger → LedgerResult × WorkerCompletionLedger} (current : ThreadId)
    (stepped : LedgerStep ledger operation (body ledger).1 (body ledger).2) :
    LedgerStep ledger operation (requireActorThread current body ledger).1
      (requireActorThread current body ledger).2 := by
  unfold requireActorThread
  split
  · exact stepped
  · exact .refused

theorem perform_step (operation : LedgerOperation) (current : ThreadId) :
    LedgerStep ledger operation (perform operation current ledger).1
      (perform operation current ledger).2 := by
  cases operation with
  | bindActorThread => exact ledger.bindActorThread_step current
  | reserveTerminal correlation bytes =>
    exact ledger.requireActorThread_step current (ledger.reserveTerminal_step correlation bytes)
  | completeTerminal correlation payload =>
    exact ledger.requireActorThread_step current (ledger.completeTerminal_step correlation payload)
  | reserveOutboundSequence =>
    exact ledger.requireActorThread_step current ledger.reserveOutboundSequence_step
  | confirmOutboundSequence sequence =>
    exact ledger.requireActorThread_step current
      (ledger.closeOutboundSequence_step _ sequence (.inl rfl))
  | abandonOutboundSequence sequence =>
    exact ledger.requireActorThread_step current
      (ledger.closeOutboundSequence_step _ sequence (.inr rfl))
  | beginNextPublication =>
    exact ledger.requireActorThread_step current
      (ledger.beginFirst_step (List.nil_append _).symm (by simp))
  | confirmPublished correlation =>
    exact ledger.requireActorThread_step current (ledger.confirmPublished_step correlation)
  | abortPublication correlation =>
    exact ledger.requireActorThread_step current (ledger.abortPublication_step correlation)
  | acknowledgeTerminal correlation =>
    exact ledger.requireActorThread_step current (ledger.acknowledgeTerminal_step correlation)

end WorkerCompletionLedger
end Savor.Worksets

