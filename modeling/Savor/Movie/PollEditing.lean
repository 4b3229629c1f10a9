import Savor.Library.Stream
import Savor.Movie.MovieService

/-!
# Editing poll records

The editor writes, inserts and erases poll records at offsets into the bytes of
the file and keeps the input count of the header.  The file then holds the list
of polls that the same edits make of the list it held before.
-/

namespace Savor.Movie

open Library Stream
open Program (ByteString)

/-- A record of one controller poll. -/
structure DtmGcPoll where
  buttonBits : UInt16 := 0
  (triggerL triggerR : UInt8 := 0)
  (stickX stickY cstickX cstickY : UInt8 := 0x80)
deriving DecidableEq

/-- `DtmFile::encode_gc_poll` -/
def encodeGcPoll (poll : DtmGcPoll) : ByteString :=
  Word.u16.encode poll.buttonBits ++
    [poll.triggerL, poll.triggerR, poll.stickX, poll.stickY, poll.cstickX, poll.cstickY]

/-- `DtmFile::decode_gc_poll`, of the bytes from the record on. -/
def decodeGcPoll : ByteString → Option DtmGcPoll
  | low :: high :: triggerL :: triggerR :: stickX :: stickY :: cstickX ::
      cstickY :: _ =>
      some
        { buttonBits := Word.u16.decode [low, high]
          triggerL, triggerR, stickX, stickY, cstickX, cstickY }
  | _ => none

/-- The most bytes that a vector of them holds. -/
def maximumSize : Nat := 2 ^ 63 - 1

/-- Replace the bytes from one offset to another. -/
def splice (bytes : ByteString) (first last : Nat) (data : ByteString) : ByteString :=
  bytes.take first ++ (data ++ bytes.drop last)

/-- A call of the poll editor. -/
inductive PollEdit
  | write (index : UInt64) (poll : DtmGcPoll)
  | insert (index : UInt64) (polls : List DtmGcPoll)
  | erase (index count : UInt64)

namespace DtmFile

/-- Where a poll record begins. -/
def offsetOf (index : UInt64) : Nat := (0x100 + index * 8).toNat

/-- `DtmFile::read_gc_poll` -/
def readGcPoll (dtm : DtmFile) (index : UInt64) : Option DtmGcPoll :=
  if dtm.pollEditingReason.isSome then none
  else if dtm.gcPollCount ≤ index.toNat then none
  else decodeGcPoll (dtm.bytes.drop (offsetOf index))

/-- `DtmFile::sync_input_count_from_gc_polls` -/
def syncInputCountFromGcPolls (dtm : DtmFile) : DtmFile :=
  if dtm.pollEditingReason.isSome then dtm
  else
    ⟨splice dtm.bytes kOffInputCount (kOffInputCount + 8) (Wire.littleEndian 8 dtm.gcPollCount)⟩

/-- `DtmFile::write_gc_poll`: what it returns, and the file after it. -/
def writeGcPoll (dtm : DtmFile) (index : UInt64) (poll : DtmGcPoll) : Option Bool × DtmFile :=
  if dtm.pollEditingReason.isSome then (some false, dtm)
  else if dtm.gcPollCount ≤ index.toNat then (some false, dtm)
  else
    let offset := offsetOf index
    (some true, ⟨splice dtm.bytes offset (offset + 8) (encodeGcPoll poll)⟩)

/-- `DtmFile::insert_gc_polls`, which returns nothing where a vector would grow
too long and throws. -/
def insertGcPolls (dtm : DtmFile) (index : UInt64) (polls : List DtmGcPoll) :
    Option Bool × DtmFile :=
  if dtm.pollEditingReason.isSome then (some false, dtm)
  else if dtm.gcPollCount < index.toNat then (some false, dtm)
  else if polls.isEmpty then (some true, dtm)
  else
    let encoded := polls.flatMap encodeGcPoll
    let offset := offsetOf index
    if maximumSize < dtm.bytes.length + encoded.length then (none, dtm)
    else
      (some true, syncInputCountFromGcPolls ⟨splice dtm.bytes offset offset encoded⟩)

/-- `DtmFile::erase_gc_polls` -/
def eraseGcPolls (dtm : DtmFile) (index count : UInt64) : Option Bool × DtmFile :=
  if dtm.pollEditingReason.isSome then (some false, dtm)
  else if dtm.gcPollCount ≤ index.toNat then (some false, dtm)
  else
    let eraseCount := min count.toNat (dtm.gcPollCount - index.toNat)
    if eraseCount = 0 then (some true, dtm)
    else
      let offBegin := offsetOf index
      (some true, syncInputCountFromGcPolls
        ⟨splice dtm.bytes offBegin (offBegin + eraseCount * 8) []⟩)

/-- Make a call. -/
def edit (dtm : DtmFile) : PollEdit → Option Bool × DtmFile
  | .write index poll => dtm.writeGcPoll index poll
  | .insert index polls => dtm.insertGcPolls index polls
  | .erase index count => dtm.eraseGcPolls index count

/-- The polls that can be read back. -/
def gcPolls (dtm : DtmFile) : List DtmGcPoll :=
  (List.range dtm.gcPollCount).filterMap fun index => dtm.readGcPoll (UInt64.ofNat index)

end DtmFile

namespace PollEdit

/-- The call on a list of polls, unless it is out of range or too long. -/
def onPolls (polls : List DtmGcPoll) : PollEdit → Option (List DtmGcPoll)
  | write index poll =>
    if index.toNat < polls.length then some (polls.set index.toNat poll)
    else none
  | insert index more =>
    if index.toNat ≤ polls.length ∧ 0x100 + (polls.length + more.length) * 8 ≤ maximumSize then
      some (polls.take index.toNat ++ (more ++ polls.drop index.toNat))
    else none
  | erase index count =>
    if index.toNat < polls.length then
      some (polls.take index.toNat ++ polls.drop (index.toNat + count.toNat))
    else none

/-- The call inserts or erases at least one poll where it succeeds. -/
def ChangesCount : PollEdit → Prop
  | write _ _ => False
  | insert _ polls => polls ≠ []
  | erase _ count => count ≠ 0

end PollEdit

@[simp] theorem length_encoded (polls : List DtmGcPoll) :
    (polls.flatMap encodeGcPoll).length = polls.length * 8 := by
  have length (poll : DtmGcPoll) : (encodeGcPoll poll).length = 8 := by
    rw [encodeGcPoll, List.length_append, Word.length_encode]
    rfl
  simp [List.length_flatMap, length]

theorem decodeGcPoll_encodeGcPoll (poll : DtmGcPoll) (rest : ByteString) :
    decodeGcPoll (encodeGcPoll poll ++ rest) = some poll :=
  calc decodeGcPoll (encodeGcPoll poll ++ rest)
      = some { poll with
          buttonBits := Word.u16.decode (Word.u16.encode poll.buttonBits) } :=
        rfl
    _ = some poll := by rw [Word.decode_encode]

theorem encodeGcPoll_decodeGcPoll {bytes : ByteString} (length : bytes.length = 8) :
    (decodeGcPoll bytes).map encodeGcPoll = some bytes := by
  match bytes, length with
  | [low, high, _, _, _, _, _, _], _ =>
    have buttons := Word.u16.encode_decode [low, high] rfl
    simp [decodeGcPoll, encodeGcPoll, buttons]

theorem exists_polls {count : Nat} {bytes : ByteString} (length : bytes.length = count * 8) :
    ∃ polls : List DtmGcPoll, polls.length = count ∧ bytes = polls.flatMap encodeGcPoll := by
  induction count generalizing bytes with
  | zero => exact ⟨[], rfl, List.eq_nil_of_length_eq_zero (by omega)⟩
  | succ count ih =>
    have first : (bytes.take 8).length = 8 := by simp; omega
    have behind : (bytes.drop 8).length = count * 8 := by simp; omega
    obtain ⟨poll, -, encoded⟩ := Option.map_eq_some_iff.mp (encodeGcPoll_decodeGcPoll first)
    obtain ⟨polls, rfl, rest⟩ := ih behind
    refine ⟨poll :: polls, rfl, ?_⟩
    rw [List.flatMap_cons, encoded, ← rest, List.take_append_drop]

/-- Records begin at the multiples of their length. -/
theorem encoded_take_drop {polls : List DtmGcPoll} {count : Nat} (inside : count ≤ polls.length) :
    (polls.flatMap encodeGcPoll).take (count * 8) = (polls.take count).flatMap encodeGcPoll ∧
      (polls.flatMap encodeGcPoll).drop (count * 8) = (polls.drop count).flatMap encodeGcPoll := by
  have length : ((polls.take count).flatMap encodeGcPoll).length = count * 8 := by
    rw [length_encoded, List.length_take_of_le inside]
  have parts : polls.flatMap encodeGcPoll =
      (polls.take count).flatMap encodeGcPoll ++ (polls.drop count).flatMap encodeGcPoll := by
    rw [← List.flatMap_append, List.take_append_drop]
  rw [parts]
  exact ⟨List.take_left' length, List.drop_left' length⟩

/-- The editor takes a file that holds these polls, and it differs from the file
at the start only behind the header and in the input count. -/
structure Holds (start dtm : DtmFile) (polls : List DtmGcPoll) : Prop where
  gc : start.hasGc = true
  wii : start.hasWii = false
  kept : ∀ offset < 0x100, offset < 0x15 ∨ 0x1D ≤ offset → dtm.bytes[offset]? = start.bytes[offset]?
  long : 0x100 ≤ dtm.bytes.length
  payload : dtm.bytes.drop 0x100 = polls.flatMap encodeGcPoll
  sized : 0x100 + polls.length * 8 ≤ maximumSize

namespace Holds

variable {start dtm : DtmFile} {polls : List DtmGcPoll}

theorem length (holds : Holds start dtm polls) : dtm.bytes.length = 0x100 + polls.length * 8 := by
  have long := holds.long
  have payload := congrArg List.length holds.payload
  rw [List.length_drop, length_encoded] at payload
  omega

theorem editable (holds : Holds start dtm polls) :
    dtm.pollEditingReason = none ∧ dtm.gcPollCount = polls.length := by
  have controllers : dtm.header DtmFile.kOffControllers = start.header DtmFile.kOffControllers := by
    rw [DtmFile.header, List.getD_eq_getElem?_getD, holds.kept _ (by decide) (.inl (by decide)),
      ← List.getD_eq_getElem?_getD, DtmFile.header]
  have gc : dtm.hasGc = true := by
    rw [DtmFile.hasGc, controllers]
    exact holds.gc
  have wii : dtm.hasWii = false := by
    rw [DtmFile.hasWii, controllers]
    exact holds.wii
  have size : dtm.payloadSize = polls.length * 8 := by
    rw [DtmFile.payloadSize, holds.length, DtmFile.kMinHeader, Nat.add_sub_cancel_left]
  have reason : dtm.pollEditingReason = none := by
    simp [DtmFile.pollEditingReason, gc, wii, size, DtmFile.pollSize]
  exact ⟨reason, by simp [DtmFile.gcPollCount, reason, size, DtmFile.pollSize]⟩

/-- No offset of a record wraps. -/
theorem offset (holds : Holds start dtm polls) {index : UInt64}
    (inside : index.toNat ≤ polls.length) : DtmFile.offsetOf index = 0x100 + index.toNat * 8 := by
  have sized := holds.sized
  unfold maximumSize at sized
  rw [DtmFile.offsetOf, UInt64.toNat_add, UInt64.toNat_mul]
  change (256 + index.toNat * 8 % 2 ^ 64) % 2 ^ 64 = _
  omega

theorem read (holds : Holds start dtm polls) (index : UInt64) :
    dtm.readGcPoll index = polls[index.toNat]? := by
  rw [DtmFile.readGcPoll, holds.editable.1, if_neg nofun, holds.editable.2]
  by_cases inside : index.toNat < polls.length
  · have here := Nat.le_of_lt inside
    rw [if_neg (Nat.not_le.mpr inside), holds.offset here, ← List.drop_drop,
      holds.payload, (encoded_take_drop here).2,
      List.drop_eq_getElem_cons inside, List.flatMap_cons,
      decodeGcPoll_encodeGcPoll, List.getElem?_eq_getElem inside]
  · rw [if_pos (Nat.not_lt.mp inside), List.getElem?_eq_none (Nat.not_lt.mp inside)]

theorem gcPolls (holds : Holds start dtm polls) : dtm.gcPolls = polls := by
  have sized := holds.sized
  unfold maximumSize at sized
  have reads : ∀ index ∈ List.range polls.length,
      dtm.readGcPoll (UInt64.ofNat index) = polls[index]? := by
    intro index member
    have inside := List.mem_range.mp member
    rw [holds.read, UInt64.toNat_ofNat_of_lt' (by simp [UInt64.size]; omega)]
  rw [DtmFile.gcPolls, holds.editable.2, List.filterMap_congr reads]
  clear reads sized holds
  induction polls with
  | nil => rfl
  | cons poll polls ih =>
    rw [List.length_cons, List.range_succ_eq_map]
    simpa [List.filterMap_cons, List.filterMap_map] using ih

/-- Replacing records replaces polls. -/
theorem splice (holds : Holds start dtm polls) {first last : Nat}
    (order : first ≤ last) (inside : last ≤ polls.length) (more : List DtmGcPoll)
    (sized : 0x100 + (first + (more.length + (polls.length - last))) * 8 ≤ maximumSize) :
    Holds start
      ⟨splice dtm.bytes (0x100 + first * 8) (0x100 + last * 8) (more.flatMap encodeGcPoll)⟩
      (polls.take first ++ (more ++ polls.drop last)) := by
  have length := holds.length
  have before : (dtm.bytes.take (0x100 + first * 8)).length =
      0x100 + first * 8 := List.length_take_of_le (by omega)
  refine ⟨holds.gc, holds.wii, fun offset header beside => ?_, ?_, ?_, ?_⟩
  · rw [Movie.splice, List.getElem?_append_left (by omega),
      List.getElem?_take_of_lt (by omega), holds.kept offset header beside]
  · rw [Movie.splice, List.length_append]
    omega
  · rw [Movie.splice, List.drop_append_of_le_length (by omega), List.drop_take,
      ← List.drop_drop, holds.payload, Nat.add_sub_cancel_left,
      (encoded_take_drop (Nat.le_trans order inside)).1,
      (encoded_take_drop inside).2, List.flatMap_append, List.flatMap_append]
  · rwa [List.length_append, List.length_append, List.length_drop,
      List.length_take_of_le (Nat.le_trans order inside)]

theorem sync (holds : Holds start dtm polls) : Holds start dtm.syncInputCountFromGcPolls polls ∧
      dtm.syncInputCountFromGcPolls.inputCount = polls.length := by
  have sized := holds.sized
  unfold maximumSize at sized
  have long := holds.long
  have before : (dtm.bytes.take DtmFile.kOffInputCount).length = DtmFile.kOffInputCount :=
    List.length_take_of_le (Nat.le_trans (by decide) long)
  have count : (Wire.littleEndian 8 polls.length).length = 8 := Wire.length_littleEndian 8 _
  rw [DtmFile.syncInputCountFromGcPolls, holds.editable.1, if_neg nofun,
    holds.editable.2, Movie.splice]
  refine ⟨⟨holds.gc, holds.wii, fun offset header beside => ?_, ?_, ?_, holds.sized⟩, ?_⟩
  · rw [← holds.kept offset header beside]
    unfold DtmFile.kOffInputCount at before ⊢
    grind
  · simp only [List.length_append, before, count, List.length_drop]
    omega
  · rw [← holds.payload]
    rw [List.drop_append, before, List.drop_append, count, List.drop_drop,
      List.drop_eq_nil_of_le (by rw [before]; decide),
      List.drop_eq_nil_of_le (by rw [count]; decide)]
    rfl
  · rw [DtmFile.inputCount, List.drop_left' before, List.take_left' count,
      Wire.ofLittleEndian_littleEndian]
    omega

end Holds

/-- What a call on a file that holds polls makes of them. -/
structure Follows (start dtm : DtmFile) (changesCount : Prop)
    (expected : Option (List DtmGcPoll)) (result : Option Bool × DtmFile) : Prop where
  refused : expected = none → result.1 ≠ some true ∧ result.2 = dtm
  accepted : ∀ polls, expected = some polls → result.1 = some true ∧
    Holds start result.2 polls ∧ (changesCount → result.2.inputCount = polls.length)

namespace Follows

variable {start dtm : DtmFile} {polls : List DtmGcPoll} {changesCount : Prop}

theorem none {answer : Option Bool} (fails : answer ≠ some true) :
    Follows start dtm changesCount .none (answer, dtm) :=
  ⟨fun _ => ⟨fails, rfl⟩, nofun⟩

theorem same (holds : Holds start dtm polls) (counts : ¬changesCount) :
    Follows start dtm' changesCount (some polls) (some true, dtm) where
  refused := nofun
  accepted := by
    rintro _ ⟨⟩
    exact ⟨rfl, holds, fun changes => absurd changes counts⟩

theorem sync (holds : Holds start dtm polls) : Follows start dtm' changesCount (some polls)
      (some true, dtm.syncInputCountFromGcPolls) where
  refused := nofun
  accepted := by
    rintro _ ⟨⟩
    exact ⟨rfl, holds.sync.1, fun _ => holds.sync.2⟩

end Follows

theorem exists_holds {contents : ByteString} {dtm : DtmFile}
    (loaded : DtmFile.load (some contents) = some dtm) (editable : dtm.pollEditingReason = none)
    (sized : contents.length ≤ maximumSize) : ∃ polls, Holds dtm dtm polls := by
  dsimp only [DtmFile.load] at loaded
  split_ifs at loaded with short
  cases loaded
  unfold DtmFile.pollEditingReason at editable
  split_ifs at editable with gc wii aligned
  have long : 0x100 ≤ contents.length := Nat.not_lt.mp short
  have aligned : (contents.length - 0x100) % 8 = 0 := not_not.mp aligned
  have whole : (contents.drop 0x100).length = (contents.length - 0x100) / 8 * 8 := by
    rw [List.length_drop]
    omega
  obtain ⟨polls, count, payload⟩ := exists_polls whole
  exact ⟨polls, by simpa using gc, by simpa using wii, fun _ _ _ => rfl, long, payload, by omega⟩

section

variable {start dtm : DtmFile} {polls : List DtmGcPoll} (holds : Holds start dtm polls)
  (index : UInt64)
include holds

theorem write_follows (poll : DtmGcPoll) :
    Follows start dtm False ((PollEdit.write index poll).onPolls polls)
      (dtm.writeGcPoll index poll) := by
  obtain ⟨editable, count⟩ := holds.editable
  have sized := holds.sized
  rw [DtmFile.writeGcPoll, editable, if_neg nofun, count, PollEdit.onPolls]
  split
  · rename_i inside
    have here := Nat.le_of_lt inside
    rw [if_neg (Nat.not_le.mpr inside), holds.offset here]
    refine .same ?_ id
    rw [List.set_eq_take_append_cons_drop, if_pos inside]
    have spliced := holds.splice (Nat.le_succ _) inside [poll] (by
      simp only [List.length_singleton]
      omega)
    simpa [Nat.add_mul, Nat.add_assoc] using spliced
  · rename_i outside
    rw [if_pos (Nat.not_lt.mp outside)]
    exact .none nofun

theorem insert_follows (more : List DtmGcPoll) :
    Follows start dtm (more ≠ []) ((PollEdit.insert index more).onPolls polls)
      (dtm.insertGcPolls index more) := by
  obtain ⟨editable, count⟩ := holds.editable
  have size : dtm.bytes.length + (more.flatMap encodeGcPoll).length =
      0x100 + (polls.length + more.length) * 8 := by
    rw [holds.length, length_encoded]
    omega
  rw [DtmFile.insertGcPolls, editable, if_neg nofun, count, PollEdit.onPolls]
  by_cases inside : index.toNat ≤ polls.length
  case neg =>
    rw [if_pos (Nat.not_le.mp inside), if_neg fun within => inside within.1]
    exact .none nofun
  rw [if_neg (Nat.not_lt.mpr inside)]
  cases more with
  | nil =>
    rw [if_pos ⟨inside, holds.sized⟩, List.nil_append, List.take_append_drop]
    exact .same holds fun changes => changes rfl
  | cons poll more =>
    dsimp only [List.isEmpty_cons]
    rw [size, holds.offset inside]
    by_cases fits : 0x100 + (polls.length + (poll :: more).length) * 8 ≤ maximumSize
    · rw [if_pos ⟨inside, fits⟩, if_neg nofun, if_neg (Nat.not_lt.mpr fits)]
      refine .sync (holds.splice (Nat.le_refl _) inside _ ?_)
      omega
    · rw [if_neg fun within => fits within.2, if_neg nofun, if_pos (Nat.not_le.mp fits)]
      exact .none nofun

theorem erase_follows (erased : UInt64) :
    Follows start dtm (erased ≠ 0) ((PollEdit.erase index erased).onPolls polls)
      (dtm.eraseGcPolls index erased) := by
  obtain ⟨editable, count⟩ := holds.editable
  have sized := holds.sized
  rw [DtmFile.eraseGcPolls, editable, if_neg nofun, count, PollEdit.onPolls]
  by_cases inside : index.toNat < polls.length
  case neg =>
    rw [if_pos (Nat.not_lt.mp inside), if_neg inside]
    exact .none nofun
  have here := Nat.le_of_lt inside
  rw [if_neg (Nat.not_le.mpr inside), if_pos inside]
  dsimp only
  split
  · rename_i nothing
    have zero : erased.toNat = 0 := by omega
    rw [zero, Nat.add_zero, List.take_append_drop]
    exact .same holds fun changes => changes (UInt64.toNat_inj.mp zero)
  generalize least : min erased.toNat (polls.length - index.toNat) = number
  have reaches : index.toNat + number ≤ polls.length := by omega
  have dropped : polls.drop (index.toNat + erased.toNat) = polls.drop (index.toNat + number) := by
    rcases Nat.le_total erased.toNat (polls.length - index.toNat) with fewer | rest
    · rw [← least, Nat.min_eq_left fewer]
    · rw [List.drop_eq_nil_of_le (by omega), List.drop_eq_nil_of_le (by omega)]
  rw [holds.offset here, dropped]
  have spliced := holds.splice (Nat.le_add_right _ _) reaches [] (by
    simp only [List.length_nil]
    omega)
  exact .sync (by simpa [Nat.add_mul, Nat.add_assoc] using spliced)

theorem edit_follows (edit : PollEdit) :
    Follows start dtm edit.ChangesCount (edit.onPolls polls) (dtm.edit edit) := by
  cases edit with
  | write index poll => exact write_follows holds index poll
  | insert index more => exact insert_follows holds index more
  | erase index erased => exact erase_follows holds index erased

/-- A run of calls. -/
theorem edits_hold (edits : List PollEdit) :
    Holds start (edits.foldl (fun dtm edit => (dtm.edit edit).2) dtm)
      (edits.foldl (fun polls edit => (edit.onPolls polls).getD polls) polls) := by
  induction edits generalizing dtm polls with
  | nil => exact holds
  | cons edit edits ih =>
    have follows := edit_follows holds edit
    refine ih ?_
    dsimp only
    cases edited : edit.onPolls polls with
    | none =>
      rw [(follows.refused edited).2]
      exact holds
    | some _ => exact (follows.accepted _ edited).2.1

/-- A call that changes no count leaves the header alone, and one of no polls
the whole file. -/
theorem edit_uncounted : (dtm.insertGcPolls index []).2 = dtm ∧ (dtm.eraseGcPolls index 0).2 = dtm ∧
      ∀ poll, (dtm.writeGcPoll index poll).2.bytes.take 0x100 = dtm.bytes.take 0x100 := by
  obtain ⟨editable, count⟩ := holds.editable
  refine ⟨?_, ?_, fun poll => ?_⟩
  · rw [DtmFile.insertGcPolls, editable, if_neg nofun]
    split <;> rfl
  · rw [DtmFile.eraseGcPolls, editable, if_neg nofun]
    split
    · rfl
    · dsimp only
      rw [UInt64.toNat_zero, Nat.zero_min, if_pos rfl]
  · rw [DtmFile.writeGcPoll, editable, if_neg nofun, count]
    split
    · rfl
    · rename_i inside
      have here := Nat.le_of_lt (Nat.not_le.mp inside)
      have long : 0x100 ≤ (dtm.bytes.take (0x100 + index.toNat * 8)).length := by
        rw [List.length_take, holds.length]
        omega
      dsimp only [splice]
      rw [holds.offset here, List.take_append_of_le_length long, List.take_take,
        Nat.min_eq_left (Nat.le_add_right _ _)]

end

/-- Any run of calls edits the polls of a file as the same calls edit the list
of them, and keeps the file editable and the rest of its header.  A call that
does not succeed changes nothing, one that inserts or erases a poll counts the
polls, and no other call changes the count.  Encoding and decoding a poll are
inverse. -/
theorem poll_editing_is_list_editing {contents : ByteString} {dtm : DtmFile}
    (loaded : DtmFile.load (some contents) = some dtm) (editable : dtm.pollEditingReason = none)
    (sized : contents.length ≤ maximumSize) (edits : List PollEdit) :
    let after := edits.foldl (fun dtm edit => (dtm.edit edit).2) dtm
    (after.pollEditingReason = none ∧ after.gcPolls =
        edits.foldl (fun polls edit => (edit.onPolls polls).getD polls) dtm.gcPolls ∧
      (∀ offset < 0x100, offset < 0x15 ∨ 0x1D ≤ offset →
        after.bytes[offset]? = dtm.bytes[offset]?) ∧ (∀ edit, ((after.edit edit).1 = some true ↔
          (edit.onPolls after.gcPolls).isSome) ∧
        ((after.edit edit).1 ≠ some true → (after.edit edit).2 = after) ∧
        (edit.ChangesCount → (after.edit edit).1 = some true → (after.edit edit).2.inputCount =
            (after.edit edit).2.gcPollCount)) ∧
      ∀ index, (after.edit (.insert index [])).2 = after ∧ (after.edit (.erase index 0)).2 = after ∧
        ∀ poll, (after.edit (.write index poll)).2.bytes.take 0x100 = after.bytes.take 0x100) ∧
      (∀ poll, decodeGcPoll (encodeGcPoll poll) = some poll) ∧
      ∀ bytes : ByteString, bytes.length = 8 →
        (decodeGcPoll bytes).map encodeGcPoll = some bytes := by
  intro after
  obtain ⟨polls, first⟩ := exists_holds loaded editable sized
  have holds := edits_hold first edits
  refine ⟨⟨holds.editable.1, ?_, holds.kept, fun edit => ?_, edit_uncounted holds⟩,
    fun poll => ?_, fun _ => encodeGcPoll_decodeGcPoll⟩
  · rw [holds.gcPolls, first.gcPolls]
  · have follows := edit_follows holds edit
    rw [holds.gcPolls]
    cases edited : edit.onPolls _ with
    | none =>
      obtain ⟨fails, same⟩ := follows.refused edited
      exact ⟨iff_of_false fails nofun, fun _ => same, fun _ done => absurd done fails⟩
    | some next =>
      obtain ⟨done, holdsNext, counts⟩ := follows.accepted _ edited
      exact ⟨iff_of_true done rfl, fun fails => absurd done fails,
        fun changes _ => by rw [counts changes, holdsNext.editable.2]⟩
  · simpa using decodeGcPoll_encodeGcPoll poll []

/-- A header with a wrong input count. -/
def miscounted : ByteString := DtmFile.signature ++ (List.replicate 7 0 ++ List.replicate 245 1)

/-- The header with two polls. -/
def polled : ByteString := miscounted ++ [{}, { buttonBits := 1 }].flatMap encodeGcPoll

def polledEdits : List PollEdit := [.insert 1 [{ buttonBits := 2 }], .write 0 { triggerL := 9 }]

/-- The polls after these edits, and their count once the last is erased. -/
theorem poll_editing_is_list_editing_polled :
    let after : DtmFile := polledEdits.foldl (fun dtm edit => (dtm.edit edit).2) ⟨polled⟩
    after.gcPolls = [{ triggerL := 9 }, { buttonBits := 2 }, { buttonBits := 1 }] ∧
      (after.edit (.erase 2 1)).1 = some true ∧ (after.edit (.erase 2 1)).2.inputCount = 2 := by
  intro after
  obtain ⟨-, list, -, counted, -⟩ := (@poll_editing_is_list_editing polled ⟨polled⟩
    (by decide +kernel) (by decide +kernel) (by decide +kernel) polledEdits).1
  have done : (after.edit (.erase 2 1)).1 = some true :=
    (counted (.erase 2 1)).1.mpr (by rw [list]; decide +kernel)
  refine ⟨list.trans (by decide +kernel), done, ?_⟩
  exact ((counted (.erase 2 1)).2.2 (by simp [PollEdit.ChangesCount]) done).trans (by decide +kernel)

/-- Inserting no polls succeeds and leaves a wrong input count. -/
theorem empty_insertion_is_not_counted : ¬∀ (contents : ByteString) (dtm : DtmFile) (index : UInt64)
      (polls : List DtmGcPoll), DtmFile.load (some contents) = some dtm →
        dtm.pollEditingReason = none → (dtm.insertGcPolls index polls).1 = some true →
            (dtm.insertGcPolls index polls).2.inputCount =
              (dtm.insertGcPolls index polls).2.gcPollCount := by
  intro counted
  have same := counted miscounted ⟨miscounted⟩ 0 [] (by decide +kernel)
    (by decide +kernel) (by decide +kernel)
  revert same
  decide +kernel

end Savor.Movie
