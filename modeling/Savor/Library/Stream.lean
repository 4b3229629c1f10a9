import Savor.Library.Wire

/-!
# Streams with a sticky failure

A writer appends bytes to what it has written, a reader walks through a fixed
input.  Both keep their first failure and carry on without effect, so a payload
is written and read as a plain sequence of fields.  `Agrees` relates a reader
and a writer of the same value in both directions: what is written is read back,
and what is read is written again byte for byte.  Its rules follow the fields in
order.
-/

namespace Savor.Library
namespace Stream

variable {Failure α β : Type}

/-- Bytes written so far, and the first failure. -/
@[ext] structure Writer (Failure : Type) where
  bytes : List UInt8 := []
  error : Option Failure := none
  deriving DecidableEq

namespace Writer

/-- Append bytes. -/
def emit (bytes : List UInt8) (writer : Writer Failure) : Writer Failure :=
  { writer with bytes := writer.bytes ++ bytes }

/-- Record a failure unless there is one. -/
def fail (failure : Failure) (writer : Writer Failure) : Writer Failure :=
  { writer with error := writer.error.or (some failure) }

/-- Record a failure if a condition holds. -/
def failIf (condition : Prop) [Decidable condition] (failure : Failure)
    (writer : Writer Failure) : Writer Failure :=
  if condition then writer.fail failure else writer

/-- Write a list in order. -/
def each (write : α → Writer Failure → Writer Failure) : List α → Writer Failure → Writer Failure
  | [], writer => writer
  | value :: values, writer => each write values (write value writer)

variable {writer : Writer Failure}

/-- A writer without a failure. -/
theorem eq_of_clean (clean : writer.error = none) : writer = ⟨writer.bytes, none⟩ :=
  Writer.ext rfl clean

/-- Appending never shortens. -/
theorem length_le_emit (bytes : List UInt8) (writer : Writer Failure) :
    writer.bytes.length ≤ (writer.emit bytes).bytes.length := by
  rw [emit, List.length_append]
  exact Nat.le_add_right _ _

/-- A recorded failure stays. -/
theorem fail_error_ne_none (failure : Failure) (writer : Writer Failure) :
    (writer.fail failure).error ≠ none := by
  cases failed : writer.error <;> simp [fail, failed]

theorem add_length_le_each {write : α → Writer Failure → Writer Failure}
    (grows : ∀ value writer, (write value writer).error = none →
      writer.error = none ∧ writer.bytes.length < (write value writer).bytes.length)
    {values : List α} (clean : (each write values writer).error = none) : writer.error = none ∧
      writer.bytes.length + values.length ≤ (each write values writer).bytes.length := by
  induction values generalizing writer with
  | nil => exact ⟨clean, Nat.le_refl _⟩
  | cons value values ih =>
    obtain ⟨nextClean, longer⟩ := ih clean
    obtain ⟨kept, grown⟩ := grows value writer nextClean
    refine ⟨kept, ?_⟩
    rw [each, List.length_cons]
    omega

end Writer

/-- An input, how far it has been read, and the first failure. -/
structure Reader (Failure : Type) where
  input : List UInt8
  offset : Nat := 0
  error : Option Failure := none

/-- Reading moves the reader and yields a value. -/
abbrev Read (Failure α : Type) : Type := StateM (Reader Failure) α

namespace Reader

/-- Record a failure unless there is one. -/
def fail (failure : Failure) : Read Failure Unit := fun reader =>
  ((), { reader with error := reader.error.or (some failure) })

/-- Record a failure if a condition holds. -/
def failIf (condition : Prop) [Decidable condition] (failure : Failure) : Read Failure Unit :=
  if condition then fail failure else pure ()

/-- Consume a number of bytes into a variable; where they are not there, record
a failure and leave the variable as it was. -/
def take (failure : Failure) (count : Nat) (decode : List UInt8 → α)
    (initial : α) : Read Failure α := fun reader =>
  if reader.error.isSome then (initial, reader)
  else if count > reader.input.length - reader.offset then
    (initial, { reader with error := some failure })
  else
    (decode ((reader.input.drop reader.offset).take count),
      { reader with offset := reader.offset + count })

/-- Read a number of values in order. -/
def replicate (read : Read Failure α) : Nat → Read Failure (List α)
  | 0 => pure []
  | count + 1 => do
      let value ← read
      let values ← replicate read count
      pure (value :: values)

theorem take_append (failure : Failure) (decode : List UInt8 → α)
    (initial : α) (consumed chunk rest : List UInt8) : take failure chunk.length decode initial
        ⟨consumed ++ chunk ++ rest, consumed.length, none⟩ =
      (decode chunk, ⟨consumed ++ chunk ++ rest, (consumed ++ chunk).length, none⟩) := by
  have enough : ¬chunk.length >
      (consumed ++ chunk ++ rest).length - consumed.length := by
    simp only [List.length_append]
    omega
  simp only [take, Option.isSome_none, Bool.false_eq_true, if_false]
  rw [if_neg enough, List.append_assoc, List.drop_left, List.take_left, List.length_append]

theorem of_take {failure : Failure} {count : Nat} {decode : List UInt8 → α}
    {initial value : α} {consumed unread : List UInt8} {ended : Reader Failure}
    (taken : take failure count decode initial
      ⟨consumed ++ unread, consumed.length, none⟩ = (value, ended))
    (clean : ended.error = none) : ∃ chunk rest, chunk.length = count ∧ unread = chunk ++ rest ∧
      value = decode chunk ∧
      ended = ⟨consumed ++ unread, consumed.length + chunk.length, none⟩ := by
  simp only [take, Option.isSome_none, Bool.false_eq_true, if_false,
    List.length_append, Nat.add_sub_cancel_left, List.drop_left] at taken
  split at taken
  · cases taken
    cases clean
  rename_i enough
  cases taken
  have length : (unread.take count).length = count := List.length_take_of_le (by omega)
  refine ⟨unread.take count, unread.drop count, length,
    (List.take_append_drop count unread).symm, rfl, ?_⟩
  rw [length]

end Reader

/-- Reading that stays failed once failed. -/
def Sticky (read : Read Failure α) : Prop :=
  ∀ reader, reader.error ≠ none → (read reader).2.error ≠ none

namespace Sticky

theorem pure (value : α) : Sticky (Pure.pure value : Read Failure α) := fun _ failed => failed

theorem bind {read : Read Failure α} {next : α → Read Failure β}
    (first : Sticky read) (second : ∀ value, Sticky (next value)) : Sticky (read >>= next) :=
  fun reader failed => second _ _ (first reader failed)

theorem fail (failure : Failure) : Sticky (Reader.fail failure) := by
  intro reader failed
  cases cause : reader.error with
  | none => exact absurd cause failed
  | some first => simp [Reader.fail, cause]

theorem failIf (condition : Prop) [Decidable condition] (failure : Failure) :
    Sticky (Reader.failIf condition failure) := by
  unfold Reader.failIf
  split
  · exact fail failure
  · exact pure ()

theorem take (failure : Failure) (count : Nat) (decode : List UInt8 → α)
    (initial : α) : Sticky (Reader.take failure count decode initial) := by
  intro reader failed
  rw [Reader.take, if_pos (Option.isSome_iff_ne_none.mpr failed)]
  exact failed

theorem replicate {read : Read Failure α} (element : Sticky read)
    (count : Nat) : Sticky (Reader.replicate read count) := by
  induction count with
  | zero => exact pure []
  | succ count ih => exact element.bind fun value => ih.bind fun values => pure (value :: values)

end Sticky

/-- Reading that always ends in failure. -/
def Refuses (read : Read Failure α) : Prop := ∀ reader, (read reader).2.error ≠ none

namespace Refuses

theorem fail (failure : Failure) : Refuses (Reader.fail failure) := by
  intro reader
  cases cause : reader.error <;> simp [Reader.fail, cause]

theorem bind {read : Read Failure α} {next : α → Read Failure β}
    (first : Refuses read) (second : ∀ value, Sticky (next value)) : Refuses (read >>= next) :=
  fun reader => second _ _ (first reader)

end Refuses

/-- Reading what `write` writes, from where `before` had got to, consumes all of
it and yields the value.  As `write` did not fail, neither had `before`, and
what `before` wrote is still there. -/
def Traces (before write : Writer Failure → Writer Failure)
    (read : Read Failure α) (value : α) : Prop :=
  ∀ writer, (write writer).error = none →
    (before writer).error = none ∧
      (before writer).bytes <+: (write writer).bytes ∧
      ∀ rest, read ⟨(write writer).bytes ++ rest, (before writer).bytes.length, none⟩ =
        (value, ⟨(write writer).bytes ++ rest, (write writer).bytes.length, none⟩)

/-- Whatever is read without failure is admitted, and writing it after `before`
restores the bytes that were consumed, as long as they stay within the bound. -/
def Restores (bound : Nat) (admitted : α → Prop)
    (before : Writer Failure → Writer Failure) (read : Read Failure α)
    (write : α → Writer Failure → Writer Failure) : Prop :=
  ∀ consumed unread value ended,
    read ⟨consumed ++ unread, consumed.length, none⟩ = (value, ended) →
    ended.error = none →
    admitted value ∧ ∃ chunk rest, unread = chunk ++ rest ∧
      ended = ⟨consumed ++ unread, consumed.length + chunk.length, none⟩ ∧
      ∀ writer, (before writer).error = none →
        (before writer).bytes.length + chunk.length ≤ bound →
        write value writer = ⟨(before writer).bytes ++ chunk, none⟩

/-- A reader and a writer of the same values, where the fields before were
written already. -/
structure Agrees (bound : Nat) (admitted : α → Prop)
    (before : Writer Failure → Writer Failure) (read : Read Failure α)
    (write : α → Writer Failure → Writer Failure) : Prop where
  traces : ∀ value, admitted value → Traces before (write value) read value
  sticky : Sticky read
  restores : Restores bound admitted before read write

/-- Values are admitted unless something is said about them. -/
def Any (_ : α) : Prop := True

namespace Traces

variable {before write : Writer Failure → Writer Failure}
variable {read : Read Failure α} {next : α → Read Failure β}
variable {field : α → Writer Failure → Writer Failure} {value : α} {result : β}

theorem bind (first : Traces id (field value) read value)
    (second : Traces (fun writer => field value (before writer)) write (next value) result) :
    Traces before write (read >>= next) result := by
  intro writer clean
  obtain ⟨fieldClean, ⟨later, written⟩, ends⟩ := second writer clean
  obtain ⟨beforeClean, ⟨chunk, grown⟩, reads⟩ := first (before writer) fieldClean
  refine ⟨beforeClean, ⟨chunk ++ later, ?_⟩, fun rest => ?_⟩
  · rw [id_eq] at grown
    rw [← List.append_assoc, grown, written]
  have start := reads (later ++ rest)
  rw [← List.append_assoc, written, id_eq] at start
  change next (read _).1 (read _).2 = _
  rw [start]
  exact ends rest

/-- After the last field there is nothing left to read. -/
theorem pure (same : write = before) :
    Traces before write (Pure.pure result : Read Failure β) result := by
  subst same
  exact fun writer clean => ⟨clean, List.prefix_refl _, fun rest => rfl⟩

end Traces

namespace Restores

variable {bound : Nat} {admitted : α → Prop} {passes : β → Prop}
variable {before : Writer Failure → Writer Failure}
variable {read : Read Failure α} {next : α → Read Failure β}
variable {field : α → Writer Failure → Writer Failure}
variable {write : β → Writer Failure → Writer Failure}

theorem bind (first : Restores bound admitted id read field) (sticky : ∀ part, Sticky (next part))
    (second : ∀ part, admitted part →
      Restores bound passes (fun writer => field part (before writer)) (next part) write) :
    Restores bound passes before (read >>= next) write := by
  intro consumed unread value ended reading clean
  change next (read ⟨consumed ++ unread, consumed.length, none⟩).1
    (read ⟨consumed ++ unread, consumed.length, none⟩).2 = (value, ended)
    at reading
  cases middle : read ⟨consumed ++ unread, consumed.length, none⟩ with
  | mk part between =>
    rw [middle] at reading
    have betweenClean : between.error = none := by
      cases cause : between.error with
      | none => rfl
      | some failure =>
        have failed := sticky part between (by simp [cause])
        rw [reading] at failed
        exact absurd clean failed
    obtain ⟨admits, chunk, rest, rfl, rfl, starts⟩ := first _ _ _ _ middle betweenClean
    rw [← List.append_assoc, ← List.length_append] at reading
    obtain ⟨passed, more, last, rfl, rfl, continues⟩ := second part admits _ _ _ _ reading clean
    refine ⟨passed, chunk ++ more, last, (List.append_assoc _ _ _).symm, ?_,
      fun writer beforeClean fits => ?_⟩
    · simp only [List.append_assoc, List.length_append, Nat.add_assoc]
    rw [List.length_append] at fits
    have written := starts (before writer) beforeClean (by
      rw [id_eq]
      omega)
    rw [id_eq] at written
    have extended := continues writer
    simp only [written, List.length_append] at extended
    rw [extended True.intro (by omega), List.append_assoc]

/-- Nothing is consumed after the last field. -/
theorem pure {value : β} (passed : passes value) (same : write value = before) :
    Restores bound passes before (Pure.pure value : Read Failure β) write := by
  intro consumed unread other ended reading _
  cases reading
  refine ⟨passed, [], unread, rfl, rfl, fun writer clean _ => ?_⟩
  rw [same, List.append_nil]
  exact Writer.ext rfl clean

theorem refused {read : Read Failure β} (refuses : Refuses read) :
    Restores bound passes before read write := by
  intro consumed unread value ended reading clean
  have failed := refuses ⟨consumed ++ unread, consumed.length, none⟩
  rw [reading] at failed
  exact absurd clean failed

theorem weaken {passes' : β → Prop} {read : Read Failure β}
    (restores : Restores bound passes before read write)
    (weaker : ∀ value, passes value → passes' value) :
    Restores bound passes' before read write := by
  intro consumed unread value ended reading clean
  obtain ⟨passed, restored⟩ := restores _ _ _ _ reading clean
  exact ⟨weaker value passed, restored⟩

end Restores

/-- What is read in one way is written in one way, and any value may be. -/
class Coded (bound : Nat) (read : Read Failure α)
    (field : outParam (α → Writer Failure → Writer Failure)) : Prop where
  agrees : Agrees bound Any id read field

namespace Agrees

variable {bound : Nat} {admitted : α → Prop} {passes : β → Prop}
variable {before : Writer Failure → Writer Failure}
variable {read : Read Failure α} {next : α → Read Failure β}
variable {field : α → Writer Failure → Writer Failure}
variable {write : β → Writer Failure → Writer Failure}

theorem bind (view : β → α) (first : Agrees bound admitted id read field)
    (views : ∀ value, passes value → admitted (view value)) (sticky : ∀ part, Sticky (next part))
    (second : ∀ part, admitted part → Agrees bound (fun value => view value = part ∧ passes value)
        (fun writer => field part (before writer)) (next part) write) :
    Agrees bound passes before (read >>= next) write where
  traces value passed :=
    (first.traces (view value) (views value passed)).bind
      ((second (view value) (views value passed)).traces value ⟨rfl, passed⟩)
  sticky := first.sticky.bind sticky
  restores := first.restores.bind sticky fun part admits =>
    (second part admits).restores.weaken fun _ passed => passed.2

theorem step (view : β → α) (first : Agrees bound Any id read field) (second : ∀ part,
      Agrees bound (fun value => view value = part ∧ passes value)
        (fun writer => field part (before writer)) (next part) write) :
    Agrees bound passes before (read >>= next) write :=
  first.bind view (fun _ _ => True.intro) (fun part => (second part).sticky)
    fun part _ => second part

/-- The next field of a value, where its type says how it is written. -/
theorem coded (view : β → α) [known : Coded bound read field] (second : ∀ {part},
      Agrees bound (fun value => view value = part ∧ passes value)
        (fun writer => field part (before writer)) (next part) write) :
    Agrees bound passes before (read >>= next) write :=
  .step view known.agrees fun _ => second

/-- After the last field the value is put together. -/
theorem pure {value : β} (passed : passes value) (only : ∀ other, passes other → other = value)
    (same : write value = before) :
    Agrees bound passes before (Pure.pure value : Read Failure β) write where
  traces other passed := by
    rw [only other passed]
    exact .pure same
  sticky := .pure value
  restores := .pure passed same

theorem exactly {value : β} (only : ∀ other, passes other ↔ other = value)
    (same : write value = before) :
    Agrees bound passes before (Pure.pure value : Read Failure β) write :=
  .pure ((only value).mpr rfl) (fun other => (only other).mp) same

theorem last {write : α → Writer Failure → Writer Failure}
    {passes : α → Prop} (first : Agrees bound admitted id read field)
    (views : ∀ value, passes value ↔ admitted value) (same : ∀ value, admitted value →
      write value = fun writer => field value (before writer)) :
    Agrees bound passes before read write where
  traces value passed := by
    have admits := (views value).mp passed
    rw [same value admits]
    exact (first.traces value admits).bind (.pure rfl)
  sticky := first.sticky
  restores := by
    refine Restores.bind first.restores (fun value => .pure value) fun value admits => ?_
    exact .pure ((views value).mpr admits) (same value admits)

theorem rewrite {write write' : β → Writer Failure → Writer Failure}
    {passes' : β → Prop} {read : Read Failure β} (agrees : Agrees bound passes' before read write')
    (weaker : ∀ value, passes' value → passes value)
    (checks : ∀ value writer, (write value writer).error = none →
      passes' value ∧ write value writer = write' value writer)
    (clears : ∀ value writer, (write' value writer).error = none →
      (write' value writer).bytes.length ≤ bound → passes' value →
      (before writer).error = none → write value writer = write' value writer) :
    Agrees bound passes before read write where
  traces value _ writer clean := by
    obtain ⟨passed, same⟩ := checks value writer clean
    rw [same] at clean ⊢
    exact agrees.traces value passed writer clean
  sticky := agrees.sticky
  restores := by
    intro consumed unread value ended reading clean
    obtain ⟨passed, chunk, rest, split, position, writes⟩ := agrees.restores _ _ _ _ reading clean
    refine ⟨weaker value passed, chunk, rest, split, position, fun writer beforeClean fits => ?_⟩
    have written := writes writer beforeClean fits
    have same := clears value writer (by rw [written]) (by
      rw [written, List.length_append]
      exact fits) passed beforeClean
    rw [same, written]

/-- A check that admitted values pass. -/
theorem guarded {condition : Prop} [Decidable condition]
    {refused continued : Read Failure β} (refuses : Refuses refused)
    (clear : ∀ value, passes value → ¬condition)
    (continues : ¬condition → Agrees bound passes before continued write) :
    Agrees bound passes before (if condition then refused else continued) write := by
  by_cases holds : condition
  · rw [if_pos holds]
    exact {
      traces := fun value passed => absurd holds (clear value passed)
      sticky := fun reader _ => refuses reader
      restores := .refused refuses }
  · rw [if_neg holds]
    exact continues holds

/-- What is written determines the value. -/
theorem unique (agrees : Agrees bound admitted id read field) {value value' : α}
    (admits : admitted value) (admits' : admitted value')
    {writer : Writer Failure} (clean : (field value writer).error = none)
    (same : field value' writer = field value writer) : value = value' := by
  obtain ⟨-, -, reads⟩ := agrees.traces value admits writer clean
  obtain ⟨-, -, reads'⟩ := agrees.traces value' admits' writer (by rwa [same])
  have read := reads []
  rw [← same, reads' []] at read
  exact (congrArg Prod.fst read).symm

theorem checked (invalid : α → Prop) [DecidablePred invalid] (failure failure' : Failure)
    (fields : Agrees bound Any id read field) : Agrees bound Any id
      (do let value ← read
          Reader.failIf (invalid value) failure
          Pure.pure value)
      (fun value writer => field value (writer.failIf (invalid value) failure')) where
  traces := by
    intro value _ writer clean
    have traced := fields.traces value True.intro
    by_cases holds : invalid value
    · obtain ⟨kept, -⟩ := traced _ clean
      rw [id_eq, Writer.failIf, if_pos holds] at kept
      exact absurd kept (writer.fail_error_ne_none failure')
    have unchecked : writer.failIf (invalid value) failure' = writer := if_neg holds
    simp only [unchecked] at clean ⊢
    obtain ⟨kept, grown, reads⟩ := traced writer clean
    refine ⟨kept, grown, fun rest => ?_⟩
    have start := reads rest
    change ((Reader.failIf (invalid (read _).1) failure) >>=
      fun _ => Pure.pure (read _).1) (read _).2 = _
    rw [start]
    simp only [Reader.failIf, if_neg holds]
    rfl
  sticky := fields.sticky.bind fun value => (Sticky.failIf _ failure).bind fun _ => .pure value
  restores := by
    intro consumed unread value ended reading clean
    change ((Reader.failIf (invalid (read _).1) failure) >>=
      fun _ => Pure.pure (read _).1) (read _).2 = _ at reading
    cases middle : read ⟨consumed ++ unread, consumed.length, none⟩ with
    | mk part between =>
      rw [middle] at reading
      simp only [Reader.failIf] at reading
      split at reading
      · cases reading
        exact absurd clean (Refuses.fail failure between)
      rename_i passed
      cases reading
      obtain ⟨-, chunk, rest, same, position, starts⟩ := fields.restores _ _ _ _ middle clean
      refine ⟨True.intro, chunk, rest, same, position, ?_⟩
      intro writer beforeClean fits
      have unchecked : writer.failIf (invalid value) failure' = writer := if_neg passed
      simp only [unchecked]
      exact starts writer beforeClean fits

/-- A number of values in order. -/
theorem each (element : Agrees bound Any id read field) (count : Nat) :
    Agrees bound (fun values => values.length = count) id
      (Reader.replicate read count) (Writer.each field) where
  traces := by
    induction count with
    | zero =>
      intro values length
      rw [List.eq_nil_of_length_eq_zero length]
      exact .pure rfl
    | succ count ih =>
      intro values length
      cases values with
      | nil => cases length
      | cons value values =>
        have tail := ih values (Nat.succ.inj length)
        exact (element.traces value True.intro).bind (tail.bind (.pure rfl))
  sticky := element.sticky.replicate count
  restores := by
    induction count with
    | zero => exact .pure rfl rfl
    | succ count ih =>
      refine element.restores.bind (fun value => ?_) fun value _ => ?_
      · exact (element.sticky.replicate count).bind fun values => .pure (value :: values)
      refine ih.bind (fun values => ?_) fun values length => ?_
      · exact .pure (value :: values)
      · exact .pure (congrArg Nat.succ length) rfl

end Agrees

/-- Values that are spelled with a fixed number of bytes. -/
structure Word (α : Type) where
  width : Nat
  encode : α → List UInt8
  decode : List UInt8 → α
  length_encode : ∀ value, (encode value).length = width
  decode_encode : ∀ value, decode (encode value) = value
  encode_decode : ∀ bytes, bytes.length = width → encode (decode bytes) = bytes

/-- A word is read as it is written. -/
theorem Agrees.word (bound : Nat) (word : Word α) (failure : Failure) (initial : α) :
    Agrees bound Any id
      (Reader.take failure word.width word.decode initial)
      (fun value => Writer.emit (word.encode value)) where
  traces := by
    intro value _ writer clean
    refine ⟨clean, List.prefix_append _ _, fun rest => ?_⟩
    have taken := Reader.take_append failure word.decode initial writer.bytes
      (word.encode value) rest
    rw [word.length_encode, word.decode_encode] at taken
    exact taken
  sticky := .take _ _ _ _
  restores := by
    intro consumed unread value ended reading clean
    obtain ⟨chunk, rest, length, same, rfl, position⟩ := Reader.of_take reading clean
    refine ⟨True.intro, chunk, rest, same, position, fun writer kept _ => ?_⟩
    simp only [word.encode_decode chunk length]
    exact Writer.ext rfl kept

/-- Bytes are read as they are written, where their number is known. -/
theorem Agrees.bytes (bound count : Nat) (failure : Failure) (initial : List UInt8) :
    Agrees bound (fun bytes => bytes.length = count) id
      (Reader.take failure count id initial) Writer.emit where
  traces := by
    rintro value rfl writer clean
    exact ⟨clean, List.prefix_append _ _, fun rest =>
      Reader.take_append failure id initial writer.bytes value rest⟩
  sticky := .take _ _ _ _
  restores := by
    intro consumed unread value ended reading clean
    obtain ⟨_, rest, length, same, rfl, position⟩ := Reader.of_take reading clean
    exact ⟨length, value, rest, same, position, fun writer kept _ => Writer.ext rfl kept⟩

namespace Word

/-- A word of another type with the same bytes. -/
def map (word : Word α) (into : α → β) (back : β → α)
    (back_into : ∀ value, back (into value) = value)
    (into_back : ∀ value, into (back value) = value) : Word β where
  width := word.width
  encode value := word.encode (back value)
  decode bytes := into (word.decode bytes)
  length_encode value := word.length_encode (back value)
  decode_encode value := by rw [word.decode_encode, into_back]
  encode_decode bytes length := by rw [back_into, word.encode_decode bytes length]

/-- The numbers that a number of bytes can spell, least significant byte
first. -/
def number (width : Nat) : Word (Fin (256 ^ width)) where
  width := width
  encode value := Wire.littleEndian width value
  decode bytes := Fin.ofNat _ (Wire.ofLittleEndian bytes)
  length_encode value := Wire.length_littleEndian width value
  decode_encode value := by
    apply Fin.ext
    rw [Wire.ofLittleEndian_littleEndian value.isLt]
    exact Nat.mod_eq_of_lt value.isLt
  encode_decode bytes length := by
    have fits := Wire.ofLittleEndian_lt bytes
    rw [length] at fits
    have value : (Fin.ofNat (256 ^ width) (Wire.ofLittleEndian bytes)).val =
        Wire.ofLittleEndian bytes := Nat.mod_eq_of_lt fits
    rw [value, ← length, Wire.littleEndian_ofLittleEndian]

/-- Bytes. -/
def u8 : Word UInt8 :=
  (number 1).map (fun value => UInt8.ofNat value)
    (fun value => ⟨value.toNat, value.toNat_lt⟩)
    (fun value => Fin.ext (Nat.mod_eq_of_lt value.isLt))
    (fun _ => UInt8.ofNat_toNat)

/-- Two bytes. -/
def u16 : Word UInt16 :=
  (number 2).map (fun value => UInt16.ofNat value)
    (fun value => ⟨value.toNat, value.toNat_lt⟩)
    (fun value => Fin.ext (Nat.mod_eq_of_lt value.isLt))
    (fun _ => UInt16.ofNat_toNat)

/-- Four bytes. -/
def u32 : Word UInt32 :=
  (number 4).map (fun value => UInt32.ofNat value)
    (fun value => ⟨value.toNat, value.toNat_lt⟩)
    (fun value => Fin.ext (Nat.mod_eq_of_lt value.isLt))
    (fun _ => UInt32.ofNat_toNat)

/-- Eight bytes. -/
def u64 : Word UInt64 :=
  (number 8).map (fun value => UInt64.ofNat value)
    (fun value => ⟨value.toNat, value.toNat_lt⟩)
    (fun value => Fin.ext (Nat.mod_eq_of_lt value.isLt))
    (fun _ => UInt64.ofNat_toNat)

end Word

end Stream
end Savor.Library
