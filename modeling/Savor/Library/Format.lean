import Savor.Library.Deciding
import Savor.Library.Stream

/-!
# Formats

An encoder without limits and a decoder with limits agree on the values that the
decoder admits: such a value is read back, and whatever is read is admitted and
spells the bytes it was read from.  `Codes` says this of a value by itself,
`Inverts` of the fields that are still to come when some have been read.  The
rules below follow the fields of a record in order.
-/

namespace Savor.Library
namespace Wire

variable {Limits Failure : Type} {α β : Type}

namespace Decoder

/-- Consume a word. -/
def word (failure : Failure) (word : Stream.Word α) : Decoder Limits Failure α := do
  let bytes ← take failure word.width
  pure (word.decode bytes)

/-- Decode a value and fail unless it meets the condition. -/
def checked (decode : Decoder Limits Failure α) (condition : α → Prop)
    [DecidablePred condition] (failure : Failure) : Decoder Limits Failure α := do
  let value ← decode
  check (condition value) failure
  pure value

/-- Decode a value that stands for another one, or fail. -/
def partially (decode : Decoder Limits Failure α) (view : α → Option β)
    (failure : Failure) : Decoder Limits Failure β := do
  let value ← decode
  match view value with
  | none => fail failure
  | some viewed => pure viewed

/-- Decode a value where a flag before it is set. -/
def optional (flag : Decoder Limits Failure Bool) (decode : Decoder Limits Failure α) :
    Decoder Limits Failure (Option α) := do
  let present ← flag
  if present then do
    let value ← decode
    pure (some value)
  else pure none

/-- Decode as many bytes as a number before them tells. -/
def sized (failure : Failure) (size : Decoder Limits Failure Nat) :
    Decoder Limits Failure (List UInt8) := do
  let count ← size
  take failure count

/-- Decode as many values as a number before them tells. -/
def counted (size : Decoder Limits Failure Nat) (decode : Decoder Limits Failure α) :
    Decoder Limits Failure (List α) := do
  let count ← size
  replicate decode count

end Decoder

/-- An admitted value is read back, and what is read is admitted and spells the
bytes that were consumed. -/
structure Codes (limits : Limits) (admits : α → Prop)
    (decode : Decoder Limits Failure α) (encode : α → List UInt8) : Prop where
  reads : ∀ value, admits value → ∀ rest, decode limits (encode value ++ rest) = .ok (value, rest)
  restores : ∀ bytes value rest, decode limits bytes = .ok (value, rest) →
    admits value ∧ bytes = encode value ++ rest

/-- The same of the fields that remain, for values of which some fields have
been seen. -/
structure Inverts (limits : Limits) (seen admits : α → Prop) (decode : Decoder Limits Failure α)
    (fields : α → List (List UInt8)) : Prop where
  reads : ∀ value, seen value → admits value → ∀ rest,
    decode limits ((fields value).flatten ++ rest) = .ok (value, rest)
  restores : ∀ bytes value rest, decode limits bytes = .ok (value, rest) →
    seen value ∧ admits value ∧ bytes = (fields value).flatten ++ rest

variable {next : α → Decoder Limits Failure β}
variable {decode : Decoder Limits Failure α}

/-- A decoder that succeeds went on after its first part. -/
theorem Decoder.bind_ok {limits : Limits} {bytes rest : List UInt8} {value : β}
    (decoded : (decode >>= next) limits bytes = .ok (value, rest)) :
    ∃ part between, decode limits bytes = .ok (part, between) ∧
      next part limits between = .ok (value, rest) := by
  simp only [Bind.bind] at decoded
  split at decoded
  · cases decoded
  · rename_i part between first
    exact ⟨part, between, first, decoded⟩

theorem Decoder.bind_eq {limits : Limits} {bytes between : List UInt8} {part : α}
    (first : decode limits bytes = .ok (part, between)) :
    (decode >>= next) limits bytes = next part limits between := by
  simp only [Bind.bind]
  rw [first]

namespace Inverts

variable {limits : Limits} {seen admits : β → Prop} {admitted : α → Prop}
variable {encode : α → List UInt8} {fields : β → List (List UInt8)}

theorem bind (view : β → α) (first : Codes limits admitted decode encode)
    (second : ∀ part, admitted part →
      Inverts limits (fun value => seen value ∧ view value = part) admits (next part) fields) :
    Inverts limits seen (fun value => admitted (view value) ∧ admits value)
      (decode >>= next)
      (fun value => encode (view value) :: fields value) where
  reads := by
    intro value known admission rest
    have start := first.reads (view value) admission.1 ((fields value).flatten ++ rest)
    rw [List.flatten_cons, List.append_assoc, Decoder.bind_eq start]
    exact (second (view value) admission.1).reads value ⟨known, rfl⟩ admission.2 rest
  restores := by
    intro bytes value rest decoded
    obtain ⟨part, between, start, last⟩ := Decoder.bind_ok decoded
    obtain ⟨partAdmitted, rfl⟩ := first.restores _ _ _ start
    obtain ⟨⟨known, rfl⟩, admission, rfl⟩ := (second part partAdmitted).restores _ _ _ last
    refine ⟨known, ⟨partAdmitted, admission⟩, ?_⟩
    rw [List.flatten_cons, List.append_assoc]

theorem check {condition : Prop} [Decidable condition] {failure : Failure}
    {next : Unit → Decoder Limits Failure β} (property : β → Prop)
    (described : ∀ value, seen value → (condition ↔ property value))
    (passed : condition → Inverts limits seen admits (next ()) fields) :
    Inverts limits seen (fun value => property value ∧ admits value)
      (Decoder.check condition failure >>= next) fields where
  reads := by
    intro value known admission rest
    have holds := (described value known).mpr admission.1
    have checked : Decoder.check condition failure =
        (Pure.pure () : Decoder Limits Failure Unit) :=
      if_pos holds
    rw [checked]
    exact (passed holds).reads value known admission.2 rest
  restores := by
    intro bytes value rest decoded
    obtain ⟨_, between, checked, last⟩ := Decoder.bind_ok decoded
    unfold Decoder.check at checked
    split at checked
    · rename_i holds
      cases checked
      obtain ⟨known, admission, spelled⟩ := (passed holds).restores _ _ _ last
      exact ⟨known, ⟨(described value known).mp holds, admission⟩, spelled⟩
    · cases checked

/-- All fields have been seen. -/
theorem pure (value : β) (determined : ∀ other, seen other ↔ other = value) :
    Inverts limits seen (fun _ => True)
      (Pure.pure value : Decoder Limits Failure β) (fun _ => []) where
  reads := by
    intro other known _ rest
    rw [(determined other).mp known]
    rfl
  restores := by
    intro bytes other rest decoded
    cases decoded
    exact ⟨(determined value).mpr rfl, True.intro, rfl⟩

/-- The same values and conditions in other words. -/
theorem congr {decode : Decoder Limits Failure β}
    {seen' admits' : β → Prop} {fields' : β → List (List UInt8)}
    (inverts : Inverts limits seen admits decode fields)
    (sameSeen : ∀ value, seen value ↔ seen' value)
    (sameAdmits : ∀ value, seen value → (admits value ↔ admits' value))
    (sameFields : ∀ value, seen value → (fields value).flatten = (fields' value).flatten) :
    Inverts limits seen' admits' decode fields' where
  reads := by
    intro value known admission rest
    have before := (sameSeen value).mpr known
    rw [← sameFields value before]
    exact inverts.reads value before ((sameAdmits value before).mpr admission) rest
  restores := by
    intro bytes value rest decoded
    obtain ⟨known, admission, spelled⟩ := inverts.restores _ _ _ decoded
    rw [sameFields value known] at spelled
    exact ⟨(sameSeen value).mp known, (sameAdmits value known).mp admission, spelled⟩

theorem mapped (make : α → β) (part : Codes limits admitted decode encode)
    (made : ∀ value, seen value → admits value → ∃ part, admitted part ∧ make part = value)
    (makes : ∀ part, admitted part →
      seen (make part) ∧ admits (make part) ∧ (fields (make part)).flatten = encode part) :
    Inverts limits seen admits (decode >>= fun part => Pure.pure (make part)) fields where
  reads := by
    intro value known admission rest
    obtain ⟨inner, fits, rfl⟩ := made value known admission
    rw [(makes inner fits).2.2, Decoder.bind_eq (part.reads inner fits rest)]
    rfl
  restores := by
    intro bytes value rest decoded
    obtain ⟨inner, between, start, last⟩ := Decoder.bind_ok decoded
    cases last
    obtain ⟨fits, rfl⟩ := part.restores _ _ _ start
    obtain ⟨known, admission, spelled⟩ := makes inner fits
    rw [spelled]
    exact ⟨known, admission, rfl⟩

theorem fail (failure : Failure) (none : ∀ value, ¬seen value) :
    Inverts limits seen admits (Decoder.fail failure) fields where
  reads := fun value known => absurd known (none value)
  restores := fun bytes value rest decoded => by cases decoded

/-- A record by itself. -/
theorem codes {decode : Decoder Limits Failure β}
    (inverts : Inverts limits (fun _ => True) admits decode fields) :
    Codes limits admits decode (fun value => (fields value).flatten) where
  reads := fun value admission => inverts.reads value True.intro admission
  restores := fun bytes value rest decoded => (inverts.restores bytes value rest decoded).2

end Inverts

namespace Codes

variable {limits : Limits} {admits : α → Prop}
variable {encode : α → List UInt8}

/-- The same condition in other words. -/
theorem congr {admits' : α → Prop} (codes : Codes limits admits decode encode)
    (same : ∀ value, admits value ↔ admits' value) : Codes limits admits' decode encode where
  reads := fun value admission => codes.reads value ((same value).mpr admission)
  restores := by
    intro bytes value rest decoded
    obtain ⟨admission, spelled⟩ := codes.restores _ _ _ decoded
    exact ⟨(same value).mp admission, spelled⟩

/-- Two values that are spelled the same way are the same. -/
theorem injective (codes : Codes limits admits decode encode)
    {first second : α} {rest rest' : List UInt8} (admitsFirst : admits first)
    (admitsSecond : admits second) (same : encode first ++ rest = encode second ++ rest') :
    first = second ∧ rest = rest' := by
  have read := codes.reads first admitsFirst rest
  rw [same, codes.reads second admitsSecond rest'] at read
  cases read
  exact ⟨rfl, rfl⟩

theorem word (failure : Failure) (word : Stream.Word α) :
    Codes limits (fun _ => True) (Decoder.word failure word) word.encode where
  reads := by
    intro value _ rest
    have taken : (Decoder.take failure word.width : Decoder Limits Failure _)
        limits (word.encode value ++ rest) = .ok (word.encode value, rest) := by
      simp [Decoder.take, ← word.length_encode value]
    rw [Decoder.word, Decoder.bind_eq taken, word.decode_encode]
    rfl
  restores := by
    intro bytes value rest decoded
    obtain ⟨chunk, between, taken, read⟩ := Decoder.bind_ok decoded
    cases read
    simp only [Decoder.take] at taken
    split at taken
    · cases taken
    rename_i enough
    cases taken
    have length : (bytes.take word.width).length = word.width := List.length_take_of_le (by omega)
    rw [word.encode_decode _ length, List.take_append_drop]
    exact ⟨True.intro, rfl⟩

/-- A number of bytes that is known. -/
theorem take (failure : Failure) (count : Nat) : Codes limits (fun bytes => bytes.length = count)
      (Decoder.take failure count : Decoder Limits Failure _) id where
  reads := by
    intro bytes length rest
    subst length
    simp [Decoder.take]
  restores := by
    intro bytes chunk rest taken
    simp only [Decoder.take] at taken
    split at taken
    · cases taken
    rename_i enough
    cases taken
    exact ⟨List.length_take_of_le (by omega), (List.take_append_drop count bytes).symm⟩

theorem checked (condition : α → Prop) [DecidablePred condition]
    (failure : Failure) (codes : Codes limits admits decode encode) :
    Codes limits (fun value => admits value ∧ condition value)
      (Decoder.checked decode condition failure) encode where
  reads := by
    intro value admission rest
    rw [Decoder.checked, Decoder.bind_eq (codes.reads value admission.1 rest),
      Decoder.check, if_pos admission.2]
    rfl
  restores := by
    intro bytes value rest decoded
    obtain ⟨part, between, start, last⟩ := Decoder.bind_ok decoded
    obtain ⟨_, after, passed, ended⟩ := Decoder.bind_ok last
    cases ended
    rw [Decoder.check] at passed
    split at passed
    · rename_i holds
      cases passed
      obtain ⟨admission, spelled⟩ := codes.restores _ _ _ start
      exact ⟨⟨admission, holds⟩, spelled⟩
    · cases passed

/-- A value in another form. -/
theorem mapped {make : α → β} (view : β → α) (codes : Codes limits admits decode encode)
    (view_make : ∀ part, view (make part) = part) (make_view : ∀ value, make (view value) = value) :
    Codes limits (fun value => admits (view value))
      (decode >>= fun part => Pure.pure (make part))
      (fun value => encode (view value)) where
  reads := by
    intro value admission rest
    rw [Decoder.bind_eq (codes.reads (view value) admission rest)]
    exact congrArg (fun value => Except.ok (value, rest)) (make_view value)
  restores := by
    intro bytes value rest decoded
    obtain ⟨part, between, start, last⟩ := Decoder.bind_ok decoded
    cases last
    rw [view_make]
    exact codes.restores _ _ _ start

/-- A value that stands for another one. -/
theorem partially {view : α → Option β} {back : β → α} (failure : Failure)
    (codes : Codes limits admits decode encode)
    (view_back : ∀ value, view (back value) = some value)
    (back_view : ∀ value viewed, admits value → view value = some viewed → back viewed = value) :
    Codes limits (fun value => admits (back value))
      (Decoder.partially decode view failure)
      (fun value => encode (back value)) where
  reads := by
    intro value admission rest
    rw [Decoder.partially, Decoder.bind_eq (codes.reads (back value) admission rest), view_back]
    rfl
  restores := by
    intro bytes value rest decoded
    obtain ⟨part, between, start, last⟩ := Decoder.bind_ok decoded
    obtain ⟨admission, rfl⟩ := codes.restores _ _ _ start
    cases viewed : view part with
    | none =>
      rw [viewed] at last
      cases last
    | some other =>
      rw [viewed] at last
      cases last
      rw [back_view part value admission viewed]
      exact ⟨admission, rfl⟩

theorem optional {flag : Decoder Limits Failure Bool} {encodeFlag : Bool → List UInt8}
    (flagCodes : Codes limits (fun _ => True) flag encodeFlag)
    (codes : Codes limits admits decode encode) :
    Codes limits (fun value => ∀ present ∈ value, admits present)
      (Decoder.optional flag decode)
      (fun value => encodeFlag value.isSome ++ value.elim [] encode) where
  reads := by
    intro value admission rest
    have start := flagCodes.reads value.isSome True.intro (value.elim [] encode ++ rest)
    rw [List.append_assoc, Decoder.optional, Decoder.bind_eq start]
    cases value with
    | none => rfl
    | some present =>
      have read := codes.reads present (admission present rfl) rest
      rw [if_pos Option.isSome_some, Option.elim_some, Decoder.bind_eq read]
      rfl
  restores := by
    intro bytes value rest decoded
    obtain ⟨present, between, start, last⟩ := Decoder.bind_ok decoded
    obtain ⟨_, rfl⟩ := flagCodes.restores _ _ _ start
    cases present with
    | false =>
      cases last
      refine ⟨fun _ absent => absurd absent (Option.not_mem_none _), ?_⟩
      rw [Option.isSome_none, Option.elim_none, List.append_nil]
    | true =>
      rw [if_pos rfl] at last
      obtain ⟨part, after, read, ended⟩ := Decoder.bind_ok last
      cases ended
      obtain ⟨admission, rfl⟩ := codes.restores _ _ _ read
      refine ⟨?_, ?_⟩
      · rintro other ⟨⟩
        exact admission
      · rw [Option.isSome_some, Option.elim_some, List.append_assoc]

/-- A number of values that is known. -/
theorem replicate (count : Nat) (codes : Codes limits admits decode encode) : Codes limits
      (fun values => values.length = count ∧ ∀ value ∈ values, admits value)
      (Decoder.replicate decode count)
      (fun values => values.flatMap encode) where
  reads := by
    rintro values ⟨rfl, admission⟩
    induction values with
    | nil =>
      intro rest
      rfl
    | cons value values ih =>
      intro rest
      have start := codes.reads value (admission value List.mem_cons_self)
        (values.flatMap encode ++ rest)
      have others := ih (fun other member => admission other (List.mem_cons_of_mem _ member)) rest
      rw [List.flatMap_cons, List.append_assoc, List.length_cons,
        Decoder.replicate, Decoder.bind_eq start, Decoder.bind_eq others]
      rfl
  restores := by
    intro bytes values rest decoded
    induction count generalizing bytes values with
    | zero =>
      cases decoded
      exact ⟨⟨rfl, fun _ member => absurd member List.not_mem_nil⟩, rfl⟩
    | succ count ih =>
      obtain ⟨value, between, start, last⟩ := Decoder.bind_ok decoded
      obtain ⟨others, after, read, ended⟩ := Decoder.bind_ok last
      cases ended
      obtain ⟨admission, rfl⟩ := codes.restores _ _ _ start
      obtain ⟨⟨length, admissions⟩, rfl⟩ := ih _ _ read
      refine ⟨⟨?_, ?_⟩, ?_⟩
      · rw [List.length_cons, length]
      · exact List.forall_mem_cons.mpr ⟨admission, admissions⟩
      · rw [List.flatMap_cons, List.append_assoc]

variable {fits : Nat → Prop} {size : Decoder Limits Failure Nat}
variable {encodeSize : Nat → List UInt8}

/-- Bytes after their number. -/
theorem sized (failure : Failure) (sizes : Codes limits fits size encodeSize) :
    Codes limits (fun bytes => fits bytes.length)
      (Decoder.sized failure size)
      (fun bytes => encodeSize bytes.length ++ bytes) where
  reads := by
    intro bytes fit rest
    rw [List.append_assoc, Decoder.sized,
      Decoder.bind_eq (sizes.reads bytes.length fit (bytes ++ rest))]
    exact (take failure bytes.length).reads bytes rfl rest
  restores := by
    intro bytes chunk rest decoded
    obtain ⟨count, between, start, last⟩ := Decoder.bind_ok decoded
    obtain ⟨fit, rfl⟩ := sizes.restores _ _ _ start
    obtain ⟨rfl, rfl⟩ := (take failure count).restores _ _ _ last
    exact ⟨fit, (List.append_assoc _ _ _).symm⟩

/-- Values after their number. -/
theorem counted (sizes : Codes limits fits size encodeSize)
    (codes : Codes limits admits decode encode) : Codes limits
      (fun values => fits values.length ∧ ∀ value ∈ values, admits value)
      (Decoder.counted size decode)
      (fun values => encodeSize values.length ++ values.flatMap encode) where
  reads := by
    rintro values ⟨fit, admission⟩ rest
    rw [List.append_assoc, Decoder.counted, Decoder.bind_eq
      (sizes.reads values.length fit (values.flatMap encode ++ rest))]
    exact (replicate values.length codes).reads values ⟨rfl, admission⟩ rest
  restores := by
    intro bytes values rest decoded
    obtain ⟨count, between, start, last⟩ := Decoder.bind_ok decoded
    obtain ⟨fit, rfl⟩ := sizes.restores _ _ _ start
    obtain ⟨⟨rfl, admission⟩, rfl⟩ := (replicate count codes).restores _ _ _ last
    exact ⟨⟨fit, admission⟩, (List.append_assoc _ _ _).symm⟩

end Codes
end Wire
end Savor.Library
