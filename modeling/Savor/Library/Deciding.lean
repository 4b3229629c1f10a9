import Savor.Library.Wire

/-!
# Decoders that decide

An encoder that never fails may write a value that its decoder refuses.
`Decides` says what a decoder does on such bytes, whatever follows them: where
the value is admitted the decoder consumes them exactly and reads the value, and
otherwise it fails.  The rules below follow the way decoders are put together.
-/

namespace Savor.Library
namespace Wire

variable {Limits Failure : Type} {α β : Type}

namespace Decoder

/-- Consume one byte. -/
def byte (failure : Failure) : Decoder Limits Failure UInt8 :=
  fun _ bytes =>
    match bytes with
    | [] => .error failure
    | byte :: rest => .ok (byte, rest)

/-- Fail unless the condition holds. -/
def check (condition : Prop) [Decidable condition] (failure : Failure) :
    Decoder Limits Failure Unit :=
  if condition then pure () else fail failure

/-- Decode bytes that have been taken out of their surroundings, all of them. -/
def whole (decode : Decoder Limits Failure α) (failure : Failure)
    (bytes : List UInt8) : Decoder Limits Failure α :=
  fun limits rest =>
    match decode limits bytes with
    | .error failed => .error failed
    | .ok (value, []) => .ok (value, rest)
    | .ok (_, _ :: _) => .error failure

end Decoder

/-- On these bytes the decoder reads the value where it is admitted and fails
otherwise, whatever follows.  Nothing is said of as many bytes as the bound or
more. -/
def Decides (limits : Limits) (bound : Nat) (decode : Decoder Limits Failure α)
    (bytes : List UInt8) (admitted : Prop) (value : α) : Prop :=
  bytes.length < bound → ∀ rest,
    (admitted → decode limits (bytes ++ rest) = .ok (value, rest)) ∧
      (¬admitted → ∃ failure, decode limits (bytes ++ rest) = .error failure)

namespace Decides

variable {limits : Limits} {bound : Nat} {decode : Decoder Limits Failure α}
variable {next : α → Decoder Limits Failure β} {bytes more : List UInt8}
variable {admitted admitted' : Prop} {value : α} {result : β}

/-- A decoder that reads these bytes whatever follows. -/
theorem of_reads (reads : bytes.length < bound → ∀ rest,
      decode limits (bytes ++ rest) = .ok (value, rest)) :
    Decides limits bound decode bytes True value :=
  fun short rest => ⟨fun _ => reads short rest, fun refused => absurd True.intro refused⟩

/-- Nothing is consumed after the last field. -/
theorem pure (value : α) : Decides limits bound (Pure.pure value : Decoder Limits Failure α) [] True
      value :=
  of_reads fun _ _ => rfl

/-- The same condition in other words. -/
theorem congr (decides : Decides limits bound decode bytes admitted value)
    (same : admitted ↔ admitted') : Decides limits bound decode bytes admitted' value := by
  intro short rest
  obtain ⟨reads, refuses⟩ := decides short rest
  exact ⟨fun holds => reads (same.mpr holds),
    fun fails => refuses fun holds => fails (same.mp holds)⟩

/-- Decoders in sequence: both have to admit what they read. -/
theorem bind (first : Decides limits bound decode bytes admitted value) (second : admitted →
      Decides limits bound (next value) more admitted' result) :
    Decides limits bound (decode >>= next) (bytes ++ more) (admitted ∧ admitted') result := by
  intro short rest
  rw [List.length_append] at short
  obtain ⟨reads, refuses⟩ := first (by omega) (more ++ rest)
  simp only [Bind.bind]
  rw [List.append_assoc]
  by_cases holds : admitted
  · rw [reads holds]
    obtain ⟨readsMore, refusesMore⟩ := second holds (by omega) rest
    exact ⟨fun both => readsMore both.2, fun fails => refusesMore fun other => fails ⟨holds, other⟩⟩
  obtain ⟨failure, failed⟩ := refuses holds
  rw [failed]
  exact ⟨fun both => absurd both.1 holds, fun _ => ⟨failure, rfl⟩⟩

/-- The next field, whatever it is. -/
theorem step (first : Decides limits bound decode bytes True value)
    (second : Decides limits bound (next value) more admitted result) :
    Decides limits bound (decode >>= next) (bytes ++ more) admitted result :=
  (first.bind fun _ => second).congr (iff_of_eq (true_and _))

theorem last (view : α → β) (decides : Decides limits bound decode bytes admitted value) :
    Decides limits bound (decode >>= fun read => Pure.pure (view read))
      (bytes ++ []) admitted (view value) :=
  (decides.bind fun _ => pure (view value)).congr (iff_of_eq (and_true _))

/-- The decoder of the last part. -/
theorem only (decides : Decides limits bound decode bytes admitted value) :
    Decides limits bound decode (bytes ++ []) admitted value := by
  rwa [List.append_nil]

theorem map (view : α → β) (decides : Decides limits bound decode bytes admitted value) :
    Decides limits bound (decode >>= fun read => Pure.pure (view read)) bytes
      admitted (view value) := by
  have mapped := decides.last view
  rwa [List.append_nil] at mapped

theorem check (condition : Prop) [Decidable condition] (failure : Failure) : Decides limits bound
      (Decoder.check condition failure : Decoder Limits Failure Unit) [] condition () := by
  intro _ rest
  unfold Decoder.check
  constructor
  · intro holds
    rw [if_pos holds]
    rfl
  intro fails
  rw [if_neg fails]
  exact ⟨failure, rfl⟩

theorem passes {condition : Prop} [Decidable condition] {failure : Failure}
    {next : Unit → Decoder Limits Failure β} (holds : condition)
    (decides : Decides limits bound (next ()) bytes admitted result) :
    Decides limits bound (Decoder.check condition failure >>= next) bytes admitted result := by
  have checked : Decoder.check condition failure =
      (Pure.pure () : Decoder Limits Failure Unit) :=
    if_pos holds
  rw [checked]
  exact decides

/-- One byte is read as it was written. -/
theorem byte (failure : Failure) (value : UInt8) : Decides limits bound
      (Decoder.byte failure : Decoder Limits Failure UInt8) [value] True value :=
  of_reads fun _ _ => rfl

/-- Bytes are taken back. -/
theorem take (failure : Failure) (bytes : List UInt8) : Decides limits bound
      (Decoder.take failure bytes.length : Decoder Limits Failure _) bytes True bytes := by
  refine of_reads fun _ rest => ?_
  simp [Decoder.take]

theorem whole (failure : Failure) (short : bytes.length < bound)
    (decides : Decides limits bound decode bytes admitted value) :
    Decides limits bound (Decoder.whole decode failure bytes) [] admitted value := by
  intro _ rest
  obtain ⟨reads, refuses⟩ := decides short []
  rw [List.append_nil] at reads refuses
  unfold Decoder.whole
  constructor
  · intro holds
    rw [reads holds]
    rfl
  intro fails
  obtain ⟨failed, refused⟩ := refuses fails
  rw [refused]
  exact ⟨failed, rfl⟩

variable {encode : α → List UInt8}

/-- Lists are read back elementwise; one value that is not admitted is enough to
fail. -/
theorem each {decode : Decoder Limits Failure β}
    {admitted : α → Prop} {view : α → β} {values : List α} (element : ∀ value ∈ values,
      Decides limits bound decode (encode value) (admitted value) (view value)) :
    Decides limits bound (Decoder.replicate decode values.length)
      (values.flatMap encode) (∀ value ∈ values, admitted value) (values.map view) := by
  induction values with
  | nil => exact (pure []).congr (by simp)
  | cons value values ih =>
    have rest := ih fun other member => element other (List.mem_cons_of_mem _ member)
    refine ((element value List.mem_cons_self).bind fun _ => rest.map (view value :: ·)).congr ?_
    rw [List.forall_mem_cons]

/-- Where every value has bytes, there are not more values than bytes. -/
theorem length_le_flatMap (nonempty : ∀ value, encode value ≠ []) (values : List α) :
    values.length ≤ (values.flatMap encode).length := by
  induction values with
  | nil => exact Nat.zero_le _
  | cons value values ih =>
    have positive := List.length_pos_iff.mpr (nonempty value)
    rw [List.flatMap_cons, List.length_append, List.length_cons]
    omega

theorem reads_iff (decides : Decides limits bound decode bytes admitted value)
    (short : bytes.length < bound) :
    (∃ read rest, decode limits bytes = .ok (read, rest)) ↔ admitted := by
  obtain ⟨reads, refuses⟩ := decides short []
  rw [List.append_nil] at reads refuses
  constructor
  · rintro ⟨read, rest, decoded⟩
    by_contra fails
    obtain ⟨failure, failed⟩ := refuses fails
    rw [failed] at decoded
    cases decoded
  · intro holds
    exact ⟨value, [], reads holds⟩

end Decides

/-- The decoder fails on bytes that end too early. -/
def Truncates (limits : Limits) (decode : Decoder Limits Failure α) (bytes : List UInt8) : Prop :=
  ∀ part, part <+: bytes → part ≠ bytes → ∃ failure, decode limits part = .error failure

/-- A part of two strings of bytes ends within the first one or in the second
one. -/
theorem prefix_append_cases {part bytes more : List UInt8} (starts : part <+: bytes ++ more) :
    (part <+: bytes ∧ part ≠ bytes) ∨ ∃ last, part = bytes ++ last ∧ last <+: more := by
  rcases Nat.lt_or_ge part.length bytes.length with shorter | longer
  · refine Or.inl ⟨List.prefix_of_prefix_length_le starts
      (List.prefix_append _ _) (Nat.le_of_lt shorter), ?_⟩
    rintro rfl
    exact Nat.lt_irrefl _ shorter
  obtain ⟨last, rfl⟩ := List.prefix_of_prefix_length_le
    (List.prefix_append bytes more) starts longer
  exact Or.inr ⟨last, rfl, (List.prefix_append_right_inj bytes).mp starts⟩

namespace Truncates

variable {limits : Limits} {decode : Decoder Limits Failure α}
variable {next : α → Decoder Limits Failure β} {bytes more : List UInt8}
variable {value : α}

/-- Nothing can be cut off from no bytes. -/
theorem nil : Truncates limits decode [] := by
  intro part starts different
  exact absurd (List.prefix_nil.mp starts) different

/-- Decoders in sequence. -/
theorem bind (reads : ∀ bound, Decides limits bound decode bytes True value)
    (first : Truncates limits decode bytes) (second : Truncates limits (next value) more) :
    Truncates limits (decode >>= next) (bytes ++ more) := by
  intro part starts different
  simp only [Bind.bind]
  rcases prefix_append_cases starts with ⟨within, cut⟩ | ⟨last, rfl, within⟩
  · obtain ⟨failure, failed⟩ := first part within cut
    rw [failed]
    exact ⟨failure, rfl⟩
  have cut : last ≠ more := by
    rintro rfl
    exact different rfl
  rw [(reads (bytes.length + 1) (Nat.lt_succ_self _) last).1 True.intro]
  exact second last within cut

theorem passes {condition : Prop} [Decidable condition] {failure : Failure}
    {next : Unit → Decoder Limits Failure β} (holds : condition)
    (truncates : Truncates limits (next ()) bytes) :
    Truncates limits (Decoder.check condition failure >>= next) bytes := by
  have checked : Decoder.check condition failure =
      (Pure.pure () : Decoder Limits Failure Unit) :=
    if_pos holds
  rw [checked]
  exact truncates

/-- Bytes of which there are too few. -/
theorem take (failure : Failure) (bytes : List UInt8) :
    Truncates limits (Decoder.take failure bytes.length) bytes := by
  intro part starts different
  have shorter : part.length < bytes.length := by
    rcases Nat.lt_or_ge part.length bytes.length with shorter | longer
    · exact shorter
    · exact absurd (starts.eq_of_length_le longer) different
  exact ⟨failure, if_pos shorter⟩

/-- Bytes, and what follows them. -/
theorem taken {failure : Failure} {bytes more : List UInt8}
    {next : List UInt8 → Decoder Limits Failure β} (rest : Truncates limits (next bytes) more) :
    Truncates limits (Decoder.take failure bytes.length >>= next) (bytes ++ more) :=
  .bind (fun _ => .take failure bytes) (.take failure bytes) rest

theorem byte (failure : Failure) (value : UInt8) :
    Truncates limits (Decoder.byte failure : Decoder Limits Failure UInt8) [value] := by
  intro part starts different
  have empty : part = [] := by
    cases part with
    | nil => rfl
    | cons first rest =>
      obtain ⟨rfl, within⟩ := List.cons_prefix_cons.mp starts
      rw [List.prefix_nil.mp within] at different
      exact absurd rfl different
  rw [empty]
  exact ⟨failure, rfl⟩

end Truncates
end Wire
end Savor.Library
