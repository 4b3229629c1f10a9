import Mathlib.Algebra.GroupWithZero.Nat
import Mathlib.Data.FinEnum

/-!
# Encoders and decoders

An encoder appends bytes, a decoder consumes them, and both may fail under the
limits they are given.  `Matches` relates an encoder to the decoder of the same
value: whatever the encoder appends, the decoder consumes exactly and reads the
value back.  The rules below follow the way encoders are put together.
-/

namespace Savor.Library
namespace Wire

variable {Limits Failure : Type} {α β : Type}

/-- A step of an encoder: under the limits, and with this many bytes written
already, the bytes it appends. -/
def Encoder (Limits Failure α : Type) : Type := Limits → Nat → Except Failure (α × List UInt8)

/-- A decoder consumes a prefix of the bytes. -/
def Decoder (Limits Failure α : Type) : Type :=
  Limits → List UInt8 → Except Failure (α × List UInt8)

instance : Monad (Encoder Limits Failure) where
  pure value := fun _ _ => .ok (value, [])
  bind first next := fun limits size =>
    match first limits size with
    | .error failure => .error failure
    | .ok (value, bytes) =>
      match next value limits (size + bytes.length) with
      | .error failure => .error failure
      | .ok (result, more) => .ok (result, bytes ++ more)

instance : Monad (Decoder Limits Failure) where
  pure value := fun _ bytes => .ok (value, bytes)
  bind first next := fun limits bytes =>
    match first limits bytes with
    | .error failure => .error failure
    | .ok (value, rest) => next value limits rest

namespace Encoder

/-- Fail. -/
def fail (failure : Failure) : Encoder Limits Failure α := fun _ _ => .error failure

/-- The limits. -/
def limits : Encoder Limits Failure Limits := fun limits _ => .ok (limits, [])

/-- The number of bytes written so far. -/
def size : Encoder Limits Failure Nat := fun _ size => .ok (size, [])

/-- Append bytes. -/
def emit (bytes : List UInt8) : Encoder Limits Failure Unit := fun _ _ => .ok ((), bytes)

/-- Encode a list of values in order. -/
def each (encode : α → Encoder Limits Failure Unit) : List α → Encoder Limits Failure Unit
  | [] => pure ()
  | value :: values => do
      encode value
      each encode values

theorem each_map {encode : β → Encoder Limits Failure Unit}
    {encode' : α → Encoder Limits Failure Unit} {view : α → β} {values : List α}
    (same : ∀ value ∈ values, encode (view value) = encode' value) :
    each encode (values.map view) = each encode' values := by
  induction values with
  | nil => rfl
  | cons value values ih =>
    rw [List.map_cons, each, each, same value List.mem_cons_self,
      ih fun other member => same other (List.mem_cons_of_mem _ member)]

variable {limits : Limits} {size : Nat}

theorem bind_eq_ok_iff {bytes : List UInt8} {encode next : Encoder Limits Failure Unit} :
    (encode >>= fun _ => next) limits size = .ok ((), bytes) ↔
      ∃ start rest, encode limits size = .ok ((), start) ∧
        next limits (size + start.length) = .ok ((), rest) ∧ bytes = start ++ rest := by
  simp only [Bind.bind]
  constructor
  · intro appended
    split at appended
    · cases appended
    rename_i start encoded
    split at appended
    · cases appended
    rename_i rest follows
    cases appended
    exact ⟨start, rest, encoded, follows, rfl⟩
  · rintro ⟨start, rest, encoded, follows, rfl⟩
    rw [encoded]
    simp only
    rw [follows]

/-- Looking at the limits appends nothing. -/
theorem limits_bind {next : Limits → Encoder Limits Failure Unit} :
    (Encoder.limits >>= next) limits size = next limits limits size := by
  simp only [Bind.bind, Encoder.limits, List.length_nil, Nat.add_zero, List.nil_append]
  split
  · rename_i failure failed
    exact failed.symm
  · rename_i result bytes appended
    exact appended.symm

/-- Looking at the size appends nothing. -/
theorem size_bind {next : Nat → Encoder Limits Failure Unit} :
    (Encoder.size >>= next) limits size = next size limits size := by
  simp only [Bind.bind, Encoder.size, List.length_nil, Nat.add_zero, List.nil_append]
  split
  · rename_i failure failed
    exact failed.symm
  · rename_i result bytes appended
    exact appended.symm

end Encoder

namespace Decoder

/-- Fail. -/
def fail (failure : Failure) : Decoder Limits Failure α := fun _ _ => .error failure

/-- The limits. -/
def limits : Decoder Limits Failure Limits := fun limits bytes => .ok (limits, bytes)

/-- Consume a number of bytes. -/
def take (failure : Failure) (count : Nat) : Decoder Limits Failure (List UInt8) :=
  fun _ bytes =>
    if count > bytes.length then .error failure
    else .ok (bytes.take count, bytes.drop count)

/-- Decode a number of values. -/
def replicate (decode : Decoder Limits Failure α) : Nat → Decoder Limits Failure (List α)
  | 0 => pure []
  | count + 1 => do
      let value ← decode
      let values ← replicate decode count
      pure (value :: values)

end Decoder

/-- The decoder reads back what the encoder appends, and consumes no more. -/
def Matches (limits : Limits) (encode : Encoder Limits Failure Unit)
    (decode : Decoder Limits Failure α) (value : α) : Prop :=
  ∀ size bytes, encode limits size = .ok ((), bytes) →
    ∀ rest, decode limits (bytes ++ rest) = .ok (value, rest)

/-- What is encoded of a value in one way is decoded in one way. -/
class Coded (limits : Limits) (encode : Encoder Limits Failure Unit)
    (decode : Decoder Limits Failure α) (value : outParam α) : Prop where
  agrees : Matches limits encode decode value

namespace Matches

variable {limits : Limits} {encode : Encoder Limits Failure Unit}
variable {decode : Decoder Limits Failure α} {value : α}
variable {encode' : Encoder Limits Failure Unit}

theorem unique {value' : α} (first : Matches limits encode decode value)
    (second : Matches limits encode' decode value') {size size' : Nat} {bytes : List UInt8}
    (appended : encode limits size = .ok ((), bytes))
    (appended' : encode' limits size' = .ok ((), bytes)) : value = value' := by
  have read := first size bytes appended []
  rw [second size' bytes appended' []] at read
  cases read
  rfl

/-- Appending nothing matches reading nothing. -/
theorem pure (value : α) : Matches limits (Pure.pure () : Encoder Limits Failure Unit)
      (Pure.pure value : Decoder Limits Failure α) value := by
  intro size bytes appended rest
  cases appended
  rfl

theorem fail (failure : Failure) : Matches limits (Encoder.fail failure) decode value := by
  intro size bytes appended
  cases appended

variable {next : α → Decoder Limits Failure β} {result : β}

/-- Encoders in sequence match decoders in sequence. -/
theorem bind (first : Matches limits encode decode value)
    (second : Matches limits encode' (next value) result) :
    Matches limits (encode >>= fun _ => encode') (decode >>= next) result := by
  intro size bytes appended rest
  obtain ⟨start, last, encoded, follows, rfl⟩ := Encoder.bind_eq_ok_iff.mp appended
  simp only [Bind.bind]
  rw [List.append_assoc, first size start encoded]
  exact second _ last follows rest

/-- The next field, where its type says how it is encoded. -/
theorem coded [known : Coded limits encode decode value]
    (second : Matches limits encode' (next value) result) :
    Matches limits (encode >>= fun _ => encode') (decode >>= next) result :=
  .bind known.agrees second

theorem encoderLimits {next : Limits → Encoder Limits Failure Unit}
    (follows : Matches limits (next limits) decode value) :
    Matches limits (Encoder.limits >>= next) decode value := by
  intro size bytes appended
  rw [Encoder.limits_bind] at appended
  exact follows size bytes appended

/-- An encoder that looks at the bytes written so far. -/
theorem encoderSize {next : Nat → Encoder Limits Failure Unit}
    (follows : ∀ size, Matches limits (next size) decode value) :
    Matches limits (Encoder.size >>= next) decode value := by
  intro size bytes appended
  rw [Encoder.size_bind] at appended
  exact follows size size bytes appended

theorem decoderLimits {next : Limits → Decoder Limits Failure α}
    (follows : Matches limits encode (next limits) value) :
    Matches limits encode (Decoder.limits >>= next) value :=
  follows

/-- A decoder that consumes no more after the last field. -/
theorem finish (last : Matches limits encode decode value)
    (concludes : ∀ rest, next value limits rest = .ok (result, rest)) :
    Matches limits encode (decode >>= next) result := by
  intro size bytes appended rest
  simp only [Bind.bind]
  rw [last size bytes appended rest]
  exact concludes rest

theorem map (view : α → β) (last : Matches limits encode decode value)
    (viewed : view value = result) :
    Matches limits encode (decode >>= fun value => Pure.pure (view value)) result := by
  refine last.finish fun rest => ?_
  rw [viewed]
  rfl

/-- The last field, where its type says how it is encoded. -/
theorem last {view : α → β} [known : Coded limits encode decode value]
    (viewed : view value = result) :
    Matches limits encode (decode >>= fun value => Pure.pure (view value)) result :=
  map view known.agrees viewed

/-- A value that is read as part of a larger one. -/
theorem mapped (view : α → β) [known : Coded limits encode decode value] :
    Matches limits encode (view <$> decode) (view value) :=
  last rfl

theorem guard {condition : Prop} [Decidable condition] {failure : Failure}
    (passed : ¬condition → Matches limits encode decode value) :
    Matches limits (if condition then Encoder.fail failure else encode) decode value := by
  split
  · exact fail failure
  · rename_i holds
    exact passed holds

theorem check {condition : Prop} [Decidable condition] {failure : Failure}
    (holds : ¬condition) (passed : Matches limits encode decode value) : Matches limits encode
      (if condition then Decoder.fail failure else decode) value := by
  rw [if_neg holds]
  exact passed

/-- Bytes are taken back. -/
theorem take (failure : Failure) (bytes : List UInt8) :
    Matches limits (Encoder.emit bytes : Encoder Limits Failure Unit)
      (Decoder.take failure bytes.length) bytes := by
  intro size appendedBytes appended rest
  cases appended
  simp [Decoder.take]

theorem each {encode : α → Encoder Limits Failure Unit}
    {decode : Decoder Limits Failure β} {view : α → β} {values : List α}
    (element : ∀ value ∈ values, Matches limits (encode value) decode (view value)) :
    Matches limits (Encoder.each encode values)
      (Decoder.replicate decode values.length) (values.map view) := by
  induction values with
  | nil => exact pure []
  | cons value values ih =>
    exact (element value List.mem_cons_self).bind
      (.map (view value :: ·)
        (ih fun other member => element other (List.mem_cons_of_mem _ member)) rfl)

end Matches

/-- What one encoder appends, the other appends as well. -/
def Rewrites (limits : Limits) (encode encode' : Encoder Limits Failure Unit) : Prop :=
  ∀ size bytes, encode limits size = .ok ((), bytes) → encode' limits size = .ok ((), bytes)

namespace Rewrites

variable {limits : Limits} {encode encode' : Encoder Limits Failure Unit}

theorem refl (encode : Encoder Limits Failure Unit) : Rewrites limits encode encode :=
  fun _ _ appended => appended

theorem of_eq (same : encode' = encode) : Rewrites limits encode encode' := by
  rw [same]
  exact refl encode

theorem fail (failure : Failure) : Rewrites limits (Encoder.fail failure) encode' := by
  intro size bytes appended
  cases appended

theorem bind {next next' : Encoder Limits Failure Unit} (first : Rewrites limits encode encode')
    (second : Rewrites limits next next') :
    Rewrites limits (encode >>= fun _ => next) (encode' >>= fun _ => next') := by
  intro size bytes appended
  obtain ⟨start, last, encoded, follows, rfl⟩ := Encoder.bind_eq_ok_iff.mp appended
  exact Encoder.bind_eq_ok_iff.mpr
    ⟨start, last, first size start encoded, second _ last follows, rfl⟩

theorem guard {condition condition' : Prop} [Decidable condition]
    [Decidable condition'] {failure failure' : Failure} (passes : ¬condition → ¬condition')
    (passed : ¬condition → Rewrites limits encode encode') : Rewrites limits
      (if condition then Encoder.fail failure else encode)
      (if condition' then Encoder.fail failure' else encode') := by
  split
  · exact fail failure
  rename_i holds
  rw [if_neg (passes holds)]
  exact passed holds

theorem encoderLimits {next next' : Limits → Encoder Limits Failure Unit}
    (follows : Rewrites limits (next limits) (next' limits)) :
    Rewrites limits (Encoder.limits >>= next) (Encoder.limits >>= next') := by
  intro size bytes appended
  rw [Encoder.limits_bind] at appended ⊢
  exact follows size bytes appended

theorem each {encode : α → Encoder Limits Failure Unit} {view : α → α} {values : List α}
    (element : ∀ value ∈ values, Rewrites limits (encode value) (encode (view value))) :
    Rewrites limits (Encoder.each encode values) (Encoder.each encode (values.map view)) := by
  induction values with
  | nil => exact refl _
  | cons value values ih =>
    exact (element value List.mem_cons_self).bind
      (ih fun other member => element other (List.mem_cons_of_mem _ member))

end Rewrites

/-- Where the first encoder succeeds within the bound, the second one appends as
many bytes. -/
def Resembles (limits : Limits) (bound : Nat)
    (encode encode' : Encoder Limits Failure Unit) : Prop :=
  ∀ size bytes, size + bytes.length ≤ bound → encode limits size = .ok ((), bytes) →
    ∃ bytes', bytes'.length = bytes.length ∧ encode' limits size = .ok ((), bytes')

namespace Resembles

variable {limits : Limits} {bound : Nat}
variable {encode encode' : Encoder Limits Failure Unit}

theorem refl (encode : Encoder Limits Failure Unit) : Resembles limits bound encode encode :=
  fun _ bytes _ appended => ⟨bytes, rfl, appended⟩

theorem fail (failure : Failure) : Resembles limits bound (Encoder.fail failure) encode' := by
  intro size bytes _ appended
  cases appended

theorem bind {next next' : Encoder Limits Failure Unit}
    (first : Resembles limits bound encode encode') (second : Resembles limits bound next next') :
    Resembles limits bound (encode >>= fun _ => next) (encode' >>= fun _ => next') := by
  intro size bytes fits appended
  obtain ⟨start, rest, encoded, follows, rfl⟩ := Encoder.bind_eq_ok_iff.mp appended
  rw [List.length_append] at fits
  obtain ⟨start', startLength, encoded'⟩ := first size start (by omega) encoded
  obtain ⟨rest', restLength, follows'⟩ := second _ rest (by omega) follows
  rw [← startLength] at follows'
  refine ⟨start' ++ rest', ?_, Encoder.bind_eq_ok_iff.mpr ⟨start', rest', encoded', follows', rfl⟩⟩
  rw [List.length_append, List.length_append, startLength, restLength]

theorem trans {encode'' : Encoder Limits Failure Unit}
    (first : Resembles limits bound encode encode')
    (second : Resembles limits bound encode' encode'') :
    Resembles limits bound encode encode'' := by
  intro size bytes fits appended
  obtain ⟨bytes', length', appended'⟩ := first size bytes fits appended
  obtain ⟨bytes'', length'', appended''⟩ := second size bytes' (by omega) appended'
  exact ⟨bytes'', length''.trans length', appended''⟩

theorem encoderLimits {next next' : Limits → Encoder Limits Failure Unit}
    (follows : Resembles limits bound (next limits) (next' limits)) :
    Resembles limits bound (Encoder.limits >>= next) (Encoder.limits >>= next') := by
  intro size bytes fits appended
  rw [Encoder.limits_bind] at appended ⊢
  exact follows size bytes fits appended

/-- A check that both encoders make. -/
theorem guard {condition : Prop} [Decidable condition] {failure failure' : Failure}
    (passed : ¬condition → Resembles limits bound encode encode') : Resembles limits bound
      (if condition then Encoder.fail failure else encode)
      (if condition then Encoder.fail failure' else encode') := by
  split
  · exact fail failure
  · rename_i holds
    exact passed holds

theorem each {encode : β → Encoder Limits Failure Unit} {view view' : α → β} {values : List α}
    (element : ∀ value ∈ values,
      Resembles limits bound (encode (view value)) (encode (view' value))) :
    Resembles limits bound (Encoder.each encode (values.map view))
      (Encoder.each encode (values.map view')) := by
  induction values with
  | nil => exact refl _
  | cons value values ih =>
    exact (element value List.mem_cons_self).bind
      (ih fun other member => element other (List.mem_cons_of_mem _ member))

end Resembles

/-- An encoder whose bytes do not depend on where it appends them, as long as
they stay within the bound. -/
def Movable (limits : Limits) (bound : Nat) (encode : Encoder Limits Failure Unit) : Prop :=
  ∀ size bytes, size + bytes.length ≤ bound → encode limits size = .ok ((), bytes) →
    ∀ size', size' + bytes.length ≤ bound → encode limits size' = .ok ((), bytes)

namespace Movable

variable {limits : Limits} {bound : Nat}
variable {encode next : Encoder Limits Failure Unit}

theorem pure : Movable limits bound (Pure.pure () : Encoder Limits Failure Unit) := by
  intro size bytes _ appended size' _
  exact appended

theorem fail (failure : Failure) : Movable limits bound (Encoder.fail failure) := by
  intro size bytes _ appended
  cases appended

theorem bind (first : Movable limits bound encode) (second : Movable limits bound next) :
    Movable limits bound (encode >>= fun _ => next) := by
  intro size bytes fits appended size' fits'
  obtain ⟨start, rest, encoded, follows, rfl⟩ := Encoder.bind_eq_ok_iff.mp appended
  rw [List.length_append] at fits fits'
  have startMoved := first size start (by omega) encoded size' (by omega)
  have restMoved := second _ rest (by omega) follows (size' + start.length) (by omega)
  exact Encoder.bind_eq_ok_iff.mpr ⟨start, rest, startMoved, restMoved, rfl⟩

theorem encoderLimits {next : Limits → Encoder Limits Failure Unit}
    (follows : Movable limits bound (next limits)) :
    Movable limits bound (Encoder.limits >>= next) := by
  intro size bytes fits appended size' fits'
  rw [Encoder.limits_bind] at appended ⊢
  exact follows size bytes fits appended size' fits'

theorem guard {condition : Prop} [Decidable condition] {failure : Failure}
    (passed : Movable limits bound encode) : Movable limits bound
      (if condition then Encoder.fail failure else encode) := by
  split
  · exact fail failure
  · exact passed

variable {encode : α → Encoder Limits Failure Unit}

theorem each (element : ∀ value, Movable limits bound (encode value)) (values : List α) :
    Movable limits bound (Encoder.each encode values) := by
  induction values with
  | nil => exact pure
  | cons value values ih => exact (element value).bind ih

theorem resembles_perm (element : ∀ value, Movable limits bound (encode value))
    {left right : List α} (permutes : left.Perm right) :
    Resembles limits bound (Encoder.each encode left) (Encoder.each encode right) := by
  induction permutes with
  | nil => exact .refl _
  | cons value _ ih => exact .bind (.refl _) ih
  | swap first second values =>
    intro size bytes fits appended
    obtain ⟨start, rest, secondEncoded, follows, rfl⟩ := Encoder.bind_eq_ok_iff.mp appended
    obtain ⟨middle, last, firstEncoded, follows', rfl⟩ := Encoder.bind_eq_ok_iff.mp follows
    simp only [List.length_append] at fits
    have firstMoved := element first _ _ (by omega) firstEncoded size (by omega)
    have secondMoved := element second _ _ (by omega) secondEncoded
      (size + middle.length) (by omega)
    have total : size + middle.length + start.length =
        size + start.length + middle.length := by omega
    rw [← total] at follows'
    have tail := Encoder.bind_eq_ok_iff.mpr ⟨start, last, secondMoved, follows', rfl⟩
    refine ⟨middle ++ (start ++ last), ?_, Encoder.bind_eq_ok_iff.mpr
      ⟨middle, start ++ last, firstMoved, tail, rfl⟩⟩
    simp only [List.length_append]
    omega
  | trans _ _ first second => exact first.trans second

end Movable

/-- The low bytes of a number, least significant first. -/
def littleEndian : Nat → Nat → List UInt8
  | 0, _ => []
  | width + 1, number => UInt8.ofNat (number % 256) :: littleEndian width (number / 256)

/-- The number that little-endian bytes spell. -/
def ofLittleEndian : List UInt8 → Nat
  | [] => 0
  | byte :: bytes => byte.toNat + 256 * ofLittleEndian bytes

@[simp] theorem length_littleEndian (width number : Nat) :
    (littleEndian width number).length = width := by
  induction width generalizing number with
  | zero => rfl
  | succ width ih => simp [littleEndian, ih]

theorem getElem_littleEndian {width number position : Nat}
    (inside : position < (littleEndian width number).length) :
    (littleEndian width number)[position] = UInt8.ofNat (number / 256 ^ position % 256) := by
  induction width generalizing number position with
  | zero => simp at inside
  | succ width ih =>
    cases position with
    | zero => simp [littleEndian]
    | succ position =>
      simp only [littleEndian, List.getElem_cons_succ]
      rw [ih, Nat.div_div_eq_div_mul, Nat.pow_succ, Nat.mul_comm 256]

theorem ofLittleEndian_littleEndian {width number : Nat} (fits : number < 256 ^ width) :
    ofLittleEndian (littleEndian width number) = number := by
  induction width generalizing number with
  | zero =>
    rw [Nat.pow_zero] at fits
    simp only [littleEndian, ofLittleEndian]
    omega
  | succ width ih =>
    have high : number / 256 < 256 ^ width := by
      rw [Nat.pow_succ] at fits
      omega
    have low : (UInt8.ofNat (number % 256)).toNat = number % 256 := by
      rw [UInt8.toNat_ofNat']
      omega
    rw [littleEndian, ofLittleEndian, ih high, low]
    omega

/-- Bytes spell no more numbers than they can. -/
theorem ofLittleEndian_lt (bytes : List UInt8) : ofLittleEndian bytes < 256 ^ bytes.length := by
  induction bytes with
  | nil => exact Nat.one_pos
  | cons byte bytes ih =>
    have low := byte.toNat_lt
    rw [ofLittleEndian, List.length_cons, Nat.pow_succ]
    omega

/-- The bytes that spell a number are the only ones of their length. -/
theorem littleEndian_ofLittleEndian (bytes : List UInt8) :
    littleEndian bytes.length (ofLittleEndian bytes) = bytes := by
  induction bytes with
  | nil => rfl
  | cons byte bytes ih =>
    have low := byte.toNat_lt
    have remainder : (byte.toNat + 256 * ofLittleEndian bytes) % 256 = byte.toNat := by omega
    have quotient : (byte.toNat + 256 * ofLittleEndian bytes) / 256 =
        ofLittleEndian bytes := by omega
    rw [ofLittleEndian, List.length_cons, littleEndian, remainder, quotient, ih, UInt8.ofNat_toNat]

end Wire
end Savor.Library
