import Mathlib.Data.Nat.Digits.Lemmas
import Savor.Model.Identifiers

/-!
# UTF-8 acceptance

The value arena and the codec each carry the same byte-level check.  It decodes
one code point at a time and refuses overlong forms, surrogates, code points
above U+10FFFF and truncated sequences.
-/

namespace Savor.Program
namespace Utf8

/-- The initial bits and the number of continuation bytes a non-ASCII lead byte
announces. -/
def leadByte (lead : Byte) : Option (UInt32 × Nat) :=
  if lead &&& 0xe0 = 0xc0 then
    if lead &&& 0x1f = 0 then none else some ((lead &&& 0x1f).toUInt32, 1)
  else if lead &&& 0xf0 = 0xe0 then some ((lead &&& 0x0f).toUInt32, 2)
  else if lead &&& 0xf8 = 0xf0 then some ((lead &&& 0x07).toUInt32, 3)
  else none

/-- Shift the continuation bytes into the code point. -/
def continuation (codePoint : UInt32) : ByteString → Option UInt32
  | [] => some codePoint
  | byte :: bytes =>
    if byte &&& 0xc0 = 0x80 then
      continuation ((codePoint <<< 6) ||| (byte &&& 0x3f).toUInt32) bytes
    else none

/-- The code points that a sequence with `count` continuation bytes must not
encode. -/
def forbidden (count : Nat) (codePoint : UInt32) : Bool :=
  (count = 1 && codePoint < 0x80) ||
    (count = 2 && codePoint < 0x800) ||
    (count = 3 && codePoint < 0x10000) ||
    codePoint > 0x10ffff ||
    (codePoint >= 0xd800 && codePoint <= 0xdfff)

/-- The scan itself.  Every round consumes at least one byte, so the length of
the text is fuel enough. -/
def scan : Nat → ByteString → Bool
  | _, [] => true
  | 0, _ :: _ => false
  | fuel + 1, lead :: rest =>
    if lead ≤ 0x7f then scan fuel rest
    else
      match leadByte lead with
      | none => false
      | some (initial, count) =>
        if rest.length < count then false
        else
          match continuation initial (rest.take count) with
          | none => false
          | some codePoint => !forbidden count codePoint && scan fuel (rest.drop count)

end Utf8

def isValidUtf8 (string : ByteString) : Bool := Utf8.scan string.length string

/-!
## Decimal digits

The decimal spelling of a number determines the number, also inside of a key
in which other text follows the digits.
-/

/-- The number that digits spell. -/
def digitsValue (digits : ByteString) : Nat :=
  digits.foldl (fun value digit => 10 * value + (digit.toNat - 48)) 0

theorem digit_byte {digit : Char} (isDigit : digit.isDigit = true) :
    (UInt8.ofNat digit.toNat).toNat = digit.toNat ∧ 48 ≤ digit.toNat ∧ digit.toNat ≤ 57 := by
  have zero : '0'.toNat = 48 := rfl
  have nine : '9'.toNat = 57 := rfl
  have bounds := Char.isDigit_iff_toNat.mp isDigit
  refine ⟨?_, by omega, by omega⟩
  rw [UInt8.toNat_ofNat']
  omega

theorem foldl_digits {digits : List Char}
    (areDigits : ∀ digit ∈ digits, digit.isDigit = true) (value : Nat) :
    (digits.map fun digit => UInt8.ofNat digit.toNat).foldl
        (fun value digit => 10 * value + (digit.toNat - 48)) value =
      Nat.ofDigitChars 10 digits value := by
  induction digits generalizing value with
  | nil => simp
  | cons digit digits ih =>
    have byte := (digit_byte (areDigits digit List.mem_cons_self)).1
    rw [List.map_cons, List.foldl_cons, byte, ih
      fun other member => areDigits other (List.mem_cons_of_mem _ member),
      Nat.ofDigitChars_cons]
    rfl

theorem decimal_eq (number : Nat) : decimal number = (Nat.toDigits 10 number).map fun digit =>
      UInt8.ofNat digit.toNat := by
  have chars : (toString number).toList = Nat.toDigits 10 number := Nat.toList_repr
  unfold decimal text
  rw [chars]

variable {number : Nat}

theorem isDigit_of_mem_toDigits {digit : Char}
    (member : digit ∈ Nat.toDigits 10 number) : digit.isDigit = true :=
  Nat.isDigit_of_mem_toDigits (by decide) (by decide) member

theorem digitsValue_decimal (number : Nat) : digitsValue (decimal number) = number := by
  unfold digitsValue
  rw [decimal_eq, foldl_digits fun digit => isDigit_of_mem_toDigits, Nat.ofDigitChars_ten_toDigits]

theorem decimal_injective : Function.Injective decimal := by
  intro number other same
  have values := congrArg digitsValue same
  rwa [digitsValue_decimal, digitsValue_decimal] at values

theorem mem_decimal {byte : UInt8}
    (member : byte ∈ decimal number) : 48 ≤ byte.toNat ∧ byte.toNat ≤ 57 := by
  rw [decimal_eq] at member
  obtain ⟨digit, digitMember, rfl⟩ := List.mem_map.mp member
  obtain ⟨same, bounds⟩ := digit_byte (isDigit_of_mem_toDigits digitMember)
  rw [same]
  exact bounds

/-- Two numbers that are followed by a byte that is no digit are the same when
the texts are. -/
theorem decimal_append_cons_injective {other : Nat} {stop : UInt8}
    {rest tail : ByteString} (noDigit : 57 < stop.toNat)
    (same : decimal number ++ stop :: rest = decimal other ++ stop :: tail) : number = other := by
  have digits : ∀ number : Nat, ∀ rest : ByteString,
      (decimal number ++ stop :: rest).takeWhile (· ≠ stop) = decimal number := by
    intro number rest
    rw [List.takeWhile_append_of_pos, List.takeWhile_cons_of_neg, List.append_nil]
    · simp
    intro byte member
    have small := (mem_decimal member).2
    rw [decide_eq_true_eq]
    rintro rfl
    omega
  have prefixes := congrArg (List.takeWhile (· ≠ stop)) same
  rw [digits, digits] at prefixes
  exact decimal_injective prefixes

/-!
## Hashes as text

A content hash is spelled with 64 lower case hexadecimal digits.  The spelling
and its reading are inverse to each other.
-/

namespace ContentHash256

/-- The hexadecimal digit of a number below sixteen. -/
def hexDigit (nibble : Byte) : Byte := if nibble < 10 then 48 + nibble else 87 + nibble

/-- The number a lower case hexadecimal digit stands for. -/
def hexValue (digit : Byte) : Option Byte :=
  if 48 ≤ digit ∧ digit ≤ 57 then some (digit - 48)
  else if 97 ≤ digit ∧ digit ≤ 102 then some (digit - 97 + 10)
  else none

/-- The digits of some bytes, the higher half of a byte first. -/
def spell : List Byte → ByteString
  | [] => []
  | byte :: bytes => hexDigit (byte >>> 4) :: hexDigit (byte &&& 0x0f) :: spell bytes

/-- The bytes that pairs of digits stand for. -/
def unspell : ByteString → Option (List Byte)
  | [] => some []
  | [_] => none
  | high :: low :: digits => do
      let high ← hexValue high
      let low ← hexValue low
      let bytes ← unspell digits
      pure (((high <<< 4) ||| low) :: bytes)

/-- `ContentHash256::ToHex`. -/
def toHex (hash : ContentHash256) : ByteString := spell hash.bytes

/-- `ContentHash256::FromHex`. -/
def fromHex (digits : ByteString) : Option ContentHash256 :=
  if digits.length ≠ 64 then none
  else
    match unspell digits with
    | none => none
    | some bytes => if fits : bytes.length = 32 then some ⟨bytes, fits⟩ else none

theorem length_spell (bytes : List Byte) : (spell bytes).length = 2 * bytes.length := by
  induction bytes with
  | nil => rfl
  | cons byte bytes ih =>
    rw [spell, List.length_cons, List.length_cons, List.length_cons, ih]
    omega

/-- A hash is spelled with 64 digits. -/
@[simp] theorem length_toHex (hash : ContentHash256) : hash.toHex.length = 64 := by
  rw [toHex, length_spell, hash.length_bytes]

theorem hexValue_halves (byte : Byte) : hexValue (hexDigit (byte >>> 4)) = some (byte >>> 4) ∧
      hexValue (hexDigit (byte &&& 0x0f)) = some (byte &&& 0x0f) ∧
      ((byte >>> 4) <<< 4) ||| (byte &&& 0x0f) = byte := by
  have every : ∀ number : Fin 256, let byte := UInt8.ofNat number
      hexValue (hexDigit (byte >>> 4)) = some (byte >>> 4) ∧
        hexValue (hexDigit (byte &&& 0x0f)) = some (byte &&& 0x0f) ∧
        ((byte >>> 4) <<< 4) ||| (byte &&& 0x0f) = byte := by
    decide +kernel
  have spelled := every ⟨byte.toNat, byte.toNat_lt⟩
  simpa only [UInt8.ofNat_toNat] using spelled

/-- A digit stands for a number below sixteen and is the digit of it. -/
theorem hexDigit_of_hexValue {digit nibble : Byte} (read : hexValue digit = some nibble) :
    nibble.toNat < 16 ∧ hexDigit nibble = digit := by
  have every : ∀ number : Fin 256, (hexValue (UInt8.ofNat number)).all
      (fun nibble => nibble.toNat < 16 ∧ hexDigit nibble = UInt8.ofNat number) := by
    decide +kernel
  have spelled := every ⟨digit.toNat, digit.toNat_lt⟩
  simpa [UInt8.ofNat_toNat, read] using spelled

theorem halves_join {high low : Byte} (highFits : high.toNat < 16) (lowFits : low.toNat < 16) :
    ((high <<< 4) ||| low) >>> 4 = high ∧
      ((high <<< 4) ||| low) &&& 0x0f = low := by
  have every : ∀ first second : Fin 16, let high := UInt8.ofNat first
      let low := UInt8.ofNat second
      ((high <<< 4) ||| low) >>> 4 = high ∧
        ((high <<< 4) ||| low) &&& 0x0f = low := by
    decide +kernel
  have joined := every ⟨high.toNat, highFits⟩ ⟨low.toNat, lowFits⟩
  simpa only [UInt8.ofNat_toNat] using joined

theorem unspell_spell (bytes : List Byte) : unspell (spell bytes) = some bytes := by
  induction bytes with
  | nil => rfl
  | cons byte bytes ih =>
    obtain ⟨readsHigh, readsLow, joined⟩ := hexValue_halves byte
    simp only [spell, unspell, readsHigh, readsLow, ih,
      Option.bind_eq_bind, Option.bind_some, joined]
    rfl

theorem spell_unspell {digits : ByteString} {bytes : List Byte}
    (read : unspell digits = some bytes) : spell bytes = digits := by
  induction digits using unspell.induct generalizing bytes with
  | case1 =>
    cases read
    rfl
  | case2 => cases read
  | case3 first second digits ih =>
    simp only [unspell, Option.bind_eq_bind, Option.bind_eq_some_iff] at read
    obtain ⟨high, readsHigh, low, readsLow, others, rest, spelled⟩ := read
    cases spelled
    obtain ⟨highFits, spellsHigh⟩ := hexDigit_of_hexValue readsHigh
    obtain ⟨lowFits, spellsLow⟩ := hexDigit_of_hexValue readsLow
    obtain ⟨joinsHigh, joinsLow⟩ := halves_join highFits lowFits
    rw [spell, joinsHigh, joinsLow, spellsHigh, spellsLow, ih rest]

/-- The text of a hash stands for it. -/
@[simp] theorem fromHex_toHex (hash : ContentHash256) : fromHex hash.toHex = some hash := by
  unfold fromHex
  rw [if_neg (not_not_intro hash.length_toHex), toHex, unspell_spell]
  exact dif_pos hash.length_bytes

/-- The text that stands for a hash is its text. -/
theorem toHex_of_fromHex {digits : ByteString} {hash : ContentHash256}
    (read : fromHex digits = some hash) : hash.toHex = digits := by
  unfold fromHex at read
  split at read
  · cases read
  split at read
  · cases read
  rename_i bytes spelled
  split at read
  · cases read
    exact spell_unspell spelled
  · cases read

theorem toHex_injective {first second : ContentHash256}
    (same : first.toHex = second.toHex) : first = second := by
  have read := fromHex_toHex first
  rw [same, fromHex_toHex] at read
  exact (Option.some.inj read).symm

end ContentHash256
end Savor.Program
