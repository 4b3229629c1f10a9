import Savor.Value.Arena

/-!
# Well-formed UTF-8

A string is well-formed when it is the concatenation of the encodings of
Unicode scalar values.  The byte-level check accepts exactly these strings.
-/

namespace Savor.Program
namespace Utf8

/-- A concatenation of encoded scalar values, each in its shortest form. -/
def WellFormed (string : ByteString) : Prop :=
  ∃ characters : List Char, string = characters.flatMap String.utf8EncodeChar

/-- The continuation byte that carries a digit to the base 64. -/
def tail (digit : Nat) : Byte := UInt8.ofNat (digit + 0x80)

theorem leadByte_ofNat (lead : Fin 256) : leadByte (UInt8.ofNat lead) =
      if 0xc0 < lead.val ∧ lead.val < 0xe0 then
        some (UInt32.ofNat (lead - 0xc0), 1)
      else if 0xe0 ≤ lead.val ∧ lead.val < 0xf0 then
        some (UInt32.ofNat (lead - 0xe0), 2)
      else if 0xf0 ≤ lead.val ∧ lead.val < 0xf8 then
        some (UInt32.ofNat (lead - 0xf0), 3)
      else none := by
  revert lead
  decide +kernel

theorem leadByte_cases {lead : Byte} {initial : UInt32} {count : Nat}
    (leads : leadByte lead = some (initial, count)) :
    (count = 1 ∧ initial.toNat < 0x20 ∧ initial.toNat + 0xc0 = lead.toNat) ∨
      (count = 2 ∧ initial.toNat < 0x10 ∧ initial.toNat + 0xe0 = lead.toNat) ∨
      (count = 3 ∧ initial.toNat < 0x08 ∧ initial.toNat + 0xf0 = lead.toNat) := by
  have form := leadByte_ofNat ⟨lead.toNat, lead.toNat_lt⟩
  rw [UInt8.ofNat_toNat, leads] at form
  dsimp only at form
  split_ifs at form <;>
  · obtain ⟨rfl, rfl⟩ := Prod.mk.inj (Option.some.inj form)
    rw [UInt32.toNat_ofNat']
    omega

theorem tail_bits {digit : Nat} (below : digit < 64) :
    tail digit &&& 0xc0 = 0x80 ∧ (tail digit &&& 0x3f).toNat = digit := by
  have checked : ∀ digit : Fin 64,
      tail digit &&& 0xc0 = 0x80 ∧ (tail digit &&& 0x3f).toNat = digit := by
    decide +kernel
  exact checked ⟨digit, below⟩

theorem exists_tail {byte : Byte} (marked : byte &&& 0xc0 = 0x80) :
    ∃ digit < 64, byte = tail digit := by
  have checked : ∀ number : Fin 256, UInt8.ofNat number &&& 0xc0 = 0x80 →
      UInt8.ofNat number = tail (number % 64) := by
    decide +kernel
  have same : UInt8.ofNat byte.toNat = byte := UInt8.ofNat_toNat
  have spelled := checked ⟨byte.toNat, byte.toNat_lt⟩
  rw [same] at spelled
  exact ⟨byte.toNat % 64, Nat.mod_lt _ (by decide), spelled marked⟩

theorem shifted {codePoint : UInt32} {low : Byte} (below : low.toNat < 64)
    (small : codePoint.toNat * 64 < 2 ^ 32) : ((codePoint <<< 6) ||| low.toUInt32).toNat =
      64 * codePoint.toNat + low.toNat := by
  have shift : (codePoint <<< 6).toNat = codePoint.toNat <<< 6 := by
    rw [UInt32.toNat_shiftLeft, Nat.shiftLeft_eq, Nat.shiftLeft_eq]
    exact Nat.mod_eq_of_lt small
  rw [UInt32.toNat_or, shift, UInt8.toNat_toUInt32,
    ← Nat.shiftLeft_add_eq_or_of_lt below, Nat.shiftLeft_eq]
  omega

theorem continuation_eq_some {codePoint result : UInt32} {bytes : ByteString}
    (small : (codePoint.toNat + 1) * 64 ^ bytes.length ≤ 2 ^ 32) :
    continuation codePoint bytes = some result ↔
      ∃ digits : List Nat, (∀ digit ∈ digits, digit < 64) ∧ bytes = digits.map tail ∧
        result.toNat = digits.foldl (64 * · + ·) codePoint.toNat := by
  induction bytes generalizing codePoint with
  | nil =>
    constructor
    · rintro ⟨⟩
      exact ⟨[], nofun, rfl, rfl⟩
    · rintro ⟨digits, -, empty, value⟩
      obtain rfl := List.map_eq_nil_iff.mp empty.symm
      exact congrArg some (UInt32.toNat_inj.mp value.symm)
  | cons byte bytes ih =>
    have power : 0 < 64 ^ bytes.length := Nat.pow_pos (by decide)
    rw [List.length_cons, Nat.pow_succ'] at small
    have room : (codePoint.toNat + 1) * 64 ≤ 2 ^ 32 := by
      refine Nat.le_trans (Nat.mul_le_mul_left _ ?_) small
      omega
    rw [continuation]
    split
    case isTrue marked =>
      obtain ⟨digit, below, rfl⟩ := exists_tail marked
      have value := (tail_bits below).2
      have next := @shifted codePoint (tail digit &&& 0x3f) (by omega) (by omega)
      rw [value] at next
      rw [ih ?_, next]
      · constructor
        · rintro ⟨digits, bounds, rfl, sum⟩
          exact ⟨digit :: digits, by simpa using ⟨below, bounds⟩, rfl, sum⟩
        rintro ⟨digits, bounds, spelled, sum⟩
        obtain ⟨first, digits, rfl, same, rfl⟩ := List.map_eq_cons_iff.mp spelled.symm
        have first_value := (tail_bits (bounds first List.mem_cons_self)).2
        rw [same, value] at first_value
        subst first_value
        exact ⟨digits, (List.forall_mem_cons.mp bounds).2, rfl, sum⟩
      · rw [next]
        refine Nat.le_trans ?_ small
        rw [← Nat.mul_assoc]
        exact Nat.mul_le_mul_right _ (by omega)
    case isFalse unmarked =>
      constructor
      · nofun
      · rintro ⟨digits, bounds, spelled, -⟩
        obtain ⟨digit, rest, rfl, rfl, -⟩ := List.map_eq_cons_iff.mp spelled.symm
        exact absurd (tail_bits (bounds digit List.mem_cons_self)).1 unmarked

/-- The high bits and the digits of a character in its longer encodings. -/
inductive Spelling (value : Nat) : Nat → Nat → List Nat → Prop
  | two {high a : Nat} (low : 0x80 ≤ value) (digits : a < 64)
      (bound : high < 0x20) (sum : value = 64 * high + a) :
      Spelling value 0xc0 high [a]
  | three {high a b : Nat} (low : 0x800 ≤ value) (digits : a < 64 ∧ b < 64)
      (bound : high < 0x10) (sum : value = 64 * (64 * high + a) + b) :
      Spelling value 0xe0 high [a, b]
  | four {high a b c : Nat} (low : 0x10000 ≤ value)
      (digits : a < 64 ∧ b < 64 ∧ c < 64) (bound : high < 0x08)
      (sum : value = 64 * (64 * (64 * high + a) + b) + c) :
      Spelling value 0xf0 high [a, b, c]

theorem Spelling.encoded {character : Char} {base high : Nat} {digits : List Nat}
    (spelled : Spelling character.val.toNat base high digits) : String.utf8EncodeChar character =
      UInt8.ofNat (high + base) :: digits.map tail := by
  have valid : character.val.toNat.isValidChar := character.valid
  rw [Nat.isValidChar] at valid
  unfold String.utf8EncodeChar tail
  generalize character.val.toNat = value at *
  cases spelled with
  | two | three | four =>
    dsimp only [List.map]
    split_ifs <;> first
    | omega
    | simp only [List.cons.injEq, and_true]
      and_intros <;> exact congrArg UInt8.ofNat (by omega)

theorem exists_spelling {character : Char} (above : 0x7f < character.val.toNat) :
    ∃ base high digits, Spelling character.val.toNat base high digits := by
  have valid : character.val.toNat.isValidChar := character.valid
  rw [Nat.isValidChar] at valid
  generalize character.val.toNat = value at *
  rcases Nat.lt_or_ge value 0x800 with two | more
  · exact ⟨_, _, _, @Spelling.two value (value / 64) (value % 64) (by omega)
      (by omega) (by omega) (by omega)⟩
  rcases Nat.lt_or_ge value 0x10000 with three | more
  · exact ⟨_, _, _, @Spelling.three value (value / 64 / 64) (value / 64 % 64)
      (value % 64) (by omega) (by omega) (by omega) (by omega)⟩
  · exact ⟨_, _, _, @Spelling.four value (value / 64 / 64 / 64)
      (value / 64 / 64 % 64) (value / 64 % 64) (value % 64) (by omega)
      (by omega) (by omega) (by omega)⟩

theorem forbidden_eq_false {count : Nat} {codePoint : UInt32} : forbidden count codePoint = false ↔
      (count = 1 → 0x80 ≤ codePoint.toNat) ∧ (count = 2 → 0x800 ≤ codePoint.toNat) ∧
        (count = 3 → 0x10000 ≤ codePoint.toNat) ∧ codePoint.toNat.isValidChar := by
  simp only [forbidden, Bool.or_eq_false_iff, Bool.and_eq_false_imp,
    decide_eq_true_eq, decide_eq_false_iff_not, UInt32.lt_iff_toNat_lt,
    UInt32.le_iff_toNat_le, Nat.isValidChar]
  simp
  omega

theorem scan_encoded (fuel : Nat) (character : Char) (after : ByteString) :
    scan (fuel + 1) (String.utf8EncodeChar character ++ after) = scan fuel after := by
  rcases Nat.lt_or_ge 0x7f character.val.toNat with above | ascii
  · obtain ⟨base, high, digits, spelled⟩ := exists_spelling above
    have allowed : forbidden digits.length character.val = false := by
      refine forbidden_eq_false.mpr ⟨?_, ?_, ?_, character.valid⟩ <;>
      · intro length
        cases spelled <;> first | assumption | cases length
    have leads : leadByte (UInt8.ofNat (high + base)) =
        some (UInt32.ofNat high, digits.length) := by
      cases spelled with
      | two low | three low | four low =>
        rw [leadByte_ofNat ⟨high + _, by omega⟩]
        dsimp only [List.length]
        split_ifs <;> first | omega | rw [Nat.add_sub_cancel]
    have small : (UInt32.ofNat high).toNat = high := by
      rw [UInt32.toNat_ofNat']
      cases spelled <;> omega
    have continues : continuation (UInt32.ofNat high) (digits.map tail) =
        some character.val := by
      rw [continuation_eq_some, small]
      · refine ⟨digits, ?_, rfl, ?_⟩
        · cases spelled <;> simpa
        · cases spelled <;> assumption
      · cases spelled <;> simp [small] <;> omega
    have marked : ¬UInt8.ofNat (high + base) ≤ 0x7f := by
      rw [UInt8.le_iff_toNat_le, UInt8.toNat_ofNat']
      cases spelled <;> simp <;> omega
    rw [spelled.encoded]
    generalize UInt8.ofNat (high + base) = lead at *
    simp [scan, marked, leads, continues, allowed]
  · have small : UInt8.ofNat character.val.toNat ≤ 0x7f := by
      rw [UInt8.le_iff_toNat_le, UInt8.toNat_ofNat']
      exact Nat.le_trans (Nat.mod_le _ _) ascii
    rw [String.utf8EncodeChar, if_pos ascii, List.singleton_append, scan, if_pos small]

theorem exists_encoded {fuel : Nat} {lead : Byte} {rest : ByteString}
    (scanned : scan (fuel + 1) (lead :: rest) = true) : ∃ character after,
      lead :: rest = String.utf8EncodeChar character ++ after := by
  rw [scan] at scanned
  have same : UInt8.ofNat lead.toNat = lead := UInt8.ofNat_toNat
  split at scanned
  case isTrue ascii =>
    have small : lead.toNat ≤ 0x7f := UInt8.le_iff_toNat_le.mp ascii
    refine ⟨⟨lead.toUInt32, .inl ?_⟩, rest, ?_⟩
    · rw [UInt8.toNat_toUInt32]
      omega
    · simp [String.utf8EncodeChar, small]
  case isFalse above =>
    split at scanned
    · cases scanned
    rename_i initial count leads
    split at scanned
    · cases scanned
    rename_i enough
    split at scanned
    · cases scanned
    rename_i codePoint continues
    rw [Bool.and_eq_true, Bool.not_eq_true', forbidden_eq_false] at scanned
    obtain ⟨⟨two, three, four, valid⟩, -⟩ := scanned
    have length : (rest.take count).length = count := by
      rw [List.length_take]
      omega
    have digits : ∃ base digits,
        Spelling codePoint.toNat base initial.toNat digits ∧
        initial.toNat + base = lead.toNat ∧ digits.map tail = rest.take count := by
      rcases leadByte_cases leads with
        ⟨rfl, bound, sum⟩ | ⟨rfl, bound, sum⟩ | ⟨rfl, bound, sum⟩ <;>
      rw [continuation_eq_some (by rw [length]; omega)] at continues <;>
      obtain ⟨digits, bounds, tails, value⟩ := continues <;>
      rw [tails, List.length_map] at length
      · obtain ⟨a, rfl⟩ := List.length_eq_one_iff.mp length
        exact ⟨_, _, .two (two rfl) (by simpa using bounds) bound value, sum, tails.symm⟩
      · obtain ⟨a, b, rfl⟩ := List.length_eq_two.mp length
        exact ⟨_, _, .three (three rfl) (by simpa using bounds) bound value, sum, tails.symm⟩
      · obtain ⟨a, b, c, rfl⟩ := List.length_eq_three.mp length
        exact ⟨_, _, .four (four rfl) (by simpa using bounds) bound value, sum, tails.symm⟩
    obtain ⟨base, digits, spelled, sum, tails⟩ := digits
    have encoded := @Spelling.encoded ⟨codePoint, valid⟩ _ _ _ spelled
    refine ⟨⟨codePoint, valid⟩, rest.drop count, ?_⟩
    rw [encoded, sum, same, tails, List.cons_append, List.take_append_drop]

theorem scan_iff {fuel : Nat} {string : ByteString} (enough : string.length ≤ fuel) :
    scan fuel string = true ↔ WellFormed string := by
  induction fuel generalizing string with
  | zero =>
    obtain rfl := List.eq_nil_of_length_eq_zero (Nat.le_zero.mp enough)
    exact ⟨fun _ => ⟨[], rfl⟩, fun _ => rfl⟩
  | succ fuel ih =>
    cases string with
    | nil => exact ⟨fun _ => ⟨[], rfl⟩, fun _ => rfl⟩
    | cons lead rest =>
      have shorter {character after}
          (split : lead :: rest = String.utf8EncodeChar character ++ after) :
          after.length ≤ fuel := by
        have lengths := congrArg List.length split
        have positive := character.utf8Size_pos
        rw [List.length_append, String.length_utf8EncodeChar] at lengths
        omega
      constructor
      · intro scanned
        obtain ⟨character, after, split⟩ := exists_encoded scanned
        rw [split, scan_encoded] at scanned
        obtain ⟨characters, rfl⟩ := (ih (shorter split)).mp scanned
        exact ⟨character :: characters, split⟩
      · rintro ⟨characters, split⟩
        cases characters with
        | nil => cases split
        | cons character characters =>
          rw [split, List.flatMap_cons, scan_encoded]
          exact (ih (shorter split)).mpr ⟨characters, rfl⟩

end Utf8

/-- The byte-level check, which the codec and the arena carry in the same words,
accepts exactly the well-formed strings. -/
theorem utf8_acceptance (string : ByteString) :
    (isValidUtf8 string = true ↔ Utf8.WellFormed string) ∧
      (validatePayloadSemantics (.string string) = .ok () ↔ Utf8.WellFormed string) := by
  have accepts : isValidUtf8 string = true ↔ Utf8.WellFormed string := Utf8.scan_iff (Nat.le_refl _)
  refine ⟨accepts, ?_⟩
  rw [← accepts, validatePayloadSemantics]
  split
  · simp_all
  · simp_all [arenaFailure]

end Savor.Program
