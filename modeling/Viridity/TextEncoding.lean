import Mathlib.Data.List.Basic
import Mathlib.Tactic.Common

/-!
# UTF-8 and UTF-16

Texts are lists of characters. Both encodings write an ASCII character as one unit that
occurs in the encoding of no other character, so ASCII delimiters can be searched in the
encoded text.
-/

namespace Viridity.TextEncoding

set_option autoImplicit false

abbrev Text := List Char
abbrev Bytes := List UInt8
abbrev Units := List UInt16

def IsAscii (letter : Char) : Prop := letter.toNat < 128

instance (letter : Char) : Decidable (IsAscii letter) := inferInstanceAs (Decidable (_ < _))

/-- An encoding that writes an ASCII character as a unit of its own. -/
structure Coding (Unit : Type) where
  unit : Char → Unit
  units : Char → List Unit
  units_nonempty : ∀ letter, units letter ≠ []
  units_ascii : ∀ letter, IsAscii letter → units letter = [unit letter]
  units_other : ∀ letter, ¬ IsAscii letter → ∀ delimiter, IsAscii delimiter →
    unit delimiter ∉ units letter
  unit_inj : ∀ left, IsAscii left → ∀ right, IsAscii right → unit left = unit right → left = right

namespace Coding

variable {Unit : Type} (coding : Coding Unit)

def encode (text : Text) : List Unit := text.flatMap coding.units

@[simp]
theorem encode_nil : coding.encode [] = [] := rfl

@[simp]
theorem encode_cons (letter : Char) (text : Text) :
    coding.encode (letter :: text) = coding.units letter ++ coding.encode text := by
  simp [encode]

@[simp]
theorem encode_append (front rest : Text) :
    coding.encode (front ++ rest) = coding.encode front ++ coding.encode rest := by
  simp [encode]

theorem encode_nil_iff {text : Text} : coding.encode text = [] ↔ text = [] := by
  cases text with
  | nil => simp
  | cons letter text => simp [coding.units_nonempty letter]

theorem encode_ascii_cons {letter : Char} (ascii : IsAscii letter) (text : Text) :
    coding.encode (letter :: text) = coding.unit letter :: coding.encode text := by
  rw [encode_cons, coding.units_ascii letter ascii]
  rfl

theorem encode_ascii {text : Text} (ascii : ∀ letter ∈ text, IsAscii letter) :
    coding.encode text = text.map coding.unit := by
  induction text with
  | nil => rfl
  | cons letter text induction =>
      rw [List.forall_mem_cons] at ascii
      rw [coding.encode_ascii_cons ascii.1, List.map_cons, induction ascii.2]

theorem encode_ascii_length {text : Text} (ascii : ∀ letter ∈ text, IsAscii letter) :
    (coding.encode text).length = text.length := by
  rw [coding.encode_ascii ascii, List.length_map]

theorem unit_mem_units {delimiter : Char} (ascii : IsAscii delimiter) {letter : Char} :
    coding.unit delimiter ∈ coding.units letter ↔ delimiter = letter := by
  by_cases other : IsAscii letter
  · rw [coding.units_ascii letter other, List.mem_singleton]
    constructor
    · intro same
      exact coding.unit_inj delimiter ascii letter other same
    · intro same
      rw [same]
  · constructor
    · intro member
      exact absurd member (coding.units_other letter other delimiter ascii)
    · intro same
      rw [same] at ascii
      exact absurd ascii other

theorem unit_mem_encode {delimiter : Char} (ascii : IsAscii delimiter) {text : Text} :
    coding.unit delimiter ∈ coding.encode text ↔ delimiter ∈ text := by
  unfold encode
  simp [coding.unit_mem_units ascii]

theorem encode_takeWhile [DecidableEq Unit] {delimiter : Char} (ascii : IsAscii delimiter)
    (text : Text) :
    (coding.encode text).takeWhile (fun unit => unit ≠ coding.unit delimiter) =
      coding.encode (text.takeWhile fun letter => letter ≠ delimiter) := by
  induction text with
  | nil => rfl
  | cons letter text induction =>
      by_cases same : letter = delimiter
      · rw [same, coding.encode_ascii_cons ascii]
        simp
      · have others : ∀ unit ∈ coding.units letter, decide (unit ≠ coding.unit delimiter) = true := by
          intro unit member
          rw [decide_eq_true_iff]
          intro equal
          rw [equal, coding.unit_mem_units ascii] at member
          exact same member.symm
        rw [encode_cons, List.takeWhile_append_of_pos others, induction]
        simp [same]

theorem encode_intercalate {separator : Char} (ascii : IsAscii separator) (texts : List Text) :
    coding.encode ([separator].intercalate texts) =
      [coding.unit separator].intercalate (texts.map coding.encode) := by
  induction texts with
  | nil => rfl
  | cons text texts induction =>
      cases texts with
      | nil => simp
      | cons next texts =>
          rw [List.intercalate_cons_cons, List.map_cons, List.map_cons,
            List.intercalate_cons_cons, ← List.map_cons, ← induction]
          simp [coding.units_ascii separator ascii]

end Coding

theorem char_lt (letter : Char) : letter.toNat < 0x110000 := by
  have valid := letter.valid
  simp only [UInt32.isValidChar, Nat.isValidChar, Char.toNat_val] at valid
  omega

theorem byte_of_other {letter : Char} (other : ¬ IsAscii letter) {byte : UInt8}
    (member : byte ∈ String.utf8EncodeChar letter) : 128 ≤ byte.toNat := by
  have large : ¬ letter.toNat ≤ 127 := by
    unfold IsAscii at other
    omega
  have bound := char_lt letter
  simp only [String.utf8EncodeChar, Char.toNat_val, large, if_false] at member
  split_ifs at member
  · simp only [List.mem_cons, List.not_mem_nil, or_false] at member
    rcases member with rfl | rfl <;> simp <;> omega
  · simp only [List.mem_cons, List.not_mem_nil, or_false] at member
    rcases member with rfl | rfl | rfl <;> simp <;> omega
  · simp only [List.mem_cons, List.not_mem_nil, or_false] at member
    rcases member with rfl | rfl | rfl | rfl <;> simp <;> omega

def utf8 : Coding UInt8 where
  unit letter := UInt8.ofNat letter.toNat
  units := String.utf8EncodeChar
  units_nonempty _ := String.utf8EncodeChar_ne_nil
  units_ascii letter ascii := by
    have small : letter.toNat ≤ 127 := by
      unfold IsAscii at ascii
      omega
    simp [String.utf8EncodeChar, small]
  units_other letter other delimiter ascii := by
    intro member
    have large := byte_of_other other member
    unfold IsAscii at ascii
    simp at large
    omega
  unit_inj left leftAscii right rightAscii same := by
    unfold IsAscii at leftAscii rightAscii
    have numbers := congrArg UInt8.toNat same
    simp at numbers
    apply Char.toNat_inj.mp
    omega

/-- A character beyond U+FFFF is a pair of surrogates. -/
def utf16 : Coding UInt16 where
  unit letter := UInt16.ofNat letter.toNat
  units letter :=
    if letter.toNat < 0x10000 then [UInt16.ofNat letter.toNat]
    else
      [UInt16.ofNat (0xD800 + (letter.toNat - 0x10000) / 0x400),
        UInt16.ofNat (0xDC00 + (letter.toNat - 0x10000) % 0x400)]
  units_nonempty letter := by split_ifs <;> simp
  units_ascii letter ascii := by
    unfold IsAscii at ascii
    rw [if_pos (by omega)]
  units_other letter other delimiter ascii := by
    have bound := char_lt letter
    unfold IsAscii at other ascii
    intro member
    split_ifs at member
    · simp only [List.mem_singleton] at member
      have numbers := congrArg UInt16.toNat member
      simp at numbers
      omega
    · simp only [List.mem_cons, List.not_mem_nil, or_false] at member
      cases member with
      | inl high =>
          have numbers := congrArg UInt16.toNat high
          simp at numbers
          omega
      | inr low =>
          have numbers := congrArg UInt16.toNat low
          simp at numbers
          omega
  unit_inj left leftAscii right rightAscii same := by
    unfold IsAscii at leftAscii rightAscii
    have numbers := congrArg UInt16.toNat same
    simp at numbers
    apply Char.toNat_inj.mp
    omega

theorem utf8_of_ascii {letter : Char} (ascii : IsAscii letter) :
    (utf8.units letter).length = 1 := by
  rw [utf8.units_ascii letter ascii]
  rfl

theorem utf16_of_ascii {letter : Char} (ascii : IsAscii letter) :
    (utf16.units letter).length = 1 := by
  rw [utf16.units_ascii letter ascii]
  rfl

theorem utf16_of_other {letter : Char} (other : ¬ IsAscii letter) :
    (utf16.units letter).length < (utf8.units letter).length := by
  unfold IsAscii at other
  have large : ¬ letter.toNat ≤ 127 := by omega
  simp only [utf16, utf8, String.utf8EncodeChar, Char.toNat_val, large, if_false]
  split_ifs <;> simp
  omega

theorem utf16_units_le (letter : Char) :
    (utf16.units letter).length ≤ (utf8.units letter).length := by
  by_cases ascii : IsAscii letter
  · exact Nat.le_of_eq ((utf16_of_ascii ascii).trans (utf8_of_ascii ascii).symm)
  · exact Nat.le_of_lt (utf16_of_other ascii)

theorem utf16_length_le (text : Text) : (utf16.encode text).length ≤ (utf8.encode text).length := by
  induction text with
  | nil => exact Nat.le_refl 0
  | cons letter text induction =>
      have first := utf16_units_le letter
      simp only [Coding.encode_cons, List.length_append]
      omega

/-- Positions in the two encodings agree exactly in ASCII texts. -/
theorem lengths_agree_iff (text : Text) :
    (utf16.encode text).length = (utf8.encode text).length ↔ ∀ letter ∈ text, IsAscii letter := by
  induction text with
  | nil => simp
  | cons letter text induction =>
      have later := utf16_length_le text
      simp only [Coding.encode_cons, List.length_append, List.forall_mem_cons]
      rw [← induction]
      by_cases ascii : IsAscii letter
      · rw [utf16_of_ascii ascii, utf8_of_ascii ascii]
        simp [ascii]
      · have first := utf16_of_other ascii
        simp only [ascii, false_and, iff_false]
        omega

def decodeUtf8 (bytes : Bytes) : Option Text :=
  (ByteArray.utf8Decode? ⟨bytes.toArray⟩).map Array.toList

theorem decode_encoded (text : Text) : decodeUtf8 (utf8.encode text) = some text := by
  have encoded : text.utf8Encode = ⟨(utf8.encode text).toArray⟩ := by
    ext1
    simp [List.utf8Encode, utf8, Coding.encode]
  unfold decodeUtf8
  rw [← encoded, List.utf8Decode?_utf8Encode]
  simp

/-- The encoding of no character begins another's. -/
theorem begins_iff {letter : Char} {text : Text} :
    utf8.units letter <+: utf8.encode text ↔ text.head? = some letter := by
  cases text with
  | nil =>
      have nonempty := utf8.units_nonempty letter
      simp [nonempty]
  | cons first text =>
      constructor
      · intro begins
        obtain ⟨rest, same⟩ := begins
        have decoded := fun (letter : Char) (rest : Bytes) =>
          @ByteArray.utf8DecodeChar?_utf8EncodeChar_append rest.toByteArray letter
        have left := decoded letter rest
        have right := decoded first (utf8.encode text)
        rw [← List.toByteArray_append] at left right
        have bytes : String.utf8EncodeChar letter ++ rest
            = String.utf8EncodeChar first ++ utf8.encode text := same
        rw [bytes, right] at left
        exact left
      · intro same
        simp only [List.head?_cons, Option.some.injEq] at same
        rw [same, Coding.encode_cons]
        exact List.prefix_append _ _

theorem encoded_decoded {bytes : Bytes} {text : Text} (decoded : decodeUtf8 bytes = some text) :
    bytes = utf8.encode text := by
  unfold decodeUtf8 at decoded
  rw [Option.map_eq_some_iff] at decoded
  cases decoded with
  | intro letters found =>
      have given : (ByteArray.utf8Decode? ⟨bytes.toArray⟩).isSome := by rw [found.1]; rfl
      have whole := @ByteArray.utf8Encode_get_utf8Decode? ⟨bytes.toArray⟩ given
      have same : (ByteArray.utf8Decode? ⟨bytes.toArray⟩).get given = letters := by
        simp [found.1]
      rw [same, found.2] at whole
      have arrays := congrArg ByteArray.data whole
      have lists := congrArg Array.toList arrays
      simpa [List.utf8Encode, utf8, Coding.encode] using lists.symm

theorem encode_behind {text : Text} {bytes : Bytes} {whole : Text}
    (same : utf8.encode text ++ bytes = utf8.encode whole) : ∃ rest, bytes = utf8.encode rest := by
  induction text generalizing whole with
  | nil => exact ⟨whole, same⟩
  | cons letter text induction =>
      rw [Coding.encode_cons, List.append_assoc] at same
      have head := begins_iff.mp ⟨_, same⟩
      have parts : whole = letter :: whole.tail := (List.cons_head?_tail head).symm
      rw [parts, Coding.encode_cons] at same
      exact induction (List.append_cancel_left same)

def byteOrderMark : Char := Char.ofNat 0xFEFF

def withoutMark (bytes : Bytes) : Bytes :=
  if [0xEF, 0xBB, 0xBF].isPrefixOf bytes then bytes.drop 3 else bytes

def unmarked (text : Text) : Text := if text.head? = some byteOrderMark then text.tail else text

theorem mark_iff (text : Text) :
    [0xEF, 0xBB, 0xBF] <+: utf8.encode text ↔ text.head? = some byteOrderMark := by
  have mark : utf8.units byteOrderMark = [0xEF, 0xBB, 0xBF] := by decide
  rw [← mark]
  exact begins_iff

theorem without_mark_encoded (text : Text) :
    withoutMark (utf8.encode text) = utf8.encode (unmarked text) := by
  have mark : utf8.units byteOrderMark = [0xEF, 0xBB, 0xBF] := by decide
  unfold withoutMark unmarked
  by_cases marked : text.head? = some byteOrderMark
  · have begins := (mark_iff text).mpr marked
    rw [if_pos (List.isPrefixOf_iff_prefix.mpr begins), if_pos marked]
    have whole : text = byteOrderMark :: text.tail := (List.cons_head?_tail marked).symm
    rw [whole, Coding.encode_cons, mark]
    rfl
  · have begins : ¬ [0xEF, 0xBB, 0xBF] <+: utf8.encode text := by
      rw [mark_iff]
      exact marked
    rw [if_neg (by rw [List.isPrefixOf_iff_prefix]; exact begins), if_neg marked]

theorem unmarked_sublist (text : Text) : (unmarked text).Sublist text := by
  unfold unmarked
  split_ifs
  · exact List.tail_sublist text
  · exact List.Sublist.refl text

theorem unmarked_iff (text : Text) : unmarked text = text ↔ text.head? ≠ some byteOrderMark := by
  unfold unmarked
  constructor
  · intro whole mark
    rw [if_pos mark] at whole
    have lengths := congrArg List.length whole
    cases text with
    | nil => simp at mark
    | cons letter text => simp at lengths
  · intro plain
    rw [if_neg plain]

def isHigh (unit : UInt16) : Bool := 0xD800 ≤ unit.toNat && unit.toNat < 0xDC00
def isLow (unit : UInt16) : Bool := 0xDC00 ≤ unit.toNat && unit.toNat < 0xE000

/-- The character of a unit that is no part of a pair; a lone surrogate has none. -/
def scalar (unit : UInt16) : Char :=
  if isHigh unit || isLow unit then Char.ofNat 0xFFFD else Char.ofNat unit.toNat

def pair (high low : UInt16) : Char :=
  Char.ofNat (0x10000 + (high.toNat - 0xD800) * 0x400 + (low.toNat - 0xDC00))

def decodeUtf16 : Units → Text
  | [] => []
  | [unit] => [scalar unit]
  | high :: low :: rest =>
      if isHigh high && isLow low then pair high low :: decodeUtf16 rest
      else scalar high :: decodeUtf16 (low :: rest)

theorem decode_scalar {unit : UInt16} (plain : isHigh unit = false) (rest : Units) :
    decodeUtf16 (unit :: rest) = scalar unit :: decodeUtf16 rest := by
  cases rest with
  | nil => rfl
  | cons low rest => simp [decodeUtf16, plain]

theorem decode_utf16_encoded (text : Text) : decodeUtf16 (utf16.encode text) = text := by
  induction text with
  | nil => rfl
  | cons letter text induction =>
      have bound := char_lt letter
      have valid := letter.valid
      simp only [UInt32.isValidChar, Nat.isValidChar, Char.toNat_val] at valid
      rw [Coding.encode_cons]
      by_cases small : letter.toNat < 0x10000
      · have number : (UInt16.ofNat letter.toNat).toNat = letter.toNat := by
          simp
          omega
        have high : isHigh (UInt16.ofNat letter.toNat) = false := by
          unfold isHigh
          rw [number]
          simp
          omega
        have low : isLow (UInt16.ofNat letter.toNat) = false := by
          unfold isLow
          rw [number]
          simp
          omega
        have units : utf16.units letter = [UInt16.ofNat letter.toNat] := if_pos small
        rw [units, List.singleton_append, decode_scalar high, induction]
        unfold scalar
        rw [high, low, number]
        simp
      · have units : utf16.units letter =
            [UInt16.ofNat (0xD800 + (letter.toNat - 0x10000) / 0x400),
              UInt16.ofNat (0xDC00 + (letter.toNat - 0x10000) % 0x400)] := if_neg small
        have highNumber : (UInt16.ofNat (0xD800 + (letter.toNat - 0x10000) / 0x400)).toNat =
            0xD800 + (letter.toNat - 0x10000) / 0x400 := by
          simp
          omega
        have lowNumber : (UInt16.ofNat (0xDC00 + (letter.toNat - 0x10000) % 0x400)).toNat =
            0xDC00 + (letter.toNat - 0x10000) % 0x400 := by
          simp
          omega
        have high : isHigh (UInt16.ofNat (0xD800 + (letter.toNat - 0x10000) / 0x400)) = true := by
          unfold isHigh
          rw [highNumber]
          simp
          omega
        have low : isLow (UInt16.ofNat (0xDC00 + (letter.toNat - 0x10000) % 0x400)) = true := by
          unfold isLow
          rw [lowNumber]
          simp
          omega
        rw [units]
        simp only [List.cons_append, List.nil_append, decodeUtf16, high, low, Bool.and_self, if_true,
          induction]
        unfold pair
        rw [highNumber, lowNumber]
        have code : 0x10000 + (0xD800 + (letter.toNat - 0x10000) / 0x400 - 0xD800) * 0x400 +
            (0xDC00 + (letter.toNat - 0x10000) % 0x400 - 0xDC00) = letter.toNat := by
          omega
        rw [code, Char.ofNat_toNat]

theorem utf16_injective : Function.Injective utf16.encode := by
  intro left right same
  have decoded := congrArg decodeUtf16 same
  simpa [decode_utf16_encoded] using decoded

/-- A decoder of UTF-8 that fails on no bytes: of malformed ones it makes a text of its choice. -/
structure Decoder where
  decode : Bytes → Text
  decode_encode : ∀ text, decode (utf8.encode text) = text

def strictDecoder : Decoder where
  decode bytes := (decodeUtf8 bytes).getD []
  decode_encode text := by simp [decode_encoded]

/-- `toLatin1`: what has no place there becomes a question mark. -/
def toLatin1 (units : Units) : Bytes :=
  units.map fun unit => if unit.toNat < 256 then UInt8.ofNat unit.toNat else 63

theorem unit_to_nat {letter : Char} (ascii : IsAscii letter) :
    (utf16.unit letter).toNat = letter.toNat := by
  unfold IsAscii at ascii
  change (UInt16.ofNat letter.toNat).toNat = letter.toNat
  rw [UInt16.toNat_ofNat']
  omega

theorem latin1_ascii {text : Text} (ascii : ∀ letter ∈ text, IsAscii letter) :
    toLatin1 (utf16.encode text) = utf8.encode text := by
  rw [utf16.encode_ascii ascii, utf8.encode_ascii ascii]
  unfold toLatin1
  rw [List.map_map]
  apply List.map_congr_left
  intro letter member
  have number := unit_to_nat (ascii letter member)
  have bound := ascii letter member
  unfold IsAscii at bound
  rw [Function.comp_apply, number, if_pos (by omega)]
  rfl

theorem latin1_marker {text : Text} (member : utf8.unit '>' ∈ toLatin1 (utf16.encode text)) :
    '>' ∈ text := by
  obtain ⟨unit, inside, same⟩ := List.mem_map.mp member
  split_ifs at same with small
  · have number := congrArg UInt8.toNat same
    rw [UInt8.toNat_ofNat'] at number
    have marker : unit = utf16.unit '>' := by
      apply UInt16.toNat_inj.mp
      rw [unit_to_nat (by decide)]
      change unit.toNat % 2 ^ 8 = 62 at number
      change unit.toNat = 62
      omega
    rw [marker, utf16.unit_mem_encode (by decide)] at inside
    exact inside
  · exact absurd same (by decide)

end Viridity.TextEncoding
