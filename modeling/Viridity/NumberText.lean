import Viridity.TextEncoding

/-!
# Numbers and their texts

Numbers of 32 bits, as ints that wrap round and as bytes, and numbers as strings write and
read them.
-/

namespace Viridity.NumberText

open Viridity.TextEncoding

set_option autoImplicit false

/-- A number as an int of 32 bits. -/
def wrap (value : Int) : Int := (value + 2147483648) % 4294967296 - 2147483648

theorem wrap_bounds (value : Int) : -2147483648 ≤ wrap value ∧ wrap value < 2147483648 := by
  unfold wrap
  omega

theorem wrap_same {value : Int} (low : -2147483648 ≤ value) (high : value < 2147483648) :
    wrap value = value := by
  unfold wrap
  omega

def bigEndian (bytes : Bytes) : Nat := bytes.foldl (fun value byte => value * 256 + byte.toNat) 0

/-- A number that is not negative, and its text as the key of a property. -/
def number (count : Nat) : Text := Nat.toDigits 10 count
def key (count : Nat) : Units := utf16.encode (number count)

/-- `%d`. -/
def numberText (number : Int) : Text :=
  if number < 0 then '-' :: Nat.toDigits 10 number.natAbs else Nat.toDigits 10 number.natAbs

def keyText (number : Int) : Units := utf16.encode (numberText number)

def isSpace (unit : UInt16) : Bool :=
  unit = 0x20 || (0x09 ≤ unit && unit ≤ 0x0D) || unit = 0x85 || unit = 0xA0 || unit = 0x1680 ||
    (0x2000 ≤ unit && unit ≤ 0x200A) || unit = 0x2028 || unit = 0x2029 || unit = 0x202F ||
    unit = 0x205F || unit = 0x3000

def isDigit (unit : UInt16) : Bool := 48 ≤ unit.toNat && unit.toNat ≤ 57

/-- The number some digits write, 0 when there is anything else among them. -/
def digitsNumber (digits : Units) : Nat :=
  if digits ≠ [] ∧ digits.all isDigit then
    digits.foldl (fun number unit => 10 * number + (unit.toNat - 48)) 0
  else 0

def toInt (text : Units) : Int :=
  let trimmed := ((text.dropWhile isSpace).reverse.dropWhile isSpace).reverse
  match trimmed with
  | [] => 0
  | first :: digits =>
      if first = utf16.unit '-' then -(digitsNumber digits : Int)
      else if first = utf16.unit '+' then digitsNumber digits
      else digitsNumber trimmed

theorem number_letters {count : Nat} {letter : Char} (member : letter ∈ number count) :
    48 ≤ letter.toNat ∧ letter.toNat ≤ 57 := by
  have digit := Nat.isDigit_of_mem_toDigits (by decide) (by decide) member
  simp only [Char.isDigit, Bool.and_eq_true, decide_eq_true_eq] at digit
  have low := UInt32.le_iff_toNat_le.mp digit.1
  have high := UInt32.le_iff_toNat_le.mp digit.2
  simpa using And.intro low high

theorem number_plain {count : Nat} {letter : Char} (outside : letter.toNat < 48 ∨ 57 < letter.toNat) :
    letter ∉ number count := by
  intro member
  have digit := number_letters member
  omega

theorem number_injective : Function.Injective number := by
  intro left right same
  have values := congrArg (fun digits => Nat.ofDigitChars 10 digits 0) same
  simpa [number] using values

theorem key_injective : Function.Injective key :=
  utf16_injective.comp number_injective

theorem digit_plain {letter : Char} (digit : letter.isDigit = true) :
    48 ≤ letter.toNat ∧ letter.toNat ≤ 57 := by
  unfold Char.isDigit at digit
  rw [Bool.and_eq_true, decide_eq_true_eq, decide_eq_true_eq, ge_iff_le, UInt32.le_iff_toNat_le,
    UInt32.le_iff_toNat_le] at digit
  exact digit

theorem number_text_letters {number : Int} {letter : Char} (member : letter ∈ numberText number) :
    letter = '-' ∨ (48 ≤ letter.toNat ∧ letter.toNat ≤ 57) := by
  have digits : ∀ natural, letter ∈ Nat.toDigits 10 natural → 48 ≤ letter.toNat ∧ letter.toNat ≤ 57 :=
    fun natural inside =>
      digit_plain (Nat.isDigit_of_mem_toDigits (by decide) (Nat.le_refl 10) inside)
  unfold numberText at member
  split_ifs at member
  · rcases List.mem_cons.mp member with sign | inside
    · exact Or.inl sign
    · exact Or.inr (digits _ inside)
  · exact Or.inr (digits _ member)

theorem number_text_ascii {number : Int} {letter : Char} (member : letter ∈ numberText number) :
    IsAscii letter := by
  unfold IsAscii
  rcases number_text_letters member with rfl | bounds
  · decide
  · omega

theorem digits_number_read (natural : Nat) :
    digitsNumber (utf16.encode (Nat.toDigits 10 natural)) = natural := by
  have digits : ∀ letter ∈ Nat.toDigits 10 natural, 48 ≤ letter.toNat ∧ letter.toNat ≤ 57 :=
    fun letter inside =>
      digit_plain (Nat.isDigit_of_mem_toDigits (by decide) (Nat.le_refl 10) inside)
  have ascii : ∀ letter ∈ Nat.toDigits 10 natural, IsAscii letter := by
    intro letter inside
    have bounds := digits letter inside
    unfold IsAscii
    omega
  have folded : ∀ (text : Text) (start : Nat), (∀ letter ∈ text, IsAscii letter) →
      (text.map utf16.unit).foldl (fun number unit => 10 * number + (unit.toNat - 48)) start =
        Nat.ofDigitChars 10 text start := by
    intro text
    induction text with
    | nil => exact fun start _ => rfl
    | cons letter text induction =>
        intro start plain
        rw [List.forall_mem_cons] at plain
        rw [List.map_cons, List.foldl_cons, Nat.ofDigitChars_cons, unit_to_nat plain.1,
          induction _ plain.2]
        rfl
  rw [utf16.encode_ascii ascii]
  unfold digitsNumber
  rw [if_pos, folded _ 0 ascii, Nat.ofDigitChars_ten_toDigits]
  constructor
  · rw [ne_eq, List.map_eq_nil_iff]
    exact Nat.toDigits_ne_nil
  · rw [List.all_eq_true]
    intro unit member
    obtain ⟨letter, inside, rfl⟩ := List.mem_map.mp member
    unfold isDigit
    rw [unit_to_nat (ascii letter inside), Bool.and_eq_true, decide_eq_true_eq, decide_eq_true_eq]
    exact digits letter inside

theorem not_space {letter : Char} (ascii : IsAscii letter) (visible : 33 ≤ letter.toNat) :
    isSpace (utf16.unit letter) = false := by
  have number := unit_to_nat ascii
  unfold IsAscii at ascii
  generalize utf16.unit letter = unit at number
  have other : ∀ value : UInt16, unit = value → value.toNat = letter.toNat := by
    intro value same
    rw [← same]
    exact number
  unfold isSpace
  simp only [Bool.or_eq_false_iff, Bool.and_eq_false_iff, decide_eq_false_iff_not,
    UInt16.le_iff_toNat_le, number]
  refine ⟨⟨⟨⟨⟨⟨⟨⟨⟨⟨?_, ?_⟩, ?_⟩, ?_⟩, ?_⟩, ?_⟩, ?_⟩, ?_⟩, ?_⟩, ?_⟩, ?_⟩
  all_goals
    first
      | (intro same
         have equal := other _ same
         simp at equal
         omega)
      | (simp
         omega)

theorem number_text_nat (count : Nat) : numberText count = number count := by
  unfold numberText number
  rw [if_neg (by omega), Int.natAbs_natCast]

theorem key_text_nat (count : Nat) : keyText count = key count := by
  unfold keyText key
  rw [number_text_nat]

theorem number_short {count : Nat} (below : count < 10000000000000000) :
    (utf8.encode (number count)).length ≤ 16 := by
  have ascii : ∀ letter ∈ number count, IsAscii letter := by
    intro letter member
    have bounds := number_letters member
    unfold IsAscii
    omega
  rw [utf8.encode_ascii_length ascii]
  exact (Nat.length_toDigits_le_iff (by decide) (by decide)).mpr below

theorem to_int_number_text (number : Int) : toInt (utf16.encode (numberText number)) = number := by
  have visible : ∀ letter ∈ numberText number, isSpace (utf16.unit letter) = false := by
    intro letter member
    apply not_space (number_text_ascii member)
    rcases number_text_letters member with rfl | bounds
    · decide
    · omega
  have spaceless : ∀ unit ∈ utf16.encode (numberText number), isSpace unit = false := by
    rw [utf16.encode_ascii fun letter => number_text_ascii]
    intro unit member
    obtain ⟨letter, inside, rfl⟩ := List.mem_map.mp member
    exact visible letter inside
  have kept : ∀ units : Units, (∀ unit ∈ units, isSpace unit = false) →
      units.dropWhile isSpace = units := by
    intro units plain
    cases units with
    | nil => rfl
    | cons first rest => rw [List.dropWhile_cons_of_neg (by simp [plain first])]
  have trimmed : (((utf16.encode (numberText number)).dropWhile isSpace).reverse.dropWhile
      isSpace).reverse = utf16.encode (numberText number) := by
    rw [kept _ spaceless, kept _ fun unit member => spaceless unit (List.mem_reverse.mp member),
      List.reverse_reverse]
  unfold toInt
  dsimp only
  rw [trimmed]
  by_cases negative : number < 0
  · have written : utf16.encode (numberText number) =
        utf16.unit '-' :: utf16.encode (Nat.toDigits 10 number.natAbs) := by
      unfold numberText
      rw [if_pos negative, utf16.encode_ascii_cons (by decide)]
    rw [written]
    dsimp only
    rw [if_pos rfl, digits_number_read]
    omega
  · have written : numberText number = Nat.toDigits 10 number.natAbs := by
      unfold numberText
      rw [if_neg negative]
    have value := digits_number_read number.natAbs
    have signless : ∀ sign : Char, IsAscii sign → sign.toNat < 48 →
        utf16.unit sign ∉ utf16.encode (Nat.toDigits 10 number.natAbs) := by
      intro sign ascii low member
      rw [utf16.unit_mem_encode ascii] at member
      have bounds := digit_plain (Nat.isDigit_of_mem_toDigits (by decide) (Nat.le_refl 10) member)
      omega
    rw [written]
    cases units : utf16.encode (Nat.toDigits 10 number.natAbs) with
    | nil => exact absurd (utf16.encode_nil_iff.mp units) Nat.toDigits_ne_nil
    | cons first rest =>
        rw [units] at value signless
        dsimp only
        rw [if_neg, if_neg, value]
        · omega
        · intro plus
          exact signless '+' (by decide) (by decide) (by rw [plus]; exact List.mem_cons_self)
        · intro minus
          exact signless '-' (by decide) (by decide) (by rw [minus]; exact List.mem_cons_self)

end Viridity.NumberText
