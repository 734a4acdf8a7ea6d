import Mathlib.Algebra.Group.Nat.Defs
import Mathlib.Data.List.Basic
import Mathlib.Tactic.Common

/-!
# Base64

Three bytes become four digits of six bits; a shorter group at the end is filled up with
padding. The decoder collects six bits for each digit and skips whatever is no digit.
-/

namespace Viridity.Base64

set_option autoImplicit false

def digit (sextet : Nat) : UInt8 :=
  if sextet < 26 then UInt8.ofNat (65 + sextet)
  else if sextet < 52 then UInt8.ofNat (97 + (sextet - 26))
  else if sextet < 62 then UInt8.ofNat (48 + (sextet - 52))
  else if sextet = 62 then 43
  else 47

def sextet (byte : UInt8) : Option Nat :=
  if 65 ≤ byte.toNat ∧ byte.toNat ≤ 90 then some (byte.toNat - 65)
  else if 97 ≤ byte.toNat ∧ byte.toNat ≤ 122 then some (byte.toNat - 97 + 26)
  else if 48 ≤ byte.toNat ∧ byte.toNat ≤ 57 then some (byte.toNat - 48 + 52)
  else if byte = 43 then some 62
  else if byte = 47 then some 63
  else none

def padding : UInt8 := 61

def encode : List UInt8 → List UInt8
  | first :: second :: third :: rest =>
      digit (first.toNat / 4) :: digit (first.toNat % 4 * 16 + second.toNat / 16) ::
        digit (second.toNat % 16 * 4 + third.toNat / 64) :: digit (third.toNat % 64) :: encode rest
  | [first, second] =>
      [digit (first.toNat / 4), digit (first.toNat % 4 * 16 + second.toNat / 16),
        digit (second.toNat % 16 * 4), padding]
  | [first] => [digit (first.toNat / 4), digit (first.toNat % 4 * 16), padding, padding]
  | [] => []

/-- Decodes behind `count` bits that have not made a byte yet. -/
def decodeFrom (bits count : Nat) : List UInt8 → List UInt8
  | [] => []
  | byte :: bytes =>
      match sextet byte with
      | some value =>
          if 8 ≤ count + 6 then
            UInt8.ofNat ((bits * 64 + value) / 2 ^ (count - 2)) ::
              decodeFrom ((bits * 64 + value) % 2 ^ (count - 2)) (count - 2) bytes
          else decodeFrom (bits * 64 + value) (count + 6) bytes
      | none => decodeFrom bits count bytes

def decode (bytes : List UInt8) : List UInt8 := decodeFrom 0 0 bytes

theorem sextet_digit : ∀ value < 64, sextet (digit value) = some value := by decide

theorem digit_alphabet : ∀ value < 64, digit value ≠ 58 := by decide

section Digits

variable {bits value : Nat} (bound : value < 64) (bytes : List UInt8)

include bound

theorem decode_digit_first :
    decodeFrom bits 0 (digit value :: bytes) = decodeFrom (bits * 64 + value) 6 bytes := by
  conv_lhs => unfold decodeFrom
  rw [sextet_digit value bound]
  rfl

theorem decode_digit_next {count : Nat} (ready : 2 ≤ count) :
    decodeFrom bits count (digit value :: bytes) =
      UInt8.ofNat ((bits * 64 + value) / 2 ^ (count - 2)) ::
        decodeFrom ((bits * 64 + value) % 2 ^ (count - 2)) (count - 2) bytes := by
  conv_lhs => unfold decodeFrom
  rw [sextet_digit value bound]
  dsimp only
  rw [if_pos (by omega)]

end Digits

theorem decode_padding (bits count : Nat) (bytes : List UInt8) :
    decodeFrom bits count (padding :: bytes) = decodeFrom bits count bytes := by
  conv_lhs => unfold decodeFrom
  rfl

theorem of_nat_same {number : Nat} {byte : UInt8} (same : number = byte.toNat) :
    UInt8.ofNat number = byte := by
  rw [same, UInt8.ofNat_toNat]

/-- Decoding takes a group of digits for the bytes it was made of. -/
theorem decode_encode (bytes : List UInt8) : decode (encode bytes) = bytes := by
  unfold decode
  induction bytes using encode.induct with
  | case1 first second third rest induction =>
      have small := first.toNat_lt
      have middle := second.toNat_lt
      have last := third.toNat_lt
      unfold encode
      rw [decode_digit_first (by omega), decode_digit_next (by omega) _ (by omega),
        decode_digit_next (by omega) _ (by omega), decode_digit_next (by omega) _ (by omega)]
      have empty : (((((0 * 64 + first.toNat / 4) * 64 + (first.toNat % 4 * 16 + second.toNat / 16)) %
          2 ^ (6 - 2)) * 64 + (second.toNat % 16 * 4 + third.toNat / 64)) % 2 ^ (6 - 2 - 2) * 64 +
          third.toNat % 64) % 2 ^ (6 - 2 - 2 - 2) = 0 := by
        omega
      rw [empty, induction]
      congr 1
      · exact of_nat_same (by omega)
      · congr 1
        · exact of_nat_same (by omega)
        · congr 1
          exact of_nat_same (by omega)
  | case2 first second =>
      have small := first.toNat_lt
      have middle := second.toNat_lt
      unfold encode
      rw [decode_digit_first (by omega), decode_digit_next (by omega) _ (by omega),
        decode_digit_next (by omega) _ (by omega), decode_padding]
      unfold decodeFrom
      congr 1
      · exact of_nat_same (by omega)
      · congr 1
        exact of_nat_same (by omega)
  | case3 first =>
      have small := first.toNat_lt
      unfold encode
      rw [decode_digit_first (by omega), decode_digit_next (by omega) _ (by omega), decode_padding,
        decode_padding]
      unfold decodeFrom
      congr 1
      exact of_nat_same (by omega)
  | case4 => rfl

theorem encode_alphabet {bytes : List UInt8} {byte : UInt8} (member : byte ∈ encode bytes) :
    (∃ value < 64, byte = digit value) ∨ byte = padding := by
  induction bytes using encode.induct with
  | case1 first second third rest induction =>
      have small := first.toNat_lt
      have middle := second.toNat_lt
      have last := third.toNat_lt
      unfold encode at member
      simp only [List.mem_cons] at member
      rcases member with same | same | same | same | inRest
      · exact .inl ⟨_, by omega, same⟩
      · exact .inl ⟨_, by omega, same⟩
      · exact .inl ⟨_, by omega, same⟩
      · exact .inl ⟨_, by omega, same⟩
      · exact induction inRest
  | case2 first second =>
      have small := first.toNat_lt
      have middle := second.toNat_lt
      unfold encode at member
      simp only [List.mem_cons, List.not_mem_nil, or_false] at member
      rcases member with same | same | same | same
      · exact .inl ⟨_, by omega, same⟩
      · exact .inl ⟨_, by omega, same⟩
      · exact .inl ⟨_, by omega, same⟩
      · exact .inr same
  | case3 first =>
      have small := first.toNat_lt
      unfold encode at member
      simp only [List.mem_cons, List.not_mem_nil, or_false] at member
      rcases member with same | same | same | same
      · exact .inl ⟨_, by omega, same⟩
      · exact .inl ⟨_, by omega, same⟩
      · exact .inr same
      · exact .inr same
  | case4 => exact absurd member List.not_mem_nil

theorem colon_not_mem_encode (bytes : List UInt8) : (58 : UInt8) ∉ encode bytes := by
  intro member
  cases encode_alphabet member with
  | inl found =>
      obtain ⟨value, bound, same⟩ := found
      exact digit_alphabet value bound same.symm
  | inr filler => exact absurd filler (by decide)

end Viridity.Base64
