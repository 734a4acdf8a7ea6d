import Viridity.BoundedWalks
import Viridity.NumberText
import Viridity.TextScanning

/-!
# Ancillary chunks of PNG streams

`removeAncillaryChunksFromPNGStream` walks from chunk to chunk by the lengths it reads. The
index is an int of 32 bits that wraps round.
-/

namespace Viridity.PngChunks

open Viridity.BoundedWalks
open Viridity.NumberText
open Viridity.TextEncoding
open Viridity.TextScanning

set_option autoImplicit false

/-- `toHex().toInt(0, 16)`, which is zero for what is no int. -/
def hexToInt (bytes : Bytes) : Int := if bigEndian bytes < 2147483648 then bigEndian bytes else 0

section Stream

variable (input : Bytes)

def dataLength (index : Int) : Int := hexToInt (mid input index 4)

def chunkLength (index : Int) : Int := wrap (4 + 4 + dataLength input index + 4)

def chunkType (index : Int) : Bytes := mid input (wrap (index + 4)) 4

def isKept (type : Bytes) : Bool :=
  type = utf8.encode ['I', 'H', 'D', 'R'] || type = utf8.encode ['P', 'L', 'T', 'E'] ||
    type = utf8.encode ['I', 'D', 'A', 'T'] || type = utf8.encode ['I', 'E', 'N', 'D']

def nextIndex (index : Int) : Int := wrap (index + chunkLength input index)

/-- The loop, for at most some number of rounds. -/
def stripLoop : Nat → Int → Bytes → Option Bytes
  | 0, _, _ => none
  | rounds + 1, index, result =>
      if index < input.length then
        stripLoop rounds (nextIndex input index)
          (if isKept (chunkType input index) then
            result ++ mid input index (chunkLength input index)
          else result)
      else some result

def isPng : Bool :=
  decide (input.head? = some 0x89) && decide (mid input 1 3 = utf8.encode ['P', 'N', 'G'])

def removeAncillaryChunksFromPNGStream (rounds : Nat) : Option Bytes :=
  if isPng input then stripLoop input rounds 8 (mid input 0 8) else some []

def Returns (result : Bytes) : Prop :=
  ∃ rounds, removeAncillaryChunksFromPNGStream input rounds = some result

def header (round : Nat) : Int := position (nextIndex input) 8 round

/-- The length read there takes the index beyond the greatest int. -/
def Overflows (index : Int) : Prop := 2147483648 ≤ index + 12 + dataLength input index

def OverflowsOnce : Prop :=
  ∀ first second, first < second → (∀ round ≤ second, header input round < input.length) →
    Overflows input (header input first) → header input first ≠ header input second

/-- Where the lengths in a stream put its headers, each behind the data of the one before, and
where they put the end. The places are not bounded by an int. -/
inductive HeaderAt : Int → Prop
  | first : HeaderAt 8
  | next {place : Int} (header : HeaderAt place) (inside : place < input.length) :
      HeaderAt (place + 12 + dataLength input place)

/-- No length takes the next header beyond the greatest int. -/
def NoOverflow : Prop := ∀ place, HeaderAt input place → place < 2147483648

end Stream

theorem data_length_bounds (input : Bytes) (index : Int) :
    0 ≤ dataLength input index ∧ dataLength input index < 2147483648 := by
  unfold dataLength hexToInt
  split_ifs <;> omega

theorem header_bounded (input : Bytes) (round : Nat) :
    -2147483648 ≤ position (nextIndex input) 8 round := by
  cases round with
  | zero =>
      show (-2147483648 : Int) ≤ 8
      decide
  | succ round =>
      rw [position_succ]
      exact (wrap_bounds _).1

theorem falls_iff {input : Bytes} {index : Int} (least : -2147483648 ≤ index)
    (inside : index < 2147483648) : nextIndex input index ≤ index ↔ Overflows input index := by
  have length := data_length_bounds input index
  unfold nextIndex chunkLength Overflows wrap
  omega

theorem strip_loop_ends_iff (input : Bytes) (index : Int) (result : Bytes) :
    (∃ rounds stripped, stripLoop input rounds index result = some stripped) ↔
      Ends (nextIndex input) index input.length := by
  constructor
  · rintro ⟨rounds, stripped, ran⟩
    induction rounds generalizing index result with
    | zero => cases ran
    | succ rounds induction =>
        by_cases inside : index < input.length
        · rw [stripLoop, if_pos inside] at ran
          obtain ⟨count, reached⟩ := induction _ _ ran
          exact ⟨1 + count, (position_add (nextIndex input) index 1 count).symm ▸ reached⟩
        · exact ⟨0, not_lt.mp inside⟩
  · rintro ⟨count, reached⟩
    induction count generalizing index result with
    | zero => exact ⟨1, result, if_neg (not_lt.mpr reached)⟩
    | succ count induction =>
        by_cases inside : index < input.length
        · rw [Nat.add_comm, position_add] at reached
          obtain ⟨rounds, stripped, ran⟩ := induction (nextIndex input index)
            (if isKept (chunkType input index) then
              result ++ mid input index (chunkLength input index)
            else result) reached
          exact ⟨rounds + 1, stripped, (if_pos inside).trans ran⟩
        · exact ⟨1, result, if_neg inside⟩

theorem ends_iff_overflows_once {input : Bytes} (small : input.length < 2147483648) :
    Ends (nextIndex input) 8 input.length ↔ OverflowsOnce input := by
  rw [ends_iff (header_bounded input)]
  apply forall₂_congr
  intro first second
  apply imp_congr_right
  intro before
  apply imp_congr_right
  intro inside
  have below : position (nextIndex input) 8 first < 2147483648 := by
    have here := inside first before.le
    omega
  rw [falls_iff (header_bounded input first) below]
  rfl

theorem returns_iff {input : Bytes} (small : input.length < 2147483648) :
    (∃ result, Returns input result) ↔ (isPng input = true → OverflowsOnce input) := by
  unfold Returns removeAncillaryChunksFromPNGStream
  cases isPng input with
  | false => simp
  | true =>
      simp only [if_true, forall_const]
      rw [← ends_iff_overflows_once small, ← strip_loop_ends_iff input 8 (mid input 0 8)]
      exact exists_comm

theorem next_index_fits {input : Bytes} {index : Int} (least : 8 ≤ index)
    (fits : index + 12 + dataLength input index < 2147483648) :
    nextIndex input index = index + 12 + dataLength input index := by
  have length := data_length_bounds input index
  unfold nextIndex chunkLength wrap
  omega

theorem header_at_least {input : Bytes} {place : Int} (header : HeaderAt input place) :
    8 ≤ place := by
  induction header with
  | first => exact le_refl 8
  | @next place _ _ induction =>
      have length := data_length_bounds input place
      omega

/-- Without an overflow the loop goes from header to header. -/
theorem header_at_round {input : Bytes} (fits : NoOverflow input) {round : Nat}
    (inside : ∀ earlier < round, header input earlier < input.length) :
    HeaderAt input (header input round) := by
  induction round with
  | zero => exact .first
  | succ round induction =>
      have here := induction fun earlier before => inside earlier (Nat.lt_succ_of_lt before)
      have further := HeaderAt.next here (inside round (Nat.lt_succ_self round))
      have next := next_index_fits (header_at_least here) (fits _ further)
      unfold header at next further ⊢
      rw [position_succ, next]
      exact further

theorem ends_without_overflow {input : Bytes} (fits : NoOverflow input) :
    Ends (nextIndex input) 8 input.length := by
  by_contra endless
  have inside : ∀ round, header input round < input.length := by
    intro round
    by_contra reached
    exact endless ⟨round, not_lt.mp reached⟩
  apply endless
  apply @ends_of_rising _ _ _ 0
  intro round _
  have here := header_at_round fits fun earlier (_ : earlier < round) => inside earlier
  have further := HeaderAt.next here (inside round)
  have next := next_index_fits (header_at_least here) (fits _ further)
  have length := data_length_bounds input (header input round)
  rw [position_succ]
  unfold header at next length
  omega

theorem returns_without_overflow {input : Bytes} (fits : isPng input = true → NoOverflow input) :
    ∃ result, Returns input result := by
  unfold Returns removeAncillaryChunksFromPNGStream
  cases png : isPng input with
  | false => exact ⟨[], 0, rfl⟩
  | true =>
      have ends := ends_without_overflow (fits png)
      obtain ⟨rounds, stripped, ran⟩ := (strip_loop_ends_iff input 8 (mid input 0 8)).mpr ends
      exact ⟨stripped, rounds, ran⟩

structure Chunk where
  type : Bytes
  data : Bytes
  crc : Bytes
  type_length : type.length = 4
  crc_length : crc.length = 4

def lengthBytes (length : Nat) : Bytes :=
  [UInt8.ofNat (length / 16777216), UInt8.ofNat (length / 65536), UInt8.ofNat (length / 256),
    UInt8.ofNat length]

def Chunk.encode (chunk : Chunk) : Bytes :=
  lengthBytes chunk.data.length ++ (chunk.type ++ (chunk.data ++ chunk.crc))

def signature : Bytes := [0x89, 0x50, 0x4E, 0x47, 0x0D, 0x0A, 0x1A, 0x0A]

def pngFile (chunks : List Chunk) : Bytes := signature ++ chunks.flatMap Chunk.encode

def Chunk.isCritical (chunk : Chunk) : Bool := isKept chunk.type

theorem length_read (length : Nat) (small : length < 2147483648) :
    hexToInt (lengthBytes length) = length := by
  have value : bigEndian (lengthBytes length) = length := by
    simp only [bigEndian, lengthBytes, List.foldl_cons, List.foldl_nil, UInt8.toNat_ofNat']
    omega
  unfold hexToInt
  rw [value, if_pos small]

theorem chunk_length (chunk : Chunk) : chunk.encode.length = 12 + chunk.data.length := by
  unfold Chunk.encode
  rw [List.length_append, List.length_append, List.length_append, chunk.type_length,
    chunk.crc_length]
  simp only [lengthBytes, List.length_cons, List.length_nil]
  omega

section Walk

variable {input front : Bytes} {chunk : Chunk} {rest : Bytes}

theorem mid_at {position count : Int} {before part behind : Bytes}
    (parts : input = before ++ (part ++ behind)) (place : position = before.length)
    (length : count = part.length) : mid input position count = part := by
  rw [parts, place, length, mid_middle]

theorem chunk_read (parts : input = front ++ (chunk.encode ++ rest))
    (small : input.length < 2147483648) :
    chunkType input front.length = chunk.type ∧
      mid input front.length (chunkLength input front.length) = chunk.encode ∧
        nextIndex input front.length = (front ++ chunk.encode).length := by
  have total : front.length + (12 + chunk.data.length) + rest.length = input.length := by
    rw [parts, List.length_append, List.length_append, chunk_length]
    omega
  have length : dataLength input front.length = chunk.data.length := by
    unfold dataLength
    have read : mid input front.length 4 = lengthBytes chunk.data.length :=
      mid_at (parts.trans (congrArg _ (List.append_assoc _ _ _))) rfl rfl
    rw [read]
    exact length_read _ (by omega)
  have whole : chunkLength input front.length = chunk.encode.length := by
    unfold chunkLength wrap
    rw [length, chunk_length]
    omega
  refine ⟨?_, ?_, ?_⟩
  · have split : input = (front ++ lengthBytes chunk.data.length) ++
        (chunk.type ++ ((chunk.data ++ chunk.crc) ++ rest)) := by
      rw [parts, Chunk.encode]
      simp only [List.append_assoc]
    unfold chunkType
    apply mid_at split
    · unfold wrap
      rw [List.length_append]
      simp only [lengthBytes, List.length_cons, List.length_nil]
      omega
    · rw [chunk.type_length]
      rfl
  · exact mid_at parts rfl whole
  · unfold nextIndex wrap
    rw [whole, List.length_append, chunk_length]
    omega

end Walk

/-- The walk over well-formed chunks copies the critical ones. -/
theorem strip_loop_chunks {input : Bytes} (small : input.length < 2147483648)
    (chunks : List Chunk) (front result : Bytes)
    (parts : input = front ++ chunks.flatMap Chunk.encode) :
    stripLoop input (chunks.length + 1) front.length result =
      some (result ++ (chunks.filter Chunk.isCritical).flatMap Chunk.encode) := by
  induction chunks generalizing front result with
  | nil =>
      have reached : ¬ (front.length : Int) < input.length := by
        rw [parts]
        simp
      rw [stripLoop, if_neg reached]
      simp
  | cons chunk rest induction =>
      rw [List.flatMap_cons] at parts
      have read := chunk_read parts small
      have inside : (front.length : Int) < input.length := by
        have length := chunk_length chunk
        rw [parts, List.length_append, List.length_append]
        omega
      rw [List.length_cons, stripLoop, if_pos inside, read.1, read.2.1, read.2.2]
      rw [induction _ _ (parts.trans (List.append_assoc _ _ _).symm)]
      cases kept : isKept chunk.type with
      | true => simp [Chunk.isCritical, kept]
      | false => simp [Chunk.isCritical, kept]

theorem png_file_stripped (chunks : List Chunk) (small : (pngFile chunks).length < 2147483648) :
    Returns (pngFile chunks) (pngFile (chunks.filter Chunk.isCritical)) := by
  refine ⟨chunks.length + 1, ?_⟩
  have png : isPng (pngFile chunks) = true := rfl
  have head : mid (pngFile chunks) 0 8 = signature := rfl
  unfold removeAncillaryChunksFromPNGStream
  rw [png, if_pos rfl, head]
  exact strip_loop_chunks small chunks signature signature rfl

theorem png_file_shorter (chunks : List Chunk) (keeps : Chunk → Bool) :
    (pngFile (chunks.filter keeps)).length ≤ (pngFile chunks).length := by
  have shorter := (@List.filter_sublist _ keeps chunks).flatMap Chunk.encode
  have length := shorter.length_le
  unfold pngFile
  rw [List.length_append, List.length_append]
  omega

/-- The function ends where no length takes the next header beyond the greatest int. Of a
well-formed stream it keeps the critical chunks as they are, and of these it keeps all. -/
theorem png_stripping (input : Bytes) (chunks : List Chunk) :
    (input.length < 2147483648 → (isPng input = true → NoOverflow input) →
      ∃ result, Returns input result) ∧
    ((pngFile chunks).length < 2147483648 →
      Returns (pngFile chunks) (pngFile (chunks.filter Chunk.isCritical)) ∧
        Returns (pngFile (chunks.filter Chunk.isCritical))
          (pngFile (chunks.filter Chunk.isCritical))) := by
  constructor
  · intro _ fits
    exact returns_without_overflow fits
  · intro small
    refine ⟨png_file_stripped chunks small, ?_⟩
    have again := png_file_stripped (chunks.filter Chunk.isCritical)
      (lt_of_le_of_lt (png_file_shorter chunks Chunk.isCritical) small)
    rw [List.filter_filter] at again
    simpa only [Bool.and_self] using again

theorem next_before_data (input : Bytes) {index : Int} (least : -2147483648 ≤ index)
    (before : index ≤ -4) : nextIndex input index = index + 12 := by
  have nothing : mid input index 4 = [] := by
    unfold mid
    rw [if_pos (by omega), if_neg (by omega), Int.toNat_eq_zero.mpr (by omega), List.take_zero]
  have length : dataLength input index = 0 := by
    unfold dataLength
    rw [nothing]
    rfl
  unfold nextIndex chunkLength wrap
  rw [length]
  omega

theorem climbs (input : Bytes) {index : Int} (least : -2147483648 ≤ index) (count : Nat)
    (below : index + 12 * count ≤ 8) :
    position (nextIndex input) index count = index + 12 * count := by
  induction count with
  | zero => simp
  | succ count induction =>
      push_cast at below
      rw [position_succ, induction (by omega), next_before_data input (by omega) (by omega)]
      push_cast
      omega

def wrappingStream : Bytes := signature ++ [0x7F, 0xFF, 0xFF, 0xFC]

/-- The index wraps, and climbs back to the same header. -/
theorem wrapping_stream_endless :
    ¬ ∀ input : Bytes, input.length < 2147483648 → ∃ result, Returns input result := by
  intro returns
  obtain ⟨result, rounds, ran⟩ := returns wrappingStream (by decide)
  have png : isPng wrappingStream = true := by decide
  unfold removeAncillaryChunksFromPNGStream at ran
  rw [if_pos png] at ran
  have ends := (strip_loop_ends_iff wrappingStream 8 _).mp ⟨rounds, result, ran⟩
  have wrapped : nextIndex wrappingStream 8 = -2147483632 := by decide
  have climbed : ∀ count : Nat, count ≤ 178956970 →
      position (nextIndex wrappingStream) 8 (1 + count) = -2147483632 + 12 * count := by
    intro count within
    rw [position_add, position_succ, position_zero, wrapped]
    exact climbs wrappingStream (by omega) count (by omega)
  have back : position (nextIndex wrappingStream) 8 0 =
      position (nextIndex wrappingStream) 8 178956971 :=
    (climbed 178956970 (le_refl _)).symm
  apply not_ends_of_return (by omega) back _ ends
  intro count within
  have size : wrappingStream.length = 12 := rfl
  rcases Nat.eq_zero_or_pos count with zero | positive
  · rw [zero, size, position_zero]
    omega
  · have here := climbed (count - 1) (by omega)
    rw [Nat.add_sub_cancel' positive] at here
    rw [here, size]
    omega

end Viridity.PngChunks
