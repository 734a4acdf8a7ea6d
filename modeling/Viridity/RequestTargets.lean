import Mathlib.Tactic.IntervalCases
import Viridity.TextEncoding

/-!
# Request targets

What a browser asks for when it is given an `http` or `https` URL, from the first slash behind
the host on, as the URL standard has it: tabs and line ends are left out, the fragment is cut
off, a backslash of the path is a slash, dot segments are resolved, and letters that may not
stand in their part are percent-encoded.
-/

namespace Viridity.RequestTargets

open Viridity.TextEncoding

set_option autoImplicit false

def hexDigit (value : Nat) : Char := (Nat.digitChar value).toUpper

def percentEncoded (letter : Char) : Text :=
  (utf8.encode [letter]).flatMap fun byte =>
    ['%', hexDigit (byte.toNat / 16), hexDigit (byte.toNat % 16)]

def isEncodedAnywhere (letter : Char) : Bool :=
  letter.toNat ≤ 32 || 126 < letter.toNat || letter ∈ ['"', '#', '<', '>']

/-- The path percent-encode set; the fifth letter is a backtick. -/
def pathEncodes (letter : Char) : Bool :=
  isEncodedAnywhere letter || letter ∈ ['?', '^', '{', '}', Char.ofNat 96]

def queryEncodes (letter : Char) : Bool := isEncodedAnywhere letter || letter = '\''

def encodedWith (encodes : Char → Bool) (text : Text) : Text :=
  text.flatMap fun letter => if encodes letter then percentEncoded letter else [letter]

def isSingleDot (segment : Text) : Bool :=
  let letters := segment.map Char.toLower
  letters = ['.'] ∨ letters = ['%', '2', 'e']

def isDoubleDot (segment : Text) : Bool :=
  let letters := segment.map Char.toLower
  letters = ['.', '.'] ∨ letters = ['.', '%', '2', 'e'] ∨ letters = ['%', '2', 'e', '.'] ∨
    letters = ['%', '2', 'e', '%', '2', 'e']

/-- `path` has the segments that were read, the last one first. -/
def resolveDots (path : List Text) : List Text → List Text
  | [] => path.reverse
  | segment :: rest =>
      if isDoubleDot segment then
        if rest = [] then ([] :: path.tail).reverse else resolveDots path.tail rest
      else if isSingleDot segment then
        if rest = [] then ([] :: path).reverse else resolveDots path rest
      else resolveDots (segment :: path) rest

def asSlash (letter : Char) : Char := if letter = '\\' then '/' else letter

def pathSegments (path : Text) : List Text :=
  ((path.map asSlash).splitOn '/').tail.map (encodedWith pathEncodes)

def joined (segments : List Text) : Text := segments.flatMap fun segment => '/' :: segment

def pathTarget (path : Text) : Text := joined (resolveDots [] (pathSegments path))

def inPath (url : Text) : Text := url.takeWhile fun letter => letter ≠ '?'
def inQuery (url : Text) : Text := url.dropWhile fun letter => letter ≠ '?'

def withoutFragment (url : Text) : Text :=
  (url.filter fun letter => letter ∉ ['\t', '\n', '\r']).takeWhile fun letter => letter ≠ '#'

def requestTarget (url : Text) : Text :=
  pathTarget (inPath (withoutFragment url)) ++
    encodedWith queryEncodes (inQuery (withoutFragment url))

/-- The end of a URL, behind the last slash of its path, that is asked for as it is. A dot segment
could stand in front of a query only. -/
structure SentAsIs (text : Text) : Prop where
  path : ∀ letter ∈ inPath text, pathEncodes letter = false ∧ letter ≠ '\\'
  query : ∀ letter ∈ inQuery text, queryEncodes letter = false
  dots : '?' ∈ text → isSingleDot (inPath text) = false ∧ isDoubleDot (inPath text) = false

instance (text : Text) : Decidable (SentAsIs text) :=
  decidable_of_iff (((inPath text).all fun letter => !pathEncodes letter && letter != '\\') = true ∧
      ((inQuery text).all fun letter => !queryEncodes letter) = true ∧
      ('?' ∈ text → isSingleDot (inPath text) = false ∧ isDoubleDot (inPath text) = false)) (by
    simp only [List.all_eq_true, Bool.and_eq_true, Bool.not_eq_true', bne_iff_ne, ne_eq]
    exact ⟨fun met => ⟨met.1, met.2.1, met.2.2⟩, fun sent => ⟨sent.path, sent.query, sent.dots⟩⟩)

section Letters

theorem encoded_letter {encodes : Char → Bool}
    (digits : ∀ value < 16, encodes (hexDigit value) = false) (percent : encodes '%' = false)
    {text : Text} {letter : Char} (member : letter ∈ encodedWith encodes text) :
    encodes letter = false ∧ (letter ∈ text ∨ letter = '%' ∨ ∃ value < 16, letter = hexDigit value) := by
  unfold encodedWith at member
  obtain ⟨first, inside, written⟩ := List.mem_flatMap.mp member
  by_cases encoded : encodes first = true
  · rw [if_pos encoded] at written
    obtain ⟨byte, _, digit⟩ := List.mem_flatMap.mp written
    have small : byte.toNat < 256 := byte.toNat_lt
    simp only [List.mem_cons, List.not_mem_nil, or_false] at digit
    rcases digit with rfl | rfl | rfl
    · exact ⟨percent, Or.inr (Or.inl rfl)⟩
    · exact ⟨digits _ (by omega), Or.inr (Or.inr ⟨_, by omega, rfl⟩)⟩
    · exact ⟨digits _ (by omega), Or.inr (Or.inr ⟨_, by omega, rfl⟩)⟩
  · rw [if_neg encoded, List.mem_singleton] at written
    rw [written]
    exact ⟨Bool.eq_false_iff.mpr encoded, Or.inl inside⟩

theorem encoded_same {encodes : Char → Bool} {text : Text}
    (plain : ∀ letter ∈ text, encodes letter = false) : encodedWith encodes text = text := by
  induction text with
  | nil => rfl
  | cons letter text induction =>
      have rest := induction fun other member => plain other (List.mem_cons_of_mem _ member)
      unfold encodedWith at rest ⊢
      rw [List.flatMap_cons, rest, plain letter List.mem_cons_self]
      rfl

theorem hex_digit_plain : ∀ value < 16, pathEncodes (hexDigit value) = false ∧
    queryEncodes (hexDigit value) = false ∧ hexDigit value ≠ '/' ∧ hexDigit value ≠ '\\' := by
  decide

theorem path_encoded {text : Text} {letter : Char}
    (member : letter ∈ encodedWith pathEncodes text) : pathEncodes letter = false ∧
      (letter ∉ text → letter ≠ '/' ∧ letter ≠ '\\') := by
  obtain ⟨plain, whence⟩ :=
    encoded_letter (fun value small => (hex_digit_plain value small).1) (by decide) member
  refine ⟨plain, fun outside => ?_⟩
  rcases whence with inside | rfl | ⟨value, small, rfl⟩
  · exact absurd inside outside
  · exact ⟨by decide, by decide⟩
  · exact (hex_digit_plain value small).2.2

theorem query_encoded {text : Text} {letter : Char}
    (member : letter ∈ encodedWith queryEncodes text) : queryEncodes letter = false ∧
      (letter ∉ text → letter ≠ '/') := by
  obtain ⟨plain, whence⟩ :=
    encoded_letter (fun value small => (hex_digit_plain value small).2.1) (by decide) member
  refine ⟨plain, fun outside => ?_⟩
  rcases whence with inside | rfl | ⟨value, small, rfl⟩
  · exact absurd inside outside
  · exact by decide
  · exact (hex_digit_plain value small).2.2.1

end Letters

section Segments

theorem resolved_segment {segments path : List Text} {segment : Text}
    (member : segment ∈ resolveDots path segments) : segment ∈ path ∨ segment = [] ∨
      segment ∈ segments ∧ isSingleDot segment = false ∧ isDoubleDot segment = false := by
  induction segments generalizing path with
  | nil => exact Or.inl (List.mem_reverse.mp member)
  | cons first rest induction =>
      have later {path' : List Text} (inside : segment ∈ resolveDots path' rest)
          (known : segment ∈ path' → segment ∈ path ∨ segment = [] ∨ segment ∈ first :: rest ∧
            isSingleDot segment = false ∧ isDoubleDot segment = false) :
          segment ∈ path ∨ segment = [] ∨ segment ∈ first :: rest ∧
            isSingleDot segment = false ∧ isDoubleDot segment = false := by
        rcases induction inside with before | empty | behind
        · exact known before
        · exact Or.inr (Or.inl empty)
        · exact Or.inr (Or.inr ⟨List.mem_cons_of_mem _ behind.1, behind.2⟩)
      unfold resolveDots at member
      split_ifs at member with double last single last'
      · rcases List.mem_cons.mp (List.mem_reverse.mp member) with empty | before
        · exact Or.inr (Or.inl empty)
        · exact Or.inl (List.mem_of_mem_tail before)
      · exact later member fun before => Or.inl (List.mem_of_mem_tail before)
      · rcases List.mem_cons.mp (List.mem_reverse.mp member) with empty | before
        · exact Or.inr (Or.inl empty)
        · exact Or.inl before
      · exact later member Or.inl
      · refine later member fun before => ?_
        rcases List.mem_cons.mp before with same | earlier
        · rw [same]
          exact Or.inr (Or.inr ⟨List.mem_cons_self, Bool.eq_false_iff.mpr single,
            Bool.eq_false_iff.mpr double⟩)
        · exact Or.inl earlier

theorem resolve_same {segments : List Text} (path : List Text) (plain : ∀ segment ∈ segments,
    isSingleDot segment = false ∧ isDoubleDot segment = false) :
    resolveDots path segments = path.reverse ++ segments := by
  induction segments generalizing path with
  | nil => exact (List.append_nil _).symm
  | cons segment rest induction =>
      have here := plain segment List.mem_cons_self
      unfold resolveDots
      rw [here.1, here.2]
      simp only [Bool.false_eq_true, if_false]
      rw [induction (segment :: path) fun other member => plain other (List.mem_cons_of_mem _ member)]
      simp

theorem split_letters {text piece : Text} (member : piece ∈ text.splitOn '/') :
    ∀ letter ∈ piece, letter ∈ text ∧ letter ≠ '/' := by
  induction text generalizing piece with
  | nil =>
      rw [List.splitOn_nil, List.mem_singleton] at member
      rw [member]
      exact fun _ inside => absurd inside List.not_mem_nil
  | cons first text induction =>
      have later {other : Text} (inside : other ∈ text.splitOn '/') :
          ∀ letter ∈ other, letter ∈ first :: text ∧ letter ≠ '/' := by
        intro letter among
        have both := induction inside letter among
        exact ⟨List.mem_cons_of_mem _ both.1, both.2⟩
      rw [List.splitOn_cons_eq_if_modifyHead] at member
      by_cases slash : first = '/'
      · rw [if_pos (beq_iff_eq.mpr slash)] at member
        rcases List.mem_cons.mp member with rfl | inside
        · exact fun _ among => absurd among List.not_mem_nil
        · exact later inside
      · rw [if_neg (by rw [beq_iff_eq]; exact slash)] at member
        cases pieces : text.splitOn '/' with
        | nil => exact absurd pieces (List.splitOn_ne_nil '/' text)
        | cons front rest =>
            rw [pieces, List.modifyHead_cons] at member
            rcases List.mem_cons.mp member with rfl | inside
            · intro letter among
              rcases List.mem_cons.mp among with rfl | behind
              · exact ⟨List.mem_cons_self, slash⟩
              · exact later (by rw [pieces]; exact List.mem_cons_self) letter behind
            · exact later (by rw [pieces]; exact List.mem_cons_of_mem _ inside)

theorem split_joined {segments : List Text} (some' : segments ≠ [])
    (plain : ∀ segment ∈ segments, '/' ∉ segment) :
    (joined segments).splitOn '/' = [] :: segments := by
  induction segments with
  | nil => exact absurd rfl some'
  | cons segment rest induction =>
      have here := plain segment List.mem_cons_self
      have later := fun other member => plain other (List.mem_cons_of_mem segment member)
      unfold joined at induction ⊢
      rw [List.flatMap_cons, List.cons_append, List.splitOn_cons_eq_if_modifyHead,
        if_pos (beq_self_eq_true _)]
      cases rest with
      | nil => rw [List.flatMap_nil, List.append_nil, List.splitOn_eq_singleton here]
      | cons next rest =>
          have split := induction (List.cons_ne_nil _ _) later
          rw [List.flatMap_cons, List.cons_append] at split ⊢
          rw [List.splitOn_cons_eq_if_modifyHead, if_pos (beq_self_eq_true _)] at split
          rw [List.splitOn_append_cons_self_of_not_mem here, (List.cons.inj split).2]

theorem last_segment {segments : List Text} (plain : ∀ segment ∈ segments, '/' ∉ segment)
    {front last : Text} (absent : '/' ∉ last) (whole : joined segments = front ++ '/' :: last) :
    last ∈ segments := by
  induction segments generalizing front with
  | nil =>
      have lengths := congrArg List.length whole
      simp [joined] at lengths
  | cons segment rest induction =>
      have here := plain segment List.mem_cons_self
      have later := fun other member => plain other (List.mem_cons_of_mem segment member)
      have shape : joined (segment :: rest) = '/' :: (segment ++ joined rest) := rfl
      rw [shape] at whole
      cases front with
      | nil =>
          obtain ⟨-, same⟩ := List.cons.inj whole
          cases rest with
          | nil =>
              rw [← same]
              simp [joined]
          | cons next rest =>
              apply absurd _ absent
              rw [← same]
              simp [joined]
      | cons first front =>
          obtain ⟨-, same⟩ := List.cons.inj whole
          rcases List.append_eq_append_iff.mp same with ⟨more, _, behind⟩ | ⟨more, inside, behind⟩
          · exact List.mem_cons_of_mem _ (induction later behind)
          · cases more with
            | nil =>
                have again : joined rest = [] ++ '/' :: last := behind.symm
                exact List.mem_cons_of_mem _ (induction later again)
            | cons letter more =>
                obtain ⟨slash, -⟩ := List.cons.inj behind
                apply absurd _ here
                rw [inside, ← slash]
                simp

theorem as_slash_plain {path : Text} {letter : Char} (member : letter ∈ path.map asSlash) :
    letter ≠ '\\' := by
  obtain ⟨read, _, rfl⟩ := List.mem_map.mp member
  unfold asSlash
  split_ifs with back
  · decide
  · exact back

theorem segment_letters {path segment : Text} (member : segment ∈ pathSegments path) :
    ∀ letter ∈ segment, pathEncodes letter = false ∧ letter ≠ '/' ∧ letter ≠ '\\' := by
  intro letter inside
  unfold pathSegments at member
  obtain ⟨raw, piece, rfl⟩ := List.mem_map.mp member
  obtain ⟨plain, written⟩ := path_encoded inside
  refine ⟨plain, ?_⟩
  by_cases read : letter ∈ raw
  · obtain ⟨among, noSlash⟩ := split_letters (List.mem_of_mem_tail piece) letter read
    exact ⟨noSlash, as_slash_plain among⟩
  · exact written read

theorem resolved_letters {path segment : Text}
    (member : segment ∈ resolveDots [] (pathSegments path)) :
    (∀ letter ∈ segment, pathEncodes letter = false ∧ letter ≠ '/' ∧ letter ≠ '\\') ∧
      isSingleDot segment = false ∧ isDoubleDot segment = false := by
  rcases resolved_segment member with before | rfl | ⟨inside, dots⟩
  · exact absurd before List.not_mem_nil
  · exact ⟨fun _ among => absurd among List.not_mem_nil, by decide, by decide⟩
  · exact ⟨segment_letters inside, dots⟩

end Segments

section Urls

theorem in_path_in_query (text : Text) : inPath text ++ inQuery text = text :=
  List.takeWhile_append_dropWhile

theorem parts_of_plain {front : Text} (plain : '?' ∉ front) (rest : Text) :
    inPath (front ++ rest) = front ++ inPath rest ∧ inQuery (front ++ rest) = inQuery rest := by
  have letters : ∀ letter ∈ front, decide (letter ≠ '?') = true := by
    intro letter member
    rw [decide_eq_true_iff]
    rintro rfl
    exact plain member
  exact ⟨List.takeWhile_append_of_pos letters, List.dropWhile_append_of_pos letters⟩

theorem parts_of_query {rest : Text} (query : rest = [] ∨ ∃ more, rest = '?' :: more) :
    inPath rest = [] ∧ inQuery rest = rest := by
  rcases query with rfl | ⟨more, rfl⟩
  · exact ⟨rfl, rfl⟩
  · exact ⟨rfl, rfl⟩

theorem query_begins (text : Text) : encodedWith queryEncodes (inQuery text) = [] ∨
    ∃ more, encodedWith queryEncodes (inQuery text) = '?' :: more := by
  cases found : inQuery text with
  | nil => exact Or.inl rfl
  | cons letter rest =>
      have mark : letter = '?' := by
        have stops := List.head?_dropWhile_not (fun letter => decide (letter ≠ '?')) text
        rw [show text.dropWhile (fun letter => decide (letter ≠ '?')) = letter :: rest from found]
          at stops
        simpa using stops
      rw [mark]
      exact Or.inr ⟨_, rfl⟩

def PlainLetter (letter : Char) : Prop := letter ∉ ['\t', '\n', '\r'] ∧ letter ≠ '#'

theorem plain_unless_encoded {encodes : Char → Bool}
    (marks : ['\t', '\n', '\r', '#'].all encodes = true) {letter : Char}
    (plain : encodes letter = false) : PlainLetter letter := by
  have other : letter ∉ ['\t', '\n', '\r', '#'] := by
    intro member
    rw [List.all_eq_true.mp marks letter member] at plain
    exact absurd plain (by decide)
  refine ⟨fun member => other (List.mem_append_left ['#'] member), ?_⟩
  rintro rfl
  exact other (by decide)

theorem plain_of_path {letter : Char} (plain : pathEncodes letter = false) : PlainLetter letter :=
  plain_unless_encoded (by decide) plain

theorem plain_of_query {letter : Char} (plain : queryEncodes letter = false) : PlainLetter letter :=
  plain_unless_encoded (by decide) plain

theorem without_fragment_front {front : Text} (plain : ∀ letter ∈ front, PlainLetter letter)
    (rest : Text) : withoutFragment (front ++ rest) = front ++ withoutFragment rest := by
  have kept : front.filter (fun letter => letter ∉ ['\t', '\n', '\r']) = front := by
    rw [List.filter_eq_self]
    intro letter member
    rw [decide_eq_true_iff]
    exact (plain letter member).1
  have letters : ∀ letter ∈ front, decide (letter ≠ '#') = true := by
    intro letter member
    rw [decide_eq_true_iff]
    exact (plain letter member).2
  unfold withoutFragment
  rw [List.filter_append, kept, List.takeWhile_append_of_pos letters]

theorem without_fragment_same {text : Text} (plain : ∀ letter ∈ text, PlainLetter letter) :
    withoutFragment text = text := by
  have whole := without_fragment_front plain []
  rw [List.append_nil] at whole
  rw [whole]
  exact List.append_nil text

theorem SentAsIs.plain {text : Text} (sent : SentAsIs text) :
    ∀ letter ∈ text, PlainLetter letter := by
  intro letter member
  rw [← in_path_in_query text] at member
  rcases List.mem_append.mp member with path | query
  · exact plain_of_path (sent.path letter path).1
  · exact plain_of_query (sent.query letter query)

structure PlainSegment (segment : Text) : Prop where
  letters : ∀ letter ∈ segment, pathEncodes letter = false ∧ letter ≠ '/' ∧ letter ≠ '\\'
  dots : isSingleDot segment = false ∧ isDoubleDot segment = false

variable {heads : List Text} {last : Text}

theorem path_target_same (some' : heads ≠ []) (plain : ∀ segment ∈ heads, PlainSegment segment) :
    pathTarget (joined heads) = joined heads := by
  have letters : ∀ letter ∈ joined heads, letter ≠ '\\' := by
    intro letter member
    obtain ⟨segment, inside, among⟩ := List.mem_flatMap.mp member
    rcases List.mem_cons.mp among with rfl | behind
    · decide
    · exact ((plain segment inside).letters letter behind).2.2
  have mapped : (joined heads).map asSlash = joined heads :=
    (List.map_congr_left fun letter member => if_neg (letters letter member)).trans (List.map_id' _)
  have kept : heads.map (encodedWith pathEncodes) = heads := by
    refine (List.map_congr_left fun segment member => ?_).trans (List.map_id' _)
    exact encoded_same fun letter inside => ((plain segment member).letters letter inside).1
  have noSlash : ∀ segment ∈ heads, '/' ∉ segment := fun segment member inside =>
    ((plain segment member).letters '/' inside).2.1 rfl
  unfold pathTarget pathSegments
  rw [mapped, split_joined some' noSlash, List.tail_cons, kept,
    resolve_same [] fun segment member => (plain segment member).dots]
  rfl

theorem joined_letters (plain : ∀ segment ∈ heads, PlainSegment segment) :
    ∀ letter ∈ joined heads, PlainLetter letter ∧ letter ≠ '?' := by
  intro letter member
  obtain ⟨segment, inside, among⟩ := List.mem_flatMap.mp member
  rcases List.mem_cons.mp among with rfl | behind
  · exact ⟨⟨by decide, by decide⟩, by decide⟩
  · have path := ((plain segment inside).letters letter behind).1
    refine ⟨plain_of_path path, ?_⟩
    rintro rfl
    revert path
    decide

theorem joined_slash_letters (plain : ∀ segment ∈ heads, PlainSegment segment) :
    ∀ letter ∈ joined heads ++ ['/'], PlainLetter letter ∧ letter ≠ '?' := by
  intro letter member
  rcases List.mem_append.mp member with before | slash
  · exact joined_letters plain letter before
  · rw [List.mem_singleton.mp slash]
    exact ⟨⟨by decide, by decide⟩, by decide⟩

theorem joined_last (heads : List Text) (last : Text) :
    joined (heads ++ [last]) = joined heads ++ '/' :: last := by
  simp [joined]

/-- A URL whose end is sent as it is, behind segments that are left alone. -/
theorem request_target_same (plain : ∀ segment ∈ heads, PlainSegment segment)
    (absent : '/' ∉ last) (sent : SentAsIs last)
    (dots : isSingleDot (inPath last) = false ∧ isDoubleDot (inPath last) = false) :
    requestTarget (joined heads ++ '/' :: last) = joined heads ++ '/' :: last := by
  have front := joined_slash_letters plain
  have segments : ∀ segment ∈ heads ++ [inPath last], PlainSegment segment := by
    intro segment member
    rcases List.mem_append.mp member with before | own
    · exact plain segment before
    · rw [List.mem_singleton.mp own]
      refine ⟨fun letter inside => ?_, dots⟩
      refine ⟨(sent.path letter inside).1, ?_, (sent.path letter inside).2⟩
      rintro rfl
      exact absent ((List.takeWhile_sublist _).mem inside)
  have shape : joined heads ++ '/' :: last = joined heads ++ ['/'] ++ last := by simp
  have parts := parts_of_plain (fun member => (front '?' member).2 rfl) last
  have same : withoutFragment (joined heads ++ '/' :: last) = joined heads ++ '/' :: last := by
    rw [shape, without_fragment_front fun letter member => (front letter member).1,
      without_fragment_same sent.plain]
  have path : joined heads ++ ['/'] ++ inPath last = joined (heads ++ [inPath last]) := by
    rw [joined_last]
    simp
  unfold requestTarget
  rw [same, shape, parts.1, parts.2, path, path_target_same (by simp) segments,
    encoded_same sent.query, ← path, List.append_assoc, in_path_in_query]

theorem sent_of_parts {segment query : Text} (path : PlainSegment segment)
    (letters : ∀ letter ∈ query, queryEncodes letter = false)
    (marked : query = [] ∨ ∃ more, query = '?' :: more) : SentAsIs (segment ++ query) := by
  have noMark : '?' ∉ segment := by
    intro member
    exact absurd (path.letters '?' member).1 (by decide)
  have ends := parts_of_plain noMark query
  have begins := parts_of_query marked
  rw [begins.1, List.append_nil, begins.2] at ends
  constructor
  · intro letter member
    rw [ends.1] at member
    exact ⟨(path.letters letter member).1, (path.letters letter member).2.2⟩
  · intro letter member
    rw [ends.2] at member
    exact letters letter member
  · intro _
    rw [ends.1]
    exact path.dots

theorem query_letters (absent : '/' ∉ last) {letter : Char}
    (member : letter ∈ encodedWith queryEncodes (inQuery (withoutFragment last))) :
    queryEncodes letter = false ∧ letter ≠ '/' := by
  obtain ⟨kept, written⟩ := query_encoded member
  refine ⟨kept, ?_⟩
  by_cases read : letter ∈ inQuery (withoutFragment last)
  · rintro rfl
    have inside := (List.dropWhile_sublist _).mem read
    have filtered := (List.takeWhile_sublist _).mem inside
    exact absent (List.mem_of_mem_filter filtered)
  · exact written read

theorem sent_of_target (plain : ∀ segment ∈ heads, PlainSegment segment) (absent : '/' ∉ last)
    {front : Text} (target : requestTarget (joined heads ++ '/' :: last) = front ++ '/' :: last) :
    SentAsIs last := by
  have begins := joined_slash_letters plain
  have shape : joined heads ++ '/' :: last = joined heads ++ ['/'] ++ last := by simp
  have cut : withoutFragment (joined heads ++ '/' :: last) =
      joined heads ++ ['/'] ++ withoutFragment last := by
    rw [shape, without_fragment_front fun letter member => (begins letter member).1]
  have parts := parts_of_plain (fun member => (begins '?' member).2 rfl) (withoutFragment last)
  have letters := fun letter => @query_letters last absent letter
  have marked := query_begins (withoutFragment last)
  have clean := fun segment member => @resolved_letters (joined heads ++ ['/'] ++
    inPath (withoutFragment last)) segment member
  unfold requestTarget at target
  rw [cut, parts.1, parts.2] at target
  unfold pathTarget at target
  generalize encodedWith queryEncodes _ = query at target letters marked
  generalize resolveDots [] _ = segments at target clean
  -- a slash in the query would be one of the end
  have noSlash : '/' ∉ query := fun member => (letters '/' member).2 rfl
  rcases List.append_eq_append_iff.mp target with ⟨more, _, behind⟩ | ⟨more, joins, behind⟩
  · exact absurd (by rw [behind]; simp) noSlash
  · cases more with
    | nil => exact absurd (by rw [← show '/' :: last = query from behind]; simp) noSlash
    | cons slash segment =>
        obtain ⟨rfl, whole⟩ := List.cons.inj behind
        rw [whole] at absent ⊢
        have inside := last_segment
          (fun other member among => ((clean other member).1 '/' among).2.1 rfl)
          (fun member => absent (List.mem_append_left _ member)) joins
        obtain ⟨path, dots⟩ := clean segment inside
        exact sent_of_parts ⟨path, dots⟩ (fun letter member => (letters letter member).1) marked

theorem target_letters (url : Text) :
    ∀ letter ∈ requestTarget url, isEncodedAnywhere letter = false := by
  intro letter member
  have weaker : ∀ {more : Bool}, (isEncodedAnywhere letter || more) = false →
      isEncodedAnywhere letter = false := fun none' => (Bool.or_eq_false_iff.mp none').1
  rcases List.mem_append.mp member with path | query
  · obtain ⟨segment, inside, among⟩ := List.mem_flatMap.mp path
    rcases List.mem_cons.mp among with rfl | behind
    · decide
    · exact weaker ((resolved_letters inside).1 letter behind).1
  · exact weaker (query_encoded query).1

theorem append_last {text : Text} (slash : '/' ∈ text) :
    ∃ front last, text = front ++ '/' :: last ∧ '/' ∉ last := by
  obtain ⟨last, front, reversed, clean⟩ :=
    List.eq_append_cons_of_mem (List.mem_reverse.mpr slash)
  refine ⟨front.reverse, last.reverse, ?_, ?_⟩
  · rw [← List.reverse_reverse text, reversed]
    simp
  · rw [List.mem_reverse]
    exact clean

theorem no_mark {text : Text} (path : ∀ letter ∈ text, pathEncodes letter = false) : '?' ∉ text := by
  intro member
  exact absurd (path '?' member) (by decide)

theorem sent_append (text : Text) {tail : Text} (path : ∀ letter ∈ tail,
    pathEncodes letter = false ∧ letter ≠ '\\') (query : ∀ letter ∈ tail, queryEncodes letter = false) :
    SentAsIs (text ++ tail) ↔ SentAsIs text := by
  have unmarked := no_mark fun letter member => (path letter member).1
  by_cases mark : '?' ∈ text
  · obtain ⟨front, rest, rfl, clean⟩ := List.eq_append_cons_of_mem mark
    have own := parts_of_plain clean ('?' :: rest)
    have whole := parts_of_plain clean ('?' :: (rest ++ tail))
    have shape : front ++ '?' :: rest ++ tail = front ++ '?' :: (rest ++ tail) := by simp
    have empty : inPath ('?' :: (rest ++ tail)) = inPath ('?' :: rest) := rfl
    have behind : inQuery ('?' :: (rest ++ tail)) = inQuery ('?' :: rest) ++ tail := rfl
    rw [empty] at whole
    rw [behind] at whole
    constructor
    · rintro ⟨onPath, onQuery, dots⟩
      rw [shape, whole.1, ← own.1] at onPath dots
      rw [shape, whole.2, ← own.2] at onQuery
      exact ⟨onPath, fun letter member => onQuery letter (List.mem_append_left _ member),
        fun _ => dots (by simp)⟩
    · rintro ⟨onPath, onQuery, dots⟩
      rw [own.1, ← whole.1, ← shape] at onPath dots
      rw [own.2] at onQuery
      refine ⟨onPath, ?_, fun _ => dots mark⟩
      rw [shape, whole.2]
      intro letter member
      rcases List.mem_append.mp member with inside | late
      · exact onQuery letter inside
      · exact query letter late
  · have all : '?' ∉ text ++ tail := by
      intro member
      exact (List.mem_append.mp member).elim mark unmarked
    have own := parts_of_plain mark []
    have whole := parts_of_plain all []
    rw [List.append_nil] at own whole
    have ownPath : inPath text = text := own.1.trans (List.append_nil text)
    have wholePath : inPath (text ++ tail) = text ++ tail := whole.1.trans (List.append_nil _)
    constructor
    · intro sent
      refine ⟨?_, ?_, fun member => absurd member mark⟩
      · rw [ownPath]
        intro letter member
        exact sent.path letter (by rw [wholePath]; exact List.mem_append_left _ member)
      · rw [own.2]
        exact fun _ member => absurd member List.not_mem_nil
    · intro sent
      refine ⟨?_, ?_, fun member => absurd member all⟩
      · rw [wholePath]
        intro letter member
        rcases List.mem_append.mp member with inside | late
        · exact sent.path letter (by rw [ownPath]; exact inside)
        · exact path letter late
      · rw [whole.2]
        exact fun _ member => absurd member List.not_mem_nil

theorem digit_plain {letter : Char} (digit : letter.isDigit = true) :
    pathEncodes letter = false ∧ letter ≠ '\\' ∧ queryEncodes letter = false := by
  have bounds : 48 ≤ letter.toNat ∧ letter.toNat ≤ 57 := by
    unfold Char.isDigit at digit
    rw [Bool.and_eq_true, decide_eq_true_iff, decide_eq_true_iff] at digit
    exact digit
  rw [← Char.ofNat_toNat letter]
  generalize letter.toNat = code at bounds
  obtain ⟨low, high⟩ := bounds
  interval_cases code <;> decide

theorem no_dots {segment : Text} {letter : Char} (member : letter ∈ segment)
    (other : letter.toLower ∉ ['.', '%', '2', 'e']) :
    isSingleDot segment = false ∧ isDoubleDot segment = false := by
  have inside : letter.toLower ∈ segment.map Char.toLower := List.mem_map_of_mem member
  unfold isSingleDot isDoubleDot
  rw [decide_eq_false_iff_not, decide_eq_false_iff_not]
  generalize segment.map Char.toLower = lowered at inside
  simp only [List.mem_cons, List.not_mem_nil, or_false] at other ⊢
  constructor
  · rintro (rfl | rfl) <;> simp_all
  · rintro (rfl | rfl | rfl | rfl) <;> simp_all

end Urls

end Viridity.RequestTargets
