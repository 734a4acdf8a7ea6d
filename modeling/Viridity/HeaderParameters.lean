import Viridity.FileUpload

/-!
# Parameters of a Content-Disposition

A disposition is written down from its parameters. The handler looks for the last place at
which a key stands, and takes everything up to the next quote: under a condition on the
parameters behind, that is the value which the parameter was given.
-/

namespace Viridity.HeaderParameters

open Viridity.FileUpload

set_option autoImplicit false

/-- White space may stand around the semicolon. -/
structure Parameter where
  before : List Char
  gap : List Char
  token : List Char
  value : List Char
  quoted : Bool
deriving DecidableEq

def Parameter.valueText (parameter : Parameter) : List Char :=
  if parameter.quoted then '"' :: (parameter.value ++ ['"']) else parameter.value

def Parameter.text (parameter : Parameter) : List Char :=
  parameter.before ++
    ';' :: (parameter.gap ++ (parameter.token ++ '=' :: parameter.valueText))

/-- `form-data; name="…"; filename="…"`. -/
structure Disposition where
  kind : List Char
  parameters : List Parameter
deriving DecidableEq

def Disposition.text (disposition : Disposition) : List Char :=
  disposition.kind ++ disposition.parameters.flatMap Parameter.text

def Parameter.isNamed (key : List Char) (parameter : Parameter) : Bool :=
  equalsIgnoringCase parameter.token key

def Disposition.value (disposition : Disposition) (key : List Char) : List Char :=
  ((disposition.parameters.find? (Parameter.isNamed key)).map Parameter.value).getD []

structure Parameter.WellFormed (parameter : Parameter) : Prop where
  gap : ∀ letter ∈ parameter.gap, isSpace letter = true
  noQuote : '"' ∉ parameter.value

structure Disposition.WellFormed (disposition : Disposition) : Prop where
  parameters : ∀ parameter ∈ disposition.parameters, parameter.WellFormed
  named : ∀ key ∈ [nameKey, fileNameKey],
    ∃ parameter ∈ disposition.parameters, parameter.isNamed key = true

/-- A text that begins with white space or a semicolon, a key with its equals sign, and a
letter of a value, which may be in quotes. -/
def KeyPlace (key text : List Char) : Prop :=
  ∃ separator marker quote letter rest,
    text = separator :: (marker ++ (quote ++ letter :: rest)) ∧
    (isSpace separator = true ∨ separator = ';') ∧
    equalsIgnoringCase marker (key ++ ['=']) = true ∧ (quote = [] ∨ quote = ['"']) ∧ letter ≠ '"'

def NoKeyPlace (key text : List Char) : Prop := ∀ suffix, suffix <:+ text → ¬ KeyPlace key suffix

/-- The parameters of a key are in quotes or come last, and no place of the key comes behind
their own: not in the value, and not in the parameters behind it. A value that is empty leaves
no place of its own, so that there is none at all. -/
structure ReadsBack (key : List Char) (disposition : Disposition) : Prop where
  ends : ∀ front parameter behind, disposition.parameters = front ++ parameter :: behind →
    parameter.isNamed key = true → parameter.quoted = true ∨ behind = []
  last : ∀ front parameter behind, disposition.parameters = front ++ parameter :: behind →
    parameter.isNamed key = true → NoKeyPlace key
      (parameter.token ++ '=' :: (parameter.valueText ++ behind.flatMap Parameter.text))
  empty : ∀ parameter ∈ disposition.parameters, parameter.isNamed key = true →
    parameter.value = [] → NoKeyPlace key disposition.text

/-- A name that `sanitizeFileName` has nothing to take from. -/
def CleanName (name : List Char) : Prop :=
  (∀ letter ∈ name, letter ∉ strippedCharacters) ∧ simplified name = name

theorem sanitize_clean {name : List Char} (clean : CleanName name) :
    sanitizeFileName name = name := by
  unfold sanitizeFileName
  rw [List.filter_eq_self.mpr (by simpa using clean.1), clean.2]

section Places

variable {key : List Char}

theorem captured_letter {text value : List Char}
    (found : (if ((if text.head? = some '"' then text.tail else text).takeWhile
        fun letter => letter ≠ '"') = [] then none
      else some ((if text.head? = some '"' then text.tail else text).takeWhile
        fun letter => letter ≠ '"')) = some value) :
    ∃ quote letter rest, text = quote ++ letter :: rest ∧ (quote = [] ∨ quote = ['"']) ∧
      letter ≠ '"' := by
  have begins : ∀ rest : List Char, rest.takeWhile (fun letter => letter ≠ '"') ≠ [] →
      ∃ letter others, rest = letter :: others ∧ letter ≠ '"' := by
    intro rest captured
    cases rest with
    | nil => exact absurd rfl captured
    | cons letter others =>
        refine ⟨letter, others, rfl, ?_⟩
        rintro rfl
        exact captured rfl
  by_cases quoted : text.head? = some '"'
  · obtain ⟨behind, rfl⟩ := List.head?_eq_some_iff.mp quoted
    rw [if_pos quoted, List.tail_cons] at found
    split_ifs at found with captured
    obtain ⟨letter, rest, rfl, differs⟩ := begins behind captured
    exact ⟨['"'], letter, rest, rfl, Or.inr rfl, differs⟩
  · rw [if_neg quoted] at found
    split_ifs at found with captured
    obtain ⟨letter, rest, rfl, differs⟩ := begins text captured
    exact ⟨[], letter, rest, rfl, Or.inl rfl, differs⟩

/-- The handler finds a value only where a key stands. -/
theorem sub_value_place {text value : List Char} (found : subValueHere key text = some value) :
    KeyPlace key text := by
  cases text with
  | nil => cases found
  | cons separator rest =>
      unfold subValueHere at found
      dsimp only at found
      by_cases here : ((isSpace separator || decide (separator = ';')) &&
          equalsIgnoringCase (rest.take (key.length + 1)) (key ++ ['='])) = true
      · have whole := List.take_append_drop (key.length + 1) rest
        rw [if_pos here] at found
        simp only [Bool.and_eq_true, Bool.or_eq_true, decide_eq_true_eq] at here
        obtain ⟨behind, marked⟩ := here
        generalize rest.take (key.length + 1) = marker at *
        generalize rest.drop (key.length + 1) = others at *
        obtain ⟨quote, letter, more, rfl, quotes, differs⟩ := captured_letter found
        exact ⟨separator, marker, quote, letter, more, by rw [whole], behind, marked, quotes, differs⟩
      · rw [if_neg here] at found
        cases found

theorem last_append (front : List Char) {text value : List Char}
    (found : lastSubValue key text = some value) : lastSubValue key (front ++ text) = some value := by
  induction front with
  | nil => exact found
  | cons letter front induction =>
      rw [List.cons_append, lastSubValue, induction]

theorem place_sub_value {text : List Char} (place : KeyPlace key text) :
    ∃ value, subValueHere key text = some value := by
  obtain ⟨separator, marker, quote, letter, rest, rfl, behind, marked, quotes, differs⟩ := place
  have length : marker.length = key.length + 1 := by
    unfold equalsIgnoringCase at marked
    rw [decide_eq_true_eq] at marked
    have lengths := congrArg List.length marked
    rwa [List.length_map, List.length_map, List.length_append, List.length_singleton] at lengths
  have taken : (marker ++ (quote ++ letter :: rest)).take (key.length + 1) = marker := by
    rw [← length, List.take_left]
  have dropped : (marker ++ (quote ++ letter :: rest)).drop (key.length + 1) =
      quote ++ letter :: rest := by
    rw [← length, List.drop_left]
  have here : ((isSpace separator || decide (separator = ';')) &&
      equalsIgnoringCase marker (key ++ ['='])) = true := by
    rw [marked, Bool.and_true, Bool.or_eq_true, decide_eq_true_eq]
    exact behind
  have captured : (letter :: rest).takeWhile (fun other => other ≠ '"') ≠ [] := by
    rw [List.takeWhile_cons_of_pos (by simpa using differs)]
    exact List.cons_ne_nil _ _
  unfold subValueHere
  dsimp only
  rw [taken, dropped, if_pos here]
  rcases quotes with rfl | rfl
  · have open' : (letter :: rest).head? ≠ some '"' := by
      rw [List.head?_cons]
      exact fun same => differs (Option.some.inj same)
    rw [List.nil_append, if_neg open', if_neg captured]
    exact ⟨_, rfl⟩
  · rw [List.cons_append, List.nil_append, List.head?_cons, if_pos rfl, List.tail_cons,
      if_neg captured]
    exact ⟨_, rfl⟩

theorem no_key_place_iff {text : List Char} :
    NoKeyPlace key text ↔ lastSubValue key text = none := by
  constructor
  · intro none'
    induction text with
    | nil => rfl
    | cons letter rest induction =>
        have later := induction fun suffix member =>
          none' suffix (member.trans (List.suffix_cons _ _))
        have here : subValueHere key (letter :: rest) = none := by
          by_contra some'
          obtain ⟨value, found⟩ := Option.ne_none_iff_exists'.mp some'
          exact none' _ List.suffix_rfl (sub_value_place found)
        unfold lastSubValue
        rw [later]
        exact here
  · rintro nothing suffix ⟨front, rfl⟩ place
    have found : ∃ value, lastSubValue key suffix = some value := by
      obtain ⟨value, here⟩ := place_sub_value place
      cases suffix with
      | nil => cases here
      | cons letter rest =>
          cases later : lastSubValue key rest with
          | some other => exact ⟨other, by rw [lastSubValue, later]⟩
          | none => exact ⟨value, by rw [lastSubValue, later]; exact here⟩
    obtain ⟨value, found⟩ := found
    rw [last_append front found] at nothing
    cases nothing

end Places

section Values

variable {key : List Char} {disposition : Disposition} {front behind : List Parameter}
  {parameter : Parameter}

theorem key_length (named : parameter.isNamed key = true) : parameter.token.length = key.length := by
  unfold Parameter.isNamed equalsIgnoringCase at named
  rw [decide_eq_true_eq] at named
  have lengths := congrArg List.length named
  rwa [List.length_map, List.length_map] at lengths

theorem take_value {value rest : List Char} (noQuote : '"' ∉ value) :
    (value ++ '"' :: rest).takeWhile (fun letter => letter ≠ '"') = value ∧
      value.takeWhile (fun letter => letter ≠ '"') = value := by
  have plain : ∀ letter ∈ value, decide (letter ≠ '"') = true := by
    intro letter member
    rw [decide_eq_true_eq]
    rintro rfl
    exact noQuote member
  constructor
  · rw [List.takeWhile_append_of_pos plain]
    simp
  · have whole := @List.takeWhile_append_of_pos _ (fun letter => letter ≠ '"') value [] plain
    simpa using whole

theorem own_value (wellFormed : parameter.WellFormed) (named : parameter.isNamed key = true)
    {separator : Char} (separates : isSpace separator = true ∨ separator = ';')
    (some' : parameter.value ≠ []) {rest : List Char}
    (ends : parameter.quoted = true ∨ rest = []) :
    subValueHere key (separator :: (parameter.token ++ '=' :: (parameter.valueText ++ rest))) =
      some parameter.value := by
  have length := key_length named
  have taken : (parameter.token ++ '=' :: (parameter.valueText ++ rest)).take (key.length + 1) =
      parameter.token ++ ['='] := by
    rw [← length, List.take_append]
    simp
  have dropped : (parameter.token ++ '=' :: (parameter.valueText ++ rest)).drop (key.length + 1) =
      parameter.valueText ++ rest := by
    rw [← length, List.drop_append]
    simp
  have same : equalsIgnoringCase (parameter.token ++ ['=']) (key ++ ['=']) = true := by
    unfold Parameter.isNamed equalsIgnoringCase at *
    rw [decide_eq_true_eq] at *
    rw [List.map_append, List.map_append, named]
  have here : ((isSpace separator || decide (separator = ';')) &&
      equalsIgnoringCase (parameter.token ++ ['=']) (key ++ ['='])) = true := by
    rw [same, Bool.and_true, Bool.or_eq_true, decide_eq_true_eq]
    exact separates
  have captured := @take_value parameter.value rest wellFormed.noQuote
  unfold subValueHere
  dsimp only
  rw [taken, dropped, if_pos here]
  cases quoted : parameter.quoted with
  | true =>
      have shape : parameter.valueText ++ rest = '"' :: (parameter.value ++ '"' :: rest) := by
        simp [Parameter.valueText, quoted]
      rw [shape, List.head?_cons, if_pos rfl, List.tail_cons, captured.1, if_neg some']
  | false =>
      have nothing : rest = [] := ends.resolve_left (by rw [quoted]; decide)
      have shape : parameter.valueText ++ rest = parameter.value := by
        simp [Parameter.valueText, quoted, nothing]
      have open' : parameter.value.head? ≠ some '"' := by
        intro first
        obtain ⟨others, whole⟩ := List.head?_eq_some_iff.mp first
        exact wellFormed.noQuote (by rw [whole]; exact List.mem_cons_self)
      rw [shape, if_neg open', captured.2, if_neg some']

/-- In front of the token stands the semicolon, or the last of the white space behind it. -/
theorem own_place (wellFormed : parameter.WellFormed) :
    ∃ separator front, (isSpace separator = true ∨ separator = ';') ∧
      parameter.text =
        front ++ separator :: (parameter.token ++ '=' :: parameter.valueText) := by
  rcases List.eq_nil_or_concat' parameter.gap with none' | ⟨gap, last, whole⟩
  · refine ⟨';', parameter.before, Or.inr rfl, ?_⟩
    unfold Parameter.text
    rw [none', List.nil_append]
  · refine ⟨last, parameter.before ++ ';' :: gap, Or.inl ?_, ?_⟩
    · exact wellFormed.gap last (by rw [whole]; exact List.mem_append_right _ List.mem_cons_self)
    · unfold Parameter.text
      rw [whole]
      simp

theorem read_parameter (wellFormed : parameter.WellFormed) (reads : ReadsBack key disposition)
    (parameters : disposition.parameters = front ++ parameter :: behind)
    (named : parameter.isNamed key = true) :
    readSubValueFromHeaderValue key disposition.text = parameter.value := by
  obtain ⟨separator, before, separates, text⟩ := own_place wellFormed
  have shape : disposition.text =
      (disposition.kind ++ (front.flatMap Parameter.text ++ before)) ++
        separator :: (parameter.token ++
          '=' :: (parameter.valueText ++ behind.flatMap Parameter.text)) := by
    unfold Disposition.text
    rw [parameters, List.flatMap_append, List.flatMap_cons, text]
    simp
  unfold readSubValueFromHeaderValue
  by_cases some' : parameter.value = []
  · have member : parameter ∈ disposition.parameters := by
      rw [parameters]
      exact List.mem_append_right _ List.mem_cons_self
    rw [no_key_place_iff.mp (reads.empty parameter member named some'), some']
    rfl
  · have ends : parameter.quoted = true ∨ behind.flatMap Parameter.text = [] :=
      (reads.ends front parameter behind parameters named).imp_right fun none' => by rw [none']; rfl
    have here := own_value wellFormed named separates some' ends
    have later := no_key_place_iff.mp (reads.last front parameter behind parameters named)
    have found : lastSubValue key (separator :: (parameter.token ++
        '=' :: (parameter.valueText ++ behind.flatMap Parameter.text))) = some parameter.value := by
      unfold lastSubValue
      rw [later]
      exact here
    rw [shape, last_append _ found]
    rfl

/-- Under the condition the handler reads what the disposition gives for the key. -/
theorem read_value (wellFormed : disposition.WellFormed) (known : key ∈ [nameKey, fileNameKey])
    (reads : ReadsBack key disposition) :
    readSubValueFromHeaderValue key disposition.text = disposition.value key := by
  obtain ⟨named, member, isNamed⟩ := wellFormed.named key known
  unfold Disposition.value
  cases found : disposition.parameters.find? (Parameter.isNamed key) with
  | none => exact absurd isNamed (List.find?_eq_none.mp found named member)
  | some parameter =>
      obtain ⟨isNamed', front, behind, parameters, _⟩ := List.find?_eq_some_iff_append.mp found
      have proper := wellFormed.parameters parameter (List.mem_of_find?_eq_some found)
      exact read_parameter proper reads parameters isNamed'

variable (front) in
theorem reads_back_alone (parameters : disposition.parameters = front ++ parameter :: behind)
    (alone : ∀ other ∈ front ++ behind, other.isNamed key = false)
    (ends : parameter.quoted = true ∨ behind = []) (some' : parameter.value ≠ [])
    (later : lastSubValue key
      (parameter.token ++ '=' :: (parameter.valueText ++ behind.flatMap Parameter.text)) = none) :
    ReadsBack key disposition := by
  have only : ∀ front' parameter' behind', disposition.parameters =
      front' ++ parameter' :: behind' → parameter'.isNamed key = true →
        parameter' = parameter ∧ behind' = behind := by
    intro front' parameter' behind' same named
    rw [parameters] at same
    rcases List.append_eq_append_iff.mp same with ⟨more, whole, rest⟩ | ⟨more, whole, rest⟩
    · cases more with
      | nil =>
          cases rest
          exact ⟨rfl, rfl⟩
      | cons first more =>
          cases rest
          have other := alone parameter' (by simp)
          rw [named] at other
          cases other
    · cases more with
      | nil =>
          cases rest
          exact ⟨rfl, rfl⟩
      | cons first more =>
          cases rest
          have other := alone parameter' (by rw [whole]; simp)
          rw [named] at other
          cases other
  constructor
  · intro front' parameter' behind' same named
    obtain ⟨rfl, rfl⟩ := only front' parameter' behind' same named
    exact ends
  · intro front' parameter' behind' same named
    obtain ⟨rfl, rfl⟩ := only front' parameter' behind' same named
    exact no_key_place_iff.mpr later
  · intro parameter' member named empty
    obtain ⟨front', behind', same⟩ := List.append_of_mem member
    obtain ⟨rfl, -⟩ := only front' parameter' behind' same named
    exact absurd empty some'

end Values

end Viridity.HeaderParameters
