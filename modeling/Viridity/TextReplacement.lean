import Mathlib.Data.List.Infix

/-!
# Replacing a text in another

All occurrences of a needle are replaced from left to right. What is inserted is not searched
again, and a part in which no occurrence begins stays as it is.
-/

namespace Viridity.TextReplacement

set_option autoImplicit false

variable {Letter : Type} [DecidableEq Letter]

/-- Replaces the needle behind a number of letters that are dropped. -/
def replaceFrom (needle replacement : List Letter) : Nat → List Letter → List Letter
  | _, [] => []
  | skipped + 1, _ :: rest => replaceFrom needle replacement skipped rest
  | 0, first :: rest =>
      if needle.isPrefixOf (first :: rest) then
        replacement ++ replaceFrom needle replacement (needle.length - 1) rest
      else first :: replaceFrom needle replacement 0 rest

def replaceAll (needle replacement text : List Letter) : List Letter :=
  replaceFrom needle replacement 0 text

variable {needle : List Letter} (replacement : List Letter)

@[simp] theorem replace_all_nil : replaceAll needle replacement [] = [] := rfl

theorem replace_from_drop (skipped : Nat) (text : List Letter) :
    replaceFrom needle replacement skipped text =
      replaceAll needle replacement (text.drop skipped) := by
  induction skipped generalizing text with
  | zero => rfl
  | succ skipped induction =>
      cases text with
      | nil => rfl
      | cons first rest => exact induction rest

theorem replace_all_here (nonempty : needle ≠ []) (rest : List Letter) :
    replaceAll needle replacement (needle ++ rest) =
      replacement ++ replaceAll needle replacement rest := by
  obtain ⟨first, others, rfl⟩ := List.exists_cons_of_ne_nil nonempty
  have starts : (first :: others).isPrefixOf (first :: (others ++ rest)) = true :=
    List.isPrefixOf_iff_prefix.mpr (List.prefix_append _ _)
  have cut : (others ++ rest).drop others.length = rest := List.drop_left
  unfold replaceAll
  rw [List.cons_append, replaceFrom, if_pos starts, replace_from_drop, List.length_cons,
    Nat.add_sub_cancel, cut]
  rfl

theorem replace_all_skip {first : Letter} {rest : List Letter}
    (absent : ¬ needle <+: first :: rest) :
    replaceAll needle replacement (first :: rest) =
      first :: replaceAll needle replacement rest := by
  have stops : ¬ needle.isPrefixOf (first :: rest) = true := by
    intro starts
    exact absent (List.isPrefixOf_iff_prefix.mp starts)
  unfold replaceAll
  rw [replaceFrom, if_neg stops]

theorem replace_all_free {front rest : List Letter}
    (free : ∀ before behind : List Letter, before ++ behind = front → behind ≠ [] →
      ¬ needle <+: behind ++ rest) :
    replaceAll needle replacement (front ++ rest) =
      front ++ replaceAll needle replacement rest := by
  induction front with
  | nil => rfl
  | cons first others induction =>
      have absent := free [] (first :: others) rfl (List.cons_ne_nil _ _)
      have later : ∀ before behind : List Letter, before ++ behind = others → behind ≠ [] →
          ¬ needle <+: behind ++ rest := by
        intro before behind parts
        exact free (first :: before) behind (congrArg (List.cons first) parts)
      exact (replace_all_skip replacement absent).trans
        (congrArg (List.cons first) (induction later))

theorem replace_all_absent {text : List Letter} (absent : ¬ needle <:+: text) :
    replaceAll needle replacement text = text := by
  have free := @replace_all_free _ _ needle replacement text [] (by
    intro before behind parts _ starts
    rw [List.append_nil] at starts
    exact absent (starts.isInfix.trans (parts ▸ (List.suffix_append before behind).isInfix)))
  rw [List.append_nil] at free
  rw [free, replace_all_nil, List.append_nil]

/-- The rounds of a replacement, over the text and its result. -/
theorem replace_all_rounds {holds : List Letter → List Letter → Prop} (nonempty : needle ≠ [])
    (nil : holds [] [])
    (skip : ∀ first rest result, ¬ needle <+: first :: rest → holds rest result →
      holds (first :: rest) (first :: result))
    (here : ∀ rest result, holds rest result → holds (needle ++ rest) (replacement ++ result))
    (text : List Letter) : holds text (replaceAll needle replacement text) := by
  induction count : text.length using Nat.strongRecOn generalizing text with
  | ind count induction =>
      subst count
      by_cases starts : needle <+: text
      · obtain ⟨rest, rfl⟩ := starts
        rw [replace_all_here replacement nonempty]
        apply here
        apply induction rest.length _ rest rfl
        have positive := List.length_pos_iff.mpr nonempty
        simp only [List.length_append]
        omega
      · cases text with
        | nil => exact nil
        | cons first rest =>
            rw [replace_all_skip replacement starts]
            exact skip first rest _ starts (induction rest.length (Nat.lt_succ_self _) rest rfl)

section Mark

variable {mark : Letter}

/-- How the result with an inserted mark lies in the text: what stands in it without the mark
stood there before, and the needle is gone. -/
structure Marked (needle : List Letter) (mark : Letter) (text result : List Letter) : Prop where
  starts : ∀ piece : List Letter, mark ∉ piece → piece <+: result → piece <+: text
  occurs : ∀ piece : List Letter, mark ∉ piece → piece <:+: result → piece <:+: text
  gone : ¬ needle <:+: result

omit [DecidableEq Letter] in
theorem not_prefix_mark {piece result : List Letter} (nonempty : piece ≠ [])
    (unmarked : mark ∉ piece) : ¬ piece <+: mark :: result := by
  intro starts
  obtain ⟨letter, others, rfl⟩ := List.exists_cons_of_ne_nil nonempty
  rw [(List.cons_prefix_cons.mp starts).1] at unmarked
  exact unmarked List.mem_cons_self

theorem replaced_marked (nonempty : needle ≠ []) (unmarked : mark ∉ needle)
    (text : List Letter) : Marked needle mark text (replaceAll needle [mark] text) := by
  apply @replace_all_rounds _ _ needle [mark] (Marked needle mark) nonempty
  · exact ⟨fun _ _ starts => starts, fun _ _ occurs => occurs,
      fun occurs => nonempty (List.infix_nil.mp occurs)⟩
  · intro first rest result absent marked
    have starts : ∀ piece : List Letter, mark ∉ piece → piece <+: first :: result →
        piece <+: first :: rest := by
      intro piece without occurs
      cases piece with
      | nil => exact List.nil_prefix
      | cons letter others =>
          rw [List.cons_prefix_cons] at occurs ⊢
          exact ⟨occurs.1, marked.starts others (List.not_mem_of_not_mem_cons without) occurs.2⟩
    refine ⟨starts, ?_, ?_⟩
    · intro piece without occurs
      rw [List.infix_cons_iff] at occurs ⊢
      exact occurs.imp (starts piece without) (marked.occurs piece without)
    · intro occurs
      rw [List.infix_cons_iff] at occurs
      exact occurs.elim (fun here => absent (starts needle unmarked here)) marked.gone
  · intro rest result marked
    refine ⟨?_, ?_, ?_⟩
    · intro piece without occurs
      by_cases empty : piece = []
      · exact empty ▸ List.nil_prefix
      · exact absurd occurs (not_prefix_mark empty without)
    · intro piece without occurs
      by_cases empty : piece = []
      · exact empty ▸ List.nil_infix
      · rw [List.singleton_append, List.infix_cons_iff] at occurs
        have later := occurs.resolve_left (not_prefix_mark empty without)
        exact (marked.occurs piece without later).trans (List.suffix_append needle rest).isInfix
    · intro occurs
      rw [List.singleton_append, List.infix_cons_iff] at occurs
      exact marked.gone (occurs.resolve_left (not_prefix_mark nonempty unmarked))

end Mark

end Viridity.TextReplacement
