import Mathlib.Data.List.Infix

/-!
# Searching a list for another

The first occurrence of a needle, and texts in which no occurrence of the needle
begins even if the needle follows.
-/

namespace Viridity.SubstringSearch

set_option autoImplicit false

variable {Letter : Type}

def indexOf [DecidableEq Letter] (needle : List Letter) : List Letter → Option Nat
  | [] => if needle = [] then some 0 else none
  | first :: rest =>
      if needle.isPrefixOf (first :: rest) then some 0
      else (indexOf needle rest).map fun position => position + 1

theorem index_none_iff [DecidableEq Letter] (needle text : List Letter) :
    indexOf needle text = none ↔ ¬ needle <:+: text := by
  induction text with
  | nil =>
      unfold indexOf
      simp
  | cons first rest induction =>
      unfold indexOf
      rw [List.infix_cons_iff]
      split_ifs with starts
      · simp [List.isPrefixOf_iff_prefix.mp starts]
      · have absent : ¬ needle <+: first :: rest := by
          intro starts'
          exact starts (List.isPrefixOf_iff_prefix.mpr starts')
        simp [absent, induction]

/-- No occurrence of the needle begins in the text, whatever part of it follows. -/
def EndsBefore (needle text : List Letter) : Prop := ¬ needle <:+: text ++ needle.dropLast

theorem ends_before_suffix {needle text tail : List Letter} (suffix : tail <:+ text)
    (ends : EndsBefore needle text) : EndsBefore needle tail := by
  intro occurs
  apply ends
  obtain ⟨front, rfl⟩ := suffix
  rw [List.append_assoc]
  exact occurs.trans (List.suffix_append front _).isInfix

theorem index_append [DecidableEq Letter] {needle text : List Letter} (nonempty : needle ≠ [])
    (ends : EndsBefore needle text) (rest : List Letter) :
    indexOf needle (text ++ needle ++ rest) = some text.length := by
  induction text with
  | nil =>
      cases needle with
      | nil => exact absurd rfl nonempty
      | cons first others =>
          have starts : (first :: others) <+: first :: (others ++ rest) :=
            List.prefix_append (first :: others) rest
          simp [indexOf]
  | cons first text induction =>
      have absent : ¬ needle <+: first :: (text ++ needle ++ rest) := by
        intro starts
        apply ends
        have short : (first :: text) ++ needle.dropLast <+: first :: (text ++ needle ++ rest) := by
          refine ⟨[needle.getLast nonempty] ++ rest, ?_⟩
          have whole := List.dropLast_append_getLast nonempty
          calc first :: text ++ needle.dropLast ++ ([needle.getLast nonempty] ++ rest)
              = first :: text ++ (needle.dropLast ++ [needle.getLast nonempty]) ++ rest := by simp
            _ = first :: (text ++ needle ++ rest) := by rw [whole]; simp
        have within : needle <+: (first :: text) ++ needle.dropLast := by
          apply List.prefix_of_prefix_length_le starts short
          simp only [List.length_append, List.length_cons, List.length_dropLast]
          omega
        exact within.isInfix
      have later := induction (ends_before_suffix (List.suffix_cons first text) ends)
      simp only [List.cons_append, indexOf]
      rw [if_neg (by rw [List.isPrefixOf_iff_prefix]; exact absent)]
      rw [later]
      rfl

theorem infix_separated {needle front back : List Letter} {separator : Letter}
    (outside : separator ∉ needle) :
    needle <:+: front ++ separator :: back ↔ needle <:+: front ∨ needle <:+: back := by
  constructor
  · rintro ⟨before, after, split⟩
    rw [List.append_assoc, List.append_eq_append_iff] at split
    rcases split with ⟨middle, prefixed, remaining⟩ | ⟨middle, prefixed, remaining⟩
    · -- the needle begins in front of the separator
      rw [List.append_eq_append_iff] at remaining
      rcases remaining with ⟨inner, whole, _⟩ | ⟨inner, whole, tail⟩
      · left
        exact ⟨before, inner, by rw [prefixed, whole, List.append_assoc]⟩
      · cases inner with
        | nil =>
            left
            rw [List.append_nil] at whole
            exact ⟨before, [], by rw [prefixed, whole]; simp⟩
        | cons letter inner =>
            simp only [List.cons_append, List.cons.injEq] at tail
            apply absurd _ outside
            rw [whole, tail.1]
            simp
    · cases middle with
      | nil =>
          simp only [List.nil_append] at remaining
          cases needle with
          | nil =>
              left
              exact List.nil_infix
          | cons letter needle =>
              simp only [List.cons_append, List.cons.injEq] at remaining
              exact absurd (by simp [remaining.1]) outside
      | cons letter middle =>
          simp only [List.cons_append, List.cons.injEq] at remaining
          right
          exact ⟨middle, after, by rw [remaining.2, List.append_assoc]⟩
  · rintro (occurs | occurs)
    · exact occurs.trans (List.prefix_append _ _).isInfix
    · exact occurs.trans ((List.suffix_cons separator back).trans
        (List.suffix_append front _)).isInfix

theorem ends_before_separated {needle front back : List Letter} {separator : Letter}
    (outside : separator ∉ needle) (absent : ¬ needle <:+: front)
    (ends : EndsBefore needle back) : EndsBefore needle (front ++ separator :: back) := by
  intro occurs
  rw [List.append_assoc, List.cons_append, infix_separated outside] at occurs
  cases occurs with
  | inl occurs => exact absent occurs
  | inr occurs => exact ends occurs

theorem ends_before_run {needle : List Letter} {letter other : Letter} (member : other ∈ needle)
    (differs : other ≠ letter) (count : Nat) :
    EndsBefore needle (List.replicate count letter) := by
  classical
  rintro ⟨before, after, split⟩
  have lengths := congrArg List.length split
  have positive : 0 < needle.length := List.length_pos_of_mem member
  have found := congrArg (List.findIdx fun candidate => candidate ≠ letter) split
  have within : needle.findIdx (fun candidate => candidate ≠ letter) < needle.length := by
    apply List.findIdx_lt_length_of_exists
    exact ⟨other, member, by simpa using differs⟩
  have left : (before ++ needle ++ after).findIdx (fun candidate => candidate ≠ letter) ≤
      before.length + needle.findIdx (fun candidate => candidate ≠ letter) := by
    rw [List.append_assoc, List.findIdx_append]
    split_ifs with early
    · omega
    · rw [List.findIdx_append, if_pos within]
      omega
  have run : (List.replicate count letter).findIdx (fun candidate => candidate ≠ letter) =
      count := by
    rw [List.findIdx_eq_length_of_false (by simp +contextual), List.length_replicate]
  have shorter : needle.findIdx (fun candidate => candidate ≠ letter) ≤
      needle.dropLast.findIdx (fun candidate => candidate ≠ letter) := by
    rcases List.eq_nil_or_concat needle with rfl | ⟨front, final, rfl⟩
    · simp
    · rw [List.concat_eq_append, List.dropLast_concat, List.findIdx_append]
      split_ifs with early
      · omega
      · have := @List.findIdx_le_length _ (fun candidate => candidate ≠ letter) front
        have single : [final].findIdx (fun candidate => candidate ≠ letter) ≤ 1 :=
          List.findIdx_le_length
        rw [List.concat_eq_append, List.findIdx_append, if_neg early] at within
        simp only [List.length_append, List.length_singleton] at within
        omega
  have right : (List.replicate count letter ++ needle.dropLast).findIdx
      (fun candidate => candidate ≠ letter) =
        needle.dropLast.findIdx (fun candidate => candidate ≠ letter) + count := by
    rw [List.findIdx_append, if_neg (by rw [run]; simp), List.length_replicate]
  simp only [List.length_append, List.length_replicate, List.length_dropLast] at lengths
  omega

end Viridity.SubstringSearch
