import Mathlib.Data.List.Nodup
import Mathlib.Data.List.Induction
import Mathlib.Tactic.Common

/-!
# First occurrences

What is left of a list when each value is kept only where it stands first. A value put in
front of a list, or taken out of it, moves the first occurrences of others.
-/

namespace Viridity.FirstOccurrences

set_option autoImplicit false

variable {Value : Type*} [DecidableEq Value]

def pushNew (seen : List Value) (value : Value) : List Value :=
  if value ∈ seen then seen else seen ++ [value]

theorem erase_dups_concat (values : List Value) (value : Value) :
    (values ++ [value]).eraseDups = pushNew values.eraseDups value := by
  rw [List.eraseDups_append]
  unfold pushNew
  by_cases known : value ∈ values
  · rw [if_pos (List.mem_eraseDups.mpr known)]
    simp [List.removeAll, known]
  · rw [if_neg (fun inside => known (List.mem_eraseDups.mp inside))]
    simp [List.removeAll, known, List.eraseDups_cons]

theorem foldl_push_new (values : List Value) : values.foldl pushNew [] = values.eraseDups := by
  induction values using List.reverseRecOn with
  | nil => rw [List.foldl_nil, List.eraseDups_nil]
  | append_singleton values value induction =>
      rw [List.foldl_append, induction, erase_dups_concat, List.foldl_cons, List.foldl_nil]

theorem erase_dups_nodup (values : List Value) : values.eraseDups.Nodup := by
  induction values using List.reverseRecOn with
  | nil => exact List.nodup_nil
  | append_singleton values value induction =>
      rw [erase_dups_concat]
      unfold pushNew
      split_ifs with known
      · exact induction
      · apply List.nodup_append.mpr
        refine ⟨induction, List.nodup_singleton value, ?_⟩
        intro other member last lastMember same
        rw [List.mem_singleton] at lastMember
        rw [same, lastMember] at member
        exact known member

theorem erase_dups_filter (keeps : Value → Bool) (values : List Value) :
    (values.filter keeps).eraseDups = values.eraseDups.filter keeps := by
  induction values using List.reverseRecOn with
  | nil => rfl
  | append_singleton values value induction =>
      rw [erase_dups_concat, List.filter_append]
      cases kept : keeps value with
      | false =>
          have nothing : [value].filter keeps = [] := by simp [kept]
          rw [nothing, List.append_nil, induction]
          unfold pushNew
          split_ifs
          · exact rfl
          · rw [List.filter_append, nothing, List.append_nil]
      | true =>
          have all : [value].filter keeps = [value] := by simp [kept]
          rw [all, erase_dups_concat, induction]
          unfold pushNew
          by_cases known : value ∈ values.eraseDups
          · rw [if_pos known, if_pos (List.mem_filter.mpr ⟨known, kept⟩)]
          · rw [if_neg known, if_neg (fun inside => known (List.mem_filter.mp inside).1),
              List.filter_append, all]

/-- Values in front of others change nothing exactly if the others begin with them. -/
theorem erase_dups_append_eq_iff (front values : List Value) :
    (front ++ values).eraseDups = values.eraseDups ↔ front.eraseDups <+: values.eraseDups := by
  rw [List.eraseDups_append]
  constructor
  · intro same
    rw [← same]
    exact List.prefix_append _ _
  · intro begins
    obtain ⟨rest, whole⟩ := begins
    have distinct := erase_dups_nodup values
    rw [← whole] at distinct ⊢
    have apart := (List.nodup_append.mp distinct).2.2
    congr 1
    unfold List.removeAll
    rw [erase_dups_filter, ← whole, List.filter_append]
    have gone : front.eraseDups.filter (fun value => !front.elem value) = [] := by
      rw [List.filter_eq_nil_iff]
      intro value member
      simpa using List.mem_eraseDups.mp member
    have stay : rest.filter (fun value => !front.elem value) = rest := by
      rw [List.filter_eq_self]
      intro value member
      have new : value ∉ front := fun known =>
        apart value (List.mem_eraseDups.mpr known) value member rfl
      simpa using new
    rw [gone, stay, List.nil_append]

/-- Behind values that occur already nothing new is kept. -/
theorem erase_dups_append_known {values behind : List Value}
    (known : ∀ value ∈ behind, value ∈ values) :
    (values ++ behind).eraseDups = values.eraseDups := by
  have nothing : behind.removeAll values = [] := by
    unfold List.removeAll
    rw [List.filter_eq_nil_iff]
    intro value member
    simpa using known value member
  rw [List.eraseDups_append, nothing, List.eraseDups_nil, List.append_nil]

end Viridity.FirstOccurrences
