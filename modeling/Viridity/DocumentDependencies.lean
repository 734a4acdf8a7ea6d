import Viridity.FirstOccurrences
import Viridity.LabelledRuns

/-!
# Dependencies of a document

`ViridityHTMLDocumentDependencyRegistry` keeps the items of a document and, in a second list,
the URLs that the page includes for them. Items are any values that can be told apart, and what
an item depends on is any list of URLs.
-/

namespace Viridity.DocumentDependencies

open Viridity.FirstOccurrences
open Viridity.LabelledRuns

set_option autoImplicit false

/-- What is logged, and that the document is told to forget its content. -/
inductive RegistryEvent (Item : Type*) where
  | unregisterDependencies (item : Item)
  | registerDependencies (item : Item)
  | invalidateContent
deriving DecidableEq

structure DependencyRegistry (Item Url : Type*) where
  dependencyItems : List Item
  includeUrls : List Url
  events : List (RegistryEvent Item)

inductive RegistryAction (Item : Type*) where
  | register (item : Item) (prepend : Bool)
  | unregister (item : Item)

variable {Item Url : Type*} [DecidableEq Item] [DecidableEq Url]

namespace DependencyRegistry

omit [DecidableEq Item] [DecidableEq Url] in
def create : DependencyRegistry Item Url :=
  { dependencyItems := [], includeUrls := [], events := [] }

/-- The includes stay as they are. -/
def unregister (registry : DependencyRegistry Item Url) (item : Item) :
    DependencyRegistry Item Url :=
  match registry.dependencyItems.idxOf? item with
  | none => registry
  | some index =>
      { registry with
        dependencyItems := registry.dependencyItems.eraseIdx index
        events := registry.events ++ [.unregisterDependencies item, .invalidateContent] }

omit [DecidableEq Item] in
def hasInclude (registry : DependencyRegistry Item Url) (url : Url) : Bool :=
  decide (url ∈ registry.includeUrls)

omit [DecidableEq Item] in
def hasIncludes (registry : DependencyRegistry Item Url) (includes : List Url) : Bool :=
  includes.all registry.hasInclude

omit [DecidableEq Item] [DecidableEq Url] in
def placed (registry : DependencyRegistry Item Url) (item : Item) (prepend : Bool) :
    DependencyRegistry Item Url :=
  { registry with
    dependencyItems :=
      if prepend then item :: registry.dependencyItems else registry.dependencyItems ++ [item]
    events := registry.events ++ [.registerDependencies item] }

variable (dependencies : Item → List Url)

omit [DecidableEq Item] in
def updateIncludes (registry : DependencyRegistry Item Url) : DependencyRegistry Item Url :=
  { registry with
    includeUrls := registry.dependencyItems.foldl
      (fun newIncludes depItem => (dependencies depItem).foldl pushNew newIncludes) [] }

def register (registry : DependencyRegistry Item Url) (item : Item) (prepend : Bool) :
    DependencyRegistry Item Url :=
  if item ∈ registry.dependencyItems then registry
  else
    let registered := registry.placed item prepend
    if registered.hasIncludes (dependencies item) then registered
    else
      let updated := registered.updateIncludes dependencies
      { updated with events := updated.events ++ [.invalidateContent] }

end DependencyRegistry

open DependencyRegistry (create)

variable (dependencies : Item → List Url)

def registryStep (registry : DependencyRegistry Item Url) :
    RegistryAction Item → Option (DependencyRegistry Item Url)
  | .register item prepend => some (registry.register dependencies item prepend)
  | .unregister item => some (registry.unregister item)

/-- The URLs of some items in their order, each where it stands first. -/
def includesOf (items : List Item) : List Url := (items.flatMap dependencies).eraseDups

/-- The page includes what the registered items depend on. -/
def InStep (registry : DependencyRegistry Item Url) : Prop :=
  registry.includeUrls = includesOf dependencies registry.dependencyItems

/-- What some items bring that those in front of them do not. -/
def broughtBehind (front items : List Item) : List Url :=
  ((items.flatMap dependencies).removeAll (front.flatMap dependencies)).eraseDups

/-- The URLs of an item that is put in front are new, or are the first of the page already. What
an item that is taken out was the first to bring, the items behind it bring first as well. -/
def KeepsOrder (registry : DependencyRegistry Item Url) : RegistryAction Item → Prop
  | .register item true => item ∉ registry.dependencyItems →
      (∀ url ∈ dependencies item, url ∈ registry.includeUrls) →
        (dependencies item).eraseDups <+: registry.includeUrls
  | .register _ false => True
  | .unregister item => ∀ front behind, registry.dependencyItems = front ++ item :: behind →
      item ∉ front → broughtBehind dependencies front [item] <+:
        broughtBehind dependencies front behind

section Includes

omit [DecidableEq Item]

variable {dependencies} {registry : DependencyRegistry Item Url}

theorem create_in_step : InStep dependencies (create : DependencyRegistry Item Url) := rfl

theorem update_includes_in_step (registry : DependencyRegistry Item Url) :
    InStep dependencies (registry.updateIncludes dependencies) := by
  unfold InStep includesOf
  rw [← foldl_push_new, List.foldl_flatMap]
  rfl

theorem has_includes_iff (registry : DependencyRegistry Item Url) {includes : List Url} :
    registry.hasIncludes includes = true ↔ ∀ url ∈ includes, url ∈ registry.includeUrls := by
  simp [DependencyRegistry.hasIncludes, DependencyRegistry.hasInclude]

/-- The page includes exactly the URLs that a registered item depends on. -/
theorem mem_include_urls (inStep : InStep dependencies registry) (url : Url) :
    url ∈ registry.includeUrls ↔ ∃ item ∈ registry.dependencyItems, url ∈ dependencies item := by
  rw [inStep, includesOf, List.mem_eraseDups, List.mem_flatMap]

theorem includes_append (front items : List Item) :
    includesOf dependencies (front ++ items) =
      includesOf dependencies front ++ broughtBehind dependencies front items := by
  unfold includesOf broughtBehind
  rw [List.flatMap_append, List.eraseDups_append]

/-- The URLs of an item and those in front of it come before all that only later items bring. -/
theorem include_urls_ordered (inStep : InStep dependencies registry) {front behind : List Item}
    (items : registry.dependencyItems = front ++ behind) :
    registry.includeUrls =
      includesOf dependencies front ++ broughtBehind dependencies front behind := by
  rw [inStep, items, includes_append]

/-- An item that stands behind others can be taken out exactly if what it brings first comes
first behind it. -/
theorem includes_without_iff (front behind : List Item) (item : Item) :
    includesOf dependencies (front ++ item :: behind) = includesOf dependencies (front ++ behind) ↔
      broughtBehind dependencies front [item] <+: broughtBehind dependencies front behind := by
  rw [includes_append, includes_append, List.append_cancel_left_eq]
  unfold broughtBehind
  have parts : ((item :: behind).flatMap dependencies).removeAll (front.flatMap dependencies) =
      ([item].flatMap dependencies).removeAll (front.flatMap dependencies) ++
        (behind.flatMap dependencies).removeAll (front.flatMap dependencies) := by
    unfold List.removeAll
    rw [← List.filter_append, ← List.flatMap_append, List.singleton_append]
  rw [parts]
  exact erase_dups_append_eq_iff _ _

end Includes

section Steps

variable {dependencies} {registry : DependencyRegistry Item Url}

omit [DecidableEq Url] in
theorem unregister_items (registry : DependencyRegistry Item Url) (item : Item) :
    (registry.unregister item).dependencyItems = registry.dependencyItems.erase item ∧
      (registry.unregister item).includeUrls = registry.includeUrls := by
  unfold DependencyRegistry.unregister
  rw [List.erase_eq_eraseIdx]
  cases registry.dependencyItems.idxOf? item with
  | none => exact ⟨rfl, rfl⟩
  | some index => exact ⟨rfl, rfl⟩

/-- Unregistering leaves the includes, and they are right if the items behind follow at once. -/
theorem unregister_in_step_iff (inStep : InStep dependencies registry) (item : Item) :
    InStep dependencies (registry.unregister item) ↔
      KeepsOrder dependencies registry (.unregister item) := by
  have left := unregister_items registry item
  have split : ∀ front behind, registry.dependencyItems = front ++ item :: behind →
      item ∉ front → (InStep dependencies (registry.unregister item) ↔
        broughtBehind dependencies front [item] <+: broughtBehind dependencies front behind) := by
    intro front behind items new
    unfold InStep
    rw [left.1, left.2, inStep, items, List.erase_append_right _ new, List.erase_cons_head,
      includes_without_iff]
  by_cases registered : item ∈ registry.dependencyItems
  · obtain ⟨front, behind, items, new⟩ := List.eq_append_cons_of_mem registered
    constructor
    · intro kept front' behind' items' new'
      exact (split front' behind' items' new').mp kept
    · intro keeps
      exact (split front behind items new).mpr (keeps front behind items new)
  · apply iff_of_true
    · unfold InStep
      rw [left.1, left.2, List.erase_of_not_mem registered]
      exact inStep
    · intro front behind items
      rw [items] at registered
      exact absurd (List.mem_append_right front List.mem_cons_self) registered

/-- An item that brings a new URL has the includes computed anew, whatever they were. -/
theorem register_new_in_step {item : Item} (unregistered : item ∉ registry.dependencyItems)
    (new : ¬ ∀ url ∈ dependencies item, url ∈ registry.includeUrls) (prepend : Bool) :
    InStep dependencies (registry.register dependencies item prepend) := by
  unfold DependencyRegistry.register
  rw [if_neg unregistered]
  dsimp only
  rw [if_neg fun known => new ((has_includes_iff (registry.placed item prepend)).mp known)]
  exact update_includes_in_step _

/-- An item that brings no new URL is put at its place and nothing else is done. -/
theorem register_known {item : Item} (unregistered : item ∉ registry.dependencyItems)
    (known : ∀ url ∈ dependencies item, url ∈ registry.includeUrls) (prepend : Bool) :
    InStep dependencies (registry.register dependencies item prepend) ↔
      registry.includeUrls = includesOf dependencies
        (if prepend then item :: registry.dependencyItems
        else registry.dependencyItems ++ [item]) := by
  unfold DependencyRegistry.register
  rw [if_neg unregistered]
  dsimp only
  rw [if_pos ((has_includes_iff (registry.placed item prepend)).mpr known)]
  rfl

theorem register_in_step_iff (inStep : InStep dependencies registry) (item : Item)
    (prepend : Bool) :
    InStep dependencies (registry.register dependencies item prepend) ↔
      KeepsOrder dependencies registry (.register item prepend) := by
  by_cases registered : item ∈ registry.dependencyItems
  · unfold DependencyRegistry.register
    rw [if_pos registered]
    apply iff_of_true inStep
    cases prepend with
    | false => trivial
    | true => exact fun unregistered => absurd registered unregistered
  · by_cases known : ∀ url ∈ dependencies item, url ∈ registry.includeUrls
    · rw [register_known registered known]
      cases prepend with
      | false =>
          apply iff_of_true _ trivial
          rw [if_neg Bool.false_ne_true, inStep, includesOf, includesOf, List.flatMap_append]
          symm
          apply erase_dups_append_known
          intro url member
          rw [List.flatMap_singleton] at member
          have included := known url member
          rw [inStep, includesOf, List.mem_eraseDups] at included
          exact included
      | true =>
          rw [if_pos rfl]
          unfold KeepsOrder
          rw [inStep, includesOf, includesOf, List.flatMap_cons, eq_comm, erase_dups_append_eq_iff]
          rw [inStep, includesOf] at known
          exact ⟨fun begins _ _ => begins, fun keeps => keeps registered known⟩
    · apply iff_of_true (register_new_in_step registered known prepend)
      cases prepend with
      | false => trivial
      | true => exact fun _ all => absurd all known

/-- The page includes follow the registered items all along exactly if every step keeps the
order of the URLs. -/
theorem includes_in_step_iff (dependencies : Item → List Url)
    (actions : List (RegistryAction Item)) :
    Along (registryStep dependencies) (fun _ _ after => InStep dependencies after) create actions ↔
      Along (registryStep dependencies)
        (fun registry action _ => KeepsOrder dependencies registry action) create actions := by
  apply @along_congr_while _ _ _ _ _ (InStep dependencies) _ _ _ create_in_step
  · intro _ _ _ _ _ inStep
    exact inStep
  · intro registry action after inStep taken
    cases action with
    | register item prepend =>
        cases taken
        exact register_in_step_iff inStep item prepend
    | unregister item =>
        cases taken
        exact unregister_in_step_iff inStep item

def widgetDependencies : Nat → List String
  | 0 => ["/Viridity.js"]
  | 1 => ["/Viridity.js", "/Slider.js"]
  | _ => ["/Slider.js", "/Viridity.js"]

def widgetActions : List (RegistryAction Nat) :=
  [.register 0 true, .register 1 false, .unregister 1]

/-- The script of a widget stays on the page after the widget is gone. -/
theorem unregistered_script_stays :
    ¬ ∀ actions : List (RegistryAction Nat), Along (registryStep widgetDependencies)
      (fun _ _ after => InStep widgetDependencies after) create actions := by
  intro always
  have gone := (((always widgetActions _ rfl).2 _ rfl).2 _ rfl).1
  revert gone
  unfold InStep
  decide

/-- A widget that is put in front of another one brings the same scripts in another order. -/
example : ¬ InStep widgetDependencies
    ((create.register widgetDependencies 1 false).register widgetDependencies 2 true) := by
  unfold InStep
  decide

end Steps

end Viridity.DocumentDependencies
