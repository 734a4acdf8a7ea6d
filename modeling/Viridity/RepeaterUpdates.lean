import Viridity.LabelledRuns
import Viridity.ListReplication

/-!
# Differential updates of a repeater

`ViridityHTMLRepeater` records what happens to its delegate items and sends the records of a
batch later, when some of the items are gone. The browser applies them to the children of one
element, or asks for the whole content.
-/

namespace Viridity.RepeaterUpdates

open Viridity.LabelledRuns
open Viridity.ListReplication

set_option autoImplicit false

/-- Delegate items are numbered in the order they are created. -/
abbrev Identifier := Nat

/-- `items` are those of the Qt repeater. `children` are the renderers the column knows, and
`columnTemplate` names those it knew after the last update. -/
structure Repeater where
  items : List Identifier
  destroyed : List Identifier
  actions : List (Edit Identifier)
  generation : Int32
  children : List Identifier
  columnTemplate : List Identifier
  updateScheduled : Bool
  nextIdentifier : Nat
deriving DecidableEq

/-- Messages to the browser, with the updates in place of the rendered items. -/
inductive Message where
  | update (generation : Int32) (value : List Identifier)
  | updateChildren (generation : Int32) (updates : List (Edit Identifier))
deriving DecidableEq

namespace Repeater

def scheduleUpdateChildren (repeater : Repeater) : Repeater :=
  { repeater with children := [], updateScheduled := true }

/-- `count` is that of the model, which may be ahead of the items reported so far. There is
always a child before an index that is not zero. -/
def addItem (repeater : Repeater) (index count : Nat) (item : Identifier) : Option Repeater :=
  let action :=
    if index = 0 then some (.prepend item)
    else if index = count - 1 then some (.append item)
    else (repeater.items[index - 1]?).map (.insertAfter item)
  action.map fun action =>
    { repeater with actions := repeater.actions ++ [action] }.scheduleUpdateChildren

def removeItem (repeater : Repeater) (item : Identifier) : Repeater :=
  { repeater with actions := repeater.actions ++ [Edit.remove item] }.scheduleUpdateChildren

def isTemplateRenderer (repeater : Repeater) (item : Identifier) : Bool :=
  decide (item ∉ repeater.destroyed)

def sends (repeater : Repeater) : Edit Identifier → Bool
  | .prepend item => repeater.isTemplateRenderer item
  | .append item => repeater.isTemplateRenderer item
  | .insertAfter item afterItem =>
      repeater.isTemplateRenderer item && repeater.isTemplateRenderer afterItem
  | .remove _ => true

def sendDifferentialUpdates (repeater : Repeater) : Repeater × List Message :=
  if repeater.actions = [] then (repeater, [])
  else
    ({ repeater with generation := repeater.generation + 1, actions := [] },
      [.updateChildren (repeater.generation + 1) (repeater.actions.filter repeater.sends)])

def updateChildren (repeater : Repeater) : Repeater × List Message :=
  { repeater with
    children := repeater.items
    columnTemplate := repeater.items
    updateScheduled := false }.sendDifferentialUpdates

/-- Where the children are those the template names, they are rendered in its order. What the
template renderer gives otherwise is `rendered`. -/
def content (repeater : Repeater) (rendered : List Identifier) : List Identifier :=
  if repeater.children = repeater.columnTemplate then repeater.columnTemplate else rendered

def sendContentUpdate (repeater : Repeater) (rendered : List Identifier) : Message :=
  .update repeater.generation (repeater.content rendered)

end Repeater

structure Element where
  generation : Option Int32
  children : List Identifier
deriving DecidableEq

def isPredecessor (parentGeneration : Option Int32) (generation : Int32) : Bool :=
  match parentGeneration with
  | none => false
  | some parent => decide (parent.toInt + 1 = generation.toInt)

/-- The element after a message, and whether its content is requested. -/
def receive (element : Element) : Message → Element × Bool
  | .update generation value => ({ generation := some generation, children := value }, false)
  | .updateChildren generation updates =>
      if isPredecessor element.generation generation then
        let applied := applyAll element.children updates
        ({ generation := some generation, children := applied.1 }, !applied.2)
      else (element, true)

/-- `requests` counts the content requests on their way to the server, which are all alike. -/
structure System where
  repeater : Repeater
  element : Element
  toClient : List Message
  requests : Nat
deriving DecidableEq

/-- `sendContentUpdate` is asked for by another browser. -/
inductive Event where
  | insert (index ahead : Nat)
  | remove (index : Nat)
  | destroy (item : Identifier)
  | updateChildren
  | sendContentUpdate (rendered : List Identifier)
  | deliverToClient
  | deliverToServer (rendered : List Identifier)
deriving DecidableEq

def repeaterStep (state : System) : Event → Option System
  | .insert index ahead =>
      let repeater := state.repeater
      if index ≤ repeater.items.length then
        let items := repeater.items.insertIdx index repeater.nextIdentifier
        ({ repeater with
          items
          nextIdentifier := repeater.nextIdentifier + 1 }.addItem index (items.length + ahead)
            repeater.nextIdentifier).map fun repeater => { state with repeater }
      else none
  | .remove index =>
      (state.repeater.items[index]?).map fun item =>
        { state with
          repeater := { state.repeater with
            items := state.repeater.items.eraseIdx index }.removeItem item }
  | .destroy item =>
      if item < state.repeater.nextIdentifier ∧ item ∉ state.repeater.items then
        some { state with
          repeater := { state.repeater with destroyed := item :: state.repeater.destroyed } }
      else none
  | .updateChildren =>
      if state.repeater.updateScheduled then
        let updated := state.repeater.updateChildren
        some { state with repeater := updated.1, toClient := state.toClient ++ updated.2 }
      else none
  | .sendContentUpdate rendered =>
      some { state with
        toClient := state.toClient ++ [state.repeater.sendContentUpdate rendered] }
  | .deliverToClient =>
      match state.toClient with
      | [] => none
      | message :: queue =>
          let received := receive state.element message
          some { state with
            element := received.1
            toClient := queue
            requests := state.requests + if received.2 then 1 else 0 }
  | .deliverToServer rendered =>
      if 0 < state.requests then
        some { state with
          requests := state.requests - 1
          toClient := state.toClient ++ [state.repeater.sendContentUpdate rendered] }
      else none

def Settled (state : System) : Prop :=
  state.toClient = [] ∧ state.requests = 0 ∧ state.repeater.updateScheduled = false

def Converged (state : System) : Prop :=
  Settled state → state.element.generation = some state.repeater.generation →
    state.element.children = state.repeater.items

def ConvergedAfter (_state : System) (_event : Event) (after : System) : Prop := Converged after

/-- Where an item that lives was inserted behind one that is destroyed by now, some item whose
insert is passed over is missed by an update that is sent. -/
def InsertsSent (repeater : Repeater) : Prop :=
  (∃ item afterItem, Edit.insertAfter item afterItem ∈ repeater.actions ∧
      item ∉ repeater.destroyed ∧ afterItem ∈ repeater.destroyed) →
    ∃ lost ∈ repeater.actions, ∃ update ∈ repeater.actions, ∃ item,
      repeater.sends lost = false ∧ lost.inserted = some item ∧
        repeater.sends update = true ∧ update.refers = some item

/-- No flush loses an insert, and no content is sent that differs from what was sent last. -/
def Complete (state : System) (event : Event) (_after : System) : Prop :=
  match event with
  | .updateChildren => InsertsSent state.repeater
  | .sendContentUpdate rendered =>
      state.repeater.children ≠ state.repeater.columnTemplate →
        rendered = state.repeater.columnTemplate
  | .deliverToServer rendered =>
      state.repeater.children ≠ state.repeater.columnTemplate →
        rendered = state.repeater.columnTemplate
  | _ => True

/-- A repeater without recorded actions, and an element that shows its items unless its
generation tells that it does not. -/
structure Starts (state : System) : Prop where
  distinct : state.repeater.items.Nodup
  known : ∀ item ∈ state.repeater.items, item < state.repeater.nextIdentifier
  nothingDestroyed : state.repeater.destroyed = []
  nothingRecorded : state.repeater.actions = []
  rendered : state.repeater.children = state.repeater.items
  named : state.repeater.columnTemplate = state.repeater.items
  settled : Settled state
  converged : Converged state

/-- The recorded actions make the items of what was sent last, and each of them inserts an
item of its own that was not there. -/
structure Recorded (repeater : Repeater) : Prop where
  replayed : applyAll repeater.columnTemplate repeater.actions = (repeater.items, true)
  distinct : repeater.items.Nodup
  known : ∀ item ∈ repeater.items, item < repeater.nextIdentifier
  named : ∀ item ∈ repeater.columnTemplate, item < repeater.nextIdentifier
  fresh : ∀ edit ∈ repeater.actions, ∀ item, edit.inserted = some item →
    item < repeater.nextIdentifier ∧ item ∉ repeater.columnTemplate
  once : ∀ first ∈ repeater.actions, ∀ second ∈ repeater.actions, ∀ item,
    first.inserted = some item → second.inserted = some item → first = second
  gone : ∀ item ∈ repeater.destroyed, item ∉ repeater.items
  born : ∀ item ∈ repeater.destroyed, item < repeater.nextIdentifier
  idle : repeater.updateScheduled = false → repeater.actions = []

section Recording

variable {repeater after : Repeater} {item : Identifier} {index ahead : Nat}

theorem recorded_place {items : List Identifier} (distinct : items.Nodup)
    (within : index ≤ items.length) {action : Edit Identifier}
    (recorded : (if index = 0 then some (.prepend item)
      else if index = (items.insertIdx index item).length + ahead - 1 then some (.append item)
      else ((items.insertIdx index item)[index - 1]?).map (.insertAfter item)) = some action) :
    action.apply items = some (items.insertIdx index item) ∧ action.inserted = some item := by
  have length := List.length_insertIdx_of_le_length within item
  by_cases front : index = 0
  · rw [if_pos front, Option.some.injEq] at recorded
    rw [← recorded, front]
    exact ⟨rfl, rfl⟩
  · rw [if_neg front] at recorded
    by_cases back : index = (items.insertIdx index item).length + ahead - 1
    · rw [if_pos back, Option.some.injEq] at recorded
      have last : index = items.length := by omega
      rw [← recorded, last, List.insertIdx_length_self]
      exact ⟨rfl, rfl⟩
    · rw [if_neg back, Option.map_eq_some_iff] at recorded
      obtain ⟨afterItem, found, same⟩ := recorded
      rw [List.getElem?_insertIdx_of_lt (by omega)] at found
      have placed := @put_after_index _ _ _ item _ _ distinct found
      rw [Nat.sub_add_cancel (by omega)] at placed
      rw [← same, ← placed]
      exact ⟨if_pos (List.mem_of_getElem? found), rfl⟩

theorem replayed_append (recorded : Recorded repeater) {action : Edit Identifier}
    {items : List Identifier} (applies : action.apply repeater.items = some items) :
    applyAll repeater.columnTemplate (repeater.actions ++ [action]) = (items, true) := by
  rw [apply_all_append [action] recorded.replayed]
  simp only [applyAll, applies]

theorem add_recorded (recorded : Recorded repeater) (within : index ≤ repeater.items.length)
    (added : ({ repeater with
      items := repeater.items.insertIdx index repeater.nextIdentifier
      nextIdentifier := repeater.nextIdentifier + 1 }.addItem index
        ((repeater.items.insertIdx index repeater.nextIdentifier).length + ahead)
        repeater.nextIdentifier) = some after) :
    Recorded after ∧ after.columnTemplate = repeater.columnTemplate ∧
      after.generation = repeater.generation := by
  simp only [Repeater.addItem, Option.map_eq_some_iff] at added
  obtain ⟨action, action_recorded, changed⟩ := added
  have placed := recorded_place recorded.distinct within action_recorded
  have absent : repeater.nextIdentifier ∉ repeater.items := by
    intro member
    exact absurd (recorded.known _ member) (Nat.lt_irrefl _)
  have members : ∀ item, item ∈ repeater.items.insertIdx index repeater.nextIdentifier ↔
      item = repeater.nextIdentifier ∨ item ∈ repeater.items := fun item => List.mem_insertIdx within
  rw [← changed]
  refine ⟨?_, rfl, rfl⟩
  exact
    { replayed := replayed_append recorded placed.1
      distinct := by
        have moved := List.perm_insertIdx repeater.nextIdentifier repeater.items within
        exact moved.nodup_iff.mpr (List.nodup_cons.mpr ⟨absent, recorded.distinct⟩)
      known := by
        intro item member
        cases (members item).mp member with
        | inl same => exact same ▸ Nat.lt_succ_self _
        | inr earlier => exact Nat.lt_succ_of_lt (recorded.known item earlier)
      named := fun item member => Nat.lt_succ_of_lt (recorded.named item member)
      fresh := by
        intro edit member item new
        cases List.mem_append.mp member with
        | inl earlier =>
            have old := recorded.fresh edit earlier item new
            exact ⟨Nat.lt_succ_of_lt old.1, old.2⟩
        | inr last =>
            rw [List.mem_singleton.mp last, placed.2] at new
            rw [← Option.some.inj new]
            refine ⟨Nat.lt_succ_self _, ?_⟩
            intro named
            exact absurd (recorded.named _ named) (Nat.lt_irrefl _)
      once := by
        have apart : ∀ edit ∈ repeater.actions, ∀ item, edit.inserted = some item →
            action.inserted ≠ some item := by
          intro edit member item new last
          have old := (recorded.fresh edit member item new).1
          rw [placed.2, Option.some.injEq] at last
          exact absurd old (last ▸ Nat.lt_irrefl _)
        intro first first_member second second_member item first_new second_new
        cases List.mem_append.mp first_member with
        | inl first_earlier =>
            cases List.mem_append.mp second_member with
            | inl second_earlier =>
                exact recorded.once first first_earlier second second_earlier item first_new
                  second_new
            | inr last =>
                rw [List.mem_singleton.mp last] at second_new
                exact absurd second_new (apart first first_earlier item first_new)
        | inr last =>
            rw [List.mem_singleton.mp last] at first_new ⊢
            cases List.mem_append.mp second_member with
            | inl second_earlier =>
                exact absurd first_new (apart second second_earlier item second_new)
            | inr second_last => exact (List.mem_singleton.mp second_last).symm
      gone := by
        intro item member there
        cases (members item).mp there with
        | inl same => exact absurd (recorded.born item member) (same ▸ Nat.lt_irrefl _)
        | inr earlier => exact recorded.gone item member earlier
      born := fun item member => Nat.lt_succ_of_lt (recorded.born item member)
      idle := fun unscheduled => Bool.noConfusion unscheduled }

theorem remove_recorded (recorded : Recorded repeater) (found : repeater.items[index]? = some item) :
    Recorded ({ repeater with items := repeater.items.eraseIdx index }.removeItem item) := by
  have within := (List.getElem?_eq_some_iff.mp found).1
  have here := (List.getElem?_eq_some_iff.mp found).2
  have erased : repeater.items.erase item = repeater.items.eraseIdx index := by
    rw [← here]
    exact recorded.distinct.erase_getElem index within
  have applies : (Edit.remove item).apply repeater.items = some (repeater.items.eraseIdx index) := by
    rw [← erased]
    exact if_pos (List.mem_of_getElem? found)
  have earlier : ∀ edit ∈ repeater.actions ++ [Edit.remove item], ∀ other,
      edit.inserted = some other → edit ∈ repeater.actions := by
    intro edit member other new
    cases List.mem_append.mp member with
    | inl earlier => exact earlier
    | inr last =>
        rw [List.mem_singleton.mp last] at new
        cases new
  exact
    { replayed := replayed_append recorded applies
      distinct := recorded.distinct.eraseIdx index
      known := fun other member => recorded.known other (List.mem_of_mem_eraseIdx member)
      named := recorded.named
      fresh := fun edit member other new => recorded.fresh edit (earlier edit member other new) other new
      once := by
        intro first first_member second second_member other first_new second_new
        exact recorded.once first (earlier first first_member other first_new) second
          (earlier second second_member other second_new) other first_new second_new
      gone := fun other member there => recorded.gone other member (List.mem_of_mem_eraseIdx there)
      born := recorded.born
      idle := fun unscheduled => Bool.noConfusion unscheduled }

theorem destroy_recorded (recorded : Recorded repeater)
    (removed : item < repeater.nextIdentifier ∧ item ∉ repeater.items) :
    Recorded { repeater with destroyed := item :: repeater.destroyed } :=
  { replayed := recorded.replayed
    distinct := recorded.distinct
    known := recorded.known
    named := recorded.named
    fresh := recorded.fresh
    once := recorded.once
    gone := by
      intro other member
      cases List.mem_cons.mp member with
      | inl same => exact same ▸ removed.2
      | inr earlier => exact recorded.gone other earlier
    born := by
      intro other member
      cases List.mem_cons.mp member with
      | inl same => exact same ▸ removed.1
      | inr earlier => exact recorded.born other earlier
    idle := recorded.idle }

theorem nothing_recorded (distinct : repeater.items.Nodup)
    (known : ∀ item ∈ repeater.items, item < repeater.nextIdentifier)
    (gone : ∀ item ∈ repeater.destroyed, item ∉ repeater.items)
    (born : ∀ item ∈ repeater.destroyed, item < repeater.nextIdentifier)
    (empty : repeater.actions = []) (named : repeater.columnTemplate = repeater.items) :
    Recorded repeater :=
  { replayed := by rw [empty, named]; rfl
    distinct
    known
    named := by rw [named]; exact known
    fresh := by rw [empty]; exact nofun
    once := by rw [empty]; exact nofun
    gone
    born
    idle := fun _ => empty }

theorem update_recorded (recorded : Recorded repeater) : Recorded repeater.updateChildren.1 := by
  unfold Repeater.updateChildren Repeater.sendDifferentialUpdates
  simp only
  split_ifs with empty
  · exact nothing_recorded recorded.distinct recorded.known recorded.gone recorded.born empty rfl
  · exact nothing_recorded recorded.distinct recorded.known recorded.gone recorded.born rfl rfl

end Recording

section Flushing

variable {repeater : Repeater}

/-- The item of an action that is passed over: it is destroyed, or the one it goes behind is. -/
theorem skipped_item (edit : Edit Identifier) (skipped : repeater.sends edit = false) :
    ∃ item, edit.inserted = some item ∧ (item ∈ repeater.destroyed ∨
      ∃ afterItem ∈ repeater.destroyed, edit = .insertAfter item afterItem) := by
  cases edit with
  | prepend item =>
      have dead : item ∈ repeater.destroyed := by
        simpa [Repeater.sends, Repeater.isTemplateRenderer] using skipped
      exact ⟨item, rfl, Or.inl dead⟩
  | append item =>
      have dead : item ∈ repeater.destroyed := by
        simpa [Repeater.sends, Repeater.isTemplateRenderer] using skipped
      exact ⟨item, rfl, Or.inl dead⟩
  | insertAfter item afterItem =>
      have dead : item ∈ repeater.destroyed ∨ afterItem ∈ repeater.destroyed := by
        simp only [Repeater.sends, Repeater.isTemplateRenderer, Bool.and_eq_false_iff,
          decide_eq_false_iff_not, not_not] at skipped
        exact skipped
      cases dead with
      | inl gone => exact ⟨item, rfl, Or.inl gone⟩
      | inr behind => exact ⟨item, rfl, Or.inr ⟨afterItem, behind, rfl⟩⟩
  | remove item => cases skipped

/-- An insert that is passed over and missed by an update makes the browser stop there. -/
theorem missed_stops (recorded : Recorded repeater) {lost update : Edit Identifier}
    {item : Identifier} (lost_member : lost ∈ repeater.actions)
    (update_member : update ∈ repeater.actions) (skipped : repeater.sends lost = false)
    (new : lost.inserted = some item) (sent : repeater.sends update = true)
    (named : update.refers = some item) :
    (applyAll repeater.columnTemplate (repeater.actions.filter repeater.sends)).2 = false := by
  have absent := (recorded.fresh lost lost_member item new).2
  apply missing_stops absent
  · intro edit member inserts
    have both := List.mem_filter.mp member
    have same := recorded.once edit both.1 lost lost_member item inserts new
    rw [same, skipped] at both
    exact Bool.noConfusion both.2
  · exact ⟨update, List.mem_filter.mpr ⟨update_member, sent⟩, named⟩

/-- The removal of an item that came and was destroyed since the last update is sent. -/
theorem destroyed_missed (recorded : Recorded repeater) {lost : Edit Identifier}
    {item : Identifier} (member : lost ∈ repeater.actions) (new : lost.inserted = some item)
    (dead : item ∈ repeater.destroyed) : Edit.remove item ∈ repeater.actions :=
  gone_removed recorded.replayed (recorded.gone item dead) (Or.inr ⟨lost, member, new⟩)

theorem sent_or_stops (recorded : Recorded repeater) (inserts : InsertsSent repeater) :
    (applyAll repeater.columnTemplate (repeater.actions.filter repeater.sends)).2 = false ∨
      applyAll repeater.columnTemplate (repeater.actions.filter repeater.sends) =
        (repeater.items, true) := by
  by_cases all : ∀ edit ∈ repeater.actions, repeater.sends edit = true
  · apply Or.inr
    rw [List.filter_eq_self.mpr all]
    exact recorded.replayed
  · apply Or.inl
    simp only [not_forall, Bool.not_eq_true] at all
    obtain ⟨lost, member, skipped⟩ := all
    obtain ⟨item, new, dead⟩ := skipped_item lost skipped
    by_cases destroyed : item ∈ repeater.destroyed
    · exact missed_stops recorded member (destroyed_missed recorded member new destroyed) skipped
        new rfl rfl
    · cases dead with
      | inl gone => exact absurd gone destroyed
      | inr behind =>
          obtain ⟨afterItem, gone, same⟩ := behind
          rw [same] at member
          obtain ⟨other, other_member, update, update_member, missed, other_skipped, other_new,
            sent, named⟩ := inserts ⟨item, afterItem, member, destroyed, gone⟩
          exact missed_stops recorded other_member update_member other_skipped other_new sent named

def arrives (repeater : Repeater) (item : Identifier) : Bool :=
  repeater.actions.all fun edit => decide (edit.inserted = some item → repeater.sends edit = true)

theorem not_arrives {lost : Edit Identifier} {item : Identifier} (member : lost ∈ repeater.actions)
    (skipped : repeater.sends lost = false) (new : lost.inserted = some item) :
    arrives repeater item = false := by
  apply List.all_eq_false.mpr
  refine ⟨lost, member, ?_⟩
  simp [new, skipped]

/-- Where an insert is lost, the browser applies all updates and still lacks an item. -/
theorem lost_differs (recorded : Recorded repeater) (lossy : ¬ InsertsSent repeater) :
    ∃ children, applyAll repeater.columnTemplate (repeater.actions.filter repeater.sends) =
      (children, true) ∧ children ≠ repeater.items := by
  simp only [InsertsSent, not_forall] at lossy
  obtain ⟨⟨item, afterItem, member, alive, dead⟩, missed⟩ := lossy
  have unmissed : ∀ lost ∈ repeater.actions, ∀ update ∈ repeater.actions, ∀ other,
      repeater.sends lost = false → lost.inserted = some other →
      repeater.sends update = true → update.refers ≠ some other := by
    intro lost lost_member update update_member other skipped new sent named
    exact missed ⟨lost, lost_member, update, update_member, other, skipped, new, sent, named⟩
  have skipped : repeater.sends (.insertAfter item afterItem) = false := by
    simp [Repeater.sends, Repeater.isTemplateRenderer, dead]
  have concerned : ∀ edit ∈ repeater.actions, repeater.sends edit = true →
      ∀ other, edit.inserted = some other ∨ edit.refers = some other →
        arrives repeater other = true := by
    intro edit edit_member sent other concerns
    apply List.all_eq_true.mpr
    intro lost lost_member
    simp only [decide_eq_true_eq]
    intro new
    cases concerns with
    | inl inserts => exact recorded.once edit edit_member lost lost_member other inserts new ▸ sent
    | inr named =>
        by_contra unsent
        exact unmissed lost lost_member edit edit_member other (by simpa using unsent) new sent named
  have dropped : ∀ edit ∈ repeater.actions, repeater.sends edit = false →
      ∃ other, edit.inserted = some other ∧ arrives repeater other = false := by
    intro edit edit_member unsent
    obtain ⟨other, new, _⟩ := skipped_item edit unsent
    exact ⟨other, new, not_arrives edit_member unsent new⟩
  have old : repeater.columnTemplate.filter (arrives repeater) = repeater.columnTemplate := by
    apply List.filter_eq_self.mpr
    intro other named
    apply List.all_eq_true.mpr
    intro edit edit_member
    simp only [decide_eq_true_eq]
    intro new
    exact absurd named (recorded.fresh edit edit_member other new).2
  have applied := apply_all_without (arrives repeater) repeater.sends recorded.replayed concerned
    dropped
  rw [old] at applied
  refine ⟨_, applied, ?_⟩
  intro same
  have there : item ∈ repeater.items := by
    by_contra absent
    have removed := gone_removed recorded.replayed absent (Or.inr ⟨_, member, rfl⟩)
    exact unmissed _ member _ removed item skipped rfl rfl rfl
  have arrived := List.filter_eq_self.mp same item there
  rw [not_arrives member skipped rfl] at arrived
  exact Bool.noConfusion arrived

end Flushing

/-- The element shows what was sent last, unless its generation tells that it does not. -/
def Synced (repeater : Repeater) (element : Element) : Prop :=
  element.generation = some repeater.generation → element.children = repeater.columnTemplate

/-- What is in flight puts the element right, or makes it ask for the content. -/
structure Sound (state : System) : Prop where
  recorded : Recorded state.repeater
  follows : 0 < state.requests ∨
    Follows receive (Synced state.repeater) state.element state.toClient

section Delivery

variable {repeater : Repeater} {state after : System} {rendered : List Identifier}

theorem predecessor_generation {parent generation : Int32}
    (before : isPredecessor (some parent) (generation + 1) = true) : parent = generation := by
  have same : parent.toInt + 1 = (generation + 1).toInt := of_decide_eq_true before
  have parent_low := Int32.le_toInt parent
  have low := Int32.le_toInt generation
  have high := Int32.toInt_lt generation
  apply Int32.toInt_inj.mp
  rw [Int32.toInt_add, Int32.toInt_one, Int.bmod_def] at same
  omega

theorem predecessor_same {parentGeneration : Option Int32} {generation : Int32}
    (before : isPredecessor parentGeneration (generation + 1) = true) :
    parentGeneration = some generation := by
  cases parentGeneration with
  | none => cases before
  | some parent => exact congrArg some (predecessor_generation before)

/-- The updates of a batch put a synced element right, or make it ask for the content. -/
theorem updates_sync (recorded : Recorded repeater) (inserts : InsertsSent repeater)
    {updated : Repeater} (named : updated.columnTemplate = repeater.items) (element : Element)
    (synced : Synced repeater element) :
    (receive element (.updateChildren (repeater.generation + 1)
        (repeater.actions.filter repeater.sends))).2 = true ∨
      Synced updated (receive element (.updateChildren (repeater.generation + 1)
        (repeater.actions.filter repeater.sends))).1 := by
  by_cases before : isPredecessor element.generation (repeater.generation + 1) = true
  · have children := synced (predecessor_same before)
    simp only [receive, if_pos before, children]
    cases sent_or_stops recorded inserts with
    | inl stops => exact Or.inl (by rw [stops]; rfl)
    | inr applied =>
        apply Or.inr
        intro _
        rw [applied, named]
  · apply Or.inl
    simp only [receive, if_neg before]

/-- The whole content puts any element right. -/
theorem content_syncs (whole : repeater.children ≠ repeater.columnTemplate →
      rendered = repeater.columnTemplate) (element : Element) :
    Synced repeater (receive element (repeater.sendContentUpdate rendered)).1 := by
  intro _
  simp only [receive, Repeater.sendContentUpdate, Repeater.content]
  by_cases same : repeater.children = repeater.columnTemplate
  · rw [if_pos same]
  · rw [if_neg same]
    exact whole same

theorem Sound.unsent (sound : Sound state) {updated : Repeater} (recorded : Recorded updated)
    (generation : updated.generation = state.repeater.generation)
    (named : updated.columnTemplate = state.repeater.columnTemplate) :
    Sound { state with repeater := updated } := by
  have same : Synced updated = Synced state.repeater := by
    funext element
    simp only [Synced, generation, named]
  refine ⟨recorded, ?_⟩
  simp only [same]
  exact sound.follows

theorem Sound.content (sound : Sound state) (requests : Nat)
    (whole : state.repeater.children ≠ state.repeater.columnTemplate →
      rendered = state.repeater.columnTemplate) :
    Sound { state with
      requests
      toClient := state.toClient ++ [state.repeater.sendContentUpdate rendered] } :=
  ⟨sound.recorded, Or.inr (follows_whole (content_syncs whole))⟩

theorem Sound.update (sound : Sound state) (inserts : InsertsSent state.repeater) :
    Sound { state with
      repeater := state.repeater.updateChildren.1
      toClient := state.toClient ++ state.repeater.updateChildren.2 } := by
  have recorded := update_recorded sound.recorded
  by_cases empty : state.repeater.actions = []
  · have shown : state.repeater.columnTemplate = state.repeater.items := by
      have replayed := sound.recorded.replayed
      rw [empty] at replayed
      exact congrArg Prod.fst replayed
    have updated : state.repeater.updateChildren =
        ({ state.repeater with
          children := state.repeater.items
          columnTemplate := state.repeater.items
          updateScheduled := false }, []) := if_pos empty
    rw [updated] at recorded ⊢
    rw [List.append_nil]
    exact sound.unsent recorded rfl shown.symm
  · have updated : state.repeater.updateChildren =
        ({ state.repeater with
          children := state.repeater.items
          columnTemplate := state.repeater.items
          updateScheduled := false
          generation := state.repeater.generation + 1
          actions := [] },
          [.updateChildren (state.repeater.generation + 1)
            (state.repeater.actions.filter state.repeater.sends)]) := if_neg empty
    rw [updated] at recorded ⊢
    refine ⟨recorded, ?_⟩
    cases sound.follows with
    | inl requested => exact Or.inl requested
    | inr follows => exact Or.inr (follows_append follows (updates_sync sound.recorded inserts rfl))

theorem Sound.deliver (sound : Sound state) {message : Message} {queue : List Message}
    (sent : state.toClient = message :: queue) :
    Sound { state with
      element := (receive state.element message).1
      toClient := queue
      requests := state.requests + if (receive state.element message).2 then 1 else 0 } := by
  refine ⟨sound.recorded, ?_⟩
  have follows := sound.follows
  rw [sent] at follows
  cases follows with
  | inl requested => exact Or.inl (Nat.lt_of_lt_of_le requested (Nat.le_add_right _ _))
  | inr follows =>
      cases follows with
      | inl asks =>
          apply Or.inl
          simp only [asks, if_true]
          exact Nat.succ_pos _
      | inr rest => exact Or.inr rest

theorem step_sound {event : Event} (sound : Sound state)
    (taken : repeaterStep state event = some after) (complete : Complete state event after) :
    Sound after := by
  cases event with
  | insert index ahead =>
      simp only [repeaterStep, Option.ite_none_right_eq_some, Option.map_eq_some_iff] at taken
      obtain ⟨within, updated, added, same⟩ := taken
      have recorded := add_recorded sound.recorded within added
      exact same ▸ sound.unsent recorded.1 recorded.2.2 recorded.2.1
  | remove index =>
      simp only [repeaterStep, Option.map_eq_some_iff] at taken
      obtain ⟨item, found, same⟩ := taken
      exact same ▸ sound.unsent (remove_recorded sound.recorded found) rfl rfl
  | destroy item =>
      simp only [repeaterStep, Option.ite_none_right_eq_some, Option.some.injEq] at taken
      exact taken.2 ▸ sound.unsent (destroy_recorded sound.recorded taken.1) rfl rfl
  | updateChildren =>
      simp only [repeaterStep, Option.ite_none_right_eq_some, Option.some.injEq] at taken
      exact taken.2 ▸ sound.update complete
  | sendContentUpdate rendered =>
      simp only [repeaterStep, Option.some.injEq] at taken
      exact taken ▸ sound.content state.requests complete
  | deliverToClient =>
      cases sent : state.toClient with
      | nil => simp [repeaterStep, sent] at taken
      | cons message queue =>
          simp only [repeaterStep, sent, Option.some.injEq] at taken
          exact taken ▸ sound.deliver sent
  | deliverToServer rendered =>
      simp only [repeaterStep, Option.ite_none_right_eq_some, Option.some.injEq] at taken
      exact taken.2 ▸ sound.content (state.requests - 1) complete

theorem Sound.synced (sound : Sound state) (empty : state.toClient = [])
    (unrequested : state.requests = 0) : Synced state.repeater state.element := by
  cases sound.follows with
  | inl requested => omega
  | inr follows =>
      rw [empty] at follows
      exact follows

theorem Sound.converged (sound : Sound state) : Converged state := by
  intro settled generation
  have replayed := sound.recorded.replayed
  rw [sound.recorded.idle settled.2.2] at replayed
  have shown : state.repeater.columnTemplate = state.repeater.items := congrArg Prod.fst replayed
  rw [sound.synced settled.1 settled.2.1 generation, shown]

theorem Starts.sound (starts : Starts state) : Sound state := by
  have recorded := @nothing_recorded state.repeater starts.distinct starts.known
    (by rw [starts.nothingDestroyed]; exact nofun) (by rw [starts.nothingDestroyed]; exact nofun)
    starts.nothingRecorded starts.named
  refine ⟨recorded, Or.inr ?_⟩
  rw [starts.settled.1]
  intro generation
  rw [starts.converged starts.settled generation, starts.named]

end Delivery

theorem predecessor_next {generation : Int32} (low : generation ≠ Int32.maxValue) :
    isPredecessor (some generation) (generation + 1) = true := by
  have bound := Int32.le_toInt generation
  have limit := Int32.toInt_lt generation
  have apart : generation.toInt ≠ 2147483647 := by
    intro same
    exact low (Int32.toInt_inj.mp (same.trans Int32.toInt_maxValue.symm))
  apply decide_eq_true
  rw [Int32.toInt_add, Int32.toInt_one, Int.bmod_def]
  omega

/-- A lost insert is noticed by nobody: generations agree, and the children do not. -/
theorem lost_insert_diverges {state : System} (sound : Sound state) (empty : state.toClient = [])
    (unrequested : state.requests = 0)
    (current : state.element.generation = some state.repeater.generation)
    (low : state.repeater.generation ≠ Int32.maxValue) (lossy : ¬ InsertsSent state.repeater) :
    ∃ after, execute repeaterStep state [.updateChildren, .deliverToClient] = some after ∧
      ¬ Converged after := by
  have recording : state.repeater.actions ≠ [] := by
    intro nothing
    apply lossy
    rintro ⟨item, afterItem, member, _⟩
    rw [nothing] at member
    cases member
  have scheduled : state.repeater.updateScheduled = true := by
    by_contra unscheduled
    exact recording (sound.recorded.idle (by simpa using unscheduled))
  obtain ⟨children, applied, differs⟩ := lost_differs sound.recorded lossy
  let flushed : Repeater :=
    { state.repeater with
      children := state.repeater.items
      columnTemplate := state.repeater.items
      updateScheduled := false
      generation := state.repeater.generation + 1
      actions := [] }
  let message : Message := .updateChildren (state.repeater.generation + 1)
    (state.repeater.actions.filter state.repeater.sends)
  have updated : state.repeater.updateChildren = (flushed, [message]) := if_neg recording
  have received : receive state.element message =
      ({ generation := some (state.repeater.generation + 1), children }, false) := by
    have before := predecessor_next low
    simp only [message, receive, current, if_pos before, sound.synced empty unrequested current,
      applied, Bool.not_true]
  refine ⟨{ repeater := flushed
            element := { generation := some (state.repeater.generation + 1), children }
            toClient := []
            requests := 0 }, ?_, ?_⟩
  · simp only [execute, repeaterStep, scheduled, if_true, updated, empty, List.nil_append,
      Option.bind_some, received, unrequested]
    rfl
  · intro converged
    exact differs (converged ⟨rfl, rfl, rfl⟩ rfl)

/-- In every run in which no flush loses an insert and no other content is sent in between, the
children agree with the items whenever the generations do. A flush that loses an insert breaks
this wherever the browser was up to date. -/
theorem repeater_converges {start : System} (starts : Starts start) (events : List Event)
    (complete : Along repeaterStep Complete start events) :
    Along repeaterStep ConvergedAfter start events ∧
      ∀ state, execute repeaterStep start events = some state → state.toClient = [] →
        state.requests = 0 → state.element.generation = some state.repeater.generation →
        state.repeater.generation ≠ Int32.maxValue → ¬ InsertsSent state.repeater →
        ∃ after, execute repeaterStep state [.updateChildren, .deliverToClient] = some after ∧
          ¬ Converged after := by
  have preserved : ∀ state event after, Sound state → repeaterStep state event = some after →
      Complete state event after → Sound after :=
    fun state event after sound taken complete => step_sound sound taken complete
  constructor
  · have implied : ∀ state event after, Sound state → repeaterStep state event = some after →
        Complete state event after → ConvergedAfter state event after :=
      fun state event after sound taken complete => (step_sound sound taken complete).converged
    exact along_imp_while preserved implied starts.sound events complete
  · intro state executed empty unrequested current low lossy
    have sound : Sound state := execute_holds preserved starts.sound events complete executed
    exact lost_insert_diverges sound empty unrequested current low lossy

def emptySystem : System :=
  { repeater :=
      { items := []
        destroyed := []
        actions := []
        generation := 0
        children := []
        columnTemplate := []
        updateScheduled := false
        nextIdentifier := 0 }
    element := { generation := some 0, children := [] }
    toClient := []
    requests := 0 }

theorem empty_starts : Starts emptySystem :=
  { distinct := List.nodup_nil
    known := nofun
    nothingDestroyed := rfl
    nothingRecorded := rfl
    rendered := rfl
    named := rfl
    settled := ⟨rfl, rfl, rfl⟩
    converged := fun _ _ => rfl }

/-- The second item comes and goes in one batch, which the browser answers with a request. -/
theorem requested_content_converges :
    Along repeaterStep ConvergedAfter emptySystem
      [.insert 0 0, .insert 1 0, .remove 1, .destroy 1, .updateChildren, .deliverToClient,
        .deliverToServer [], .deliverToClient] := by
  apply (repeater_converges empty_starts _ _).1
  have inserts : InsertsSent
      { items := [0]
        destroyed := [1]
        actions := [.prepend 0, .append 1, .remove 1]
        generation := 0
        children := []
        columnTemplate := []
        updateScheduled := true
        nextIdentifier := 2 } := by
    rintro ⟨item, afterItem, member, _⟩
    simp at member
  apply Along.cons rfl trivial
  apply Along.cons rfl trivial
  apply Along.cons rfl trivial
  apply Along.cons rfl trivial
  apply Along.cons rfl inserts
  apply Along.cons rfl trivial
  apply Along.cons rfl (fun other => absurd rfl other)
  exact Along.cons rfl trivial trivial

/-- An item is inserted behind one that is removed and destroyed before the batch is sent. -/
theorem insert_behind_destroyed_lost :
    ¬ ∀ start, Starts start → ∀ events, Along repeaterStep ConvergedAfter start events := by
  intro all
  have along := all emptySystem empty_starts
    ([.insert 0 0, .insert 1 0, .updateChildren, .deliverToClient, .insert 1 0, .remove 0,
      .destroy 0, .updateChildren] ++ [.deliverToClient])
  have converged := along.last rfl rfl
  have same := converged ⟨rfl, rfl, rfl⟩ rfl
  revert same
  decide

end Viridity.RepeaterUpdates
