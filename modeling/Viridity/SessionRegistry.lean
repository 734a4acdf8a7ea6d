import Viridity.SessionHoldings

/-!
# Identifiers of sessions

An identifier is given to one session only, and a session becomes known under it when it
enters the hash of the manager. Until then nobody but its creator can reach it.
-/

namespace Viridity.SessionRegistry

open Viridity.SessionUse
open Viridity.SessionExpiry
open Viridity.SessionExpiry.SessionManager
open Viridity.SessionHoldings

set_option autoImplicit false

/-- The hash only loses entries, and no session is created or inserted. -/
structure Unlisted (before after : SessionManager) : Prop where
  sessions : after.sessions ⊆ before.sessions
  created : after.created = before.created

theorem unlisted_same {before after : SessionManager} (sessions : after.sessions = before.sessions)
    (created : after.created = before.created) : Unlisted before after := by
  constructor
  · rw [sessions]
    exact List.Subset.refl _
  · exact created

theorem Unlisted.trans {first second third : SessionManager} (early : Unlisted first second)
    (late : Unlisted second third) : Unlisted first third where
  sessions := List.Subset.trans late.sessions early.sessions
  created := late.created.trans early.created

theorem unlisted_get (manager : SessionManager) (id : String) :
    Unlisted manager (manager.getSession id).1 := by
  unfold getSession
  split
  · split_ifs <;> exact unlisted_same rfl rfl
  · exact unlisted_same rfl rfl

theorem unlisted_acquire (manager : SessionManager) (id : String) :
    Unlisted manager (manager.acquireSession id).1 := by
  have looked := unlisted_get manager id
  unfold SessionManager.acquireSession
  split <;> rename_i result <;> rw [result] at looked <;> exact ⟨looked.sessions, looked.created⟩

theorem unlisted_dispatch (manager : SessionManager) (id : String) :
    Unlisted manager (manager.dispatchMessageToHandlers id) := by
  have looked := unlisted_get manager id
  unfold SessionManager.dispatchMessageToHandlers
  split <;> rename_i result <;> rw [result] at looked <;> exact ⟨looked.sessions, looked.created⟩

theorem unlisted_sweep (manager : SessionManager) (object : Nat) :
    Unlisted manager (manager.sweepSession object) := by
  unfold sweepSession
  split
  · exact unlisted_same rfl rfl
  · split_ifs
    · exact unlisted_same rfl rfl
    · exact ⟨List.filter_subset_self _, rfl⟩
    · exact unlisted_same rfl rfl

theorem unlisted_kill (manager : SessionManager) (lockFree : Bool) :
    Unlisted manager (manager.killExpiredSessions lockFree) := by
  have swept : ∀ objects : List Nat, ∀ start,
      Unlisted start (objects.foldl sweepSession start) := by
    intro objects
    induction objects with
    | nil =>
        intro start
        exact unlisted_same rfl rfl
    | cons object rest induction =>
        intro start
        exact (unlisted_sweep start object).trans (induction _)
  unfold killExpiredSessions
  split_ifs
  · exact swept _ manager
  · exact unlisted_same rfl rfl

theorem unlisted_session_step {manager after : SessionManager} {object : Nat}
    {guard : ViriditySession → Bool} {change : ViriditySession → ViriditySession}
    (taken : sessionStep manager object guard change = some after) : Unlisted manager after := by
  rw [session_step_eq taken]
  exact unlisted_same rfl rfl

theorem unlisted_quiet {manager after : SessionManager} {action : ManagerAction}
    (quiet : isQuiet action = true) (taken : managerStep manager action = some after) :
    Unlisted manager after := by
  cases action with
  | getSession id =>
      cases taken
      exact unlisted_get manager id
  | dispatchMessageToHandlers id =>
      cases taken
      exact unlisted_dispatch manager id
  | deliverEvent object =>
      obtain ⟨found, event, rest, held, queue, rfl⟩ := deliver_event_cases taken
      exact unlisted_same rfl rfl
  | detachDeferTimerTimeout object =>
      simp only [managerStep] at taken
      exact unlisted_session_step taken
  | interactionCheckTimerTimeout object =>
      simp only [managerStep] at taken
      exact unlisted_session_step taken
  | testForInteractivity object =>
      simp only [managerStep] at taken
      exact unlisted_session_step taken
  | requestReleaseAndWait object =>
      simp only [managerStep] at taken
      exact unlisted_session_step taken
  | leaveTest object =>
      simp only [managerStep] at taken
      exact unlisted_session_step taken
  | elapse milliseconds =>
      cases taken
      exact unlisted_same rfl rfl
  | killExpiredSessions lockFree =>
      cases taken
      exact unlisted_kill manager lockFree
  | createSession _ _ | insertSession _ | acquireSession _ | releaseSession _ => cases quiet

/-- `identifiers` lists the sessions ever created. -/
structure Registered (manager : SessionManager) (identifiers : List (String × Nat)) : Prop where
  distinct : (identifiers.map Prod.fst).Nodup
  named : ∀ object found, manager.objects object = some found →
    (found.session.id, object) ∈ identifiers
  listed : ∀ entry ∈ manager.sessions, entry ∈ identifiers ∧ entry.2 ∉ manager.created
  reserved : manager.created.Nodup
  allocated : ∀ object ∈ manager.created, object < manager.nextObject
  identified : ∀ entry ∈ identifiers, entry.2 < manager.nextObject

theorem Registered.unique {manager : SessionManager} {identifiers : List (String × Nat)}
    (registered : Registered manager identifiers) {id : String} {first second : Nat}
    (one : (id, first) ∈ identifiers) (other : (id, second) ∈ identifiers) : first = second := by
  have same := List.inj_on_of_nodup_map registered.distinct one other rfl
  exact congrArg Prod.snd same

theorem registered_change {before after : SessionManager} {identifiers : List (String × Nat)}
    (registered : Registered before identifiers) (unlisted : Unlisted before after)
    (named : ∀ object found, after.objects object = some found →
      ∃ was, before.objects object = some was ∧ found.session.id = was.session.id)
    (next : before.nextObject = after.nextObject) : Registered after identifiers where
  distinct := registered.distinct
  named := by
    intro object found held
    obtain ⟨was, before, same⟩ := named object found held
    rw [same]
    exact registered.named object was before
  listed := by
    intro entry member
    rw [unlisted.created]
    exact registered.listed entry (unlisted.sessions member)
  reserved := by
    rw [unlisted.created]
    exact registered.reserved
  allocated := by
    rw [unlisted.created, ← next]
    exact registered.allocated
  identified := by
    rw [← next]
    exact registered.identified

theorem registered_quiet {before after : SessionManager} {identifiers : List (String × Nat)}
    (registered : Registered before identifiers) (unlisted : Unlisted before after)
    (quiet : QuietStep before after) : Registered after identifiers := by
  apply registered_change registered unlisted _ quiet.nextObject
  intro object found held
  obtain ⟨was, present, quietly⟩ := quiet.objects object found held
  exact ⟨was, present, quietly.identifier⟩

theorem registered_modify {manager : SessionManager} {identifiers : List (String × Nat)}
    (registered : Registered manager identifiers) (object : Nat)
    {change : SessionObject → SessionObject} (books : BooksKept change) :
    Registered (manager.modify object change) identifiers := by
  have unlisted : Unlisted manager (manager.modify object change) := unlisted_same rfl rfl
  apply registered_change registered unlisted _ rfl
  intro other found held
  obtain ⟨was, present, rfl | rfl⟩ := modify_some held
  · exact ⟨found, present, rfl⟩
  · exact ⟨was, present, (books was).1⟩

/-- Inserting a session makes it known under the identifier it was created with. -/
theorem registered_insert {manager after : SessionManager} {identifiers : List (String × Nat)}
    (registered : Registered manager identifiers) {object : Nat}
    (taken : managerStep manager (.insertSession object) = some after) :
    Registered after identifiers := by
  simp only [managerStep] at taken
  split at taken
  · cases taken
  rename_i found held
  split_ifs at taken with among
  cases taken
  unfold SessionManager.insertSession
  apply registered_modify _ object books_hand_out
  constructor
  · exact registered.distinct
  · exact registered.named
  · intro entry member
    rcases List.mem_append.mp member with member | member
    · obtain ⟨known, apart⟩ := registered.listed entry (List.mem_of_mem_filter member)
      exact ⟨known, fun inside => apart (List.mem_of_mem_erase inside)⟩
    · rw [List.mem_singleton.mp member]
      exact ⟨registered.named object found held, registered.reserved.not_mem_erase⟩
  · exact registered.reserved.erase object
  · intro other member
    exact registered.allocated other (List.mem_of_mem_erase member)
  · exact registered.identified

theorem registered_create {manager : SessionManager} {identifiers : List (String × Nat)}
    (registered : Registered manager identifiers) {id : String}
    (fresh : id ∉ identifiers.map Prod.fst) (lockFree : Bool) :
    Registered (manager.createSession id lockFree)
      ((id, (manager.killExpiredSessions lockFree).nextObject) :: identifiers) := by
  have swept := registered_quiet registered (unlisted_kill manager lockFree)
    (quiet_kill manager lockFree)
  constructor
  · exact List.nodup_cons.mpr ⟨fresh, registered.distinct⟩
  · intro object found held
    unfold SessionManager.createSession at held
    by_cases same : object = (manager.killExpiredSessions lockFree).nextObject
    · simp only [same, Function.update_self, Option.some.injEq] at held
      subst held
      rw [same]
      exact List.mem_cons_self
    · simp only [Function.update_of_ne same] at held
      exact List.mem_cons_of_mem _ (swept.named object found held)
  · intro entry member
    obtain ⟨listed, apart⟩ := swept.listed entry member
    refine ⟨List.mem_cons_of_mem _ listed, ?_⟩
    intro among
    rcases List.mem_cons.mp among with same | among
    · have below := swept.identified entry listed
      omega
    · exact apart among
  · apply List.nodup_cons.mpr
    refine ⟨?_, swept.reserved⟩
    intro among
    have below := swept.allocated _ among
    omega
  · intro object among
    rcases List.mem_cons.mp among with rfl | among
    · exact Nat.lt_succ_self _
    · exact Nat.lt_succ_of_lt (swept.allocated object among)
  · intro entry member
    rcases List.mem_cons.mp member with rfl | member
    · exact Nat.lt_succ_self _
    · exact Nat.lt_succ_of_lt (swept.identified entry member)

/-- Every step of the manager but the creation of a session. -/
theorem registered_step {manager after : SessionManager} {identifiers : List (String × Nat)}
    (registered : Registered manager identifiers) {action : ManagerAction}
    (taken : managerStep manager action = some after)
    (creates : ∀ id lockFree, action ≠ .createSession id lockFree) :
    Registered after identifiers := by
  cases action with
  | createSession id lockFree => exact absurd rfl (creates id lockFree)
  | insertSession object => exact registered_insert registered taken
  | acquireSession id =>
      cases taken
      have looked := registered_quiet registered (unlisted_get manager id) (quiet_get manager id)
      unfold SessionManager.acquireSession
      split <;> rename_i result <;> rw [result] at looked
      · exact registered_modify looked _ books_hand_out
      · exact looked
  | releaseSession object =>
      simp only [managerStep] at taken
      split_ifs at taken
      cases taken
      exact registered_modify registered object books_give_back
  | _ => exact registered_quiet registered (unlisted_quiet rfl taken) (quiet_step rfl taken)

/-- Only `createSession` adds to the sessions not yet inserted, and it adds a new one. -/
theorem created_step {manager after : SessionManager} {action : ManagerAction}
    (taken : managerStep manager action = some after) {object : Nat}
    (among : object ∈ after.created) :
    object ∈ manager.created ∨ manager.nextObject ≤ object := by
  cases action with
  | createSession id lockFree =>
      cases taken
      rcases List.mem_cons.mp among with rfl | among
      · rw [(quiet_kill manager lockFree).nextObject]
        exact Or.inr (Nat.le_refl _)
      · rw [(unlisted_kill manager lockFree).created] at among
        exact Or.inl among
  | insertSession inserted =>
      simp only [managerStep] at taken
      split at taken
      · cases taken
      · split_ifs at taken
        cases taken
        exact Or.inl (List.mem_of_mem_erase among)
  | acquireSession id =>
      cases taken
      rw [(unlisted_acquire manager id).created] at among
      exact Or.inl among
  | releaseSession released =>
      simp only [managerStep] at taken
      split_ifs at taken
      cases taken
      exact Or.inl among
  | _ =>
      rw [(unlisted_quiet rfl taken).created] at among
      exact Or.inl among

end Viridity.SessionRegistry
