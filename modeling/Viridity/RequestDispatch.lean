import Viridity.PatchRequests

/-!
# Dispatching requests

The web server asks its handlers in turn, and the session routing handler among them asks the
handlers of the session. A handler may change anything, the request and its response included,
so each answer is taken in the state the handlers before have left.
-/

namespace Viridity.RequestDispatch

open Viridity.TextEncoding
open Viridity.ServerMessages
open Viridity.FrameFlow
open Viridity.PatchRequests

set_option autoImplicit false

/-- The virtual methods of `ViridityRequestHandler`, and the handlers registered with the session
that the URL of the request names, whose grace period begins when it is looked up. A handler may
rewrite the request while it is asked. -/
structure RequestHandlers (Handler World : Type) where
  filterRequestResponse : Handler → World → World
  doesHandleRequest : Handler → World → Bool × World
  handleRequest : Handler → World → World
  addressed : World → Option (List Handler) × World

inductive Registered (Handler : Type) where
  | sessionRouting
  | leaf (handler : Handler)
deriving DecidableEq

structure Dispatch (Handler World : Type) where
  invoked : List Handler
  world : World
  result : Bool

variable {Handler World : Type} (handlers : RequestHandlers Handler World)

namespace ViriditySession

def doesHandleRequest : World → List Handler → Bool × World
  | world, [] => (false, world)
  | world, handler :: requestHandlers =>
      let result := handlers.doesHandleRequest handler world
      if result.1 then result else doesHandleRequest result.2 requestHandlers

def handleRequest : World → List Handler → List Handler × World
  | world, [] => ([], world)
  | world, handler :: requestHandlers =>
      let result := handlers.doesHandleRequest handler world
      if result.1 then
        let remaining := handleRequest (handlers.handleRequest handler result.2) requestHandlers
        (handler :: remaining.1, remaining.2)
      else handleRequest result.2 requestHandlers

end ViriditySession

namespace Registered

def filterRequestResponse (world : World) : Registered Handler → World
  | sessionRouting => world
  | leaf handler => handlers.filterRequestResponse handler world

def doesHandleRequest (world : World) : Registered Handler → Bool × World
  | sessionRouting =>
      let session := handlers.addressed world
      match session.1 with
      | some requestHandlers => ViriditySession.doesHandleRequest handlers session.2 requestHandlers
      | none => (false, session.2)
  | leaf handler => handlers.doesHandleRequest handler world

def handleRequest (world : World) : Registered Handler → List Handler × World
  | sessionRouting =>
      let session := handlers.addressed world
      match session.1 with
      | some requestHandlers => ViriditySession.handleRequest handlers session.2 requestHandlers
      | none => ([], session.2)
  | leaf handler => ([handler], handlers.handleRequest handler world)

end Registered

namespace ViridityWebServer

def handleLoop (result : Bool) : World → List (Registered Handler) → Dispatch Handler World
  | world, [] => ⟨[], world, result⟩
  | world, entry :: requestHandlers =>
      let asked := entry.doesHandleRequest handlers world
      if asked.1 then
        let handled := entry.handleRequest handlers asked.2
        let remaining := handleLoop true handled.2 requestHandlers
        { remaining with invoked := handled.1 ++ remaining.invoked }
      else handleLoop result asked.2 requestHandlers

def filterLoop (world : World) (requestHandlers : List (Registered Handler)) : World :=
  requestHandlers.foldl (Registered.filterRequestResponse handlers) world

def handleRequest (world : World) (requestHandlers : List (Registered Handler)) :
    Dispatch Handler World :=
  handleLoop handlers false (filterLoop handlers world requestHandlers) requestHandlers

end ViridityWebServer

/-- Leaf handlers asked one after the other, up to the first that does handle the request: this
one with those behind it, and what asking them has left. -/
def ask : World → List Handler → Option (Handler × List Handler) × World
  | world, [] => (none, world)
  | world, handler :: leaves =>
      let asked := handlers.doesHandleRequest handler world
      if asked.1 then (some (handler, leaves), asked.2) else ask asked.2 leaves

/-- The leaf handlers behind an entry, asked one after the other. -/
def askEntry (world : World) : Registered Handler → Option (Handler × List Handler) × World
  | .sessionRouting =>
      let session := handlers.addressed world
      ask handlers session.2 (session.1.getD [])
  | .leaf handler => ask handlers world [handler]

/-- The leaf handlers behind all entries, in the order of registration. -/
def askAll : World → List (Registered Handler) → Option Handler × World
  | world, [] => (none, world)
  | world, entry :: requestHandlers =>
      match askEntry handlers world entry with
      | (some first, asked) => (some first.1, asked)
      | (none, asked) => askAll asked requestHandlers

/-- The first leaf handler that does handle the request is invoked, and no other. -/
def HandledOnce (world : World) (requestHandlers : List (Registered Handler)) : Prop :=
  (ViridityWebServer.handleRequest handlers world requestHandlers).invoked =
    (askAll handlers (ViridityWebServer.filterLoop handlers world requestHandlers)
      requestHandlers).1.toList

/-- None of the leaf handlers behind the entries handles the request. A session asks its handlers
again before one of them handles it. -/
def NoneHandles : World → List (Registered Handler) → Prop
  | _, [] => True
  | world, .leaf handler :: requestHandlers =>
      let asked := handlers.doesHandleRequest handler world
      asked.1 = false ∧ NoneHandles asked.2 requestHandlers
  | world, .sessionRouting :: requestHandlers =>
      let asked := askEntry handlers world .sessionRouting
      let again := askEntry handlers asked.2 .sessionRouting
      if asked.1 = none then NoneHandles asked.2 requestHandlers
      else again.1 = none ∧ NoneHandles again.2 requestHandlers

/-- Once `handler` has handled the request, no leaf handler behind it does so: neither those of
its session, `behind`, nor those of the entries after it. -/
def NoneBehind (world : World) (handler : Handler) (behind : List Handler)
    (requestHandlers : List (Registered Handler)) : Prop :=
  let asked := ask handlers (handlers.handleRequest handler world) behind
  asked.1 = none ∧ NoneHandles handlers asked.2 requestHandlers

/-- `handler` handles the request, and no other leaf handler does. -/
def HandlesAlone (handler : Handler) : World → List (Registered Handler) → Prop
  | _, [] => False
  | world, .leaf other :: requestHandlers =>
      let asked := handlers.doesHandleRequest other world
      if asked.1 then other = handler ∧ NoneBehind handlers asked.2 other [] requestHandlers
      else HandlesAlone handler asked.2 requestHandlers
  | world, .sessionRouting :: requestHandlers =>
      let asked := askEntry handlers world .sessionRouting
      let again := askEntry handlers asked.2 .sessionRouting
      if asked.1 = none then HandlesAlone handler asked.2 requestHandlers
      else
        match again.1 with
        | some (other, behind) =>
            other = handler ∧ NoneBehind handlers again.2 other behind requestHandlers
        | none => HandlesAlone handler again.2 requestHandlers

/-- The first leaf handler that does handle the request, if there is one, handles it alone. -/
def FirstAlone (world : World) (requestHandlers : List (Registered Handler)) : Prop :=
  ∀ first, (askAll handlers world requestHandlers).1 = some first →
    HandlesAlone handlers first world requestHandlers

section Sessions

variable {handlers} {world : World} {requestHandlers : List Handler}

theorem session_does_handle :
    ViriditySession.doesHandleRequest handlers world requestHandlers =
      ((ask handlers world requestHandlers).1.isSome, (ask handlers world requestHandlers).2) := by
  induction requestHandlers generalizing world with
  | nil => rfl
  | cons handler requestHandlers induction =>
      unfold ViriditySession.doesHandleRequest ask
      dsimp only
      cases asked : (handlers.doesHandleRequest handler world).1 with
      | true =>
          rw [if_pos rfl, if_pos rfl]
          exact Prod.ext asked rfl
      | false =>
          rw [if_neg Bool.false_ne_true, if_neg Bool.false_ne_true]
          exact induction

theorem session_nothing (unhandled : (ask handlers world requestHandlers).1 = none) :
    ViriditySession.handleRequest handlers world requestHandlers =
      ([], (ask handlers world requestHandlers).2) := by
  induction requestHandlers generalizing world with
  | nil => rfl
  | cons handler requestHandlers induction =>
      unfold ask at unhandled
      unfold ViriditySession.handleRequest ask
      dsimp only at unhandled ⊢
      cases asked : (handlers.doesHandleRequest handler world).1 with
      | true =>
          rw [asked, if_pos rfl] at unhandled
          cases unhandled
      | false =>
          rw [asked, if_neg Bool.false_ne_true] at unhandled
          rw [if_neg Bool.false_ne_true, if_neg Bool.false_ne_true]
          exact induction unhandled

/-- A session goes on behind the first handler that has handled the request. -/
theorem session_invokes_first {handler : Handler} {behind : List Handler}
    (first : (ask handlers world requestHandlers).1 = some (handler, behind)) :
    let handled := handlers.handleRequest handler (ask handlers world requestHandlers).2
    ViriditySession.handleRequest handlers world requestHandlers =
      (handler :: (ViriditySession.handleRequest handlers handled behind).1,
        (ViriditySession.handleRequest handlers handled behind).2) := by
  induction requestHandlers generalizing world with
  | nil => cases first
  | cons next requestHandlers induction =>
      unfold ask at first ⊢
      rw [ViriditySession.handleRequest]
      dsimp only at first ⊢
      cases asked : (handlers.doesHandleRequest next world).1 with
      | true =>
          rw [asked, if_pos rfl] at first
          cases first
          rw [if_pos rfl, if_pos rfl]
      | false =>
          rw [asked, if_neg Bool.false_ne_true] at first
          rw [if_neg Bool.false_ne_true, if_neg Bool.false_ne_true]
          exact induction first

theorem session_nothing_iff :
    (ViriditySession.handleRequest handlers world requestHandlers).1 = [] ↔
      (ask handlers world requestHandlers).1 = none := by
  constructor
  · intro nothing
    cases first : (ask handlers world requestHandlers).1 with
    | none => rfl
    | some found =>
        rw [session_invokes_first first] at nothing
        cases nothing
  · intro unhandled
    rw [session_nothing unhandled]

end Sessions

section Entries

variable {handlers} {world : World} {entry : Registered Handler}

theorem entry_does_handle :
    entry.doesHandleRequest handlers world =
      ((askEntry handlers world entry).1.isSome, (askEntry handlers world entry).2) := by
  cases entry with
  | sessionRouting =>
      unfold Registered.doesHandleRequest askEntry
      dsimp only
      cases (handlers.addressed world).1 with
      | none => rfl
      | some requestHandlers => exact session_does_handle
  | leaf handler =>
      unfold Registered.doesHandleRequest askEntry ask ask
      dsimp only
      cases asked : (handlers.doesHandleRequest handler world).1 with
      | true =>
          rw [if_pos rfl]
          exact Prod.ext asked rfl
      | false =>
          rw [if_neg Bool.false_ne_true]
          exact Prod.ext asked rfl

theorem session_entry_handles :
    Registered.sessionRouting.handleRequest handlers world =
      ViriditySession.handleRequest handlers (handlers.addressed world).2
        ((handlers.addressed world).1.getD []) := by
  unfold Registered.handleRequest
  dsimp only
  cases (handlers.addressed world).1 with
  | none => rfl
  | some requestHandlers => rfl

end Entries

section WebServer

variable {handlers} {world : World} {requestHandlers : List (Registered Handler)}

theorem leaf_asked (handler : Handler) :
    askEntry handlers world (.leaf handler) =
      (if (handlers.doesHandleRequest handler world).1 then some (handler, []) else none,
        (handlers.doesHandleRequest handler world).2) := by
  unfold askEntry ask ask
  dsimp only
  cases (handlers.doesHandleRequest handler world).1 with
  | true => rfl
  | false => rfl

/-- An entry that does not handle the request is passed over, in the state it leaves. -/
theorem server_passes (result : Bool) {entry : Registered Handler}
    (unhandled : (askEntry handlers world entry).1 = none) :
    ViridityWebServer.handleLoop handlers result world (entry :: requestHandlers) =
      ViridityWebServer.handleLoop handlers result (askEntry handlers world entry).2
        requestHandlers := by
  rw [ViridityWebServer.handleLoop, entry_does_handle, unhandled]
  rfl

theorem server_handles (result : Bool) {entry : Registered Handler}
    (handles : (askEntry handlers world entry).1 ≠ none) :
    (ViridityWebServer.handleLoop handlers result world (entry :: requestHandlers)).invoked =
      (entry.handleRequest handlers (askEntry handlers world entry).2).1 ++
        (ViridityWebServer.handleLoop handlers true
          (entry.handleRequest handlers (askEntry handlers world entry).2).2
          requestHandlers).invoked := by
  rw [ViridityWebServer.handleLoop, entry_does_handle, Option.isSome_iff_ne_none.mpr handles]
  rfl

theorem server_nothing_iff (result : Bool) :
    (ViridityWebServer.handleLoop handlers result world requestHandlers).invoked = [] ↔
      NoneHandles handlers world requestHandlers := by
  induction requestHandlers generalizing result world with
  | nil => exact iff_of_true rfl trivial
  | cons entry requestHandlers induction =>
      by_cases unhandled : (askEntry handlers world entry).1 = none
      · rw [server_passes result unhandled, induction]
        cases entry with
        | sessionRouting =>
            rw [NoneHandles]
            rw [if_pos unhandled]
        | leaf handler =>
            rw [leaf_asked] at unhandled ⊢
            have refuses : (handlers.doesHandleRequest handler world).1 = false := by
              cases asked : (handlers.doesHandleRequest handler world).1 with
              | false => rfl
              | true =>
                  rw [asked] at unhandled
                  cases unhandled
            rw [NoneHandles]
            exact (and_iff_right refuses).symm
      · rw [server_handles result unhandled, List.append_eq_nil_iff]
        cases entry with
        | sessionRouting =>
            rw [NoneHandles]
            rw [if_neg unhandled, session_entry_handles, session_nothing_iff]
            apply and_congr_right
            intro nothing
            rw [session_nothing nothing]
            exact induction true
        | leaf handler =>
            rw [leaf_asked] at unhandled
            have handles : (handlers.doesHandleRequest handler world).1 = true := by
              cases asked : (handlers.doesHandleRequest handler world).1 with
              | true => rfl
              | false =>
                  rw [asked] at unhandled
                  exact absurd rfl unhandled
            apply iff_of_false
            · rintro ⟨nothing, _⟩
              cases nothing
            · intro none
              rw [NoneHandles] at none
              rw [handles] at none
              exact Bool.false_ne_true none.1.symm

/-- Behind the first handler nothing is invoked exactly when nothing handles the request. -/
theorem nothing_behind_iff (handler : Handler) (behind : List Handler) :
    let handled := ViriditySession.handleRequest handlers
      (handlers.handleRequest handler world) behind
    handled.1 ++ (ViridityWebServer.handleLoop handlers true handled.2 requestHandlers).invoked =
        [] ↔ NoneBehind handlers world handler behind requestHandlers := by
  intro handled
  unfold NoneBehind
  dsimp only
  rw [List.append_eq_nil_iff, session_nothing_iff]
  apply and_congr_right
  intro nothing
  have still : handled = ([], (ask handlers (handlers.handleRequest handler world) behind).2) :=
    session_nothing nothing
  rw [still]
  exact server_nothing_iff true

theorem ask_all_none (unhandled : (askAll handlers world requestHandlers).1 = none) :
    NoneHandles handlers world requestHandlers := by
  induction requestHandlers generalizing world with
  | nil => trivial
  | cons entry requestHandlers induction =>
      unfold askAll at unhandled
      cases asked : askEntry handlers world entry with
      | mk first left =>
          rw [asked] at unhandled
          cases first with
          | some first => cases unhandled
          | none =>
              have rest := induction unhandled
              cases entry with
              | sessionRouting =>
                  rw [NoneHandles]
                  rw [asked, if_pos rfl]
                  exact rest
              | leaf handler =>
                  rw [leaf_asked] at asked
                  rw [NoneHandles]
                  cases answer : (handlers.doesHandleRequest handler world).1 with
                  | true =>
                      rw [answer] at asked
                      cases asked
                  | false =>
                      refine ⟨rfl, ?_⟩
                      rw [(Prod.mk.inj asked).2]
                      exact rest

theorem server_invokes_iff (result : Bool) (handler : Handler) :
    (ViridityWebServer.handleLoop handlers result world requestHandlers).invoked = [handler] ↔
      HandlesAlone handlers handler world requestHandlers := by
  induction requestHandlers generalizing result world with
  | nil => exact iff_of_false (List.cons_ne_nil _ _).symm id
  | cons entry requestHandlers induction =>
      cases entry with
      | leaf other =>
          rw [HandlesAlone]
          cases answer : (handlers.doesHandleRequest other world).1 with
          | false =>
              have unhandled : (askEntry handlers world (.leaf other)).1 = none := by
                rw [leaf_asked, answer]
                rfl
              rw [server_passes result unhandled, leaf_asked, if_neg Bool.false_ne_true]
              exact induction result
          | true =>
              have handles : (askEntry handlers world (.leaf other)).1 ≠ none := by
                rw [leaf_asked, answer]
                exact Option.some_ne_none _
              rw [server_handles result handles, leaf_asked, if_pos rfl]
              exact List.cons_eq_cons.trans (and_congr_right fun _ => nothing_behind_iff other [])
      | sessionRouting =>
          rw [HandlesAlone]
          by_cases unhandled : (askEntry handlers world .sessionRouting).1 = none
          · rw [server_passes result unhandled, if_pos unhandled]
            exact induction result
          · rw [server_handles result unhandled, if_neg unhandled, session_entry_handles]
            cases again : (askEntry handlers (askEntry handlers world .sessionRouting).2
                .sessionRouting).1 with
            | none =>
                rw [session_nothing again]
                exact induction true
            | some found =>
                obtain ⟨other, behind⟩ := found
                rw [session_invokes_first again]
                exact List.cons_eq_cons.trans
                  (and_congr_right fun _ => nothing_behind_iff other behind)

end WebServer

/-- A request is handled by the first handler alone exactly when nothing else handles it once
that has, and its session, asked again, comes to it again. -/
theorem request_handled_once_iff (world : World) (requestHandlers : List (Registered Handler)) :
    HandledOnce handlers world requestHandlers ↔
      FirstAlone handlers (ViridityWebServer.filterLoop handlers world requestHandlers)
        requestHandlers := by
  unfold HandledOnce ViridityWebServer.handleRequest FirstAlone
  generalize ViridityWebServer.filterLoop handlers world requestHandlers = filtered
  cases asked : (askAll handlers filtered requestHandlers).1 with
  | none =>
      apply iff_of_true
      · exact (server_nothing_iff false).mpr (ask_all_none asked)
      · intro first found
        cases found
  | some first =>
      rw [Option.toList_some, server_invokes_iff]
      simp only [Option.some.injEq, forall_eq']

theorem handled_once_short {world : World} {requestHandlers : List (Registered Handler)}
    (once : HandledOnce handlers world requestHandlers) :
    (ViridityWebServer.handleRequest handlers world requestHandlers).invoked.length ≤ 1 := by
  rw [once]
  exact Option.length_toList_le

section PatchHandlers

/-- The displays of all sessions, the URL of the request and what was answered. -/
structure PatchWorld (Adapter : Type) where
  server : PatchServer Adapter
  url : Bytes
  responses : List Response

variable {Adapter : Type} (decoder : Decoder)

/-- The patch request handlers of one session, one for each display manager. -/
def patchHandlers (registered : List Nat) : RequestHandlers Nat (PatchWorld Adapter) where
  filterRequestResponse := fun _ world => world
  doesHandleRequest := fun _ world =>
    (PatchRequests.doesHandleRequest decoder world.server world.url, world)
  handleRequest := fun _ world =>
    let answer := PatchRequests.handleRequest decoder world.server world.url
    { world with server := answer.2, responses := world.responses ++ [answer.1] }
  addressed := fun world =>
    ((world.server.sessions (parseIdFromUrl decoder world.url)).map fun _ => registered, world)

theorem patch_request_sessions (server : PatchServer Adapter) (url : Bytes) :
    (PatchRequests.handleRequest decoder server url).2.sessions = server.sessions := by
  unfold PatchRequests.handleRequest
  split
  · rfl
  · rfl

theorem patch_request_answered_by_all (registered : List Nat) (asked : List Nat)
    {world : PatchWorld Adapter}
    (handles : PatchRequests.doesHandleRequest decoder world.server world.url = true) :
    (ViriditySession.handleRequest (patchHandlers decoder registered) world asked).1 = asked := by
  induction asked generalizing world with
  | nil => rfl
  | cons handler asked induction =>
      have still : PatchRequests.doesHandleRequest decoder
          (PatchRequests.handleRequest decoder world.server world.url).2 world.url = true := by
        unfold PatchRequests.doesHandleRequest at handles ⊢
        rw [patch_request_sessions]
        exact handles
      have remaining := @induction ((patchHandlers decoder registered).handleRequest handler world) still
      have does : ((patchHandlers decoder registered).doesHandleRequest handler world).1 = true :=
        handles
      rw [ViriditySession.handleRequest]
      dsimp only
      rw [if_pos does]
      exact congrArg (List.cons handler) remaining

theorem patch_request_invokes_all {registered : List Nat} (nonempty : registered ≠ [])
    {world : PatchWorld Adapter}
    (handles : PatchRequests.doesHandleRequest decoder world.server world.url = true) :
    (ViridityWebServer.handleRequest (patchHandlers decoder registered) world
      [.sessionRouting]).invoked = registered := by
  have known : (patchHandlers decoder registered).addressed world = (some registered, world) := by
    unfold PatchRequests.doesHandleRequest at handles
    rw [Bool.and_eq_true, Option.isSome_iff_exists] at handles
    obtain ⟨object, found⟩ := handles.2
    exact congrArg (fun session => (Option.map (fun _ => registered) session, world)) found
  have asked : askEntry (patchHandlers decoder registered) world .sessionRouting =
      (some (registered.headD 0, registered.tail), world) := by
    unfold askEntry
    rw [known]
    cases registered with
    | nil => exact absurd rfl nonempty
    | cons handler registered =>
        dsimp only [Option.getD_some]
        rw [ask]
        exact if_pos handles
  have first : (askEntry (patchHandlers decoder registered) world .sessionRouting).1 ≠ none := by
    rw [asked]
    exact Option.some_ne_none _
  have handled := @server_handles _ _ _ _ [] false _ first
  rw [asked, session_entry_handles, known] at handled
  dsimp only [Option.getD_some] at handled
  rw [patch_request_answered_by_all decoder registered registered handles] at handled
  exact handled.trans (List.append_nil registered)

/-- Two display managers of a session answer a request for a patch twice. -/
theorem two_managers_answer_twice :
    ¬ ∀ (registered : List Nat) (world : PatchWorld Unit),
      HandledOnce (patchHandlers strictDecoder registered) world [.sessionRouting] := by
  intro once
  have handles : PatchRequests.doesHandleRequest strictDecoder (sampleServer "d")
      (patchUrl sampleSession "d_1_0") = true :=
    handles_patch_url (by decide)
      (requested_of_sent sampleSession (by decide) (by decide)
        (by decide)) (sample_known "d")
  have all := @patch_request_invokes_all Unit strictDecoder [0, 1] (List.cons_ne_nil 0 [1])
    ⟨sampleServer "d", patchUrl sampleSession "d_1_0", []⟩ handles
  have short := handled_once_short _
    (once [0, 1] ⟨sampleServer "d", patchUrl sampleSession "d_1_0", []⟩)
  rw [all] at short
  exact absurd short (by decide)

end PatchHandlers

end Viridity.RequestDispatch
