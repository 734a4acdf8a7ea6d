import Viridity.DisplayProtocol
import Viridity.EventLogs
import Viridity.LabelledRuns

/-!
# Complete frames

A frame is flipped to the front when all its operations are painted. The counter of
pending patches tells, as long as no full update resets it while images load.
-/

namespace Viridity.FrameCompletion

open Viridity.BufferRenderer
open Viridity.SceneDisplay
open Viridity.FrameFlow
open Viridity.DisplayDispatch
open Viridity.DisplayClient
open Viridity.DisplayProtocol
open Viridity.EventLogs
open Viridity.LabelledRuns
open DisplayRenderer

set_option autoImplicit false

variable {Adapter : Type}

/-- `done()` comes before the messages of all frames. -/
def messageOrder : ClientMessage → Nat
  | .done => 0
  | .frame message => frameOf message + 1

def paramOrder : FrameParam → Nat
  | .unset => 0
  | .empty => 0
  | .number frame => frame + 1

theorem param_order_message (message : ClientMessage) :
    paramOrder (frameParam message) = messageOrder message := by
  cases message with
  | done => rfl
  | frame message => rfl

theorem param_order_number {param : FrameParam} {frame : Nat}
    (same : paramOrder param = frame + 1) : param = .number frame := by
  cases param with
  | unset => simp [paramOrder] at same
  | empty => simp [paramOrder] at same
  | number other =>
      simp only [paramOrder, Nat.add_right_cancel_iff] at same
      rw [same]

def endOf (operation : DisplayMessage) : ClientMessage := .frame (.frameEnd (frameOf operation))

/-- When a message may follow a stream: frames do not go back, a frame has one end and no
operation after it, and a full update finds the frames before it ended. -/
structure StreamAllowed (earlier : List ClientMessage) (message : ClientMessage) : Prop where
  ordered : ∀ before ∈ earlier, messageOrder before ≤ messageOrder message
  once : ∀ frame, message = .frame (.frameEnd frame) → message ∉ earlier
  complete : isFullUpdate message = true → ∀ operation, .frame operation ∈ earlier →
    isOperation operation = true → endOf operation ∈ earlier
  inside : ∀ operation, message = .frame operation → isOperation operation = true →
    endOf operation ∉ earlier

def sentMessages (run : DisplayRun Adapter) : List ClientMessage :=
  .done :: (run.log.filterMap sentIn).map .frame

/-- The server's side: a lawful stream of complete frames, none beyond the current one. -/
structure StreamInvariant (run : DisplayRun Adapter) : Prop where
  flow : FlowInvariant run
  lawful : Lawful StreamAllowed (sentMessages run)
  bounded : ∀ message ∈ sentMessages run, messageOrder message ≤ run.display.frame + 1
  batches : ∀ operation, .frame operation ∈ sentMessages run → isOperation operation = true →
    endOf operation ∈ sentMessages run

theorem lawful_operations {started : List ClientMessage} (lawful : Lawful StreamAllowed started)
    {frame : Nat} (bounded : ∀ message ∈ started, messageOrder message ≤ frame + 1)
    (unended : ClientMessage.frame (.frameEnd frame) ∉ started) {body : List DisplayMessage}
    (operations : ∀ message ∈ body, isOperation message = true ∧ frameOf message = frame) :
    Lawful StreamAllowed (started ++ body.map .frame) ∧
      (∀ message ∈ started ++ body.map ClientMessage.frame, messageOrder message ≤ frame + 1) ∧
      ClientMessage.frame (.frameEnd frame) ∉ started ++ body.map .frame := by
  induction body using List.reverseRecOn with
  | nil => simpa using ⟨lawful, bounded, unended⟩
  | append_singleton body last induction =>
      obtain ⟨before, below, open'⟩ := induction
        fun message member => operations message (List.mem_append_left _ member)
      obtain ⟨proper, same⟩ := operations last (List.mem_append_right _ List.mem_cons_self)
      rw [List.map_append, ← List.append_assoc]
      refine ⟨lawful_snoc before ⟨?_, ?_, ?_, ?_⟩, ?_, ?_⟩
      · intro message member
        simp only [messageOrder, same]
        exact below message member
      · rintro other wrong
        cases wrong
        cases proper
      · intro full
        cases last with
        | fullUpdate other => cases proper
        | dI other rect margin mimeType payload => cases full
        | mI other rect dstPoint => cases full
        | fR other rect fillColor => cases full
        | frameEnd other => cases full
      · intro operation wrong _
        cases wrong
        rw [endOf, same]
        exact open'
      · intro message member
        rcases List.mem_append.mp member with earlier | new
        · exact below message earlier
        · rw [List.mem_singleton.mp new]
          exact Nat.le_of_eq (congrArg (· + 1) same)
      · intro member
        rcases List.mem_append.mp member with earlier | new
        · exact open' earlier
        · cases List.mem_singleton.mp new
          cases proper

section Stream

variable {log : List ClientMessage} (lawful : Lawful StreamAllowed log)
variable (batches : ∀ operation, .frame operation ∈ log → isOperation operation = true →
  endOf operation ∈ log)

include lawful batches

theorem lawful_full_update {frame : Nat} (bounded : ∀ message ∈ log, messageOrder message ≤ frame + 1) :
    Lawful StreamAllowed (log ++ [.frame (.fullUpdate frame)]) := by
  apply lawful_snoc lawful
  constructor
  · exact bounded
  · intro other same
    cases same
  · intro _
    exact batches
  · intro operation same proper
    cases same
    cases proper

theorem lawful_frame {frame : Nat} (bounded : ∀ message ∈ log, messageOrder message ≤ frame)
    (requested : Bool) {body : List DisplayMessage}
    (operations : ∀ message ∈ body, isOperation message = true ∧ frameOf message = frame) :
    Lawful StreamAllowed (log ++ ((if requested then [DisplayMessage.fullUpdate frame] else []) ++
      body ++ [DisplayMessage.frameEnd frame]).map .frame) := by
  obtain ⟨started, startedSame⟩ : ∃ started, started =
      log ++ (if requested then [DisplayMessage.fullUpdate frame] else []).map .frame := ⟨_, rfl⟩
  have members : ∀ message ∈ started, message ∈ log ∨ message = .frame (.fullUpdate frame) := by
    intro message member
    rw [startedSame] at member
    rcases List.mem_append.mp member with earlier | new
    · exact Or.inl earlier
    · right
      cases requested with
      | true => simpa using new
      | false => simp at new
  have early : ∀ message ∈ log, messageOrder message ≤ frame + 1 := by
    intro message member
    have bound := bounded message member
    omega
  have startedLawful : Lawful StreamAllowed started := by
    rw [startedSame]
    cases requested with
    | true => exact lawful_full_update lawful batches early
    | false => simpa using lawful
  have startedBound : ∀ message ∈ started, messageOrder message ≤ frame + 1 := by
    intro message member
    rcases members message member with earlier | same
    · exact early message earlier
    · rw [same]
      exact Nat.le_refl _
  have unended : ClientMessage.frame (.frameEnd frame) ∉ started := by
    intro member
    rcases members _ member with old | same
    · have bound := bounded _ old
      simp only [messageOrder, frameOf] at bound
      omega
    · cases same
  obtain ⟨bodyLawful, bodyBound, bodyUnended⟩ :=
    lawful_operations startedLawful startedBound unended operations
  rw [List.map_append, List.map_append, ← List.append_assoc, ← List.append_assoc, ← startedSame]
  apply lawful_snoc bodyLawful
  constructor
  · exact bodyBound
  · intro other same
    cases same
    exact bodyUnended
  · intro full
    cases full
  · intro operation same proper
    cases same
    cases proper

end Stream

theorem stream_silent {run after : DisplayRun Adapter} (invariant : StreamInvariant run)
    (flow : FlowInvariant after) (logged : sentMessages after = sentMessages run)
    (frame : after.display.frame = run.display.frame) : StreamInvariant after := by
  constructor
  · exact flow
  · rw [logged]
    exact invariant.lawful
  · rw [logged, frame]
    exact invariant.bounded
  · rw [logged]
    exact invariant.batches

/-- Messages of the frame the server is at, with the end of it behind its operations, may follow. -/
theorem stream_sent {run after : DisplayRun Adapter} (invariant : StreamInvariant run)
    {sent : List DisplayMessage} (flow : FlowInvariant after)
    (logged : sentMessages after = sentMessages run ++ sent.map .frame)
    (lawful : Lawful StreamAllowed (sentMessages run ++ sent.map .frame))
    (later : run.display.frame ≤ after.display.frame)
    (numbered : ∀ message ∈ sent, frameOf message = after.display.frame)
    (ended : ∀ operation ∈ sent, isOperation operation = true →
      endOf operation ∈ sent.map ClientMessage.frame) :
    StreamInvariant after ∧ run.display.frame ≤ after.display.frame ∧
      ∀ message ∈ sent.map ClientMessage.frame, run.display.frame + 1 ≤ messageOrder message := by
  have ordered : ∀ message ∈ sent.map ClientMessage.frame,
      messageOrder message = after.display.frame + 1 := by
    intro message member
    obtain ⟨inner, innerMember, same⟩ := List.mem_map.mp member
    rw [← same, messageOrder, numbered inner innerMember]
  refine ⟨⟨flow, ?_, ?_, ?_⟩, later, ?_⟩
  · rw [logged]
    exact lawful
  · intro message member
    rw [logged] at member
    rcases List.mem_append.mp member with earlier | new
    · have bound := invariant.bounded message earlier
      omega
    · exact Nat.le_of_eq (ordered message new)
  · intro operation member proper
    rw [logged] at member ⊢
    rcases List.mem_append.mp member with earlier | new
    · exact List.mem_append_left _ (invariant.batches operation earlier proper)
    · obtain ⟨inner, innerMember, same⟩ := List.mem_map.mp new
      cases same
      exact List.mem_append_right _ (ended operation innerMember proper)
  · intro message member
    rw [ordered message member]
    omega

/-- What the server sends keeps the stream lawful and goes beyond no earlier frame. -/
theorem stream_move {run after : DisplayRun Adapter} (invariant : StreamInvariant run)
    {sent : List DisplayMessage} (flow : FlowInvariant after)
    (move : ServerMove run.display after.display sent)
    (logged : sentMessages after = sentMessages run ++ sent.map .frame) :
    StreamInvariant after ∧ run.display.frame ≤ after.display.frame ∧
      ∀ message ∈ sent.map ClientMessage.frame, run.display.frame + 1 ≤ messageOrder message := by
  cases move with
  | still ready requested frame =>
      apply stream_sent invariant flow logged _ (Nat.le_of_eq frame.symm)
      · intro message member
        exact absurd member List.not_mem_nil
      · intro operation member
        exact absurd member List.not_mem_nil
      · rw [List.map_nil, List.append_nil]
        exact invariant.lawful
  | unchanged available ready requested frame =>
      apply stream_sent invariant flow logged _ (Nat.le_of_eq frame.symm)
      · intro message member
        split_ifs at member
        · rw [List.mem_singleton.mp member]
          exact frame.symm
        · exact absurd member List.not_mem_nil
      · intro operation member proper
        split_ifs at member
        · rw [List.mem_singleton.mp member] at proper
          cases proper
        · exact absurd member List.not_mem_nil
      · split_ifs
        · exact lawful_full_update invariant.lawful invariant.batches invariant.bounded
        · rw [List.map_nil, List.append_nil]
          exact invariant.lawful
  | framed body available ready requested frame operations =>
      have numbered : ∀ message ∈ ((if run.display.fullUpdateRequested then
          [DisplayMessage.fullUpdate after.display.frame] else []) ++ body ++
            [DisplayMessage.frameEnd after.display.frame]),
          frameOf message = after.display.frame := by
        intro message member
        rcases List.mem_append.mp member with front | last
        · rcases List.mem_append.mp front with start | inside
          · split_ifs at start
            · rw [List.mem_singleton.mp start]
              rfl
            · exact absurd start List.not_mem_nil
          · exact (operations message inside).2
        · rw [List.mem_singleton.mp last]
          rfl
      apply stream_sent invariant flow logged _ (by omega) numbered
      · intro operation member _
        rw [endOf, numbered operation member]
        apply List.mem_map_of_mem
        exact List.mem_append_right _ List.mem_cons_self
      · apply lawful_frame invariant.lawful invariant.batches _ _ operations
        intro message member
        have bound := invariant.bounded message member
        omega

/-- An operation was painted, or its image failed or still loads. -/
def Settled (client : DisplayRenderer) (events : List CanvasEvent) (operation : DisplayMessage) :
    Prop :=
  .painted operation ∈ events ∨ .failed operation ∈ events ∨ operation ∈ client.loading

/-- What the canvases may show next: a frame received to its end whose operations are all
painted, and no operation older than a frame already in front. -/
def CanvasAllowed (received : List ClientMessage) (earlier : List CanvasEvent) : CanvasEvent → Prop
  | .flipped param => ∃ frame, param = .number frame ∧ .frame (.frameEnd frame) ∈ received ∧
      ∀ operation, .frame operation ∈ received → isOperation operation = true →
        frameOf operation = frame → .painted operation ∈ earlier
  | .painted operation => ∀ param, .flipped param ∈ earlier →
      paramOrder param ≤ frameOf operation + 1
  | .failed _ => True

/-- What holds of the client at all times, but for the operations just accepted. -/
structure ClientKept (client : DisplayRenderer) (received : List ClientMessage)
    (events : List CanvasEvent) : Prop where
  counted : Counted client
  closed : client.frameEndReceived = true → ∀ frame, client.lastFrame = .number frame →
    .frame (.frameEnd frame) ∈ received ∨ (client.waitingForFullUpdate = true ∧
      ∃ operation, .frame operation ∈ received ∧ isOperation operation = true ∧
        frameOf operation = frame)
  finished : AwaitsImages client → ∀ frame, client.lastFrame = .number frame →
    .frame (.frameEnd frame) ∈ received ∧ ∀ operation, .frame operation ∈ received →
      isOperation operation = true → frameOf operation = frame → Settled client events operation
  images : ∀ operation ∈ client.loading, frameOf operation + 1 ≤ paramOrder client.lastFrame
  attempted : ∀ operation, .failed operation ∈ events →
    frameOf operation + 1 ≤ paramOrder client.lastFrame
  failures : ∀ frame, client.lastFrame = .number frame → ∀ operation, .failed operation ∈ events →
    frameOf operation = frame →
      0 < client.frameErrors ∨ (.frame (.frameEnd frame) ∈ received ∧ client.loading = [])
  flips : ∀ param, .flipped param ∈ events → paramOrder param ≤ paramOrder client.lastFrame ∧
    ∀ operation ∈ client.loading, paramOrder param ≤ frameOf operation + 1
  canvas : Lawful (CanvasAllowed received) events

/-- Unless the client waits, the operations of a frame not ended yet are all settled. -/
def OperationsSettled (client : DisplayRenderer) (received : List ClientMessage)
    (events : List CanvasEvent) : Prop :=
  client.waitingForFullUpdate = false → ∀ operation, .frame operation ∈ received →
    isOperation operation = true → endOf operation ∉ received → Settled client events operation

section Determination

variable {client : DisplayRenderer} {received : List ClientMessage} {events : List CanvasEvent}
variable {outcome : ClientOutcome} (determined : Determined client outcome)

include determined

theorem settled_determined {operation : DisplayMessage} (settled : Settled client events operation) :
    Settled outcome.renderer (events ++ outcome.events) operation := by
  have loading : outcome.renderer.loading = client.loading := by
    cases determined with
    | waits incomplete => rfl
    | fails ended complete => rfl
    | flips ended complete clean => rfl
  rcases settled with painted | failed | loads
  · exact Or.inl (List.mem_append_left _ painted)
  · exact Or.inr (Or.inl (List.mem_append_left _ failed))
  · exact Or.inr (Or.inr (loading ▸ loads))

theorem operations_settled_determined (settled : OperationsSettled client received events) :
    OperationsSettled outcome.renderer received (events ++ outcome.events) := by
  intro awake operation member proper unended
  apply settled_determined determined
  apply settled _ operation member proper unended
  cases determined with
  | waits incomplete => exact awake
  | fails ended complete => cases awake
  | flips ended complete clean => exact awake

/-- A determination keeps the invariant, when a complete frame is known to be ended and
settled. -/
theorem kept_determined (kept : ClientKept client received events)
    (complete : client.frameEndReceived = true → client.pendingPatchesCount = 0 →
      client.loading = [] ∧ ∃ frame, client.lastFrame = .number frame ∧
        .frame (.frameEnd frame) ∈ received ∧ ∀ operation, .frame operation ∈ received →
          isOperation operation = true → frameOf operation = frame →
            .painted operation ∈ events ∨ .failed operation ∈ events)
    (errors : ∀ frame, client.lastFrame = .number frame → ∀ operation,
      .failed operation ∈ events → frameOf operation = frame → 0 < client.frameErrors) :
    ClientKept outcome.renderer received (events ++ outcome.events) := by
  cases determined with
  | waits incomplete =>
      rw [List.append_nil]
      exact kept
  | fails ended none =>
      obtain ⟨loaded, frame, last, endReceived, _⟩ := complete ended none
      rw [List.append_nil]
      constructor
      · exact Or.inl (by rw [none, loaded]; rfl)
      · intro _ other same
        left
        rw [last] at same
        cases same
        exact endReceived
      · intro awaits
        exact absurd loaded awaits.2.1
      · exact kept.images
      · exact kept.attempted
      · intro other same operation _ _
        rw [last] at same
        cases same
        exact Or.inr ⟨endReceived, loaded⟩
      · exact kept.flips
      · exact kept.canvas
  | flips ended none clean =>
      obtain ⟨loaded, frame, last, endReceived, settled⟩ := complete ended none
      have older : ∀ operation, CanvasEvent.failed operation ∈
          events ++ [CanvasEvent.flipped client.lastFrame] → .failed operation ∈ events := by
        intro operation member
        rcases List.mem_append.mp member with earlier | new
        · exact earlier
        · simp at new
      constructor
      · exact kept.counted
      · exact kept.closed
      · intro awaits
        exact absurd loaded awaits.2.1
      · exact kept.images
      · intro operation member
        exact kept.attempted operation (older operation member)
      · intro other same operation _ _
        rw [last] at same
        cases same
        exact Or.inr ⟨endReceived, loaded⟩
      · intro param member
        rcases List.mem_append.mp member with earlier | new
        · exact kept.flips param earlier
        · rw [List.mem_singleton] at new
          cases new
          refine ⟨Nat.le_refl _, ?_⟩
          intro operation impossible
          rw [loaded] at impossible
          exact absurd impossible List.not_mem_nil
      · apply lawful_snoc kept.canvas
        refine ⟨frame, last, endReceived, ?_⟩
        intro operation member proper same
        rcases settled operation member proper same with painted | failed
        · exact painted
        · have positive := errors frame last operation failed same
          omega

end Determination

section Receiving

variable {client : DisplayRenderer} {received : List ClientMessage} {events : List CanvasEvent}
variable (kept : ClientKept client received events) {message : ClientMessage}
variable (allowed : StreamAllowed received message)
variable (position : paramOrder client.lastFrame ≤ messageOrder message)

include kept allowed

omit kept in
theorem end_kept {frame : Nat} (ended : .frame (.frameEnd frame) ∈ received)
    {operation : DisplayMessage} (member : .frame operation ∈ received ++ [message])
    (proper : isOperation operation = true) (same : frameOf operation = frame) :
    .frame operation ∈ received := by
  rcases List.mem_append.mp member with earlier | new
  · exact earlier
  · rw [List.mem_singleton] at new
    have absent := allowed.inside operation new.symm proper
    rw [endOf, same] at absent
    exact absurd ended absent

theorem canvas_received : Lawful (CanvasAllowed (received ++ [message])) events := by
  refine lawful_mono kept.canvas ?_
  intro earlier event _ permitted
  cases event with
  | painted operation => exact permitted
  | failed operation => trivial
  | flipped param =>
      obtain ⟨frame, same, ended, painted⟩ := permitted
      refine ⟨frame, same, List.mem_append_left _ ended, ?_⟩
      intro operation member proper ofFrame
      exact painted operation (end_kept allowed ended member proper ofFrame) proper ofFrame

theorem finished_received (awaits : AwaitsImages client) {frame : Nat}
    (last : client.lastFrame = .number frame) :
    .frame (.frameEnd frame) ∈ received ++ [message] ∧ ∀ operation,
      .frame operation ∈ received ++ [message] → isOperation operation = true →
        frameOf operation = frame → Settled client events operation := by
  obtain ⟨ended, settled⟩ := kept.finished awaits frame last
  refine ⟨List.mem_append_left _ ended, ?_⟩
  intro operation member proper same
  exact settled operation (end_kept allowed ended member proper same) proper same

theorem kept_dropped : ClientKept client (received ++ [message]) events := by
  refine ⟨kept.counted, ?_, ?_, kept.images, kept.attempted, ?_, kept.flips,
    canvas_received kept allowed⟩
  · intro ended frame last
    rcases kept.closed ended frame last with closed | ⟨waiting, operation, member, proper⟩
    · exact Or.inl (List.mem_append_left _ closed)
    · exact Or.inr ⟨waiting, operation, List.mem_append_left _ member, proper⟩
  · intro awaits frame last
    exact finished_received kept allowed awaits last
  · intro frame last operation failed same
    rcases kept.failures frame last operation failed same with errors | ⟨ended, loaded⟩
    · exact Or.inl errors
    · exact Or.inr ⟨List.mem_append_left _ ended, loaded⟩

include position

omit allowed in
theorem images_renamed {operation : DisplayMessage} (member : operation ∈ client.loading) :
    frameOf operation + 1 ≤ paramOrder (frameParam message) := by
  rw [param_order_message]
  exact Nat.le_trans (kept.images operation member) position

omit allowed in
theorem failures_renamed {frame : Nat} (param : frameParam message = .number frame)
    {operation : DisplayMessage} (failed : .failed operation ∈ events)
    (same : frameOf operation = frame) : client.lastFrame = .number frame := by
  have bound := kept.attempted operation failed
  apply param_order_number
  have order : messageOrder message = frame + 1 := by
    rw [← param_order_message, param]
    rfl
  omega

omit allowed in
theorem flips_renamed {param : FrameParam} (member : .flipped param ∈ events) :
    paramOrder param ≤ paramOrder (frameParam message) ∧
      ∀ operation ∈ client.loading, paramOrder param ≤ frameOf operation + 1 := by
  rw [param_order_message]
  exact ⟨Nat.le_trans (kept.flips param member).1 position, (kept.flips param member).2⟩

theorem kept_incomplete (other : isFullUpdate message = false)
    (awake : client.waitingForFullUpdate = false) (pending : client.pendingPatchesCount ≠ 0) :
    ClientKept { client with
      lastFrame := frameParam message, pendingPatchesCount := 0, waitingForFullUpdate := true }
      (received ++ [message]) events := by
  refine ⟨counted_incomplete kept.counted awake pending, ?_, ?_, ?_, ?_, ?_, ?_,
    canvas_received kept allowed⟩
  · intro _ frame param
    change frameParam message = .number frame at param
    cases message with
    | done => cases param
    | frame inner =>
        simp only [frameParam, FrameParam.number.injEq] at param
        have here : ClientMessage.frame inner ∈ received ++ [ClientMessage.frame inner] :=
          List.mem_append_right _ List.mem_cons_self
        cases inner with
        | fullUpdate number => cases other
        | dI number rect margin mimeType payload => exact Or.inr ⟨rfl, _, here, rfl, param⟩
        | mI number rect dstPoint => exact Or.inr ⟨rfl, _, here, rfl, param⟩
        | fR number rect fillColor => exact Or.inr ⟨rfl, _, here, rfl, param⟩
        | frameEnd number =>
            left
            rw [← param]
            exact here
  · rintro ⟨_, loading, exact⟩
    have none : (0 : Int) = client.loading.length := exact
    have empty : client.loading = [] := List.eq_nil_of_length_eq_zero (by omega)
    exact absurd empty loading
  · intro operation member
    exact images_renamed kept position member
  · intro operation failed
    change frameOf operation + 1 ≤ paramOrder (frameParam message)
    rw [param_order_message]
    exact Nat.le_trans (kept.attempted operation failed) position
  · intro frame param operation failed same
    have last := failures_renamed kept position param failed same
    rcases kept.failures frame last operation failed same with errors | ⟨ended, loaded⟩
    · exact Or.inl errors
    · exact Or.inr ⟨List.mem_append_left _ ended, loaded⟩
  · intro param member
    exact flips_renamed kept position member

variable (loaded : isFullUpdate message = true → client.loading = [])
variable (awake : isFullUpdate message = true ∨ client.waitingForFullUpdate = false)

include loaded awake

theorem kept_accepted : ClientKept (client.accepted message) (received ++ [message]) events := by
  refine ⟨Or.inl (accepted_exact kept.counted loaded awake), ?_, ?_, ?_, ?_, ?_, ?_,
    canvas_received kept allowed⟩
  · intro ended frame param
    simp only [accepted, Bool.and_eq_true, decide_eq_true_eq] at ended param
    left
    apply List.mem_append_left
    rcases kept.closed ended.1 frame (ended.2.trans param) with closed | ⟨waiting, operation, found⟩
    · exact closed
    · rcases awake with full | awake
      · have complete := allowed.complete full operation found.1 found.2.1
        rw [endOf, found.2.2] at complete
        exact complete
      · exact absurd (awake.symm.trans waiting) (by decide)
  · rintro ⟨ended, loading, exact⟩ frame param
    simp only [accepted, Bool.and_eq_true, decide_eq_true_eq] at ended param loading exact
    have notFull : ¬isFullUpdate message = true := fun full => loading (loaded full)
    rw [if_neg notFull] at exact
    exact finished_received kept allowed ⟨ended.1, loading, exact⟩ (ended.2.trans param)
  · intro operation member
    exact images_renamed kept position member
  · intro operation failed
    change frameOf operation + 1 ≤ paramOrder (frameParam message)
    rw [param_order_message]
    exact Nat.le_trans (kept.attempted operation failed) position
  · intro frame param operation failed same
    have last := failures_renamed kept position param failed same
    rcases kept.failures frame last operation failed same with errors | ⟨ended, none⟩
    · exact Or.inl errors
    · exact Or.inr ⟨List.mem_append_left _ ended, none⟩
  · intro param member
    exact flips_renamed kept position member

omit kept position loaded in
theorem settled_accepted (settled : OperationsSettled client received events)
    {operation : DisplayMessage} (member : .frame operation ∈ received)
    (proper : isOperation operation = true) (unended : endOf operation ∉ received) :
    Settled (client.accepted message) events operation := by
  rcases awake with full | awake
  · exact absurd (allowed.complete full operation member proper) unended
  · exact settled awake operation member proper unended

theorem kept_painted {operation : DisplayMessage} (same : message = .frame operation) :
    ClientKept (client.accepted message) (received ++ [message])
      (events ++ [.painted operation]) := by
  have accepted := kept_accepted kept allowed position loaded awake
  have older : ∀ other, CanvasEvent.failed other ∈ events ++ [.painted operation] →
      .failed other ∈ events := by
    intro other member
    rcases List.mem_append.mp member with earlier | new
    · exact earlier
    · simp at new
  refine ⟨accepted.counted, accepted.closed, ?_, accepted.images, ?_, ?_, ?_, ?_⟩
  · intro awaits frame last
    obtain ⟨ended, settled⟩ := accepted.finished awaits frame last
    refine ⟨ended, ?_⟩
    intro other member proper ofFrame
    rcases settled other member proper ofFrame with painted | failed | loading
    · exact Or.inl (List.mem_append_left _ painted)
    · exact Or.inr (Or.inl (List.mem_append_left _ failed))
    · exact Or.inr (Or.inr loading)
  · intro other failed
    exact accepted.attempted other (older other failed)
  · intro frame last other failed ofFrame
    exact accepted.failures frame last other (older other failed) ofFrame
  · intro param member
    apply accepted.flips
    rcases List.mem_append.mp member with earlier | new
    · exact earlier
    · simp at new
  · apply lawful_snoc accepted.canvas
    intro param flipped
    have bound := (flips_renamed kept position flipped).1
    rw [param_order_message, same] at bound
    exact bound

omit kept position loaded in
theorem settled_painted (settled : OperationsSettled client received events)
    {operation : DisplayMessage} (same : message = .frame operation) :
    OperationsSettled (client.accepted message) (received ++ [message])
      (events ++ [.painted operation]) := by
  intro _ other member proper unended
  rcases List.mem_append.mp member with earlier | new
  · have before := settled_accepted allowed awake settled earlier proper
      (fun ended => unended (List.mem_append_left _ ended))
    rcases before with painted | failed | loading
    · exact Or.inl (List.mem_append_left _ painted)
    · exact Or.inr (Or.inl (List.mem_append_left _ failed))
    · exact Or.inr (Or.inr loading)
  · rw [List.mem_singleton, same] at new
    cases new
    exact Or.inl (List.mem_append_right _ List.mem_cons_self)

theorem kept_loading {frame : Nat} {rect : QtRectangle.QRect} {artefactMargin : Int}
    {mimeType : String} {payload : PatchPayload}
    (same : message = .frame (.dI frame rect artefactMargin mimeType payload)) :
    ClientKept { client.accepted message with
      pendingPatchesCount := (client.accepted message).pendingPatchesCount + 1
      loading := (client.accepted message).loading ++
        [.dI frame rect artefactMargin mimeType payload] } (received ++ [message]) events := by
  have accepted := kept_accepted kept allowed position loaded awake
  have notEnded : ClientMessage.frame (.frameEnd frame) ∉ received ++ [message] := by
    intro member
    rcases List.mem_append.mp member with earlier | new
    · exact allowed.inside _ same rfl earlier
    · rw [List.mem_singleton, same] at new
      cases new
  have last : (client.accepted message).lastFrame = .number frame := by
    rw [same]
    rfl
  constructor
  · left
    simp only [List.length_append, List.length_cons, List.length_nil]
    have exact := accepted_exact kept.counted loaded awake
    omega
  · exact accepted.closed
  · rintro ⟨ended, _, _⟩ other lastOther
    change (client.accepted message).lastFrame = .number other at lastOther
    rw [last] at lastOther
    cases lastOther
    rcases accepted.closed ended frame last with closed | ⟨waiting, _⟩
    · exact absurd closed notEnded
    · cases waiting
  · intro operation member
    change frameOf operation + 1 ≤ paramOrder (client.accepted message).lastFrame
    rcases List.mem_append.mp member with earlier | new
    · exact accepted.images operation earlier
    · rw [List.mem_singleton] at new
      rw [new, last]
      exact Nat.le_refl _
  · exact accepted.attempted
  · intro other lastOther operation failed ofFrame
    change (client.accepted message).lastFrame = .number other at lastOther
    rcases accepted.failures other lastOther operation failed ofFrame with errors | ⟨ended, _⟩
    · exact Or.inl errors
    · rw [last] at lastOther
      cases lastOther
      exact absurd ended notEnded
  · intro param member
    obtain ⟨bound, others⟩ := accepted.flips param member
    refine ⟨bound, ?_⟩
    intro operation loading
    rcases List.mem_append.mp loading with earlier | new
    · exact others operation earlier
    · rw [List.mem_singleton] at new
      rw [last] at bound
      rw [new]
      exact bound
  · exact accepted.canvas

omit kept position loaded in
theorem settled_loading (settled : OperationsSettled client received events) {frame : Nat}
    {rect : QtRectangle.QRect} {artefactMargin : Int} {mimeType : String} {payload : PatchPayload}
    (same : message = .frame (.dI frame rect artefactMargin mimeType payload)) :
    OperationsSettled { client.accepted message with
      pendingPatchesCount := (client.accepted message).pendingPatchesCount + 1
      loading := (client.accepted message).loading ++
        [.dI frame rect artefactMargin mimeType payload] } (received ++ [message]) events := by
  intro _ other member proper unended
  rcases List.mem_append.mp member with earlier | new
  · have before := settled_accepted allowed awake settled earlier proper
      (fun ended => unended (List.mem_append_left _ ended))
    rcases before with painted | failed | loading
    · exact Or.inl painted
    · exact Or.inr (Or.inl failed)
    · exact Or.inr (Or.inr (List.mem_append_left _ loading))
  · rw [List.mem_singleton, same] at new
    cases new
    exact Or.inr (Or.inr (List.mem_append_right _ List.mem_cons_self))

omit kept position loaded in
theorem settled_other (settled : OperationsSettled client received events)
    (other : ∀ operation, message = .frame operation → isOperation operation = false) :
    OperationsSettled (client.accepted message) (received ++ [message]) events := by
  intro _ operation member proper unended
  rcases List.mem_append.mp member with earlier | new
  · exact settled_accepted allowed awake settled earlier proper
      (fun ended => unended (List.mem_append_left _ ended))
  · rw [List.mem_singleton] at new
    rw [other operation new.symm] at proper
    cases proper

/-- The end of a frame: its operations are settled, and it is shown when all are painted. -/
theorem kept_ended (settled : OperationsSettled client received events) {frame : Nat}
    (same : message = .frame (.frameEnd frame)) {outcome : ClientOutcome}
    (determined : Determined { client.accepted message with frameEndReceived := true } outcome) :
    ClientKept outcome.renderer (received ++ [message]) (events ++ outcome.events) := by
  have accepted := kept_accepted kept allowed position loaded awake
  have exact := accepted_exact kept.counted loaded awake
  have last : (client.accepted message).lastFrame = .number frame := by
    rw [same]
    rfl
  have endReceived : ClientMessage.frame (.frameEnd frame) ∈ received ++ [message] := by
    rw [same]
    exact List.mem_append_right _ List.mem_cons_self
  have first : ClientMessage.frame (.frameEnd frame) ∉ received := by
    have once := allowed.once frame same
    rw [same] at once
    exact once
  have operations : ∀ operation, .frame operation ∈ received ++ [message] →
      isOperation operation = true → frameOf operation = frame →
        Settled (client.accepted message) events operation := by
    intro operation member proper ofFrame
    rcases List.mem_append.mp member with earlier | new
    · apply settled_accepted allowed awake settled earlier proper
      rw [endOf, ofFrame]
      exact first
    · rw [List.mem_singleton, same] at new
      cases new
      cases proper
  apply kept_determined determined
  · constructor
    · exact Or.inl exact
    · intro _ other lastOther
      change (client.accepted message).lastFrame = .number other at lastOther
      rw [last] at lastOther
      cases lastOther
      exact Or.inl endReceived
    · intro _ other lastOther
      change (client.accepted message).lastFrame = .number other at lastOther
      rw [last] at lastOther
      cases lastOther
      exact ⟨endReceived, operations⟩
    · exact accepted.images
    · exact accepted.attempted
    · exact accepted.failures
    · exact accepted.flips
    · exact accepted.canvas
  · intro _ none
    change (client.accepted message).pendingPatchesCount = 0 at none
    have empty : (client.accepted message).loading = [] :=
      List.eq_nil_of_length_eq_zero (by omega)
    refine ⟨empty, frame, last, endReceived, ?_⟩
    intro operation member proper ofFrame
    rcases operations operation member proper ofFrame with painted | failed | loading
    · exact Or.inl painted
    · exact Or.inr failed
    · rw [empty] at loading
      exact absurd loading List.not_mem_nil
  · intro other lastOther operation failed ofFrame
    change (client.accepted message).lastFrame = .number other at lastOther
    rw [last] at lastOther
    cases lastOther
    have param : frameParam message = .number frame := last
    have before := failures_renamed kept position param failed ofFrame
    rcases kept.failures frame before operation failed ofFrame with errors | ⟨ended, _⟩
    · exact errors
    · exact absurd ended first

/-- What the client does about an accepted message. -/
theorem kept_frame_command (settled : OperationsSettled client received events) :
    ClientKept ((client.accepted message).frameCommand message).renderer (received ++ [message])
        (events ++ ((client.accepted message).frameCommand message).events) ∧
      OperationsSettled ((client.accepted message).frameCommand message).renderer
        (received ++ [message])
        (events ++ ((client.accepted message).frameCommand message).events) := by
  have quiet : (∀ operation, message = .frame operation → isOperation operation = false) →
      ClientKept (client.accepted message) (received ++ [message]) (events ++ []) ∧
        OperationsSettled (client.accepted message) (received ++ [message]) (events ++ []) := by
    intro other
    rw [List.append_nil]
    exact ⟨kept_accepted kept allowed position loaded awake,
      settled_other allowed awake settled other⟩
  have paints : ∀ operation, message = .frame operation →
      ClientKept (client.accepted message) (received ++ [message])
          (events ++ [.painted operation]) ∧
        OperationsSettled (client.accepted message) (received ++ [message])
          (events ++ [.painted operation]) := by
    intro operation same
    exact ⟨kept_painted kept allowed position loaded awake same,
      settled_painted allowed awake settled same⟩
  cases kind : message with
  | done =>
      rw [kind] at quiet
      exact quiet (by simp)
  | frame inner =>
      cases innerKind : inner with
      | fullUpdate frame =>
          rw [kind, innerKind] at quiet
          apply quiet
          intro operation same
          cases same
          rfl
      | dI frame rect artefactMargin mimeType payload =>
          rw [innerKind] at kind
          have result := kept_loading kept allowed position loaded awake kind
          have resultSettled := settled_loading allowed awake settled kind
          rw [kind] at result resultSettled
          simp only [frameCommand, List.append_nil]
          exact ⟨result, resultSettled⟩
      | mI frame rect dstPoint =>
          rw [innerKind] at kind
          rw [kind] at paints
          exact paints _ rfl
      | fR frame rect fillColor =>
          rw [innerKind] at kind
          rw [kind] at paints
          exact paints _ rfl
      | frameEnd frame =>
          rw [innerKind] at kind
          have determined := determine_ready_state_cases
            { client.accepted message with frameEndReceived := true }
          have result := kept_ended kept allowed position loaded awake settled kind determined
          have others := settled_other allowed awake settled (by
            intro operation same
            rw [kind] at same
            cases same
            rfl)
          have resultSettled := operations_settled_determined determined
            (fun open_ operation member proper unended => others open_ operation member proper unended)
          rw [kind] at result resultSettled
          exact ⟨result, resultSettled⟩

end Receiving

structure ClientInvariant (client : DisplayRenderer) (received : List ClientMessage)
    (events : List CanvasEvent) : Prop where
  kept : ClientKept client received events
  settled : OperationsSettled client received events

section Images

variable {client : DisplayRenderer} {received : List ClientMessage} {events : List CanvasEvent}
variable {index : Nat} {operation : DisplayMessage} (loaded : Bool)

/-- What the canvas shows of an image that is loaded or has failed. -/
def imageEvent (operation : DisplayMessage) : CanvasEvent :=
  if loaded then .painted operation else .failed operation

variable {loaded}

theorem image_left_settles (found : client.loading[index]? = some operation)
    {other : DisplayMessage} (settled : Settled client events other) :
    Settled (client.imageLeft index loaded) (events ++ [imageEvent loaded operation]) other := by
  rcases settled with painted | failed | loading
  · exact Or.inl (List.mem_append_left _ painted)
  · exact Or.inr (Or.inl (List.mem_append_left _ failed))
  · obtain ⟨position, within, same⟩ := List.getElem_of_mem loading
    by_cases left : position = index
    · have this : other = operation := by
        rw [← left, List.getElem?_eq_getElem within, same] at found
        exact Option.some.inj found
      rw [this]
      cases loaded with
      | true => exact Or.inl (List.mem_append_right _ List.mem_cons_self)
      | false => exact Or.inr (Or.inl (List.mem_append_right _ List.mem_cons_self))
    · right
      right
      exact List.mem_eraseIdx_iff_getElem?.mpr ⟨position, left, by
        rw [List.getElem?_eq_getElem within, same]⟩

theorem image_failed {other : DisplayMessage}
    (present : .failed other ∈ events ++ [imageEvent loaded operation]) :
    .failed other ∈ events ∨ (other = operation ∧ loaded = false) := by
  rcases List.mem_append.mp present with earlier | new
  · exact Or.inl earlier
  · rw [List.mem_singleton] at new
    cases loaded with
    | true => cases new
    | false =>
        cases new
        exact Or.inr ⟨rfl, rfl⟩

theorem image_flipped {param : FrameParam}
    (present : .flipped param ∈ events ++ [imageEvent loaded operation]) :
    .flipped param ∈ events := by
  rcases List.mem_append.mp present with earlier | new
  · exact earlier
  · rw [List.mem_singleton] at new
    cases loaded with
    | true => cases new
    | false => cases new

theorem image_errors (kept : ClientKept client received events)
    (found : client.loading[index]? = some operation) {frame : Nat}
    (last : client.lastFrame = .number frame) {other : DisplayMessage}
    (failed : .failed other ∈ events ++ [imageEvent loaded operation])
    (ofFrame : frameOf other = frame) : 0 < (client.imageLeft index loaded).frameErrors := by
  rcases image_failed failed with earlier | ⟨_, now⟩
  · rcases kept.failures frame last other earlier ofFrame with positive | ⟨_, empty⟩
    · simp only [imageLeft]
      split_ifs
      · exact positive
      · omega
    · rw [empty] at found
      cases found
  · simp [imageLeft, now]

theorem kept_image_left (kept : ClientKept client received events)
    (found : client.loading[index]? = some operation) :
    ClientKept (client.imageLeft index loaded) received
      (events ++ [imageEvent loaded operation]) := by
  have member := List.mem_of_getElem? found
  have inside := (List.getElem?_eq_some_iff.mp found).1
  have fewer : ∀ other ∈ (client.imageLeft index loaded).loading, other ∈ client.loading :=
    fun other present => List.mem_of_mem_eraseIdx present
  constructor
  · exact image_left_counted kept.counted inside loaded
  · exact kept.closed
  · rintro ⟨ended, loading, exact⟩ frame last
    have length := image_left_length inside loaded
    have before : AwaitsImages client := by
      refine ⟨ended, List.ne_nil_of_mem member, ?_⟩
      change client.pendingPatchesCount - 1 = _ at exact
      omega
    obtain ⟨endReceived, settled⟩ := kept.finished before frame last
    refine ⟨endReceived, ?_⟩
    intro other received proper ofFrame
    exact image_left_settles found (settled other received proper ofFrame)
  · intro other present
    exact kept.images other (fewer other present)
  · intro other failed
    rcases image_failed failed with earlier | ⟨same, _⟩
    · exact kept.attempted other earlier
    · rw [same]
      exact kept.images operation member
  · intro frame last other failed ofFrame
    exact Or.inl (image_errors kept found last failed ofFrame)
  · intro param flipped
    obtain ⟨bound, others⟩ := kept.flips param (image_flipped flipped)
    exact ⟨bound, fun other present => others other (fewer other present)⟩
  · apply lawful_snoc kept.canvas
    cases loaded with
    | true =>
        intro param flipped
        exact (kept.flips param flipped).2 operation member
    | false => trivial

/-- When the last image leaves, all operations of the frame are painted or have failed. -/
theorem image_left_finished (kept : ClientKept client received events)
    (found : client.loading[index]? = some operation) (ended : client.frameEndReceived = true)
    (exact : client.pendingPatchesCount = client.loading.length)
    (empty : (client.imageLeft index loaded).loading = []) :
    ∃ frame, client.lastFrame = .number frame ∧ .frame (.frameEnd frame) ∈ received ∧
      ∀ other, .frame other ∈ received → isOperation other = true → frameOf other = frame →
        .painted other ∈ events ++ [imageEvent loaded operation] ∨
          .failed other ∈ events ++ [imageEvent loaded operation] := by
  have member := List.mem_of_getElem? found
  have number : ∃ frame, client.lastFrame = .number frame := by
    have bound := kept.images operation member
    cases last : client.lastFrame with
    | unset =>
        rw [last] at bound
        simp [paramOrder] at bound
    | empty =>
        rw [last] at bound
        simp [paramOrder] at bound
    | number frame => exact ⟨frame, rfl⟩
  obtain ⟨frame, last⟩ := number
  obtain ⟨endReceived, operations⟩ := kept.finished
    ⟨ended, List.ne_nil_of_mem member, exact⟩ frame last
  refine ⟨frame, last, endReceived, ?_⟩
  intro other present proper ofFrame
  rcases image_left_settles found (operations other present proper ofFrame) with
    painted | failed | loading
  · exact Or.inl painted
  · exact Or.inr failed
  · rw [empty] at loading
    exact absurd loading List.not_mem_nil

end Images

section Callbacks

variable {client : DisplayRenderer} {received : List ClientMessage} {events : List CanvasEvent}
variable (invariant : ClientInvariant client received events)

include invariant

theorem client_message {message : ClientMessage} (allowed : StreamAllowed received message)
    (position : paramOrder client.lastFrame ≤ messageOrder message)
    (loaded : isFullUpdate message = true → client.loading = []) :
    ClientInvariant (client.messageCallback message).renderer (received ++ [message])
        (events ++ (client.messageCallback message).events) ∧
      (client.messageCallback message).renderer.lastFrame ∈
        [client.lastFrame, frameParam message] := by
  have result := message_callback_cases client message
  generalize client.messageCallback message = outcome at result
  cases result with
  | dropped waiting other =>
      refine ⟨⟨?_, ?_⟩, List.mem_cons_self⟩
      · rw [List.append_nil]
        exact kept_dropped invariant.kept allowed
      · intro awake
        exact absurd (waiting.symm.trans awake) (by decide)
  | incomplete awake other pending =>
      refine ⟨⟨?_, ?_⟩, List.mem_cons_of_mem _ List.mem_cons_self⟩
      · rw [List.append_nil]
        exact kept_incomplete invariant.kept allowed position other awake pending
      · intro impossible
        cases impossible
  | handled awake same =>
      have command := kept_frame_command invariant.kept allowed position loaded awake
        invariant.settled
      refine ⟨⟨command.1, command.2⟩, ?_⟩
      have last : ((client.accepted message).frameCommand message).renderer.lastFrame =
          frameParam message := by
        cases message with
        | done => rfl
        | frame inner =>
            cases inner with
            | fullUpdate frame => rfl
            | dI frame rect artefactMargin mimeType payload => rfl
            | mI frame rect dstPoint => rfl
            | fR frame rect fillColor => rfl
            | frameEnd frame =>
                have determined := determine_ready_state_cases
                  { client.accepted (.frame (.frameEnd frame)) with frameEndReceived := true }
                simp only [frameCommand]
                generalize ({ client.accepted (.frame (.frameEnd frame)) with
                  frameEndReceived := true } : DisplayRenderer).determineReadyState =
                    outcome at determined
                cases determined with
                | waits incomplete => rfl
                | fails ended complete => rfl
                | flips ended complete clean => rfl
      rw [last]
      exact List.mem_cons_of_mem _ List.mem_cons_self

theorem client_image_done {index : Nat} (inside : index < client.loading.length) (loaded : Bool) :
    ClientInvariant (client.imageDone index loaded).renderer received
        (events ++ (client.imageDone index loaded).events) ∧
      (client.imageDone index loaded).renderer.lastFrame = client.lastFrame := by
  have kept := invariant.kept
  have found : client.loading[index]? = some client.loading[index] :=
    List.getElem?_eq_getElem inside
  unfold imageDone
  rw [found]
  simp only
  generalize client.loading[index] = operation at found
  have determined := determine_ready_state_cases (client.imageLeft index loaded)
  generalize (client.imageLeft index loaded).determineReadyState = outcome at determined
  have settled : OperationsSettled (client.imageLeft index loaded) received
      (events ++ [imageEvent loaded operation]) := by
    intro awake other present proper unended
    exact image_left_settles found (invariant.settled awake other present proper unended)
  have split : events ++ imageEvent loaded operation :: outcome.events =
      (events ++ [imageEvent loaded operation]) ++ outcome.events := by simp
  show ClientInvariant _ _ (events ++ imageEvent loaded operation :: outcome.events) ∧ _
  rw [split]
  refine ⟨⟨?_, operations_settled_determined determined settled⟩, ?_⟩
  · apply kept_determined determined (kept_image_left kept found)
    · intro ended complete
      obtain ⟨exact, empty⟩ := image_left_exact kept.counted inside complete
      obtain ⟨frame, last, finished⟩ := image_left_finished kept found ended exact empty
      exact ⟨empty, frame, last, finished⟩
    · intro frame last other failed ofFrame
      exact image_errors kept found last failed ofFrame
  · cases determined with
    | waits incomplete => rfl
    | fails ended complete => rfl
    | flips ended complete clean => rfl

theorem client_request (forced : Bool) :
    ClientInvariant (client.requestFullUpdate forced).renderer received
      (events ++ (client.requestFullUpdate forced).events) := by
  have kept := invariant.kept
  constructor
  · show ClientKept _ received (events ++ [])
    rw [List.append_nil]
    refine ⟨counted_request kept.counted forced, ?_, kept.finished, kept.images, kept.attempted,
      kept.failures, kept.flips, kept.canvas⟩
    intro ended frame last
    rcases kept.closed ended frame last with closed | ⟨_, found⟩
    · exact Or.inl closed
    · exact Or.inr ⟨rfl, found⟩
  · intro impossible
    cases impossible

end Callbacks

structure CompletionInvariant (state : ProtocolState Adapter) : Prop where
  server : StreamInvariant state.server
  stream : sentMessages state.server = state.received ++ state.toClient
  client : ClientInvariant state.client state.received state.events
  position : ∀ message ∈ state.toClient, paramOrder state.client.lastFrame ≤ messageOrder message
  last : paramOrder state.client.lastFrame ≤ state.server.display.frame + 1

/-- The condition of a run in which no full update resets the counter of loading images. -/
def LoadedBeforeFullUpdate (state : ProtocolState Adapter) : ProtocolAction Adapter → Prop
  | .deliverToClient => FindsImagesLoaded state
  | _ => True

section Steps

variable {state : ProtocolState Adapter} (invariant : CompletionInvariant state)

include invariant

theorem completion_server {after : DisplayRun Adapter} {sent : List DisplayMessage}
    (stream : StreamInvariant after)
    (logged : sentMessages after = sentMessages state.server ++ sent.map .frame)
    (grows : state.server.display.frame ≤ after.display.frame)
    (ordered : ∀ message ∈ sent.map ClientMessage.frame,
      state.server.display.frame + 1 ≤ messageOrder message) :
    CompletionInvariant { state with
      server := after, toClient := state.toClient ++ sent.map .frame } := by
  have bound := invariant.last
  constructor
  · exact stream
  · rw [logged, invariant.stream, List.append_assoc]
  · exact invariant.client
  · intro message member
    rcases List.mem_append.mp member with earlier | new
    · exact invariant.position message earlier
    · exact Nat.le_trans bound (ordered message new)
  · exact Nat.le_trans bound (Nat.add_le_add_right grows 1)

theorem completion_acts [DecidableEq Adapter] (platform : DisplayPlatform)
    (action : DisplayAction Adapter) (remaining : List DisplayCommand)
    (possible : isSpontaneous action = true ∨ ∃ command, commandAction command = some action) :
    CompletionInvariant
      (({ state with toServer := remaining } : ProtocolState Adapter).serverActs platform action) := by
  have flow := flow_perform invariant.server.flow platform action
  have logged : sentMessages (perform platform state.server action) =
      sentMessages state.server ++ (sentBy platform state.server action).map .frame := by
    simp only [sentMessages, perform_sent, List.map_append, List.cons_append]
  have moved : ServerMove state.server.display (perform platform state.server action).display
      (sentBy platform state.server action) → CompletionInvariant
        (({ state with toServer := remaining } : ProtocolState Adapter).serverActs platform
          action) := by
    intro move
    obtain ⟨stream, grows, ordered⟩ := stream_move invariant.server flow move logged
    have result := completion_server invariant stream logged grows ordered
    exact ⟨result.server, result.stream, result.client, result.position, result.last⟩
  have silent : sentBy platform state.server action = [] →
      (perform platform state.server action).display.frame = state.server.display.frame →
        CompletionInvariant
          (({ state with toServer := remaining } : ProtocolState Adapter).serverActs platform
            action) := by
    intro none frame
    rw [none, List.map_nil, List.append_nil] at logged
    have stream := stream_silent invariant.server flow logged frame
    refine ⟨stream, ?_, invariant.client, ?_, ?_⟩
    · simp only [ProtocolState.serverActs, logged, none, List.map_nil, List.append_nil]
      exact invariant.stream
    · simp only [ProtocolState.serverActs, none, List.map_nil, List.append_nil]
      exact invariant.position
    · simp only [ProtocolState.serverActs, frame]
      exact invariant.last
  rcases possible with spontaneous | ⟨command, same⟩
  · exact moved (spontaneous_move platform (Or.inl spontaneous) invariant.server.flow.attached)
  · cases command with
    | newDisplay params =>
        cases same
        apply silent rfl
        simp only [perform, DisplayRun.continue, GraphicsSceneDisplay.request_full_update_eq]
        split_ifs
        · rfl
        · rfl
    | ready =>
        cases same
        apply silent rfl
        simp only [perform, DisplayRun.continue, GraphicsSceneDisplay.client_ready_eq]
    | requestFullUpdate params =>
        cases same
        apply silent rfl
        simp only [perform, DisplayRun.continue, GraphicsSceneDisplay.request_full_update_eq]
        split_ifs
        · rfl
        · rfl
        · rfl
    | resize width height =>
        cases same
        exact moved (spontaneous_move platform (Or.inr ⟨width, height, rfl⟩)
          invariant.server.flow.attached)
    | keepAlive => cases same
    | input handled => cases same

theorem completion_deliver_to_client {message : ClientMessage} {remaining : List ClientMessage}
    (pending : state.toClient = message :: remaining)
    (guarded : LoadedBeforeFullUpdate state (.deliverToClient : ProtocolAction Adapter)) :
    CompletionInvariant (({ state with
      toClient := remaining
      received := state.received ++ [message] } : ProtocolState Adapter).clientActs
        (state.client.messageCallback message)) := by
  have head : message ∈ state.toClient := by simp [pending]
  have split : sentMessages state.server = state.received ++ message :: remaining := by
    rw [invariant.stream, pending]
  have allowed := invariant.server.lawful _ _ _ split
  have position := invariant.position message head
  obtain ⟨client, last⟩ := client_message invariant.client allowed position
    (guarded message remaining pending)
  have bound : paramOrder (state.client.messageCallback message).renderer.lastFrame ≤
      messageOrder message := by
    rcases List.mem_cons.mp last with same | renamed
    · rw [same]
      exact position
    · rw [List.mem_singleton.mp renamed, param_order_message]
  constructor
  · exact invariant.server
  · show sentMessages state.server = (state.received ++ [message]) ++ remaining
    rw [split, List.append_assoc, List.singleton_append]
  · exact client
  · intro later member
    apply Nat.le_trans bound
    obtain ⟨front, back, parts⟩ := List.append_of_mem member
    have ordered := (invariant.server.lawful (state.received ++ message :: front) later back
      (by rw [split, show remaining = front ++ later :: back from parts]; simp)).ordered
    exact ordered message (List.mem_append_right _ List.mem_cons_self)
  · apply Nat.le_trans bound
    apply invariant.server.bounded
    rw [split]
    exact List.mem_append_right _ List.mem_cons_self

theorem completion_step [DecidableEq Adapter] (platform : DisplayPlatform)
    {action : ProtocolAction Adapter} (guarded : LoadedBeforeFullUpdate state action)
    {after : ProtocolState Adapter} (taken : ProtocolStep platform state action after) :
    CompletionInvariant after := by
  cases protocol_move taken with
  | @serverActs action spontaneous =>
      exact completion_acts invariant platform action state.toServer (Or.inl spontaneous)
  | @obeys command remaining action _ meaning =>
      exact completion_acts invariant platform action remaining (Or.inr ⟨command, meaning⟩)
  | ignores =>
      exact ⟨invariant.server, invariant.stream, invariant.client, invariant.position,
        invariant.last⟩
  | receives pending => exact completion_deliver_to_client invariant pending guarded
  | @imageDone index loaded inside =>
      obtain ⟨client, last⟩ := client_image_done invariant.client inside loaded
      refine ⟨invariant.server, invariant.stream, client, ?_, ?_⟩
      · simp only [ProtocolState.clientActs, last]
        exact invariant.position
      · simp only [ProtocolState.clientActs, last]
        exact invariant.last
  | @requestFullUpdate forced =>
      exact ⟨invariant.server, invariant.stream, client_request invariant.client forced,
        invariant.position, invariant.last⟩
  | reconnectDisplay =>
      refine ⟨invariant.server, invariant.stream, ?_, invariant.position, invariant.last⟩
      simp only [ProtocolState.clientActs, reconnectDisplay, List.append_nil]
      exact invariant.client
  | resize =>
      refine ⟨invariant.server, invariant.stream, ?_, invariant.position, invariant.last⟩
      simp only [ProtocolState.clientActs, resize, List.append_nil]
      exact invariant.client

end Steps

theorem completion_created [DecidableEq Adapter] (platform : DisplayPlatform)
    {state : ProtocolState Adapter} (created : Created platform state) :
    CompletionInvariant state := by
  obtain ⟨constructed, toClient, _, client, received, events⟩ := created
  have logged : sentMessages state.server = [.done] := by
    obtain ⟨_, _, _, empty⟩ := constructed
    simp [sentMessages, empty]
  refine ⟨⟨constructed_flow platform constructed, ?_, ?_, ?_⟩, ?_, ⟨?_, ?_⟩, ?_, ?_⟩
  · rw [logged]
    apply lawful_snoc (lawful_nil StreamAllowed)
    refine ⟨?_, ?_, ?_, ?_⟩
    · intro message member
      exact absurd member List.not_mem_nil
    · intro frame same
      cases same
    · intro full
      cases full
    · intro operation same
      cases same
  · intro message member
    rw [logged, List.mem_singleton] at member
    rw [member]
    exact Nat.zero_le _
  · intro operation member
    rw [logged, List.mem_singleton] at member
    cases member
  · rw [logged, received, toClient]
    rfl
  · rw [client, received, events]
    constructor
    · exact Or.inl rfl
    · intro _ frame last
      cases last
    · intro awaits
      exact absurd rfl awaits.2.1
    · intro operation member
      exact absurd member List.not_mem_nil
    · intro operation member
      exact absurd member List.not_mem_nil
    · intro frame last
      cases last
    · intro param member
      exact absurd member List.not_mem_nil
    · exact lawful_nil _
  · intro _ operation member
    rw [received] at member
    exact absurd member List.not_mem_nil
  · intro message _
    rw [client]
    exact Nat.zero_le _
  · rw [client]
    exact Nat.zero_le _

/-- In every run in which no full update finds images loading, a frame is flipped to the
front after all its operations were painted, and no older operation is painted later. -/
theorem complete_frames_shown [DecidableEq Adapter] (platform : DisplayPlatform)
    {state : ProtocolState Adapter}
    (reached : Reach (ProtocolStep platform) LoadedBeforeFullUpdate (Created platform) state)
    {earlier later : List CanvasEvent} {param : FrameParam}
    (flip : state.events = earlier ++ .flipped param :: later) :
    ∃ frame, param = .number frame ∧
      (∀ operation, .sent operation ∈ state.server.log → isOperation operation = true →
        frameOf operation = frame → .painted operation ∈ earlier) ∧
      ∀ operation, .painted operation ∈ later → frame ≤ frameOf operation := by
  have invariant : CompletionInvariant state := by
    apply Reach.invariant _ _ reached
    · intro start begins
      exact completion_created platform begins
    · intro before action after invariant guarded taken
      exact completion_step invariant platform guarded taken
  have canvas := invariant.client.kept.canvas
  obtain ⟨frame, same, ended, painted⟩ := canvas _ _ _ flip
  refine ⟨frame, same, ?_, ?_⟩
  · intro operation sent proper ofFrame
    apply painted operation _ proper ofFrame
    have member : ClientMessage.frame operation ∈ sentMessages state.server := by
      apply List.mem_cons_of_mem
      apply List.mem_map_of_mem
      exact List.mem_filterMap.mpr ⟨_, sent, rfl⟩
    rw [invariant.stream] at member
    rcases List.mem_append.mp member with received | coming
    · exact received
    · obtain ⟨front, back, parts⟩ := List.append_of_mem coming
      have allowed := invariant.server.lawful (state.received ++ front) _ back
        (by rw [invariant.stream, parts, List.append_assoc])
      have absent := allowed.inside operation rfl proper
      rw [endOf, ofFrame] at absent
      exact absurd (List.mem_append_left _ ended) absent
  · intro operation member
    obtain ⟨front, back, parts⟩ := List.append_of_mem member
    have allowed := canvas (earlier ++ .flipped param :: front) (.painted operation) back
      (by rw [flip, parts]; simp)
    have bound := allowed param (List.mem_append_right _ List.mem_cons_self)
    rw [same] at bound
    simp only [paramOrder] at bound
    omega

def findsImagesLoaded (state : ProtocolState Adapter) : ProtocolAction Adapter → Bool
  | .deliverToClient =>
      match state.toClient with
      | message :: _ => !isFullUpdate message || state.client.loading.isEmpty
      | [] => true
  | _ => true

theorem finds_images_loaded_sound (state : ProtocolState Adapter) (action : ProtocolAction Adapter)
    (passed : findsImagesLoaded state action = true) : LoadedBeforeFullUpdate state action := by
  cases action with
  | deliverToClient =>
      intro message remaining pending full
      simp only [findsImagesLoaded, pending, full] at passed
      simpa using passed
  | server action => trivial
  | deliverToServer => trivial
  | imageDone index loaded => trivial
  | requestFullUpdate forced => trivial
  | reconnectDisplay params width height => trivial
  | resize width height => trivial

def pixelImage (frame : Nat) : DisplayMessage :=
  .dI frame ⟨0, 0, 0, 0⟩ 0 "image/bmp;base64" (.inline [] true)

theorem complete_frames_shown_first :
    ∃ state : ProtocolState Unit,
      state.events = [.painted (pixelImage 1)] ++ .flipped (.number 1) :: [] ∧
      ∀ operation, .sent operation ∈ state.server.log → isOperation operation = true →
        frameOf operation = 1 → CanvasEvent.painted operation ∈ [.painted (pixelImage 1)] := by
  have observed : (executeChecked findsImagesLoaded (protocolStep bareDisplayPlatform)
      pixelProtocol (reattachActions.take 7)).map ProtocolState.events =
        some [.painted (pixelImage 1), .flipped (.number 1)] := by
    decide +kernel
  cases executed : executeChecked findsImagesLoaded (protocolStep bareDisplayPlatform)
      pixelProtocol (reattachActions.take 7) with
  | none =>
      rw [executed] at observed
      cases observed
  | some state =>
      rw [executed, Option.map_some, Option.some.injEq] at observed
      have reached := execute_checked_reaches finds_images_loaded_sound _
        (Reach.start pixel_protocol_created) executed
      obtain ⟨frame, same, painted, _⟩ := complete_frames_shown bareDisplayPlatform reached
        (show state.events = [.painted (pixelImage 1)] ++ .flipped (.number 1) :: [] from observed)
      cases same
      exact ⟨state, observed, painted⟩

/-- Frame 3 is shown while its own image still loads. -/
theorem frame_shown_incomplete :
    ¬∀ state : ProtocolState Unit,
      Reach (ProtocolStep bareDisplayPlatform) always (Created bareDisplayPlatform) state →
      ∀ earlier later param, state.events = earlier ++ .flipped param :: later →
      ∃ frame, param = .number frame ∧
        (∀ operation, .sent operation ∈ state.server.log → isOperation operation = true →
          frameOf operation = frame → .painted operation ∈ earlier) ∧
        ∀ operation, .painted operation ∈ later → frame ≤ frameOf operation := by
  intro claim
  have observed : (execute (protocolStep bareDisplayPlatform) pixelProtocol reattachActions).map
      (fun state => (state.events, state.server.log.contains (.sent (pixelImage 3)))) =
        some ([.painted (pixelImage 1), .flipped (.number 1), .painted (pixelImage 2),
          .flipped (.number 3)], true) := by
    decide +kernel
  cases executed : execute (protocolStep bareDisplayPlatform) pixelProtocol reattachActions with
  | none =>
      rw [executed] at observed
      cases observed
  | some state =>
      rw [executed] at observed
      simp only [Option.map_some, Option.some.injEq, Prod.mk.injEq, List.contains_iff_mem]
        at observed
      obtain ⟨frame, same, painted, _⟩ := claim state
        (execute_reaches reattachActions (Reach.start pixel_protocol_created) executed)
        [.painted (pixelImage 1), .flipped (.number 1), .painted (pixelImage 2)] [] (.number 3)
        observed.1
      cases same
      have shown := painted (pixelImage 3) observed.2 rfl rfl
      simp [pixelImage] at shown

end Viridity.FrameCompletion
