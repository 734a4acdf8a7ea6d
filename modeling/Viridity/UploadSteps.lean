import Viridity.EventLogs
import Viridity.FormBody

/-!
# Steps of the upload handler

What each operation of the handler does to the parts that are finished and to the file
that is open, and what it does on the pieces of a well-formed body.
-/

namespace Viridity.UploadSteps

open Viridity.EventLogs
open Viridity.SubstringSearch
open Viridity.FileUpload
open Viridity.FormBody

set_option autoImplicit false

/-- No temporary file exists yet, each can be opened, and names that begin as those of temporary
files do are joined to the path as they are. -/
structure TempNamesFresh (environment : UploadEnvironment) (files : List Char → Option Bytes) :
    Prop where
  absent : ∀ fileId fileName, files (environment.tempFileName fileId fileName) = none
  opens : ∀ fileId, environment.opens fileId = true
  joined : ∀ first second,
    environment.pathAppend environment.tempPath (tempPrefix ++ first) =
      environment.pathAppend environment.tempPath (tempPrefix ++ second) → first = second

theorem temp_file_number {environment : UploadEnvironment} {files : List Char → Option Bytes}
    (fresh : TempNamesFresh environment files) {first second : Nat}
    {firstName secondName : List Char}
    (same : environment.tempFileName first firstName =
      environment.tempFileName second secondName) : first = second := by
  have names := fresh.joined _ _ same
  have split := congrArg (fun name => name.splitOn '_') names
  simp only [List.splitOn_append_cons_self_of_not_mem Nat.underscore_not_in_toDigits,
    List.cons.injEq] at split
  calc first = Nat.ofDigitChars 10 (Nat.toDigits 10 first) 0 := Nat.ofDigitChars_ten_toDigits.symm
    _ = Nat.ofDigitChars 10 (Nat.toDigits 10 second) 0 := by rw [split.1]
    _ = second := Nat.ofDigitChars_ten_toDigits

/-- The names of a file are taken from numbers up to a bound. -/
def NumberedUpTo (environment : UploadEnvironment) (bound : Nat) (name : List Char) : Prop :=
  ∃ fileId fileName, fileId ≤ bound ∧ name = environment.tempFileName fileId fileName

/-- What holds of the handler between any two chunks. -/
structure HandlerKept (environment : UploadEnvironment) (state : UploadState) : Prop where
  numbered : ∀ part ∈ state.parts, NumberedUpTo environment state.fileId part.tempFileName
  unused : ∀ fileId fileName, state.fileId < fileId →
    state.files (environment.tempFileName fileId fileName) = none
  target : ∀ target, state.targetFile = some target →
    target = state.currentPart.tempFileName ∧ NumberedUpTo environment state.fileId target ∧
      ∀ part ∈ state.parts, part.tempFileName ≠ target
  fileNames : state.filenameToParts = (state.parts.map Part.fileName).reverse

/-- The finished parts and their files stay, and at most `bound` parts are added. -/
def Grows (bound : Nat) (before after : UploadState) : Prop :=
  ∃ more, after.parts = before.parts ++ more ∧ more.length ≤ bound ∧
    ∀ part ∈ before.parts, after.files part.tempFileName = before.files part.tempFileName

theorem grows_refl (bound : Nat) (state : UploadState) : Grows bound state state :=
  ⟨[], (List.append_nil _).symm, Nat.zero_le bound, fun _ _ => rfl⟩

theorem grows_mono {bound larger : Nat} {before after : UploadState}
    (grows : Grows bound before after) (within : bound ≤ larger) : Grows larger before after := by
  obtain ⟨more, grown, few, same⟩ := grows
  exact ⟨more, grown, Nat.le_trans few within, same⟩

theorem grows_trans {bound further : Nat} {first second third : UploadState}
    (before : Grows bound first second) (after : Grows further second third) :
    Grows (bound + further) first third := by
  obtain ⟨more, grown, few, same⟩ := before
  obtain ⟨others, grown', few', same'⟩ := after
  refine ⟨more ++ others, by rw [grown', grown, List.append_assoc], ?_, ?_⟩
  · rw [List.length_append]
    omega
  · intro part member
    rw [same' part (by rw [grown]; exact List.mem_append_left _ member), same part member]

section Operations

variable {environment : UploadEnvironment} {files : List Char → Option Bytes}

theorem kept_start (fresh : TempNamesFresh environment files) :
    HandlerKept environment (UploadState.start files) where
  numbered := by simp [UploadState.start]
  unused := by
    intro fileId fileName _
    exact fresh.absent fileId fileName
  target := by simp [UploadState.start]
  fileNames := rfl

theorem kept_append {state : UploadState} (kept : HandlerKept environment state)
    (data : Bytes) : HandlerKept environment (appendToBuffer state data) :=
  ⟨kept.numbered, kept.unused, kept.target, kept.fileNames⟩

theorem kept_clear {state : UploadState} (kept : HandlerKept environment state) :
    HandlerKept environment (clearBuffer state) :=
  ⟨kept.numbered, kept.unused, kept.target, kept.fileNames⟩

theorem write_other (state : UploadState) {target name : List Char} (data : Bytes)
    (other : name ≠ target) : (writeTarget state target data).files name = state.files name :=
  Function.update_of_ne other _ _

theorem kept_write (fresh : TempNamesFresh environment files) {state : UploadState}
    (kept : HandlerKept environment state) {target : List Char}
    (open' : state.targetFile = some target) (data : Bytes) :
    HandlerKept environment (writeTarget state target data) where
  numbered := kept.numbered
  unused := by
    intro fileId fileName beyond
    obtain ⟨_, ⟨fileId', fileName', within, name⟩, _⟩ := kept.target target open'
    have beyond' : state.fileId < fileId := beyond
    have other : environment.tempFileName fileId fileName ≠ target := by
      intro same
      have := temp_file_number fresh (same.trans name)
      omega
    rw [write_other state data other]
    exact kept.unused fileId fileName beyond
  target := kept.target
  fileNames := kept.fileNames

theorem grows_write {state : UploadState} (kept : HandlerKept environment state)
    {target : List Char} (open' : state.targetFile = some target) (data : Bytes) :
    Grows 0 state (writeTarget state target data) := by
  refine ⟨[], (List.append_nil _).symm, Nat.le_refl 0, ?_⟩
  intro part member
  exact write_other state data ((kept.target target open').2.2 part member)

theorem kept_finish {state : UploadState} (kept : HandlerKept environment state) :
    HandlerKept environment (finishCurrentPart state) := by
  unfold finishCurrentPart
  cases open' : state.targetFile with
  | none => exact kept
  | some target =>
      obtain ⟨name, numbered, _⟩ := kept.target target open'
      constructor
      · intro part member
        rcases List.mem_append.mp member with old | new
        · exact kept.numbered part old
        · rw [List.mem_singleton.mp new, ← name]
          exact numbered
      · exact kept.unused
      · intro other still
        cases still
      · simp [kept.fileNames]

theorem grows_finish (state : UploadState) : Grows 1 state (finishCurrentPart state) := by
  unfold finishCurrentPart
  cases state.targetFile with
  | none => exact grows_refl 1 state
  | some target => exact ⟨[state.currentPart], rfl, Nat.le_refl 1, fun _ _ => rfl⟩

theorem set_temp_file_name {state : UploadState} (kept : HandlerKept environment state)
    (part : Part) :
    ∃ named, setTempFileName environment { state with fileId := state.fileId + 1 } part = named ∧
      named.name = part.name ∧ named.originalFileName = part.originalFileName ∧
      (named.fileName = part.fileName ∨ part.fileName ∈ state.parts.map Part.fileName) ∧
      ∃ fileName, named.tempFileName = environment.tempFileName (state.fileId + 1) fileName := by
  have unused := kept.unused (state.fileId + 1) part.fileName (Nat.lt_succ_self _)
  refine ⟨_, rfl, ?_⟩
  unfold setTempFileName
  simp only [unused, kept.fileNames, List.mem_reverse, Option.isSome_none, Bool.false_eq_true,
    or_false]
  split_ifs with taken
  · exact ⟨rfl, rfl, Or.inr taken, _, rfl⟩
  · exact ⟨rfl, rfl, Or.inl rfl, _, rfl⟩

theorem kept_opened (fresh : TempNamesFresh environment files) {state : UploadState}
    (kept : HandlerKept environment state) (position : Nat) (endIndex : Int) :
    HandlerKept environment (opened environment state position endIndex) := by
  unfold opened
  dsimp only
  rw [if_pos (fresh.opens _)]
  obtain ⟨named, same, _, _, _, fileName, name⟩ := set_temp_file_name kept
    (readHeaders state.currentPart (environment.fromUtf8 (state.analyzeBuffer.take position)))
  rw [same]
  constructor
  · intro part member
    obtain ⟨fileId, other, within, found⟩ := kept.numbered part member
    exact ⟨fileId, other, Nat.le_succ_of_le within, found⟩
  · intro fileId other beyond
    dsimp only at beyond ⊢
    rw [Function.update_of_ne, kept.unused fileId other (by omega)]
    intro clash
    rw [name] at clash
    have := temp_file_number fresh clash
    omega
  · intro target is
    simp only [Option.some.injEq] at is
    subst is
    refine ⟨rfl, ⟨_, fileName, Nat.le_refl _, name⟩, ?_⟩
    intro part member clash
    obtain ⟨fileId, other, within, found⟩ := kept.numbered part member
    rw [name, found] at clash
    have := temp_file_number fresh clash
    omega
  · exact kept.fileNames

theorem grows_opened (fresh : TempNamesFresh environment files) {state : UploadState}
    (kept : HandlerKept environment state) (position : Nat) (endIndex : Int) :
    Grows 0 state (opened environment state position endIndex) := by
  have target := (kept_opened fresh kept position endIndex).target
  unfold opened at target ⊢
  dsimp only at target ⊢
  rw [if_pos (fresh.opens _)] at target ⊢
  refine ⟨[], (List.append_nil _).symm, Nat.le_refl 0, ?_⟩
  intro part member
  exact Function.update_of_ne ((target _ rfl).2.2 part member) _ _

theorem grows_open_target (fresh : TempNamesFresh environment files) {state after : UploadState}
    (kept : HandlerKept environment state) {position : Nat} {isComplete : Bool}
    (ran : openTarget environment state position isComplete = .ok after) :
    HandlerKept environment after ∧ Grows (if isComplete then 1 else 0) state after := by
  unfold openTarget at ran
  cases isComplete with
  | false =>
      simp only [Bool.false_eq_true, if_false, Except.ok.injEq] at ran
      subst ran
      exact ⟨kept_opened fresh kept _ _, grows_opened fresh kept _ _⟩
  | true =>
      simp only [if_true] at ran
      cases found : findEndIndex state.analyzeBuffer (state.analyzeBuffer.length - 1) with
      | error failure =>
          rw [found] at ran
          cases ran
      | ok endIndex =>
          rw [found] at ran
          cases ran
          have kept' := kept_opened fresh kept position endIndex
          exact ⟨kept_finish kept',
            grows_trans (grows_opened fresh kept position endIndex) (grows_finish _)⟩

theorem grows_write_data (fresh : TempNamesFresh environment files) {state after : UploadState}
    (kept : HandlerKept environment state) {newData : Bytes} {isComplete : Bool}
    (ran : writeDataToCurrentPart environment state newData isComplete = .ok after) :
    HandlerKept environment after ∧
      Grows (if isComplete ∧ state.targetFile = none then 1 else 0) state after := by
  unfold writeDataToCurrentPart at ran
  cases open' : state.targetFile with
  | some target =>
      rw [open'] at ran
      cases ran
      exact ⟨kept_write fresh kept open' newData, grows_mono (grows_write kept open' newData)
        (Nat.zero_le _)⟩
  | none =>
      rw [open'] at ran
      dsimp only at ran
      split_ifs at ran with small behind
      · obtain ⟨kept', grows⟩ := grows_open_target fresh (kept_append kept newData) ran
        have from' : Grows (if isComplete then 1 else 0) state after := grows
        refine ⟨kept', ?_⟩
        simpa using from'
      · cases ran
        exact ⟨kept_append kept newData, grows_refl _ state⟩
      · cases ran
        exact ⟨kept, grows_refl _ state⟩

end Operations

end Viridity.UploadSteps
