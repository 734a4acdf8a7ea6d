import Mathlib.Logic.Function.Basic
import Viridity.SubstringSearch

/-!
# The upload handler

Byte arrays are lists of bytes and strings lists of characters. An access outside an
array and a loop that does not end are failures. A file may fail to open; what is written to
an open file is in it.
-/

namespace Viridity.FileUpload

open Viridity.SubstringSearch

set_option autoImplicit false

abbrev Bytes := List UInt8

inductive UploadFailure where
  | indexOutOfRange
  | endlessLoop
deriving DecidableEq

def carriageReturn : UInt8 := 13
def lineFeed : UInt8 := 10
def dash : UInt8 := 45

def byteAt (data : Bytes) (index : Int) : Except UploadFailure UInt8 :=
  if index < 0 then .error .indexOutOfRange
  else
    match data[index.toNat]? with
    | some byte => .ok byte
    | none => .error .indexOutOfRange

/-- `QByteArray::mid`, which takes everything from the position on when the length is negative. -/
def mid (data : Bytes) (position : Nat) (length : Int) : Bytes :=
  if length < 0 then data.drop position else (data.drop position).take length.toNat

def trimmedBy {Letter : Type} (space : Letter → Bool) (text : List Letter) : List Letter :=
  ((text.dropWhile space).reverse.dropWhile space).reverse

def isSpaceByte (byte : UInt8) : Bool := byte = 32 || (9 ≤ byte && byte ≤ 13)

def trimmed (data : Bytes) : Bytes := trimmedBy isSpaceByte data

def isSpace (letter : Char) : Bool :=
  let code := letter.toNat
  code = 32 || (9 ≤ code && code ≤ 13) || code = 0x85 || code = 0xA0 || code = 0x1680 ||
    (0x2000 ≤ code && code ≤ 0x200A) || code = 0x2028 || code = 0x2029 || code = 0x202F ||
    code = 0x205F || code = 0x3000

def simplified (text : List Char) : List Char :=
  [' '].intercalate ((text.splitOnP isSpace).filter fun word => word ≠ [])

def equalsIgnoringCase (first second : List Char) : Bool :=
  first.map Char.toLower = second.map Char.toLower

/-- What the regular expression captures when its key stands right here. -/
def subValueHere (key : List Char) : List Char → Option (List Char)
  | [] => none
  | separator :: rest =>
      if (isSpace separator || separator = ';') &&
          equalsIgnoringCase (rest.take (key.length + 1)) (key ++ ['=']) then
        let value := rest.drop (key.length + 1)
        let quoted := if value.head? = some '"' then value.tail else value
        let captured := quoted.takeWhile fun letter => letter ≠ '"'
        if captured = [] then none else some captured
      else none

/-- The leading `.*` of the regular expression is greedy, so that the last match counts. -/
def lastSubValue (key : List Char) : List Char → Option (List Char)
  | [] => none
  | letter :: rest =>
      match lastSubValue key rest with
      | some value => some value
      | none => subValueHere key (letter :: rest)

def readSubValueFromHeaderValue (key input : List Char) : List Char :=
  (lastSubValue key input).getD []

def strippedCharacters : List Char :=
  [',', '+', '&', '/', '=', ':', '#', '!', '?', '_', '@', '$', '*', '|', '\\', '"', '\'', '^',
    '~', Char.ofNat 96]

def sanitizeFileName (input : List Char) : List Char :=
  simplified (input.filter fun letter => letter ∉ strippedCharacters)

/-- `mimeType` is never set. -/
structure Part where
  name : List Char
  originalFileName : List Char
  fileName : List Char
  mimeType : List Char
  tempFileName : List Char
deriving DecidableEq

def nameKey : List Char := ['n', 'a', 'm', 'e']
def fileNameKey : List Char := ['f', 'i', 'l', 'e', 'n', 'a', 'm', 'e']

def contentDisposition : List Char :=
  ['C', 'o', 'n', 't', 'e', 'n', 't', '-', 'D', 'i', 's', 'p', 'o', 's', 'i', 't', 'i', 'o', 'n']

def Part.named (part : Part) (value : List Char) : Part :=
  { part with
    name := sanitizeFileName (readSubValueFromHeaderValue nameKey value)
    fileName := sanitizeFileName (readSubValueFromHeaderValue fileNameKey value)
    originalFileName := sanitizeFileName (readSubValueFromHeaderValue fileNameKey value) }

def readHeaderLine (part : Part) (headerLine : List Char) : Part :=
  match headerLine.splitOn ':' with
  | [key, value] =>
      if equalsIgnoringCase (trimmedBy isSpace key) contentDisposition then
        part.named (trimmedBy isSpace value)
      else part
  | _ => part

/-- The names of the part before stay where no line sets them. -/
def readHeaders (part : Part) (header : List Char) : Part :=
  (header.splitOn '\n').foldl readHeaderLine part

/-- `pathAppend` joins two paths; the clock is read when the file of a given number is
named, and `opens` says whether that file can be opened. -/
structure UploadEnvironment where
  fromUtf8 : Bytes → List Char
  pathAppend : List Char → List Char → List Char
  tempPath : List Char
  currentMSecsSinceEpoch : Nat → Nat
  opens : Nat → Bool

def tempPrefix : List Char := ['t', 'e', 'm', 'p', '_']

def UploadEnvironment.tempFileName (environment : UploadEnvironment) (fileId : Nat)
    (fileName : List Char) : List Char :=
  environment.pathAppend environment.tempPath
    (tempPrefix ++ (Nat.toDigits 10 fileId ++ '_' :: fileName))

/-- `targetFile` is the name of the file that is open, `filenameToParts` has the keys of
the hash. -/
structure UploadState where
  analyzeBuffer : Bytes
  fileId : Nat
  parts : List Part
  filenameToParts : List (List Char)
  targetFile : Option (List Char)
  currentPart : Part
  files : List Char → Option Bytes

def UploadState.start (files : List Char → Option Bytes) : UploadState where
  analyzeBuffer := []
  fileId := 0
  parts := []
  filenameToParts := []
  targetFile := none
  currentPart := ⟨[], [], [], [], []⟩
  files := files

def skipLineEnd (chunk : Bytes) (position : Nat) : Except UploadFailure Nat := do
  let first ← byteAt chunk position
  let afterReturn := if first = carriageReturn then position + 1 else position
  let second ← byteAt chunk afterReturn
  return if second = lineFeed then afterReturn + 1 else afterReturn

/-- The loop of `splitChunk`; the left-overs come last. -/
def splitLoop (boundary : Bytes) : Nat → Bytes → Except UploadFailure (List Bytes)
  | 0, _ => .error .endlessLoop
  | fuel + 1, chunk =>
      match indexOf boundary chunk with
      | none => .ok [chunk]
      | some boundaryPos => do
          let newStartPos ← skipLineEnd chunk (boundaryPos + boundary.length)
          let result ← splitLoop boundary fuel (chunk.drop newStartPos)
          return chunk.take boundaryPos :: result

def splitChunk (boundary chunk : Bytes) : Except UploadFailure (List Bytes) :=
  match indexOf boundary chunk with
  | none => .ok []
  | some _ => splitLoop boundary (chunk.length + 1) chunk

/-- Where the scan for the empty line stops: behind it, or at the last byte. -/
def scanHeader : Bytes → Nat
  | first :: second :: rest =>
      if first = lineFeed && (second = lineFeed || second = carriageReturn) then
        if second = carriageReturn then 3 else 2
      else scanHeader (second :: rest) + 1
  | _ => 0

def findEndIndex (data : Bytes) (endIndex : Int) : Except UploadFailure Int := do
  let last ← byteAt data endIndex
  let withoutDashes ←
    if last = dash then do
      let previous ← byteAt data (endIndex - 1)
      pure (if previous = dash then endIndex - 2 else endIndex)
    else pure endIndex
  let feed ← byteAt data withoutDashes
  let withoutFeed := if feed = lineFeed then withoutDashes - 1 else withoutDashes
  let back ← byteAt data withoutFeed
  return if back = carriageReturn then withoutFeed - 1 else withoutFeed

def appendToBuffer (state : UploadState) (data : Bytes) : UploadState :=
  { state with analyzeBuffer := state.analyzeBuffer ++ data }

def clearBuffer (state : UploadState) : UploadState := { state with analyzeBuffer := [] }

def writeTarget (state : UploadState) (target : List Char) (data : Bytes) : UploadState :=
  { state with
    files := Function.update state.files target (some ((state.files target).getD [] ++ data)) }

def finishCurrentPart (state : UploadState) : UploadState :=
  match state.targetFile with
  | none => state
  | some _ =>
      { state with
        targetFile := none
        parts := state.parts ++ [state.currentPart]
        filenameToParts := state.currentPart.fileName :: state.filenameToParts
        analyzeBuffer := [] }

section Environment

variable (environment : UploadEnvironment)

def setTempFileName (state : UploadState) (part : Part) : Part :=
  let tempFileName := environment.tempFileName state.fileId part.fileName
  if part.fileName ∈ state.filenameToParts ∨ (state.files tempFileName).isSome then
    let fileName :=
      Nat.toDigits 10 (environment.currentMSecsSinceEpoch state.fileId) ++ '_' :: part.fileName
    { part with
      fileName := fileName
      tempFileName := environment.tempFileName state.fileId fileName }
  else { part with tempFileName := tempFileName }

/-- The headers are read, and the file is opened with the data up to `endIndex`, if it can be. -/
def opened (state : UploadState) (position : Nat) (endIndex : Int) : UploadState :=
  let numbered := { state with fileId := state.fileId + 1 }
  let header := environment.fromUtf8 (state.analyzeBuffer.take position)
  let part := setTempFileName environment numbered (readHeaders state.currentPart header)
  let start := mid state.analyzeBuffer position (endIndex - position + 1)
  let named := { numbered with currentPart := part }
  if environment.opens numbered.fileId then
    { named with
      targetFile := some part.tempFileName
      files := Function.update state.files part.tempFileName (some start) }
  else named

/-- `writeDataToCurrentPart` once it has found where the headers end. -/
def openTarget (state : UploadState) (position : Nat) (isComplete : Bool) :
    Except UploadFailure UploadState :=
  let endIndex : Int := state.analyzeBuffer.length - 1
  if isComplete then do
    let endIndex ← findEndIndex state.analyzeBuffer endIndex
    return finishCurrentPart (opened environment state position endIndex)
  else .ok (opened environment state position endIndex)

def writeDataToCurrentPart (state : UploadState) (newData : Bytes) (isComplete : Bool) :
    Except UploadFailure UploadState :=
  match state.targetFile with
  | none =>
      -- the buffer takes no more once it has reached 1 KiB
      if state.analyzeBuffer.length < 1024 then
        let buffered := appendToBuffer state newData
        let position := scanHeader buffered.analyzeBuffer
        if position < buffered.analyzeBuffer.length then
          openTarget environment buffered position isComplete
        else .ok buffered
      else .ok state
  | some target => .ok (writeTarget state target newData)

def writeLastBlockOfCurrentPart (state : UploadState) (newData : Bytes) :
    Except UploadFailure UploadState :=
  match state.targetFile with
  | none => .ok state
  | some target => do
      let newEndPos ← findEndIndex newData (newData.length - 1)
      return finishCurrentPart (writeTarget state target (newData.take (newEndPos + 1).toNat))

/-- White space, with the two dashes in front of a boundary or behind the last one. -/
def isBlank (split : Bytes) : Bool := trimmed split = [dash, dash] || trimmed split = []

/-- The splits behind the first boundary: the last of them is looked at first. -/
def writeSplits (state : UploadState) (splits : List Bytes) :
    Except UploadFailure UploadState :=
  match splits.getLast? with
  | none => .error .indexOutOfRange
  | some last => do
      let opened ←
        if isBlank last then pure state else writeDataToCurrentPart environment state last false
      splits.dropLast.foldlM
        (fun current split => writeDataToCurrentPart environment current split true) opened

def onData (boundary : Bytes) (state : UploadState) (chunk : Bytes) :
    Except UploadFailure UploadState := do
  let splits ← splitChunk boundary chunk
  match splits with
  | [] => writeDataToCurrentPart environment state chunk false
  | first :: others =>
      if isBlank first then writeSplits environment (clearBuffer state) others
      else if 0 < others.length then do
        let finished ← writeLastBlockOfCurrentPart state first
        writeSplits environment (clearBuffer finished) others
      else writeSplits environment (clearBuffer state) splits

/-- The chunks of a request, up to the end of it; `parts` is then what is emitted. -/
def upload (boundary : Bytes) (files : List Char → Option Bytes) (chunks : List Bytes) :
    Except UploadFailure UploadState :=
  chunks.foldlM (onData environment boundary) (UploadState.start files)

end Environment

end Viridity.FileUpload
