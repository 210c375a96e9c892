import ScoreCrypto.Common.Types
import ScoreCrypto.Lib.Table
import ScoreCrypto.Lib.Text

/-! Deployment descriptors, and the key=value files they are written to and loaded from. -/

namespace ScoreCrypto.Storage

open Text

abbrev Bytes := List UInt8

def ascii (text : String) : Bytes :=
  text.toList.map Char.toUInt8

namespace Ascii

def tab : UInt8 := 9
def newline : UInt8 := 10
def carriageReturn : UInt8 := 13
def space : UInt8 := 32
def hash : UInt8 := 35
def equals : UInt8 := 61
def leftBracket : UInt8 := 91
def rightBracket : UInt8 := 93

end Ascii

/-! ### Descriptors -/

abbrev Section := Finmap fun _ : Bytes => Bytes

abbrev DeploymentDescriptor := Finmap fun _ : Bytes => Section

namespace DeploymentDescriptor

variable (descriptor : DeploymentDescriptor)

/-- An absent section reads like an empty one. -/
def getSection (name : Bytes) : Section :=
  (descriptor.lookup name).getD ∅

def hasSection (name : Bytes) : Bool :=
  (descriptor.lookup name).isSome

def entry (name key : Bytes) : Option Bytes :=
  (descriptor.getSection name).lookup key

def hasKey (name key : Bytes) : Bool :=
  (descriptor.entry name key).isSome

def addSection (name : Bytes) : DeploymentDescriptor :=
  if descriptor.hasSection name then descriptor else descriptor.insert name ∅

def set (name key value : Bytes) : DeploymentDescriptor :=
  descriptor.insert name ((descriptor.getSection name).insert key value)

end DeploymentDescriptor

/-! ### Validation -/

def isWhitespace (value : UInt8) : Bool :=
  value = Ascii.space || value = Ascii.tab || value = Ascii.carriageReturn || value = Ascii.newline

def hasBoundaryWhitespace (value : Bytes) : Bool :=
  value.head?.any isWhitespace || value.getLast?.any isWhitespace

def isSingleLine (value : Bytes) : Bool :=
  value.all fun c => c ≠ Ascii.carriageReturn && c ≠ Ascii.newline

def isValidKvKey (key : Bytes) : Bool :=
  key ≠ [] && key.head? ≠ some Ascii.hash && Ascii.equals ∉ key && !hasBoundaryWhitespace key &&
    isSingleLine key

def isValidKvValue (value : Bytes) : Bool :=
  !hasBoundaryWhitespace value && isSingleLine value

def isValidSection (name : Bytes) : Bool :=
  name ≠ [] && !hasBoundaryWhitespace name && isSingleLine name

def isValidEntry (name key value : Bytes) : Bool :=
  isValidSection name && isValidKvKey key && isValidKvValue value

/-! ### Writing -/

/-- The orders in which loops meet the sections of a descriptor and the entries of a section. -/
structure HashOrder where
  sections : (descriptor : DeploymentDescriptor) → Iteration descriptor
  entries : (name : Bytes) → (content : Section) → Iteration content

section Write

variable (order : HashOrder) (descriptor : DeploymentDescriptor)

def validate : Bool :=
  (order.sections descriptor).entries.all fun ⟨name, content⟩ =>
    isValidSection name &&
      (order.entries name content).entries.all fun ⟨key, value⟩ => isValidEntry name key value

def headerLine (name : Bytes) : Bytes :=
  Ascii.leftBracket :: name ++ [Ascii.rightBracket]

def entryLine (key value : Bytes) : Bytes :=
  key ++ [Ascii.space, Ascii.equals, Ascii.space] ++ value

def entryLines (name : Bytes) (content : Section) : Bytes :=
  (order.entries name content).entries.flatMap fun ⟨key, value⟩ =>
    entryLine key value ++ [Ascii.newline]

def serialize : Bytes :=
  (order.sections descriptor).entries.flatMap fun ⟨name, content⟩ =>
    headerLine name ++ [Ascii.newline] ++ entryLines order name content ++ [Ascii.newline]

def emptyContent : Bytes :=
  ascii "# empty deployment descriptor\n"

/-- `KvDeploymentWriter::Write`: the bytes it hands to the file writer. -/
def write : Expected Bytes :=
  if validate order descriptor then
    .ok (if serialize order descriptor = [] then emptyContent else serialize order descriptor)
  else .error .invalidArgument

end Write

/-! ### Loading -/

def readFile (file : Option Bytes) (maxSize : Nat) : Expected Bytes :=
  match file with
  | none => .error .resourceNotAllocated
  | some bytes =>
    if bytes.length = 0 ∨ maxSize < bytes.length then .error .invalidArgument else .ok bytes

structure Reading where
  descriptor : DeploymentDescriptor := ∅
  currentSection : Bytes := []

def readEntry (reading : Reading) (key value : Bytes) : Expected Reading :=
  if reading.descriptor.hasKey reading.currentSection key then .error .invalidArgument
  else if isValidEntry reading.currentSection key value then
    .ok { reading with descriptor := reading.descriptor.set reading.currentSection key value }
  else .error .invalidArgument

def readTrimmed (reading : Reading) (trimmed : Bytes) : Expected Reading :=
  if trimmed = [] ∨ trimmed.head? = some Ascii.hash then .ok reading
  else if trimmed.head? = some Ascii.leftBracket ∧ trimmed.getLast? = some Ascii.rightBracket then
    let name := trimmed.tail.dropLast
    if isValidSection name then
      .ok { descriptor := reading.descriptor.addSection name, currentSection := name }
    else .error .invalidArgument
  else if reading.currentSection = [] then .error .invalidArgument
  else if Ascii.equals ∉ trimmed then .error .invalidArgument
  else
    readEntry reading (trim isWhitespace (trimmed.takeWhile (· ≠ Ascii.equals)))
      (trim isWhitespace (trimmed.dropWhile (· ≠ Ascii.equals)).tail)

def readLines : Reading → List Bytes → Expected Reading
  | reading, [] => .ok reading
  | reading, line :: lines =>
    match readTrimmed reading (trim isWhitespace line) with
    | .error e => .error e
    | .ok reading => readLines reading lines

def parse (bytes : Bytes) : Expected DeploymentDescriptor :=
  (readLines {} (lines Ascii.newline bytes)).map Reading.descriptor

def maxDescriptorSize : Nat := 64 * 1024

/-- `KvDeploymentLoader::Load`, given what is stored under the path. -/
def load (file : Option Bytes) : Expected DeploymentDescriptor :=
  match readFile file maxDescriptorSize with
  | .error e => .error e
  | .ok bytes => parse bytes

end ScoreCrypto.Storage
