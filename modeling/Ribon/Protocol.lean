/-
The boot protocol descriptor: what makes it valid, what it expects of an
environment, and the callback that judges a health payload.
-/
import Ribon.Native

namespace Ribon

inductive TerminalExecutionKind where
  | directEntry
  | firmwareManagedImage
  | unknown
  deriving DecidableEq, Repr, Inhabited

/-- A health payload as the protocol's callback gets it. -/
structure BootHealthPayload where
  bytes : List UInt8
  digest : Digest
  deriving DecidableEq

/-- The operation table.  A callback that is only checked for being there is a flag. -/
structure BootProtocolOps where
  size : UInt32
  abiVersion : UInt32
  matchManifest : Bool
  validateComponents : Bool
  selectImageFormats : Option UInt64
  prepareHandoff : Bool
  prepareTerminal : Bool
  validateBootHealth : Option (BootHealthPayload → Int)

structure BootProtocol where
  size : UInt32
  abiVersion : UInt32
  /-- The characters from the pointer on; the string ends before the first zero. -/
  id : Option (List UInt8)
  kernelPath : Bool
  terminalExecution : TerminalExecutionKind
  expectations : UInt32
  supportedModes : UInt32
  handoffFormat : Bool
  handoffMajor : UInt32
  ops : Option BootProtocolOps

/-- The characters of a C string. -/
def cString (chars : List UInt8) : List UInt8 := chars.takeWhile (· != 0)

namespace BootProtocol

def sizeOf : UInt32 := 64
def opsSizeOf : UInt32 := 56
def opsAbiVersion : UInt32 := 5
def modeMaskAll : UInt32 := 15

def opsAreComplete (ops : BootProtocolOps) : Bool :=
  ops.size == opsSizeOf && ops.abiVersion == opsAbiVersion && ops.matchManifest &&
  ops.validateComponents && ops.selectImageFormats.isSome && ops.prepareTerminal &&
  ops.validateBootHealth.isSome

/-- A direct entry hands over; a firmware-managed image does not. -/
def handoffFits (protocol : BootProtocol) (ops : BootProtocolOps) : Bool :=
  if protocol.terminalExecution == .directEntry then
    protocol.handoffFormat && protocol.handoffMajor != 0 && ops.prepareHandoff
  else !protocol.handoffFormat && protocol.handoffMajor == 0 && !ops.prepareHandoff

def isValid (protocol : BootProtocol) : Bool :=
  match protocol.ops with
  | none => false
  | some ops =>
      let formats := ops.selectImageFormats.getD 0
      protocol.size == sizeOf && protocol.abiVersion != 0 &&
      cString (protocol.id.getD []) != [] && protocol.kernelPath &&
      protocol.supportedModes != 0 && (protocol.supportedModes &&& ~~~ modeMaskAll) == 0 &&
      protocol.terminalExecution != .unknown && opsAreComplete ops && handoffFits protocol ops &&
      formats != 0 && (formats &&& 1) == 0

def expectMemoryMap : UInt32 := 1
def allowBootModules : UInt32 := 16

def hasExpectation (protocol : BootProtocol) (expectation : UInt32) : Bool :=
  protocol.isValid && protocol.expectations &&& expectation == expectation

/-- Ask the protocol about a health payload; zero is healthy. -/
def validateBootHealth (protocol : BootProtocol) (payload : BootHealthPayload) : Int :=
  if !protocol.isValid then -2
  else
    match protocol.ops.bind (·.validateBootHealth) with
    | none => -2
    | some validate => validate payload

end BootProtocol

end Ribon
