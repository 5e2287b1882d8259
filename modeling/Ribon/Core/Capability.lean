/-
Capabilities, modes and products: the descriptors that a build links together.

A capability is one bit of a 64-bit mask.  A product says which bits it allows and
which it requires; a mode says which bits it requires and which it forbids.
-/
import Ribon.Native
import Ribon.Wire.Mask

namespace Ribon

inductive CoreStatus where
  | badArgument
  | badAbi
  | badMode
  | badLimit
  | outOfCapacity
  | badAlignment
  | missingCapability
  | forbiddenCapability
  | invalidDescriptor
  | duplicateProvider
  | dependencyCycle
  | badState
  | phaseInversion
  | ambiguousSelection
  deriving DecidableEq, Repr

/-- Set of capabilities. -/
abbrev Capabilities := BitVec 64

namespace Capability

def bootSourceRead : Capabilities := Mask.bit 64 0
def inactiveSlotWrite : Capabilities := Mask.bit 64 1
def inactiveSlotErase : Capabilities := Mask.bit 64 2
def storageFlush : Capabilities := Mask.bit 64 3
def monotonicTimer : Capabilities := Mask.bit 64 4
def watchdog : Capabilities := Mask.bit 64 5
def reset : Capabilities := Mask.bit 64 6
def persistentMetadata : Capabilities := Mask.bit 64 7
def networkTransport : Capabilities := Mask.bit 64 8
def randomNonce : Capabilities := Mask.bit 64 9
def diagnosticSink : Capabilities := Mask.bit 64 10
def environmentQuiesce : Capabilities := Mask.bit 64 11
def bootModuleBundle : Capabilities := Mask.bit 64 12
def architecture : Capabilities := Mask.bit 64 16
def imageElf64 : Capabilities := Mask.bit 64 17
def bootProtocol : Capabilities := Mask.bit 64 18
def handoff : Capabilities := Mask.bit 64 19
def entryContract : Capabilities := Mask.bit 64 20
def machineDescription : Capabilities := Mask.bit 64 23
def firmwarePersonality : Capabilities := Mask.bit 64 24
def firmwareServiceDirectory : Capabilities := Mask.bit 64 25
def payloadPlacement : Capabilities := Mask.bit 64 27
def terminalImageLaunch : Capabilities := Mask.bit 64 29

/-- Every bit that the plugin ABI defines. -/
def all : Capabilities := (1#64 <<< 31) - 1#64

end Capability

def coreAbiVersion : UInt32 := 7
def pluginRegistryLimit : Nat := 64
def serviceDirectoryLimit : Nat := 64

/-- The byte order of two stable IDs.  A list holds the characters before the
terminator, so reading past its end reads zero. -/
def strcmp : List UInt8 → List UInt8 → Int
  | [], [] => 0
  | [], b :: _ => -(b.toNat : Int)
  | a :: _, [] => a.toNat
  | a :: as, b :: bs => if a ≠ 0 ∧ a = b then strcmp as bs else (a.toNat : Int) - b.toNat

/-- The two IDs are the same string. -/
def streq (lhs rhs : List UInt8) : Bool := strcmp lhs rhs == 0

/-- A mode; a value outside the enumeration is `unknown`. -/
inductive Mode where
  | normal
  | recovery
  | provisioning
  | diagnostic
  | unknown
  deriving DecidableEq, Repr

namespace Mode

def isKnown (mode : Mode) : Bool := mode != .unknown

def name : Mode → List UInt8
  | .normal => "normal".toUTF8.toList
  | .recovery => "recovery".toUTF8.toList
  | .provisioning => "provisioning".toUTF8.toList
  | .diagnostic => "diagnostic".toUTF8.toList
  | .unknown => "unknown".toUTF8.toList

/-- The bit of a mode in a mask of modes; only a known mode is ever asked for it. -/
def mask : Mode → BitVec 32
  | .normal => Mask.bit 32 0
  | .recovery => Mask.bit 32 1
  | .provisioning => Mask.bit 32 2
  | .diagnostic => Mask.bit 32 3
  | .unknown => 0

end Mode

def modeMaskAll : BitVec 32 := (1#32 <<< 4) - 1#32
def archMaskAll : BitVec 32 := (1#32 <<< 3) - 1#32
def envMaskAll : BitVec 32 := (1#32 <<< 5) - 1#32
def personalityMaskAll : BitVec 32 := (1#32 <<< 2) - 1#32

structure ResourceLimits where
  maxMemoryRegions : UInt32
  maxLoadSegments : UInt32
  maxComponents : UInt32
  maxRetries : UInt32
  maxInputBytes : UInt64
  maxHandoffBytes : UInt64
  arenaBytes : UInt64
  operationDeadlineMs : UInt64
  deriving DecidableEq, Repr

def resourceLimitsAreValid (limits : ResourceLimits) : Bool :=
  limits.maxMemoryRegions != 0 && limits.maxLoadSegments != 0 && limits.maxComponents != 0 &&
  limits.maxRetries != 0 && limits.maxInputBytes != 0 && limits.maxHandoffBytes != 0 &&
  limits.arenaBytes != 0 && limits.operationDeadlineMs != 0 &&
  decide (limits.maxLoadSegments ≤ limits.maxComponents) &&
  decide (limits.maxHandoffBytes ≤ limits.arenaBytes) &&
  decide (limits.maxHandoffBytes ≤ limits.maxInputBytes)

structure ModeDescriptor where
  size : UInt32
  abiVersion : UInt32
  mode : Mode
  name : List UInt8
  /-- Bits that the registry has to provide. -/
  requiredCapabilities : Capabilities
  /-- Bits that the registry may not have. -/
  forbiddenCapabilities : Capabilities
  limits : ResourceLimits
  deriving DecidableEq, Repr

def modeDescriptorSizeOf : UInt32 := 88

def modeDescriptorIsValid (mode : ModeDescriptor) : Bool :=
  if mode.size != modeDescriptorSizeOf || mode.abiVersion != coreAbiVersion ||
      !mode.mode.isKnown || !streq mode.name mode.mode.name ||
      mode.requiredCapabilities &&& ~~~Capability.all != 0 ||
      mode.forbiddenCapabilities &&& ~~~Capability.all != 0 ||
      mode.requiredCapabilities &&& mode.forbiddenCapabilities != 0 then false
  else resourceLimitsAreValid mode.limits

namespace Mode

/-- The mode of an ordinary boot, which may not write slots or use the network. -/
def normalDescriptor : ModeDescriptor where
  size := modeDescriptorSizeOf
  abiVersion := coreAbiVersion
  mode := .normal
  name := Mode.normal.name
  requiredCapabilities := Capability.bootSourceRead ||| Capability.monotonicTimer |||
    Capability.architecture ||| Capability.bootProtocol ||| Capability.handoff |||
    Capability.entryContract
  forbiddenCapabilities := Capability.inactiveSlotWrite ||| Capability.inactiveSlotErase |||
    Capability.networkTransport
  limits := {
    maxMemoryRegions := 256
    maxLoadSegments := 32
    maxComponents := 32
    maxRetries := 2
    maxInputBytes := 64 * 1024 * 1024
    maxHandoffBytes := 64 * 1024
    arenaBytes := 256 * 1024
    operationDeadlineMs := 30000 }

end Mode

end Ribon
