/-
The structural reader of a policy artifact, as codec.c has it: an envelope with the
hash of the payload and the signature, and a payload with a header, a directory of
sections and their rows.

A view holds no bytes.  Its ranges are offsets into the artifact that was opened, so
what a view means depends on where that artifact is kept.
-/
import Ribon.Native

namespace Ribon.Ribos

open Wire

instance : Inhabited Digest := ⟨Digest.zero⟩

inductive ArtifactStatus where
  | invalidFormat
  | unsupportedVersion
  | hashMismatch
  | invalidSignatureEnvelope
  deriving DecidableEq, Repr

def envelopeBytes : Nat := 128
def payloadHeaderBytes : Nat := 160
def sectionDescriptorBytes : Nat := 32
def artifactMaxBytes : Nat := 32 * 1024 * 1024
def artifactMaxSlots : Nat := 16384
def maxKeyIdBytes : Nat := 64
def ed25519SignatureBytes : Nat := 64

/-- `RIBOS_ARTIFACT_INVALID_ID`, also `RIBOS_VM_INVALID_ID`. -/
def invalidId : UInt32 := u32Max

/-- `RIBOS_ARTIFACT_ENVELOPE_SIGNED`. -/
def envelopeSigned : UInt32 := 1

/-- `RIBOS_ARTIFACT_HAS_SOURCE_MAP`. -/
def hasSourceMap : UInt32 := 1

def envelopeMagic : List UInt8 := paddedText "RIBOSA1" 8
def payloadMagic : List UInt8 := paddedText "RIBBC01" 8

inductive SignatureAlgorithm where
  | none
  | ed25519
  deriving DecidableEq, Repr, Inhabited

inductive SectionKind where
  | types
  | shapes
  | constants
  | constantBytes
  | functions
  | blocks
  | loops
  | slots
  | instructions
  | operands
  | helperImports
  | helperBounds
  | sourceMaps
  deriving DecidableEq, Repr, Inhabited

/-- The canonical order of the directory. -/
def sectionKinds : List SectionKind :=
  [.types, .shapes, .constants, .constantBytes, .functions, .blocks, .loops, .slots, .instructions,
    .operands, .helperImports, .helperBounds, .sourceMaps]

namespace SectionKind

def wire : SectionKind → UInt16
  | types => 1
  | shapes => 2
  | constants => 3
  | constantBytes => 4
  | functions => 5
  | blocks => 6
  | loops => 7
  | slots => 8
  | instructions => 9
  | operands => 10
  | helperImports => 11
  | helperBounds => 12
  | sourceMaps => 13

def expectedRowSize : SectionKind → Nat
  | types => 128
  | shapes => 32
  | constants => 32
  | constantBytes => 1
  | functions => 104
  | blocks => 32
  | loops => 32
  | slots => 32
  | instructions => 48
  | operands => 4
  | helperImports => 16
  | helperBounds => 16
  | sourceMaps => 40

def maxCount : SectionKind → Nat
  | types => 256
  | shapes => 4096
  | constants => 4096
  | constantBytes => 1024 * 1024
  | functions => 64
  | blocks => 4096
  | loops => 1024
  | slots => artifactMaxSlots
  | instructions => 65536
  | operands => 131072
  | helperImports => 256
  | helperBounds => 16384
  | sourceMaps => 65536

end SectionKind

/-- A range of the opened artifact. -/
structure Span where
  offset : Nat
  length : Nat
  deriving DecidableEq, Repr, Inhabited

structure SectionView where
  kind : SectionKind
  rowSize : Nat
  count : Nat
  data : Span
  deriving DecidableEq, Repr, Inhabited

structure ArtifactView where
  envelopeMajor : UInt16
  envelopeMinor : UInt16
  vmAbiMajor : UInt16
  vmAbiMinor : UInt16
  isaMajor : UInt16
  isaMinor : UInt16
  envelopeFlags : UInt32
  payloadFlags : UInt32
  signatureAlgorithm : SignatureAlgorithm
  entryFunction : UInt32
  virtualRegisterCount : UInt32
  slotCount : UInt32
  declaredCapabilities : UInt32
  requiredCapabilities : UInt32
  instructionBudget : UInt64
  instructionUpperBound : UInt64
  helperBudget : UInt64
  helperUpperBound : UInt64
  maximumStackBytes : UInt64
  maximumCallDepth : UInt32
  schemaDigest : Digest
  artifactHash : Digest
  payload : Span
  keyId : Span
  signature : Span
  sections : List SectionView
  deriving DecidableEq, Repr, Inhabited

/-! ### Sizes -/

/-- Addition of sizes that refuses to wrap. -/
def sizeAdd (left right : Nat) : Option Nat :=
  if left + right < 2 ^ 64 then some (left + right) else none

/-- Multiplication of sizes that refuses to wrap. -/
def sizeMultiply (left right : Nat) : Option Nat :=
  if left * right < 2 ^ 64 then some (left * right) else none

/-- Round up to an alignment, which is a power of two, refusing to wrap. -/
def sizeAlign (value alignment : Nat) : Option Nat :=
  if value + (alignment - 1) < 2 ^ 64 then
    some ((value + (alignment - 1)) / alignment * alignment)
  else none

def readerBytes (input : List UInt8) (offset count : Nat) : Option (List UInt8) :=
  if offset + count ≤ input.length then some ((input.drop offset).take count) else none

/-! ### The payload -/

/-- The row of one section, with the offset behind it. -/
def openSection (payload : List UInt8) (base descriptor : Nat) (kind : SectionKind)
    (expectedDataOffset : Nat) : Except ArtifactStatus (SectionView × Nat) := do
  -- The directory lies inside the payload, so the fields of a descriptor are always there.
  let row := payload.drop descriptor
  let rowSize := (loadU32 (row.drop 4)).toNat
  let dataOffset := (loadU64 (row.drop 8)).toNat
  let dataLength := (loadU64 (row.drop 16)).toNat
  let count := (loadU32 (row.drop 24)).toNat
  refuse (loadU16 row != kind.wire || loadU16 (row.drop 2) != 0 || loadU32 (row.drop 28) != 0 ||
    rowSize != kind.expectedRowSize || count > kind.maxCount) .invalidFormat
  let expectedLength ← demand (sizeMultiply count rowSize) .invalidFormat
  refuse (dataLength != expectedLength) .invalidFormat
  let alignedOffset ← demand (sizeAlign expectedDataOffset 8) .invalidFormat
  refuse (dataOffset != alignedOffset) .invalidFormat
  let padding ← demand (readerBytes payload expectedDataOffset (dataOffset - expectedDataOffset))
    .invalidFormat
  refuse (!bytesZero padding (dataOffset - expectedDataOffset)) .invalidFormat
  let _ ← demand (readerBytes payload dataOffset dataLength) .invalidFormat
  let next ← demand (sizeAdd dataOffset dataLength) .invalidFormat
  return (⟨kind, rowSize, count, ⟨base + dataOffset, dataLength⟩⟩, next)

/-- The sections of the directory, in order, with the offset behind the last one. -/
def openSections (payload : List UInt8) (base : Nat) :
    List SectionKind → Nat → Nat → Except ArtifactStatus (List SectionView × Nat)
  | [], _, expectedDataOffset => .ok ([], expectedDataOffset)
  | kind :: rest, descriptor, expectedDataOffset => do
    let (view, next) ← openSection payload base descriptor kind expectedDataOffset
    let (views, last) ← openSections payload base rest (descriptor + sectionDescriptorBytes) next
    return (view :: views, last)

def findSection (sections : List SectionView) (kind : SectionKind) : Option SectionView :=
  sections.find? fun view => view.kind == kind

/-- How many rows a section has; a section that is not there has none. -/
def sectionCount (sections : List SectionView) (kind : SectionKind) : Nat :=
  ((findSection sections kind).map SectionView.count).getD 0

/-- Each instruction starts with an opcode of the instruction set. -/
def instructionOpcodesAreValid (artifact : List UInt8) (view : SectionView) : Bool :=
  (List.range view.count).all fun index =>
    let opcode := byteAt artifact (view.data.offset + index * view.rowSize)
    1 ≤ opcode && opcode ≤ 0x18

/-- What the envelope gives to the view. -/
structure Envelope where
  major : UInt16
  minor : UInt16
  flags : UInt32
  signatureAlgorithm : SignatureAlgorithm
  artifactHash : Digest
  payload : Span
  keyId : Span
  signature : Span
  deriving DecidableEq, Repr

def openPayload (artifact : List UInt8) (envelope : Envelope) :
    Except ArtifactStatus ArtifactView := do
  let payload := (artifact.drop envelope.payload.offset).take envelope.payload.length
  refuse (payload.length < payloadHeaderBytes || !bytesEqual payload payloadMagic 8) .invalidFormat
  let payloadFlags := loadU32 (payload.drop 20)
  let sections := (loadU32 (payload.drop 24)).toNat
  let directoryOffset := (loadU64 (payload.drop 128)).toNat
  let directoryLength := (loadU64 (payload.drop 136)).toNat
  let view : ArtifactView :=
    { envelopeMajor := envelope.major
      envelopeMinor := envelope.minor
      vmAbiMajor := loadU16 (payload.drop 8)
      vmAbiMinor := loadU16 (payload.drop 10)
      isaMajor := loadU16 (payload.drop 12)
      isaMinor := loadU16 (payload.drop 14)
      envelopeFlags := envelope.flags
      payloadFlags := payloadFlags
      signatureAlgorithm := envelope.signatureAlgorithm
      entryFunction := loadU32 (payload.drop 28)
      virtualRegisterCount := loadU32 (payload.drop 32)
      slotCount := loadU32 (payload.drop 36)
      declaredCapabilities := loadU32 (payload.drop 40)
      requiredCapabilities := loadU32 (payload.drop 44)
      instructionBudget := loadU64 (payload.drop 48)
      instructionUpperBound := loadU64 (payload.drop 56)
      helperBudget := loadU64 (payload.drop 64)
      helperUpperBound := loadU64 (payload.drop 72)
      maximumStackBytes := loadU64 (payload.drop 80)
      maximumCallDepth := loadU32 (payload.drop 88)
      schemaDigest := Digest.read (payload.drop 96)
      artifactHash := envelope.artifactHash
      payload := envelope.payload
      keyId := envelope.keyId
      signature := envelope.signature
      sections := [] }
  refuse (view.vmAbiMajor != 1 || view.vmAbiMinor != 0 || view.isaMajor != 1 || view.isaMinor != 0)
    .unsupportedVersion
  refuse ((loadU32 (payload.drop 16)).toNat != payloadHeaderBytes ||
    view.payloadFlags &&& ~~~ hasSourceMap != 0 ||
    (loadU64 (payload.drop 144)).toNat != payload.length ||
    view.virtualRegisterCount != view.slotCount ||
    view.slotCount.toNat > artifactMaxSlots ||
    view.requiredCapabilities &&& ~~~ view.declaredCapabilities != 0 ||
    view.instructionUpperBound > view.instructionBudget ||
    view.helperUpperBound > view.helperBudget ||
    view.maximumStackBytes > 64 * 1024 * 1024 ||
    view.maximumCallDepth == 0 || view.schemaDigest.isZero) .invalidFormat
  refuse (!bytesZero (payload.drop 92) 4 || !bytesZero (payload.drop 152) 8) .invalidFormat
  let expectedDirectoryLength ← demand (sizeMultiply sections sectionDescriptorBytes) .invalidFormat
  refuse (directoryOffset != payloadHeaderBytes || directoryLength != expectedDirectoryLength)
    .invalidFormat
  let expectedDataOffset ← demand (sizeAdd directoryOffset directoryLength) .invalidFormat
  refuse (expectedDataOffset > payload.length) .invalidFormat
  refuse (sections != if payloadFlags &&& hasSourceMap != 0 then 13 else 12) .invalidFormat
  let (views, last) ← openSections payload envelope.payload.offset (sectionKinds.take sections)
    directoryOffset expectedDataOffset
  let instructions ← demand (findSection views .instructions) .invalidFormat
  refuse (last != payload.length || view.entryFunction.toNat ≥ sectionCount views .functions ||
    view.slotCount.toNat != sectionCount views .slots ||
    !instructionOpcodesAreValid artifact instructions) .invalidFormat
  return { view with sections := views }

/-! ### The envelope -/

/-- The signature algorithm of an envelope whose flags and lengths go with it. -/
def signatureShape (flags : UInt32) (algorithm : UInt16) (keyIdLength signatureLength : Nat) :
    Option SignatureAlgorithm :=
  if flags &&& ~~~ envelopeSigned != 0 then .none
  else if algorithm == 0 then
    if flags == 0 && keyIdLength == 0 && signatureLength == 0 then some .none else .none
  else if algorithm == 1 then
    if flags == envelopeSigned && keyIdLength > 0 && keyIdLength ≤ maxKeyIdBytes &&
        signatureLength == ed25519SignatureBytes then
      some .ed25519
    else .none
  else .none

def artifactOpen (artifact : List UInt8) : Except ArtifactStatus ArtifactView := do
  refuse (artifact.length < envelopeBytes || artifact.length > artifactMaxBytes ||
    !bytesEqual artifact envelopeMagic 8) .invalidFormat
  let major := loadU16 (artifact.drop 8)
  let minor := loadU16 (artifact.drop 10)
  let flags := loadU32 (artifact.drop 16)
  let payloadOffset := (loadU64 (artifact.drop 24)).toNat
  let payloadLength := (loadU64 (artifact.drop 32)).toNat
  let keyIdOffset := (loadU64 (artifact.drop 40)).toNat
  let keyIdLength := (loadU32 (artifact.drop 48)).toNat
  let signatureLength := (loadU32 (artifact.drop 52)).toNat
  let signatureOffset := (loadU64 (artifact.drop 56)).toNat
  let totalLength := (loadU64 (artifact.drop 64)).toNat
  let encodedHash := Digest.read (artifact.drop 72)
  refuse (major != 1 || minor != 0) .unsupportedVersion
  refuse ((loadU32 (artifact.drop 12)).toNat != envelopeBytes || loadU16 (artifact.drop 20) != 1 ||
    !bytesZero (artifact.drop 104) 24) .invalidFormat
  let signatureAlgorithm ← demand
    (signatureShape flags (loadU16 (artifact.drop 22)) keyIdLength signatureLength)
    .invalidSignatureEnvelope
  refuse (payloadOffset != envelopeBytes) .invalidFormat
  let payloadEnd ← demand (sizeAdd envelopeBytes payloadLength) .invalidFormat
  refuse (keyIdOffset != payloadEnd) .invalidFormat
  let keyIdEnd ← demand (sizeAdd payloadEnd keyIdLength) .invalidFormat
  refuse (signatureOffset != keyIdEnd) .invalidFormat
  let signatureEnd ← demand (sizeAdd keyIdEnd signatureLength) .invalidFormat
  -- The three ranges end at the end of the artifact, so each of them lies inside it.
  refuse (totalLength != signatureEnd || totalLength != artifact.length) .invalidFormat
  let payload := (artifact.drop payloadOffset).take payloadLength
  refuse (!(sha256 payload payloadLength).equal encodedHash) .hashMismatch
  openPayload artifact
    { major := major
      minor := minor
      flags := flags
      signatureAlgorithm := signatureAlgorithm
      artifactHash := encodedHash
      payload := ⟨payloadOffset, payloadLength⟩
      keyId := ⟨keyIdOffset, keyIdLength⟩
      signature := ⟨signatureOffset, signatureLength⟩ }

/-! ### Rows -/

/-- The row of a section, where the section has it. -/
def sectionRow (artifact : List UInt8) (view : SectionView) (index : Nat) : Option (List UInt8) :=
  if index < view.count then
    some ((artifact.drop (view.data.offset + index * view.rowSize)).take view.rowSize)
  else none

end Ribon.Ribos
