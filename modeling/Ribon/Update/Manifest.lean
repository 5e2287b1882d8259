/-
The signed update manifest: a header, a section directory, a binding to one
product, and a table of components.

`manifestOpen` accepts untrusted bytes only when every field of the canonical
form is as it has to be.  `manifestAuthorize` opens the manifest, compares it
with what the product expects, opens the detached signature envelope, rebuilds
the signed message and lets the key policy decide.
-/
import Ribon.Security.KeyPolicy

namespace Ribon

open Wire

inductive ManifestStatus where
  | invalidArgument
  | capacity
  | unsupportedVersion
  | unsupportedAlgorithm
  | malformed
  | identityMismatch
  | modeUsageMismatch
  | domainMismatch
  | digestMismatch
  | keyPolicy
  | signatureInvalid
  deriving DecidableEq, Repr

inductive ComponentRole where
  | invalid
  | kernel
  | bootModule
  | policy
  | firmware
  | recoveryImage
  deriving DecidableEq, Repr

def ComponentRole.code : ComponentRole → UInt16
  | .invalid => 0
  | .kernel => 1
  | .bootModule => 2
  | .policy => 3
  | .firmware => 4
  | .recoveryImage => 5

/-- The role of a wire value; every unknown value is invalid. -/
def ComponentRole.ofCode (value : UInt16) : ComponentRole :=
  if value = 1 then .kernel
  else if value = 2 then .bootModule
  else if value = 3 then .policy
  else if value = 4 then .firmware
  else if value = 5 then .recoveryImage
  else .invalid

inductive DestinationClass where
  | invalid
  | kernelSlot
  | moduleSlot
  | policySlot
  | firmwareSlot
  | recoverySlot
  deriving DecidableEq, Repr

def DestinationClass.code : DestinationClass → UInt16
  | .invalid => 0
  | .kernelSlot => 1
  | .moduleSlot => 2
  | .policySlot => 3
  | .firmwareSlot => 4
  | .recoverySlot => 5

def DestinationClass.ofCode (value : UInt16) : DestinationClass :=
  if value = 1 then .kernelSlot
  else if value = 2 then .moduleSlot
  else if value = 3 then .policySlot
  else if value = 4 then .firmwareSlot
  else if value = 5 then .recoverySlot
  else .invalid

inductive ImageFormat where
  | invalid
  | opaqueImage
  | elf64
  | peCoff
  | linuxImage
  | raw
  deriving DecidableEq, Repr

def ImageFormat.code : ImageFormat → UInt16
  | .invalid => 0
  | .opaqueImage => 1
  | .elf64 => 2
  | .peCoff => 3
  | .linuxImage => 4
  | .raw => 5

def ImageFormat.ofCode (value : UInt16) : ImageFormat :=
  if value = 1 then .opaqueImage
  else if value = 2 then .elf64
  else if value = 3 then .peCoff
  else if value = 4 then .linuxImage
  else if value = 5 then .raw
  else .invalid

/-- One component as the writer of a manifest gives it. -/
structure ManifestComponent where
  size : UInt32
  abiVersion : UInt32
  flags : UInt32
  installOrder : UInt32
  role : ComponentRole
  destinationClass : DestinationClass
  imageFormat : ImageFormat
  reserved0 : UInt32
  bundleOffset : UInt64
  exactSize : UInt64
  maximumSize : UInt64
  logicalIdDigest : Digest
  contentDigest : Digest
  destinationIdDigest : Digest
  entryContractDigest : Digest
  reserved : Reserved
  deriving DecidableEq

/-- What the writer of a manifest gives. -/
structure ManifestInput where
  size : UInt32
  abiVersion : UInt32
  flags : UInt32
  mode : KeyPolicyMode
  bundleGeneration : UInt64
  predecessorGeneration : UInt64
  rollbackSequence : UInt64
  creationPolicyVersion : UInt64
  protocolMajor : UInt16
  protocolMinor : UInt16
  minimumHardwareRevision : UInt32
  maximumHardwareRevision : UInt32
  schemaDigest : Digest
  productDigest : Digest
  architectureDigest : Digest
  platformDigest : Digest
  environmentDigest : Digest
  protocolDigest : Digest
  rollbackDomainDigest : Digest
  /-- The component table, whose length is the count; `none` is the null pointer. -/
  components : Option (List ManifestComponent)
  reserved0 : UInt32
  reserved : Reserved
  deriving DecidableEq

structure ManifestView where
  bytes : List UInt8
  bundleGeneration : UInt64
  predecessorGeneration : UInt64
  rollbackSequence : UInt64
  creationPolicyVersion : UInt64
  mode : KeyPolicyMode
  protocolMajor : UInt16
  protocolMinor : UInt16
  minimumHardwareRevision : UInt32
  maximumHardwareRevision : UInt32
  componentCount : UInt32
  schemaDigest : Digest
  productDigest : Digest
  architectureDigest : Digest
  platformDigest : Digest
  environmentDigest : Digest
  protocolDigest : Digest
  rollbackDomainDigest : Digest
  deriving DecidableEq

def ManifestView.byteSize (view : ManifestView) : Nat := view.bytes.length

structure ComponentView where
  installOrder : UInt32
  role : ComponentRole
  destinationClass : DestinationClass
  imageFormat : ImageFormat
  flags : UInt32
  bundleOffset : UInt64
  exactSize : UInt64
  maximumSize : UInt64
  logicalIdDigest : Digest
  contentDigest : Digest
  destinationIdDigest : Digest
  entryContractDigest : Digest
  deriving DecidableEq

/-- What the writer of a signature envelope gives. -/
structure SignatureEnvelopeInput where
  size : UInt32
  abiVersion : UInt32
  flags : UInt32
  reserved0 : UInt32
  manifest : View
  keyId : View
  signature : View
  reserved : Reserved
  deriving DecidableEq

structure SignatureEnvelopeView where
  keyId : List UInt8
  signature : List UInt8
  manifestSize : UInt64
  mode : KeyPolicyMode
  manifestDigest : Digest
  signedMessageDigest : Digest
  deriving DecidableEq

structure ManifestExpectation where
  size : UInt32
  abiVersion : UInt32
  flags : UInt32
  mode : KeyPolicyMode
  protocolMajor : UInt16
  protocolMinor : UInt16
  hardwareRevision : UInt32
  schemaDigest : Digest
  productDigest : Digest
  architectureDigest : Digest
  platformDigest : Digest
  environmentDigest : Digest
  protocolDigest : Digest
  rollbackDomainDigest : Digest
  reserved : Reserved
  deriving DecidableEq

structure ManifestAuthorization where
  size : UInt32
  abiVersion : UInt32
  flags : UInt32
  reserved0 : UInt32
  manifest : View
  signatureEnvelope : View
  expectation : Option ManifestExpectation
  keyPolicy : Option KeyPolicyStore
  signatureProvider : Option SignatureProvider
  workspace : UInt64
  workspaceSize : UInt64
  reserved : Reserved

namespace Manifest

def abiVersion : UInt32 := 1
def componentSizeOf : UInt32 := 216
def inputSizeOf : UInt32 := 336
def envelopeInputSizeOf : UInt32 := 96
def expectationSizeOf : UInt32 := 280
def authorizationSizeOf : UInt32 := 120
def headerBytes : Nat := 256
def bindingBytes : Nat := 256
def componentBytes : Nat := 192
def maxComponents : Nat := 16
def directoryOffset : Nat := 128
def directoryEntryBytes : Nat := 32
def bindingOffset : Nat := headerBytes
def componentsOffset : Nat := headerBytes + bindingBytes
def signedMessageBytes : Nat := 256
def envelopeHeaderBytes : Nat := 160
def keyIdMaxBytes : Nat := 64
def componentRequired : UInt32 := 1

def manifestMagic : List UInt8 := paddedText "RIBON-UPDATE-MANIFEST-V1" 32
def messageMagic : List UInt8 := paddedText "RIBON-UPDATE-MESSAGE-V1" 32
def envelopeMagic : List UInt8 := paddedText "RIBON-UPDATE-SIGNATURE-V1" 32

def digestIsValid (d : Digest) : Bool := !d.isZero

def modeIsValid (mode : KeyPolicyMode) : Bool := mode != .invalid

def roleDestinationIsValid (role : ComponentRole) (destination : DestinationClass) : Bool :=
  (role == .kernel && destination == .kernelSlot) ||
  (role == .bootModule && destination == .moduleSlot) ||
  (role == .policy && destination == .policySlot) ||
  (role == .firmware && destination == .firmwareSlot) ||
  (role == .recoveryImage && destination == .recoverySlot)

def imageFormatIsValid (format : ImageFormat) : Bool := format != .invalid

/-- Two half-open ranges overlap; the sums wrap as the source's do. -/
def rangesOverlap (leftOffset leftSize rightOffset rightSize : UInt64) : Bool :=
  decide (leftOffset < rightOffset + rightSize) && decide (rightOffset < leftOffset + leftSize)

/-! ### Writing a manifest -/

def componentInputIsValid (component : ManifestComponent) (expectedOrder : Nat) : Bool :=
  component.size == componentSizeOf && component.abiVersion == abiVersion &&
  (component.flags &&& ~~~ componentRequired) == 0 &&
  component.installOrder == UInt32.ofNat expectedOrder && component.reserved0 == 0 &&
  reservedZero component.reserved &&
  roleDestinationIsValid component.role component.destinationClass &&
  imageFormatIsValid component.imageFormat &&
  component.exactSize != 0 && decide (component.exactSize ≤ component.maximumSize) &&
  decide (component.bundleOffset ≤ u64Max - component.exactSize) &&
  digestIsValid component.logicalIdDigest && digestIsValid component.contentDigest &&
  digestIsValid component.destinationIdDigest && digestIsValid component.entryContractDigest

/-- The component loop of the writer, over the components before the current one and the rest. -/
def inputComponentsAreValid :
    List ManifestComponent → List ManifestComponent → Nat → Nat → Nat → Except ManifestStatus Unit
  | _, [], _, _, _ => .ok ()
  | before, component :: rest, kernels, policies, recoveries => do
      refuse (!componentInputIsValid component before.length) .invalidArgument
      let kernels := kernels + (if component.role == .kernel then 1 else 0)
      let policies := policies + (if component.role == .policy then 1 else 0)
      let recoveries := recoveries + (if component.role == .recoveryImage then 1 else 0)
      refuse (decide (1 < kernels) || decide (1 < policies) || decide (1 < recoveries)) .malformed
      refuse (before.any fun previous =>
        component.logicalIdDigest.equal previous.logicalIdDigest ||
        rangesOverlap component.bundleOffset component.exactSize previous.bundleOffset
          previous.exactSize) .malformed
      inputComponentsAreValid (before ++ [component]) rest kernels policies recoveries

def inputValidate (input : ManifestInput) : Except ManifestStatus Unit := do
  let components := input.components.getD []
  refuse (input.size != inputSizeOf || input.abiVersion != abiVersion || input.flags != 0 ||
    !modeIsValid input.mode || input.bundleGeneration == 0 ||
    decide (input.bundleGeneration ≤ input.predecessorGeneration) ||
    decide (input.maximumHardwareRevision < input.minimumHardwareRevision) ||
    input.components.isNone || components.length == 0 ||
    decide (maxComponents < components.length) || input.reserved0 != 0 ||
    !reservedZero input.reserved || !digestIsValid input.schemaDigest ||
    !digestIsValid input.productDigest || !digestIsValid input.architectureDigest ||
    !digestIsValid input.platformDigest || !digestIsValid input.environmentDigest ||
    !digestIsValid input.protocolDigest || !digestIsValid input.rollbackDomainDigest)
    .invalidArgument
  inputComponentsAreValid [] components 0 0 0

/-- Write through a pointer into the buffer. -/
def writeFrom (output : List UInt8) (offset : Nat) (write : List UInt8 → List UInt8) : List UInt8 :=
  output.take offset ++ write (output.drop offset)

def writeDirectoryEntry (entry : List UInt8) (type : UInt32) (offset length : UInt64)
    (count entrySize : UInt32) : List UInt8 :=
  let entry := patch entry 0 (storeU32 type)
  let entry := patch entry 4 (storeU32 0)
  let entry := patch entry 8 (storeU64 offset)
  let entry := patch entry 16 (storeU64 length)
  let entry := patch entry 24 (storeU32 count)
  patch entry 28 (storeU32 entrySize)

/-- Write one component at the start of its row. -/
def encodeComponent (component : ManifestComponent) (row : List UInt8) : List UInt8 :=
  let row := patch row 0 component.logicalIdDigest.1
  let row := patch row 32 component.contentDigest.1
  let row := patch row 64 component.destinationIdDigest.1
  let row := patch row 96 component.entryContractDigest.1
  let row := patch row 128 (storeU64 component.bundleOffset)
  let row := patch row 136 (storeU64 component.exactSize)
  let row := patch row 144 (storeU64 component.maximumSize)
  let row := patch row 152 (storeU16 component.role.code)
  let row := patch row 154 (storeU16 component.destinationClass.code)
  let row := patch row 156 (storeU16 component.imageFormat.code)
  let row := patch row 158 (storeU16 component.flags.toUInt16)
  patch row 160 (storeU32 component.installOrder)

/-- The component loop of the encoder. -/
def encodeComponents : List UInt8 → Nat → List ManifestComponent → List UInt8
  | output, _, [] => output
  | output, index, component :: rest =>
      encodeComponents (writeFrom output (componentsOffset + index * componentBytes)
        (encodeComponent component)) (index + 1) rest

/-- Write the header, the section directory and the binding. -/
def encodeHeader (input : ManifestInput) (totalSize : UInt64) (count : UInt32)
    (output : List UInt8) : List UInt8 :=
  let output := patch output 0 manifestMagic
  let output := patch output 32 (storeU16 1)
  let output := patch output 34 (storeU16 0)
  let output := patch output 36 (storeU32 (UInt32.ofNat headerBytes))
  let output := patch output 40 (storeU64 totalSize)
  let output := patch output 48 (storeU32 2)
  let output := patch output 52 (storeU32 count)
  let output := patch output 56 (storeU64 input.bundleGeneration)
  let output := patch output 64 (storeU64 input.predecessorGeneration)
  let output := patch output 72 (storeU64 input.rollbackSequence)
  let output := patch output 80 (storeU64 input.creationPolicyVersion)
  let output := patch output 88 (storeU16 1)
  let output := patch output 90 (storeU16 1)
  let output := patch output 92 (storeU16 input.mode.code)
  let output := patch output 96 input.schemaDigest.1
  let output := writeFrom output directoryOffset fun entry =>
    writeDirectoryEntry entry 1 (UInt64.ofNat bindingOffset) (UInt64.ofNat bindingBytes) 1
      (UInt32.ofNat bindingBytes)
  let output := writeFrom output (directoryOffset + directoryEntryBytes) fun entry =>
    writeDirectoryEntry entry 2 (UInt64.ofNat componentsOffset)
      (count.toUInt64 * UInt64.ofNat componentBytes) count (UInt32.ofNat componentBytes)
  let output := patch output bindingOffset input.productDigest.1
  let output := patch output (bindingOffset + 32) input.architectureDigest.1
  let output := patch output (bindingOffset + 64) input.platformDigest.1
  let output := patch output (bindingOffset + 96) input.environmentDigest.1
  let output := patch output (bindingOffset + 128) input.protocolDigest.1
  let output := patch output (bindingOffset + 160) input.rollbackDomainDigest.1
  let output := patch output (bindingOffset + 192) (storeU16 input.protocolMajor)
  let output := patch output (bindingOffset + 194) (storeU16 input.protocolMinor)
  let output := patch output (bindingOffset + 196) (storeU32 input.minimumHardwareRevision)
  patch output (bindingOffset + 200) (storeU32 input.maximumHardwareRevision)

/-- Write a manifest into a buffer of the given capacity; `none` is the null pointer. -/
def manifestEncode (input : ManifestInput) (capacity : Option Nat) :
    Except ManifestStatus (List UInt8) := do
  inputValidate input
  let components := input.components.getD []
  let totalSize := componentsOffset + components.length * componentBytes
  refuse (capacity.all (decide <| · < totalSize)) .capacity
  let output := List.replicate totalSize 0
  let output := encodeHeader input (UInt64.ofNat totalSize) (UInt32.ofNat components.length) output
  return encodeComponents output 0 components

/-! ### Components -/

def decodeComponent (row : List UInt8) : ComponentView where
  logicalIdDigest := Digest.read row
  contentDigest := Digest.read (row.drop 32)
  destinationIdDigest := Digest.read (row.drop 64)
  entryContractDigest := Digest.read (row.drop 96)
  bundleOffset := loadU64 (row.drop 128)
  exactSize := loadU64 (row.drop 136)
  maximumSize := loadU64 (row.drop 144)
  role := ComponentRole.ofCode (loadU16 (row.drop 152))
  destinationClass := DestinationClass.ofCode (loadU16 (row.drop 154))
  imageFormat := ImageFormat.ofCode (loadU16 (row.drop 156))
  flags := (loadU16 (row.drop 158)).toUInt32
  installOrder := loadU32 (row.drop 160)

def componentViewIsValid (row : List UInt8) (component : ComponentView) (expectedOrder : Nat) :
    Bool :=
  component.installOrder == UInt32.ofNat expectedOrder &&
  (component.flags &&& ~~~ componentRequired) == 0 &&
  roleDestinationIsValid component.role component.destinationClass &&
  imageFormatIsValid component.imageFormat &&
  component.exactSize != 0 && decide (component.exactSize ≤ component.maximumSize) &&
  decide (component.bundleOffset ≤ u64Max - component.exactSize) &&
  digestIsValid component.logicalIdDigest && digestIsValid component.contentDigest &&
  digestIsValid component.destinationIdDigest && digestIsValid component.entryContractDigest &&
  bytesZero (row.drop 164) 28

/-- The table row of a component. -/
def componentRow (bytes : List UInt8) (index : Nat) : List UInt8 :=
  bytes.drop (componentsOffset + index * componentBytes)

/-- The component loop: each row is valid, the singletons occur once, and no row repeats an id
or overlaps a range of an earlier row. -/
def componentsAreValid (bytes : List UInt8) : List Nat → Nat → Nat → Nat → Bool
  | [], _, _, _ => true
  | index :: rest, kernels, policies, recoveries =>
      let row := componentRow bytes index
      let component := decodeComponent row
      let kernels := kernels + (if component.role == .kernel then 1 else 0)
      let policies := policies + (if component.role == .policy then 1 else 0)
      let recoveries := recoveries + (if component.role == .recoveryImage then 1 else 0)
      componentViewIsValid row component index &&
      decide (kernels ≤ 1) && decide (policies ≤ 1) && decide (recoveries ≤ 1) &&
      (List.range index).all (fun other =>
        let previous := decodeComponent (componentRow bytes other)
        !component.logicalIdDigest.equal previous.logicalIdDigest &&
        !rangesOverlap component.bundleOffset component.exactSize
          previous.bundleOffset previous.exactSize) &&
      componentsAreValid bytes rest kernels policies recoveries

/-! ### Opening a manifest -/

/-- The section directory names the binding and the component table and nothing else. -/
def directoryIsValid (bytes : List UInt8) (count : UInt32) : Bool :=
  let binding := bytes.drop directoryOffset
  let component := binding.drop directoryEntryBytes
  loadU32 binding == 1 && loadU32 (binding.drop 4) == 0 &&
  loadU64 (binding.drop 8) == UInt64.ofNat bindingOffset &&
  loadU64 (binding.drop 16) == UInt64.ofNat bindingBytes &&
  loadU32 (binding.drop 24) == 1 && loadU32 (binding.drop 28) == UInt32.ofNat bindingBytes &&
  loadU32 component == 2 && loadU32 (component.drop 4) == 0 &&
  loadU64 (component.drop 8) == UInt64.ofNat componentsOffset &&
  loadU64 (component.drop 16) == count.toUInt64 * UInt64.ofNat componentBytes &&
  loadU32 (component.drop 24) == count &&
  loadU32 (component.drop 28) == UInt32.ofNat componentBytes &&
  bytesZero (component.drop directoryEntryBytes) (2 * directoryEntryBytes)

def bindingIsValid (binding : List UInt8) : Bool :=
  digestIsValid (Digest.read binding) && digestIsValid (Digest.read (binding.drop 32)) &&
  digestIsValid (Digest.read (binding.drop 64)) && digestIsValid (Digest.read (binding.drop 96)) &&
  digestIsValid (Digest.read (binding.drop 128)) &&
  digestIsValid (Digest.read (binding.drop 160)) &&
  decide (loadU32 (binding.drop 196) ≤ loadU32 (binding.drop 200)) &&
  bytesZero (binding.drop 204) 52

/-- The view of bytes that have passed every check. -/
def viewOf (bytes : List UInt8) : ManifestView :=
  let binding := bytes.drop bindingOffset
  { bytes := bytes
    bundleGeneration := loadU64 (bytes.drop 56)
    predecessorGeneration := loadU64 (bytes.drop 64)
    rollbackSequence := loadU64 (bytes.drop 72)
    creationPolicyVersion := loadU64 (bytes.drop 80)
    mode := KeyPolicyMode.ofCode (loadU16 (bytes.drop 92))
    protocolMajor := loadU16 (binding.drop 192)
    protocolMinor := loadU16 (binding.drop 194)
    minimumHardwareRevision := loadU32 (binding.drop 196)
    maximumHardwareRevision := loadU32 (binding.drop 200)
    componentCount := loadU32 (bytes.drop 52)
    schemaDigest := Digest.read (bytes.drop 96)
    productDigest := Digest.read binding
    architectureDigest := Digest.read (binding.drop 32)
    platformDigest := Digest.read (binding.drop 64)
    environmentDigest := Digest.read (binding.drop 96)
    protocolDigest := Digest.read (binding.drop 128)
    rollbackDomainDigest := Digest.read (binding.drop 160) }

/-- Open untrusted manifest bytes. -/
def manifestOpen (manifest : View) : Except ManifestStatus ManifestView := do
  let bytes := manifest.data
  let size := manifest.size
  refuse manifest.isNull .invalidArgument
  refuse (decide (size < componentsOffset + componentBytes) ||
    decide (componentsOffset + maxComponents * componentBytes < size)) .malformed
  refuse (!bytesEqual bytes manifestMagic 32) .malformed
  refuse (loadU16 (bytes.drop 32) != 1 || loadU16 (bytes.drop 34) != 0) .unsupportedVersion
  refuse (loadU32 (bytes.drop 36) != UInt32.ofNat headerBytes ||
    loadU64 (bytes.drop 40) != UInt64.ofNat size || loadU32 (bytes.drop 48) != 2) .malformed
  refuse (loadU16 (bytes.drop 88) != 1 || loadU16 (bytes.drop 90) != 1) .unsupportedAlgorithm
  let count := loadU32 (bytes.drop 52)
  refuse (count == 0 || decide (maxComponents < count.toNat) ||
    !modeIsValid (KeyPolicyMode.ofCode (loadU16 (bytes.drop 92))) ||
    loadU16 (bytes.drop 94) != 0 || !digestIsValid (Digest.read (bytes.drop 96))) .malformed
  refuse (loadU64 (bytes.drop 56) == 0 ||
    decide (loadU64 (bytes.drop 56) ≤ loadU64 (bytes.drop 64))) .malformed
  refuse (componentsOffset + count.toNat * componentBytes != size) .malformed
  refuse (!directoryIsValid bytes count) .malformed
  refuse (!bindingIsValid (bytes.drop bindingOffset)) .malformed
  refuse (!componentsAreValid bytes (List.range count.toNat) 0 0 0) .malformed
  return viewOf bytes

/-- One component of an opened manifest; the manifest is opened again first. -/
def componentAt (view : ManifestView) (index : Nat) : Except ManifestStatus ComponentView := do
  let reopened ← mapStatus (fun _ => .invalidArgument) (manifestOpen (.mem view.bytes))
  refuse (decide (reopened.componentCount.toNat ≤ index)) .invalidArgument
  let offset := componentsOffset + index * componentBytes
  refuse (decide (reopened.byteSize < offset) ||
    decide (reopened.byteSize - offset < componentBytes)) .invalidArgument
  return decodeComponent (reopened.bytes.drop offset)

/-! ### The signature envelope and the signed message -/

def keyIdIsValid (keyId : List UInt8) : Bool :=
  keyId.length != 0 && decide (keyId.length ≤ keyIdMaxBytes) && keyId.all (· != 0)

/-- The 256 bytes that a signature over a manifest signs. -/
def signedMessage (view : ManifestView) (keyId : List UInt8) : Except ManifestStatus (List UInt8) := do
  refuse (!keyIdIsValid keyId) .invalidArgument
  let reopened ← mapStatus (fun _ => .invalidArgument) (manifestOpen (.mem view.bytes))
  let message := List.replicate signedMessageBytes 0
  let message := patch message 0 messageMagic
  let message := patch message 32 (storeU16 1)
  let message := patch message 34 (storeU16 0)
  let message := patch message 36 (storeU16 1)
  let message := patch message 38 (storeU16 0)
  let message := patch message 40 (storeU16 1)
  let message := patch message 42 (storeU16 1)
  let message := patch message 44 (storeU16 reopened.mode.code)
  let message := patch message 46 (storeU16 KeyPolicyUsage.updateManifest.code)
  let message := patch message 56 (storeU64 reopened.rollbackSequence)
  let message := patch message 64 (storeU64 (UInt64.ofNat reopened.byteSize))
  let message := patch message 72 (storeU64 reopened.bundleGeneration)
  let message := patch message 80 (storeU64 reopened.predecessorGeneration)
  let message := patch message 88 (storeU64 reopened.creationPolicyVersion)
  let message := patch message 96 (sha256 view.bytes view.byteSize).1
  let message := patch message 128 reopened.productDigest.1
  let message := patch message 160 reopened.schemaDigest.1
  let message := patch message 192 reopened.rollbackDomainDigest.1
  return patch message 224 (sha256 keyId keyId.length).1

/-- Write a detached signature envelope for a manifest that opens. -/
def envelopeEncode (input : SignatureEnvelopeInput) (capacity : Option Nat) :
    Except ManifestStatus (List UInt8) := do
  refuse (input.size != envelopeInputSizeOf || input.abiVersion != abiVersion ||
    input.flags != 0 || input.reserved0 != 0 || input.signature.isNull ||
    input.signature.size != ed25519SignatureBytes.toNat || input.keyId.isNull ||
    !keyIdIsValid input.keyId.data || !reservedZero input.reserved) .invalidArgument
  let view ← mapStatus (fun _ => .invalidArgument) (manifestOpen input.manifest)
  let message ← mapStatus (fun _ => .invalidArgument) (signedMessage view input.keyId.data)
  let signatureOffset := envelopeHeaderBytes + input.keyId.size
  let totalSize := signatureOffset + input.signature.size
  refuse (capacity.all (decide <| · < totalSize)) .capacity
  let output := List.replicate totalSize 0
  let output := patch output 0 envelopeMagic
  let output := patch output 32 (storeU16 1)
  let output := patch output 34 (storeU16 0)
  let output := patch output 36 (storeU32 (UInt32.ofNat envelopeHeaderBytes))
  let output := patch output 40 (storeU64 (UInt64.ofNat totalSize))
  let output := patch output 48 (storeU64 (UInt64.ofNat input.manifest.size))
  let output := patch output 56 (storeU16 1)
  let output := patch output 58 (storeU16 1)
  let output := patch output 60 (storeU16 KeyPolicyUsage.updateManifest.code)
  let output := patch output 62 (storeU16 view.mode.code)
  let output := patch output 64 (storeU16 (UInt16.ofNat input.keyId.size))
  let output := patch output 66 (storeU16 (UInt16.ofNat input.signature.size))
  let output := patch output 72 (storeU64 (UInt64.ofNat envelopeHeaderBytes))
  let output := patch output 80 (storeU64 (UInt64.ofNat signatureOffset))
  let output := patch output 88 (sha256 input.manifest.data input.manifest.size).1
  let output := patch output 120 (sha256 message signedMessageBytes).1
  let output := patch output envelopeHeaderBytes input.keyId.data
  return patch output signatureOffset input.signature.data

/-- Open an untrusted detached signature envelope. -/
def envelopeOpen (envelope : View) : Except ManifestStatus SignatureEnvelopeView := do
  let bytes := envelope.data
  let size := envelope.size
  refuse envelope.isNull .invalidArgument
  refuse (decide (size < envelopeHeaderBytes + 1 + ed25519SignatureBytes.toNat) ||
    decide (envelopeHeaderBytes + keyIdMaxBytes + ed25519SignatureBytes.toNat < size) ||
    !bytesEqual bytes envelopeMagic 32) .malformed
  refuse (loadU16 (bytes.drop 32) != 1 || loadU16 (bytes.drop 34) != 0) .unsupportedVersion
  refuse (loadU32 (bytes.drop 36) != UInt32.ofNat envelopeHeaderBytes ||
    loadU64 (bytes.drop 40) != UInt64.ofNat size || loadU64 (bytes.drop 48) == 0 ||
    loadU16 (bytes.drop 60) != KeyPolicyUsage.updateManifest.code ||
    !modeIsValid (KeyPolicyMode.ofCode (loadU16 (bytes.drop 62))) ||
    loadU32 (bytes.drop 68) != 0 || !bytesZero (bytes.drop 152) 8) .malformed
  refuse (loadU16 (bytes.drop 56) != 1 || loadU16 (bytes.drop 58) != 1) .unsupportedAlgorithm
  let keyIdSize := loadU16 (bytes.drop 64)
  let signatureSize := loadU16 (bytes.drop 66)
  let keyOffset := loadU64 (bytes.drop 72)
  let signatureOffset := loadU64 (bytes.drop 80)
  let keyId := (bytes.drop keyOffset.toNat).take keyIdSize.toNat
  refuse (keyIdSize == 0 || decide (keyIdMaxBytes < keyIdSize.toNat) ||
    signatureSize.toUInt64 != ed25519SignatureBytes ||
    keyOffset != UInt64.ofNat envelopeHeaderBytes ||
    signatureOffset != keyOffset + keyIdSize.toUInt64 ||
    signatureOffset + signatureSize.toUInt64 != UInt64.ofNat size ||
    !keyIdIsValid keyId || (Digest.read (bytes.drop 88)).isZero ||
    (Digest.read (bytes.drop 120)).isZero) .malformed
  return {
    keyId := keyId
    signature := (bytes.drop signatureOffset.toNat).take signatureSize.toNat
    manifestSize := loadU64 (bytes.drop 48)
    mode := KeyPolicyMode.ofCode (loadU16 (bytes.drop 62))
    manifestDigest := Digest.read (bytes.drop 88)
    signedMessageDigest := Digest.read (bytes.drop 120) }

/-! ### Authorization -/

def expectationIsValid (expectation : ManifestExpectation) : Bool :=
  expectation.size == expectationSizeOf && expectation.abiVersion == abiVersion &&
  expectation.flags == 0 && modeIsValid expectation.mode &&
  digestIsValid expectation.schemaDigest && digestIsValid expectation.productDigest &&
  digestIsValid expectation.architectureDigest && digestIsValid expectation.platformDigest &&
  digestIsValid expectation.environmentDigest && digestIsValid expectation.protocolDigest &&
  digestIsValid expectation.rollbackDomainDigest && reservedZero expectation.reserved

/-- Compare a manifest with what the product expects. -/
def matchesExpectation (view : ManifestView) (expectation : ManifestExpectation) :
    Except ManifestStatus Unit := do
  refuse (view.mode != expectation.mode) .modeUsageMismatch
  refuse (!view.productDigest.equal expectation.productDigest ||
    !view.schemaDigest.equal expectation.schemaDigest ||
    !view.architectureDigest.equal expectation.architectureDigest ||
    !view.platformDigest.equal expectation.platformDigest ||
    !view.environmentDigest.equal expectation.environmentDigest ||
    !view.protocolDigest.equal expectation.protocolDigest ||
    view.protocolMajor != expectation.protocolMajor ||
    view.protocolMinor != expectation.protocolMinor ||
    decide (expectation.hardwareRevision < view.minimumHardwareRevision) ||
    decide (view.maximumHardwareRevision < expectation.hardwareRevision)) .identityMismatch
  refuse (!view.rollbackDomainDigest.equal expectation.rollbackDomainDigest) .domainMismatch

def mapKeyPolicyStatus : KeyPolicyStatus → ManifestStatus
  | .identityMismatch => .identityMismatch
  | .modeUsageMismatch => .modeUsageMismatch
  | .domainMismatch => .domainMismatch
  | .unsupportedAlgorithm => .unsupportedAlgorithm
  | .signatureInvalid => .signatureInvalid
  | _ => .keyPolicy

/-- What the key policy is asked for a manifest and its envelope. -/
def policyRequest (view : ManifestView) (envelope : SignatureEnvelopeView) : KeyPolicyRequest where
  size := KeyPolicy.requestSizeOf
  abiVersion := KeyPolicy.abiVersion
  mode := view.mode
  usage := .updateManifest
  flags := 0
  reserved0 := 0
  keyId := .mem envelope.keyId
  productDigest := view.productDigest
  rollbackDomainDigest := view.rollbackDomainDigest
  sequence := view.rollbackSequence
  reserved := Reserved.none

/-- The binding, the usage of the key and the signature, in this order. -/
def manifestAuthorize (authorization : ManifestAuthorization) :
    Except ManifestStatus (ManifestView × KeyPolicyDecision) :=
  match authorization.keyPolicy, authorization.signatureProvider, authorization.expectation with
  | some keyPolicy, some provider, some expectation => do
      refuse (authorization.size != authorizationSizeOf ||
        authorization.abiVersion != abiVersion || authorization.flags != 0 ||
        authorization.reserved0 != 0 || !expectationIsValid expectation ||
        !reservedZero authorization.reserved) .invalidArgument
      let view ← manifestOpen authorization.manifest
      matchesExpectation view expectation
      let envelope ← envelopeOpen authorization.signatureEnvelope
      refuse (envelope.mode != view.mode ||
        envelope.manifestSize.toNat != view.byteSize) .modeUsageMismatch
      refuse (!(sha256 view.bytes view.byteSize).equal envelope.manifestDigest) .digestMismatch
      let message ← signedMessage view envelope.keyId
      refuse (!(sha256 message signedMessageBytes).equal envelope.signedMessageDigest)
        .digestMismatch
      let decision ← mapStatus mapKeyPolicyStatus <| KeyPolicy.verify keyPolicy {
        size := KeyPolicy.verificationSizeOf
        abiVersion := KeyPolicy.abiVersion
        flags := 0
        reserved0 := 0
        policy := some (policyRequest view envelope)
        provider := some provider
        message := .mem message
        signature := .mem envelope.signature
        workspace := authorization.workspace
        workspaceSize := authorization.workspaceSize
        reserved := Reserved.none }
      return (view, decision)
  | _, _, _ => .error .invalidArgument

/-! ### What the rest of the model uses of a manifest -/

variable {view : ManifestView} {manifest : View} (h : manifestOpen manifest = .ok view)
include h

/-- Opening keeps the bytes, so a view is determined by them. -/
theorem manifestOpen_eq_ok : manifest.isNull = false ∧ view = viewOf manifest.data := by
  simp only [manifestOpen, refuse_bind_eq_ok, pure_eq_ok] at h
  obtain ⟨hnull, -, -, -, -, -, -, -, -, -, -, -, hview⟩ := h
  exact ⟨hnull, hview.symm⟩

/-- A manifest that opens does so from its own bytes. -/
theorem manifestOpen_bytes : manifestOpen (.mem view.bytes) = .ok view := by
  obtain ⟨hnull, hview⟩ := manifestOpen_eq_ok h
  cases manifest with
  | null size => cases hnull
  | mem data =>
      have hdata : view.bytes = data := by
        rw [hview]
        rfl
      rw [hdata]
      exact h

end Manifest

end Ribon
