/-
The device tree that a kernel is entered with.

It is the tree of the firmware with a few properties more at the end of `/chosen`, their names
behind the strings, and a reserve map that has the ranges of both.  The tree was captured with
a bound on its size, so that no sum of offsets leaves 32 bits.
-/
import Ribon.Luca.Reservations
import Ribon.Wire.BigEndian

namespace Ribon.Luca

open Wire

def fdtMagic : UInt32 := 0xd00dfeed
def fdtHeaderSize : Nat := 40
def fdtBeginNode : UInt32 := 1
def fdtEndNode : UInt32 := 2
def fdtProp : UInt32 := 3
def fdtNop : UInt32 := 4
def fdtEnd : UInt32 := 9
def fdtMaxDepth : Nat := 32
def fdtMinVersion : UInt32 := 17
def fdtMinAddressCells : UInt32 := 1
def fdtMaxAddressCells : UInt32 := 2
def u32Max : Nat := 2 ^ 32 - 1

/-- The bound of the capture. -/
def uefiFdtMaxSize : Nat := 16 * 1024 * 1024

/-- A tree as the environment captures it. -/
structure DeviceTree where
  address : UInt64
  data : List UInt8
  captured : data.length ≤ uefiFdtMaxSize

def initrdStartName : List UInt8 := "linux,initrd-start".toUTF8.toList
def initrdEndName : List UInt8 := "linux,initrd-end".toUTF8.toList
def kernelStartName : List UInt8 := "luca,kernel-physical-start".toUTF8.toList
def kernelEndName : List UInt8 := "luca,kernel-physical-end".toUTF8.toList
def kernelEntryName : List UInt8 := "luca,kernel-entry".toUTF8.toList
def addressCellsName : List UInt8 := "#address-cells".toUTF8.toList
def chosenName : List UInt8 := "chosen".toUTF8.toList

/-- The properties that the loader owns. -/
def ownedNames : List (List UInt8) :=
  [initrdStartName, initrdEndName, kernelStartName, kernelEndName, kernelEntryName]

/-- The field at an offset. -/
def readBe32 (input : List UInt8) (offset : Nat) : UInt32 := loadBe32 (input.drop offset)

/-- The length of a string that ends within the capacity. -/
def stringSize (bytes : List UInt8) (capacity : Nat) : Option Nat :=
  (bytes.take capacity).findIdx? (· == 0)

def fdtStreq (field : List UInt8) (fieldSize : Nat) (literal : List UInt8) : Bool :=
  field.take fieldSize == literal

def align4 (value : Nat) : Option Nat :=
  if u32Max - 3 < value then none else some ((value + 3) / 4 * 4)

/-- Whether two ranges of the host overlap, or one does not end. -/
def fdtRangesOverlap (lhs lhsSize rhs rhsSize : UInt64) : Bool :=
  decide (u64Max - lhs < lhsSize) || decide (u64Max - rhs < rhsSize) ||
  (decide (lhs < rhs + rhsSize) && decide (rhs < lhs + lhsSize))

/-! ### The header -/

structure FdtHeader where
  totalSize : Nat
  structureOffset : Nat
  stringsOffset : Nat
  reserveOffset : Nat
  stringsSize : Nat
  structureSize : Nat
  deriving DecidableEq, Repr

def FdtHeader.structureEnd (header : FdtHeader) : Nat :=
  header.structureOffset + header.structureSize

def readHeader (input : List UInt8) : FdtHeader where
  totalSize := (readBe32 input 4).toNat
  structureOffset := (readBe32 input 8).toNat
  stringsOffset := (readBe32 input 12).toNat
  reserveOffset := (readBe32 input 16).toNat
  stringsSize := (readBe32 input 32).toNat
  structureSize := (readBe32 input 36).toNat

def headerIsValid (tree : DeviceTree) (header : FdtHeader) : Bool :=
  readBe32 tree.data 0 == fdtMagic && decide (fdtHeaderSize ≤ header.totalSize) &&
  decide (header.totalSize ≤ tree.data.length) && decide (fdtMinVersion ≤ readBe32 tree.data 20) &&
  decide (readBe32 tree.data 24 ≤ fdtMinVersion) && decide (fdtHeaderSize ≤ header.reserveOffset) &&
  decide (header.reserveOffset ≤ header.totalSize) &&
  decide (header.structureOffset ≤ header.totalSize) &&
  decide (header.structureSize ≤ header.totalSize - header.structureOffset) &&
  decide (header.stringsOffset ≤ header.totalSize) &&
  decide (header.stringsSize ≤ header.totalSize - header.stringsOffset)

/-! ### The reserve map -/

/-- The ranges up to the pair of zeros. -/
def scanReservations (input : List UInt8) (totalSize cursor : Nat) : Option (List MemoryRegion) :=
  if totalSize < cursor || totalSize - cursor < 16 then none
  else
    let address := loadBe64 (input.drop cursor)
    let size := loadBe64 (input.drop (cursor + 8))
    if address == 0 && size == 0 then some []
    else (scanReservations input totalSize (cursor + 16)).map (⟨address, size, .reserved, 0⟩ :: ·)
termination_by totalSize - cursor
decreasing_by
  simp only [Bool.or_eq_true, decide_eq_true_eq, not_or] at *
  omega

/-- The reserve map of a tree. -/
def reserveMap (input : List UInt8) : Option (List MemoryRegion) :=
  scanReservations input (readHeader input).totalSize (readHeader input).reserveOffset

/-! ### The structure block -/

structure ScanState where
  depth : Nat
  chosenDepth : Option Nat
  chosenInsert : Option Nat
  addressCells : UInt32
  sawOwnedProperty : Bool
  deriving DecidableEq, Repr

def ScanState.start : ScanState := ⟨0, none, none, 2, false⟩

/-- A cursor that is not before another one. -/
abbrev From (cursor : Nat) := { next : Nat // cursor ≤ next }

section Tokens

variable (input : List UInt8) (header : FdtHeader)

/-- A node begins; `cursor` is behind its token. -/
def scanBeginNode (cursor : Nat) (state : ScanState) : Option (From cursor × ScanState) :=
  if fdtMaxDepth ≤ state.depth then none
  else do
    let nameSize ← stringSize (input.drop cursor) (header.structureEnd - cursor)
    let aligned ← align4 (nameSize + 1)
    if header.structureEnd - cursor < aligned then none
    else
      let depth := state.depth + 1
      let chosen := depth == 2 && fdtStreq (input.drop cursor) nameSize chosenName
      some (⟨cursor + aligned, Nat.le_add_right _ _⟩,
        { state with depth := depth, chosenDepth := if chosen then some depth else state.chosenDepth })

/-- A node ends; the end of `/chosen` is where the properties go. -/
def scanEndNode (cursor : Nat) (state : ScanState) : Option (From cursor × ScanState) :=
  if state.depth == 0 then none
  else
    let closed := if state.chosenDepth == some state.depth then
      { state with
        chosenInsert := some (cursor - 4 - header.structureOffset)
        chosenDepth := none }
      else state
    some (⟨cursor, le_rfl⟩, { closed with depth := state.depth - 1 })

def scanProperty (cursor : Nat) (state : ScanState) : Option (From cursor × ScanState) :=
  if header.structureEnd < cursor + 8 then none
  else do
    let valueSize := (readBe32 input cursor).toNat
    let nameOffset := (readBe32 input (cursor + 4)).toNat
    if header.stringsSize ≤ nameOffset then none
    else
      let name := input.drop (header.stringsOffset + nameOffset)
      let nameSize ← stringSize name (header.stringsSize - nameOffset)
      let aligned ← align4 valueSize
      if header.structureEnd - (cursor + 8) < aligned then none
      else
        let cells := if state.depth == 1 && valueSize == 4 && fdtStreq name nameSize addressCellsName
          then readBe32 input (cursor + 8) else state.addressCells
        let owned := state.chosenDepth == some state.depth && ownedNames.any (fdtStreq name nameSize)
        some (⟨cursor + 8 + aligned, by omega⟩,
          { state with addressCells := cells, sawOwnedProperty := state.sawOwnedProperty || owned })

/-- The token at the cursor; none behind `END`. -/
def scanToken (cursor : Nat) (state : ScanState) :
    Option (Option (From (cursor + 4)) × ScanState) :=
  let token := readBe32 input cursor
  let goOn (scanned : Option (From (cursor + 4) × ScanState)) :=
    scanned.map fun (next, state) => (some next, state)
  if token == fdtBeginNode then goOn (scanBeginNode input header (cursor + 4) state)
  else if token == fdtEndNode then goOn (scanEndNode header (cursor + 4) state)
  else if token == fdtProp then goOn (scanProperty input header (cursor + 4) state)
  else if token == fdtNop then some (some ⟨cursor + 4, le_rfl⟩, state)
  else if token == fdtEnd then some (none, state)
  else none

end Tokens

/-- Token after token, up to the last one or to the end of the block; which of them is the
Boolean. -/
def scanTokens {S : Type} (step : (cursor : Nat) → S → Option (Option (From (cursor + 4)) × S))
    (finish cursor : Nat) (state : S) : Option (S × Bool) :=
  if cursor + 4 ≤ finish then
    match step cursor state with
    | none => none
    | some (none, state) => some (state, true)
    | some (some next, state) => scanTokens step finish next state
  else some (state, false)
termination_by finish - cursor
decreasing_by
  have := next.property
  omega

def scanStructure (input : List UInt8) (header : FdtHeader) : Option (ScanState × Bool) :=
  scanTokens (scanToken input header) header.structureEnd header.structureOffset .start

/-! ### The new tree -/

/-- An address in as many cells as the root asks for. -/
def writeAddress (addressCells : UInt32) (value : UInt64) : List UInt8 :=
  (if addressCells == 2 then storeBe32 (value >>> 32).toUInt32 else []) ++ storeBe32 value.toUInt32

def writeProperty (nameOffset : Nat) (addressCells : UInt32) (value : UInt64) : List UInt8 :=
  storeBe32 fdtProp ++ storeBe32 (addressCells * 4) ++ storeBe32 nameOffset.toUInt32 ++
    writeAddress addressCells value

/-- What is published: a name and its value. -/
abbrev Property := List UInt8 × UInt64

/-- The properties with the offsets of their names, which stand one behind the other. -/
def writeProperties (addressCells : UInt32) : Nat → List Property → List UInt8
  | _, [] => []
  | nameOffset, (name, value) :: rest =>
      writeProperty nameOffset addressCells value ++
        writeProperties addressCells (nameOffset + (name.length + 1)) rest

/-- The names, each with the zero that ends it. -/
def writeNames (properties : List Property) : List UInt8 :=
  (properties.map fun property => property.1 ++ [0]).flatten

/-- The pairs of the reserve map, and the pair of zeros. -/
def writeReservations (ranges : List MemoryRegion) : List UInt8 :=
  (ranges.map fun region => storeBe64 region.base ++ storeBe64 region.length).flatten ++
    (storeBe64 0 ++ storeBe64 0)

/-- The properties for these ranges. -/
def chosenProperties (kernelStart kernelEnd kernelEntry initrdStart initrdSize : UInt64) :
    List Property :=
  [(kernelStartName, kernelStart), (kernelEndName, kernelEnd), (kernelEntryName, kernelEntry)] ++
    if initrdSize != 0 then
      [(initrdStartName, initrdStart), (initrdEndName, initrdStart + initrdSize)]
    else []

/-- The header with the new offsets and sizes. -/
def writeHeader (input : List UInt8) (header : FdtHeader) : List UInt8 :=
  input.take 4 ++ storeBe32 header.totalSize.toUInt32 ++ storeBe32 header.structureOffset.toUInt32 ++
    storeBe32 header.stringsOffset.toUInt32 ++ storeBe32 header.reserveOffset.toUInt32 ++
    (input.drop 20).take 12 ++ storeBe32 header.stringsSize.toUInt32 ++
    storeBe32 header.structureSize.toUInt32

/-- The layout of the new tree. -/
def newHeader (header : FdtHeader) (reservations : List MemoryRegion) (propertySize nameSize : Nat) :
    FdtHeader :=
  let structureOffset := fdtHeaderSize + (reservations.length + 1) * 16
  let stringsOffset := structureOffset + (header.structureSize + propertySize)
  { totalSize := stringsOffset + (header.stringsSize + nameSize)
    structureOffset := structureOffset
    stringsOffset := stringsOffset
    reserveOffset := fdtHeaderSize
    stringsSize := header.stringsSize + nameSize
    structureSize := header.structureSize + propertySize }

/-- What the tree and the values have to fit to. -/
def scanIsUsable (state : ScanState) (sawEnd : Bool)
    (kernelStart kernelEnd kernelEntry initrdStart initrdSize : UInt64) : Bool :=
  let wide (value : UInt64) : Bool := decide (u32Max < value.toNat)
  sawEnd && state.depth == 0 && decide (fdtMinAddressCells ≤ state.addressCells) &&
  decide (state.addressCells ≤ fdtMaxAddressCells) &&
  !(state.addressCells == 1 && (wide kernelStart || wide kernelEnd || wide kernelEntry ||
    (initrdSize != 0 && (wide initrdStart || wide (initrdStart + initrdSize))))) &&
  !state.sawOwnedProperty

/-- The new structure block: the properties stand where `/chosen` ends. -/
def writeStructure (input : List UInt8) (header : FdtHeader) (chosenInsert : Nat)
    (properties : List UInt8) : List UInt8 :=
  let block := (input.drop header.structureOffset).take header.structureSize
  block.take chosenInsert ++ properties ++ block.drop chosenInsert

/-- The four parts of the new tree. -/
def writeBlob (input : List UInt8) (header new : FdtHeader) (merged : List MemoryRegion)
    (addressCells : UInt32) (chosenInsert : Nat) (properties : List Property) : List UInt8 :=
  writeHeader input new ++ (writeReservations merged ++
    (writeStructure input header chosenInsert
      (writeProperties addressCells header.stringsSize properties) ++
    ((input.drop header.stringsOffset).take header.stringsSize ++ writeNames properties)))

def directFdtBuildBlob (tree : DeviceTree) (kernelStart kernelSize kernelEntry initrdStart
    initrdSize : UInt64) (reservations : List MemoryRegion)
    (destination destinationCapacity : UInt64) : Except Unit (List UInt8) := do
  refuse (destination == 0 || kernelStart == 0 || kernelSize == 0 ||
    decide (u64Max - kernelSize < kernelStart) || decide (kernelEntry < kernelStart) ||
    decide (kernelStart + kernelSize ≤ kernelEntry) ||
    decide (reservationCapacity < reservations.length) ||
    decide (tree.data.length < fdtHeaderSize) ||
    decide (destinationCapacity.toNat < fdtHeaderSize)) ()
  let kernelEnd := kernelStart + kernelSize
  let header := readHeader tree.data
  refuse (!headerIsValid tree header || fdtRangesOverlap tree.address header.totalSize.toUInt64
    destination destinationCapacity) ()
  refuse (initrdSize != 0 && (initrdStart == 0 || decide (u64Max - initrdSize < initrdStart))) ()
  let source ← demand (scanReservations tree.data header.totalSize header.reserveOffset) ()
  let sourceRanges ← demand (addReservations source []) ()
  let merged ← demand (addReservations reservations sourceRanges) ()
  let (state, sawEnd) ← demand (scanStructure tree.data header) ()
  let chosenInsert ← demand state.chosenInsert ()
  refuse (!scanIsUsable state sawEnd kernelStart kernelEnd kernelEntry initrdStart initrdSize) ()
  let properties := chosenProperties kernelStart kernelEnd kernelEntry initrdStart initrdSize
  let propertySize := properties.length * (12 + state.addressCells.toNat * 4)
  let nameSize := (writeNames properties).length
  refuse (decide (u32Max - propertySize < header.structureSize) ||
    decide (u32Max - nameSize < header.stringsSize)) ()
  let new := newHeader header merged propertySize nameSize
  refuse (decide (u32Max - new.structureSize < new.structureOffset)) ()
  refuse (decide (u32Max - new.stringsSize < new.stringsOffset)) ()
  refuse (decide (destinationCapacity.toNat < new.totalSize)) ()
  return writeBlob tree.data header new merged state.addressCells chosenInsert properties

end Ribon.Luca
