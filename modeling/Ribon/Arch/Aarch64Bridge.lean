/-
The post-exit bridge of AArch64: an identity map of the blocks that ranges need.

After the firmware is gone, a table of 1 GiB spans and up to eight tables of 2 MiB blocks
carry the loader to the kernel.  A first pass checks the ranges and gives every span that
one of them touches a table; a second pass writes a block for every 2 MiB that a range
touches.  A block that two ranges touch must be of one kind of memory.
-/
import Ribon.Arch.Aarch64
import Ribon.Paging.Numbering

namespace Ribon.Aarch64

open Paging Wire

inductive ArchOperationStatus where
  | badArgument
  | unsupported
  | invalidPayload
  deriving DecidableEq, Repr

inductive BridgeMemoryKind where
  | normal
  | device
  deriving DecidableEq, Repr

/-- One physical range that is mapped to itself. -/
structure BridgeRange where
  base : UInt64
  length : UInt64
  kind : BridgeMemoryKind
  deriving DecidableEq, Repr

/-- What the bridge reads of the state at entry. -/
structure EntryState where
  size : UInt32
  abiVersion : UInt32
  currentEl : UInt32
  tcr : UInt64
  deriving DecidableEq, Repr

structure BridgeRequest where
  size : UInt32
  abiVersion : UInt32
  ranges : List BridgeRange
  tableBuffer : UInt64
  tableBufferSize : UInt64
  deriving DecidableEq, Repr

/-- What the transition installs. -/
structure PostExitTransition where
  translationRoot : UInt64
  tcrEl1 : UInt64
  mairEl1 : UInt64
  sctlrEl1 : UInt64
  stackTop : UInt64
  continuation : UInt64
  context : UInt64
  sourceEl : UInt32
  mappedL1Tables : UInt32
  deriving DecidableEq, Repr

def entryStateAbiVersion : UInt32 := 1
def entryStateSizeOf : UInt32 := 88
def bridgeRequestSizeOf : UInt32 := 40
def bridgeRangeLimit : Nat := 32
def bridgeTableBytes : UInt64 := 9 * 4096
def l1Span : UInt64 := 0x40000000
def addressLimit : UInt64 := 0x8000000000
def descPxn : UInt64 := 0x20000000000000
def descUxn : UInt64 := 0x40000000000000
def sctlrEl1Bridge : UInt64 := 0x30d00805
def mairEl1Bridge : UInt64 := 0xff

/-- Two spaces of 39 bits with pages of 4 KiB, of which the upper one is disabled. -/
def bridgeTcr : UInt64 :=
  (25 : UInt64) ||| ((25 : UInt64) <<< 16) ||| ((1 : UInt64) <<< 8) ||| ((1 : UInt64) <<< 10) |||
    ((3 : UInt64) <<< 12) ||| ((1 : UInt64) <<< 23)

def bridgeTableDescriptor (address : UInt64) : UInt64 :=
  (address &&& addrMask) ||| descValid ||| descTable

def bridgeBlockDescriptor (address : UInt64) (kind : BridgeMemoryKind) : UInt64 :=
  let descriptor := (address &&& addrMask) ||| descAf ||| descValid
  match kind with
  | .normal => descriptor ||| descInnerShareable
  | .device => descriptor ||| (4 ||| descPxn ||| descUxn)

def entryPaRangeEncoding (entry : EntryState) : UInt64 :=
  let encoding := if entry.currentEl == 1 then (entry.tcr >>> 32) &&& 7 else (entry.tcr >>> 16) &&& 7
  if encoding ≤ 5 then encoding else 5

/-- The blocks that the loops over a range visit: from the one of its base on, while they begin
before its end. -/
def BridgeRange.blocks (range : BridgeRange) : List UInt64 :=
  let first := alignDown range.base l2Block
  let count := ((range.base + range.length).toNat - first.toNat + 0x1fffff) / 0x200000
  (List.range count).map fun i => first + l2Block * UInt64.ofNat i

/-- The span of a block. -/
def spanOf (address : UInt64) : Nat := (address / l1Span).toNat

/-- Where the first pass stands. -/
structure BridgePass where
  pages : Numbering Nat
  previousEnd : Option UInt64

/-- One range of the first pass: check it, and see that each of its spans has a table. -/
def checkRange (pass : BridgePass) (range : BridgeRange) : Except ArchOperationStatus BridgePass := do
  let finish := range.base + range.length
  refuse (range.length == 0 || range.base &&& 4095 != 0 || range.length &&& 4095 != 0 ||
    decide (u64Max - range.length < range.base) || decide (addressLimit < finish) ||
    pass.previousEnd.any fun previous => decide (range.base < previous)) .invalidPayload
  let pages ← demand ((range.blocks.map spanOf).foldlM (Numbering.ask 9) pass.pages) .invalidPayload
  return ⟨pages, some finish⟩

/-- The loop over the spans that links their tables. -/
def linkTables (pages : Numbering Nat) (root : UInt64) (tables : Tables) : Nat → Tables
  | 0 => tables
  | n + 1 =>
      let before := linkTables pages root tables n
      if pages.number n = 0 then before
      else Function.update before n
        (bridgeTableDescriptor (root + UInt64.ofNat (pages.number n) * pageSize))

/-- The entry of a block, and what is written there. -/
def blockClaim (pages : Numbering Nat) (kind : BridgeMemoryKind) (address : UInt64) :
    Nat × UInt64 :=
  (pages.number (spanOf address) * 512 + (indexBits address 21).toNat,
    bridgeBlockDescriptor address kind)

/-- One range of the second pass. -/
def mapRange (pages : Numbering Nat) (tables : Tables) (range : BridgeRange) : Option Tables :=
  (range.blocks.map (blockClaim pages range.kind)).foldlM claim tables

def bridgeArgumentsAreValid (request : BridgeRequest) (entry : EntryState)
    (stackTop continuation context : UInt64) : Bool :=
  continuation != 0 && context != 0 && request.size == bridgeRequestSizeOf &&
  request.abiVersion == entryStateAbiVersion && request.ranges.length != 0 &&
  decide (request.ranges.length ≤ bridgeRangeLimit) && request.tableBuffer != 0 &&
  decide (bridgeTableBytes ≤ request.tableBufferSize) && request.tableBuffer &&& 4095 == 0 &&
  entry.size == entryStateSizeOf && entry.abiVersion == entryStateAbiVersion &&
  (entry.currentEl == 1 || entry.currentEl == 2) && stackTop != 0 && stackTop &&& 15 == 0

/-- Build the bridge in the table buffer. -/
def preparePostExitBridge (request : BridgeRequest) (entry : EntryState)
    (stackTop continuation context : UInt64) (buffer : Tables) :
    Except ArchOperationStatus (PostExitTransition × Tables) := do
  refuse (!bridgeArgumentsAreValid request entry stackTop continuation context) .badArgument
  let pass ← request.ranges.foldlM checkRange ⟨Numbering.start, none⟩
  let tables := fill buffer 0 (fun _ => 0) (bridgeTableBytes / 8).toNat
  let tables := linkTables pass.pages request.tableBuffer tables 512
  let tables ← demand (request.ranges.foldlM (mapRange pass.pages) tables) .invalidPayload
  return ({
    translationRoot := request.tableBuffer
    tcrEl1 := bridgeTcr ||| (entryPaRangeEncoding entry <<< 32)
    mairEl1 := mairEl1Bridge
    sctlrEl1 := sctlrEl1Bridge
    stackTop := stackTop
    continuation := continuation
    context := context
    sourceEl := entry.currentEl
    mappedL1Tables := UInt32.ofNat (pass.pages.next - 1) }, tables)

/-! ### What the processor makes of it -/

/-- The walk of an address under a transition.  The size of the address space is in the low bits of
the control register; behind it, and in the upper half, which the transition disables, nothing is
mapped. -/
def bridgeWalk (transition : PostExitTransition) (memory : Nat → UInt64) (address : Nat) :
    Option Mapping :=
  if address < 2 ^ (64 - transition.tcrEl1.toNat % 64) then
    walk format memory 2 transition.translationRoot.toNat address
  else none

/-- The kind of memory that an attribute register gives to an entry. -/
def memoryAttribute (mair entry : UInt64) : UInt64 :=
  let field : UInt64 := (entry >>> 2) &&& 7
  (mair >>> (8 * field)) &&& 0xff

/-- Ordinary cached memory, and memory of devices that orders every access. -/
def BridgeMemoryKind.mairByte : BridgeMemoryKind → UInt64
  | .normal => 0xff
  | .device => 0

end Ribon.Aarch64
