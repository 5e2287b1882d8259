/-
The direct-high entry of AArch64: page tables for a kernel in the higher half.

One linear mapping takes the pages from the high entry to the end of the linked range,
starting where the segment of the high entry runs.  The buffer has a fixed size: the
tables of the low half, three tables of the kernel half, and eight tables of pages.
-/
import Ribon.Arch.DirectHigh
import Ribon.Arch.DirectLoad
import Ribon.Paging.Walk

namespace Ribon.Aarch64

open Paging Wire

def pageSize : UInt64 := 4096
def l1Block : UInt64 := 0x40000000
def l2Block : UInt64 := 0x200000
def descValid : UInt64 := 1
def descTable : UInt64 := 2
def descAf : UInt64 := 0x400
def descInnerShareable : UInt64 := 0x300
def attrNormal : UInt64 := 0
def addrMask : UInt64 := 0x0000fffffffff000
def highL3Tables : UInt64 := 8
def directHighTablePages : UInt64 := 5 + highL3Tables

/-- The descriptor of the backend. -/
def descriptor : ArchDescriptor where
  size := Arch.descriptorSizeOf
  abiVersion := Arch.opsAbiVersion
  id := .aarch64
  canonicalName := some [0x61, 0x61, 0x72, 0x63, 0x68, 0x36, 0x34]
  wordBits := 64
  virtualAddressBits := 48
  elfMachine := 183
  peCoffMachine := 0xaa64
  pageSize := 4096

def tableDescriptor (physicalAddress : UInt64) : UInt64 :=
  (physicalAddress &&& addrMask) ||| descValid ||| descTable

def blockDescriptor (physicalAddress : UInt64) : UInt64 :=
  (physicalAddress &&& addrMask) ||| attrNormal ||| descInnerShareable ||| descAf ||| descValid

def pageDescriptor (physicalAddress : UInt64) : UInt64 :=
  blockDescriptor physicalAddress ||| descTable

/-- The table pages that a plan needs; zero if it has no direct-high entry. -/
def directHighPageTablePages (plan : DirectLoadPlan) : UInt64 :=
  if plan.loadPlanFlags &&& loadPlanDirectHighEntryCandidate == 0 ||
      plan.highEntryVirtualAddress == 0 || plan.highEntryLoadAddress == 0 ||
      decide (plan.linkedVirtualEnd ≤ plan.highEntryVirtualAddress) || plan.segments.isEmpty ||
      !plan.storage then 0
  else directHighTablePages

/-- The linear mapping that is built: its pages, where they start to run, and the large pages
around them. -/
structure Range where
  highStart : UInt64
  highEnd : UInt64
  highLoadStart : UInt64
  highL2Start : UInt64
  highL2End : UInt64
  deriving DecidableEq, Repr

namespace Range

def l2Span (range : Range) : UInt64 := (range.highL2End - range.highL2Start) >>> 21

/-- The first entry in the directory of the kernel half. -/
def startL2 (range : Range) : UInt32 := (indexBits range.highL2Start 21).toUInt32

/-- The entry in the buffer for a page of the mapping. -/
def slot (range : Range) (va : UInt64) : Nat :=
  512 * 5 + ((indexBits va 21).toUInt32 - range.startL2).toNat * 512 + (indexBits va 12).toNat

/-- The loop over the pages. -/
def mapPages (range : Range) (tables : Tables) : Nat → Tables
  | 0 => tables
  | n + 1 =>
      let va := range.highStart + pageSize * UInt64.ofNat n
      Function.update (mapPages range tables n) (range.slot va)
        (pageDescriptor (range.highLoadStart + (va - range.highStart)))

def build (range : Range) (root : UInt64) (buffer : Tables) : Tables :=
  let pages (n : UInt64) := tableDescriptor (root + pageSize * n)
  let tables := fill buffer 0 (fun _ => 0) (directHighTablePages * 512).toNat
  let tables := Function.update tables 0 (pages 1)
  let tables := fill tables 512 (fun i => blockDescriptor (UInt64.ofNat i * l1Block)) 4
  let tables := Function.update tables (512 * 2 + (indexBits range.highStart 39).toNat) (pages 3)
  let tables := Function.update tables (512 * 3 + (indexBits range.highStart 30).toNat) (pages 4)
  let tables := fill tables (512 * 4 + range.startL2.toNat) (fun i => pages (5 + UInt64.ofNat i))
    range.l2Span.toNat
  range.mapPages tables ((range.highEnd - range.highStart) / pageSize).toNat

end Range

/-- The range of a plan whose high entry runs here. -/
def rangeOf (plan : DirectLoadPlan) (highEntryRuntime : UInt64) : Except DirectHighStatus Range := do
  let entry := plan.highEntryVirtualAddress
  let highStart := alignDown entry pageSize
  let highEnd ← demand (alignUp plan.linkedVirtualEnd pageSize) .badLayout
  refuse (decide (highEnd ≤ highStart) || decide (entry < highStart) ||
    decide (highEntryRuntime < entry - highStart)) .badLayout
  let highLoadStart := highEntryRuntime - (entry - highStart)
  refuse (highLoadStart &&& (pageSize - 1) != 0 ||
    decide (u64Max - (highEnd - highStart) < highLoadStart)) .badLayout
  let highL2Start := alignDown highStart l2Block
  let highL2End ← demand (alignUp highEnd l2Block) .badLayout
  refuse (decide (highL2End ≤ highL2Start) ||
    indexBits (highL2End - 1) 30 != indexBits highL2Start 30) .badLayout
  let range : Range := ⟨highStart, highEnd, highLoadStart, highL2Start, highL2End⟩
  refuse (range.l2Span == 0 || decide (highL3Tables < range.l2Span)) .outOfCapacity
  return range

/-- Build the tables of a plan in a buffer of this size at this address. -/
def prepareDirectHighEntry (plan : DirectLoadPlan) (root : UInt64) (buffer : Tables)
    (size : UInt64) : Except DirectHighStatus (DirectHighHandoff × Tables) := do
  refuse (directHighPageTablePages plan == 0 || root == 0 || root &&& (pageSize - 1) != 0 ||
    decide (size < directHighTablePages * pageSize)) .badLayout
  let highEntryRuntime ← demand
    (findRuntimeForVirtualEntry plan.highEntryVirtualAddress plan.segments) .badLayout
  let range ← rangeOf plan highEntryRuntime
  return ({
    entry := plan.highEntryVirtualAddress
    translationRoot := root
    highEntryLoad := highEntryRuntime
    highVaddrStart := range.highStart
    highVaddrEnd := range.highEnd
    highLoadStart := range.highLoadStart
    highLoadEnd := range.highLoadStart + (range.highEnd - range.highStart) },
    range.build root buffer)

/-- The entries as the processor reads them.  A block is no entry of the root, and an entry of
the last level has the bit of a table set. -/
def format : Format where
  valid level entry :=
    entry &&& descValid != 0 && (level != 0 && level != 3 || entry &&& descTable != 0)
  leaf _ entry := entry &&& descTable == 0
  target entry := (entry &&& addrMask).toNat
  writable entry := entry &&& 0x80 == 0
  executable entry := entry &&& 0x20000000000000 == 0

/-- The table that the processor walks for addresses of the kernel half. -/
def kernelRoot (root : Nat) : Nat := root + 4096 * 2

end Ribon.Aarch64
