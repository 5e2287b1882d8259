/-
The direct-high entry of x86_64: page tables for a kernel in the higher half.

The tables map the first four gigabytes to themselves with large pages, and each
segment of the plan to where it runs, page by page, with its own rights.  The buffer
holds the root, the tables of the low half, one directory of the high half, and then
one page table for each two megabytes of it.
-/
import Ribon.Arch.DirectHigh
import Ribon.Paging.Walk

namespace Ribon.X8664

open Paging Wire

def pageSize : UInt64 := 4096
def large2M : UInt64 := 0x200000
def large1G : UInt64 := 0x40000000
def ptePresent : UInt64 := 1
def pteWrite : UInt64 := 2
def pteLarge : UInt64 := 0x80
def pteNoExecute : UInt64 := 0x8000000000000000
def addrMask : UInt64 := 0x000ffffffffff000
def baseTablePages : UInt64 := 8
def highCanonicalMin : UInt64 := 0xffff800000000000
def loadSegmentFlags : UInt32 := loadSegmentRead ||| loadSegmentWrite ||| loadSegmentExecute

def tableDescriptor (physicalAddress : UInt64) : UInt64 :=
  (physicalAddress &&& addrMask) ||| ptePresent ||| pteWrite

def largeDescriptor (physicalAddress : UInt64) : UInt64 :=
  tableDescriptor physicalAddress ||| pteLarge

def isWritable (segment : LoadSegment) : Bool := segment.flags &&& loadSegmentWrite != 0

/-- A high segment that pages can express: known rights, not writable and executable at once,
and the same offset in its page on both sides. -/
def highSegmentValid (segment : LoadSegment) : Bool :=
  segment.memorySize != 0 && segment.flags &&& ~~~loadSegmentFlags == 0 &&
  segment.flags &&& loadSegmentRead != 0 && !(isWritable segment && segment.isExecutable) &&
  decide (highCanonicalMin ≤ segment.virtualAddress) &&
  decide (segment.virtualAddress ≤ u64Max - segment.memorySize) &&
  segment.virtualAddress &&& (pageSize - 1) == segment.runtimeAddress &&& (pageSize - 1)

/-- The bounds of the high half in large pages, if one directory has room for them. -/
def highBounds (plan : DirectLoadPlan) : Option (UInt64 × UInt64) :=
  let highStart := alignDown plan.linkedVirtualBase large2M
  match alignUp plan.linkedVirtualEnd large2M with
  | none => none
  | some highEnd =>
      if decide (highEnd ≤ highStart) ||
          indexBits (highEnd - 1) 30 != indexBits highStart 30 then none
      else some (highStart, highEnd)

/-- The table pages that a plan needs; zero if it has no direct-high entry. -/
def directHighPageTablePages (plan : DirectLoadPlan) : UInt64 :=
  if plan.loadPlanFlags &&& loadPlanDirectHighEntryCandidate == 0 ||
      plan.highEntryVirtualAddress == 0 || decide (plan.linkedVirtualBase < highCanonicalMin) ||
      decide (plan.linkedVirtualEnd ≤ plan.linkedVirtualBase) || plan.segments.isEmpty ||
      !plan.storage then 0
  else
    match highBounds plan with
    | none => 0
    | some (highStart, highEnd) =>
        if decide (512 < indexBits highStart 21 + (highEnd - highStart) / large2M) then 0
        else if plan.segments.all fun segment =>
            !(decide (highCanonicalMin ≤ segment.virtualAddress) && !highSegmentValid segment) then
          baseTablePages + (highEnd - highStart) / large2M
        else 0

/-! ### Building the tables -/

/-- The directory entries of the first four gigabytes. -/
def identityMap (tables : Tables) : Nat → Tables
  | 0 => tables
  | gb + 1 => fill (identityMap tables gb) (512 * (2 + gb))
      (fun i => largeDescriptor (UInt64.ofNat gb * large1G + UInt64.ofNat i * large2M)) 512

/-- Everything but the pages of the segments. -/
def baseTables (buffer : Tables) (root highStart highEnd tablePages : UInt64) : Tables :=
  let pages (n : UInt64) := tableDescriptor (root + pageSize * n)
  let tables := fill buffer 0 (fun _ => 0) (tablePages.toNat * 512)
  let tables := Function.update tables 0 (pages 1)
  let tables := fill tables 512 (fun gb => pages (UInt64.ofNat gb + 2)) 4
  let tables := identityMap tables 4
  let tables := Function.update tables (indexBits highStart 39).toNat (pages 6)
  let tables := Function.update tables (512 * 6 + (indexBits highStart 30).toNat) (pages 7)
  fill tables (512 * 7 + (indexBits highStart 21).toNat)
    (fun chunk => pages (baseTablePages + UInt64.ofNat chunk))
    ((highEnd - highStart) / large2M).toNat

/-- The entry of a page, with the rights of its segment. -/
def pageDescriptor (segment : LoadSegment) (physical : UInt64) : UInt64 :=
  (physical &&& addrMask) ||| ptePresent ||| (if isWritable segment then pteWrite else 0) |||
    (if segment.isExecutable then 0 else pteNoExecute)

/-- The entry in the buffer for a page of the high half. -/
def slot (highStart va : UInt64) : Nat :=
  (baseTablePages + (va - highStart) / large2M).toNat * 512 + (indexBits va 12).toNat

/-- One page; an entry that is there already has to be the same. -/
def mapPage (highStart mapStart physicalStart : UInt64) (segment : LoadSegment)
    (tables : Tables) (n : Nat) : Except DirectHighStatus Tables := do
  let va := mapStart + pageSize * UInt64.ofNat n
  let descriptor := pageDescriptor segment (physicalStart + (va - mapStart))
  let i := slot highStart va
  refuse (tables i != 0 && tables i != descriptor) .badLayout
  return Function.update tables i descriptor

structure Built where
  tables : Tables
  highLoadStart : UInt64
  highLoadEnd : UInt64

def mapHighSegment (highStart : UInt64) (built : Built) (segment : LoadSegment) :
    Except DirectHighStatus Built := do
  refuse (!highSegmentValid segment) .badLayout
  let mapEnd ← demand (alignUp (segment.virtualAddress + segment.memorySize) pageSize) .badLayout
  let mapStart := alignDown segment.virtualAddress pageSize
  let physicalStart := segment.runtimeAddress - (segment.virtualAddress - mapStart)
  let size := mapEnd - mapStart
  let tables ← (List.range (size / pageSize).toNat).foldlM
    (mapPage highStart mapStart physicalStart segment) built.tables
  return {
    tables := tables
    highLoadStart := lower built.highLoadStart physicalStart
    highLoadEnd :=
      if decide (u64Max - size < physicalStart) ||
          decide (built.highLoadEnd < physicalStart + size) then physicalStart + size
      else built.highLoadEnd }

/-- Segments of the low half are left out. -/
def mapSegment (highStart : UInt64) (built : Built) (segment : LoadSegment) :
    Except DirectHighStatus Built :=
  if decide (segment.virtualAddress < highCanonicalMin) then .ok built
  else mapHighSegment highStart built segment

/-- Build the tables of a plan in a buffer of this size at this address. -/
def prepareDirectHighEntry (plan : DirectLoadPlan) (root : UInt64) (buffer : Tables)
    (size : UInt64) : Except DirectHighStatus (DirectHighHandoff × Tables) := do
  let tablePages := directHighPageTablePages plan
  refuse (tablePages == 0 || root == 0 || root &&& (pageSize - 1) != 0 ||
    decide (size < tablePages * pageSize)) .badLayout
  let highEntryRuntime ← demand
    (findRuntimeForVirtualEntry plan.highEntryVirtualAddress plan.segments) .badLayout
  let (highStart, highEnd) ← demand (highBounds plan) .badLayout
  let built ← plan.segments.foldlM (mapSegment highStart)
    ⟨baseTables buffer root highStart highEnd tablePages, u64Max, 0⟩
  refuse (built.highLoadStart == u64Max || decide (built.highLoadEnd ≤ built.highLoadStart))
    .badLayout
  let entry := plan.highEntryVirtualAddress
  refuse (decide (entry < highStart) || decide (highEnd ≤ entry)) .badLayout
  let entryDescriptor := built.tables (slot highStart entry)
  refuse (entryDescriptor &&& ptePresent == 0 || entryDescriptor &&& pteNoExecute != 0) .badLayout
  return ({
    entry := entry
    translationRoot := root
    highEntryLoad := highEntryRuntime
    highVaddrStart := highStart
    highVaddrEnd := highEnd
    highLoadStart := built.highLoadStart
    highLoadEnd := built.highLoadEnd }, built.tables)

/-- The entries as the processor reads them. -/
def format : Format where
  valid _ entry := entry &&& ptePresent != 0
  leaf _ entry := entry &&& pteLarge != 0
  target entry := (entry &&& addrMask).toNat
  writable entry := entry &&& pteWrite != 0
  executable entry := entry &&& pteNoExecute == 0

end Ribon.X8664
