/-
Where a relocatable image goes: the placement window of the product, and the shift
of a load plan into it.
-/
import Ribon.Core.Context
import Ribon.Arch.Ops

namespace Ribon

inductive BootStatus where
  | badArgument
  | badState
  | missingCapability
  | incompleteEnvironment
  | invalidPayload
  | invalidHandoff
  | budgetExceeded
  | unsupported
  | timeout
  | providerFailure
  deriving DecidableEq, Repr

namespace Boot

/-- The one authority of a role; two of them are none. -/
def serviceAuthority (directory : ServiceDirectory) (kind : ServiceKind) :
    Option ServiceDescriptor :=
  match directory.services.filter fun service =>
      service.kind == kind && service.cardinality == .authority with
  | [service] => some service
  | _ => none

/-- The placement window of a service, if its table is a valid one. -/
def placementWindow (service : ServiceDescriptor) : Option (UInt64 × UInt64) :=
  match service.operations with
  | some (.payloadPlacement size abiVersion base extent) =>
      if service.kind == .payloadPlacement && service.provides == Capability.payloadPlacement &&
          service.operationsSize == 24 && service.operationsAbi == serviceAbiVersion &&
          size == 24 && abiVersion == serviceAbiVersion && base != 0 && extent != 0 &&
          (addU64 base extent).isSome then some (base, extent)
      else none
  | _ => none

/-- One segment, moved up by the base of the window; it may not reach past the end. -/
def placeSegment (base windowEnd : UInt64) (segment : LoadSegment) :
    Except BootStatus LoadSegment := do
  let loadAddress ← demand (addU64 segment.loadAddress base) .invalidPayload
  let virtualAddress ← demand (addU64 segment.virtualAddress base) .invalidPayload
  let loadEnd ← demand (addU64 loadAddress segment.memorySize) .invalidPayload
  refuse (decide (windowEnd < loadEnd)) .invalidPayload
  let linkedPhysicalAddress ← demand (addU64 segment.linkedPhysicalAddress base) .invalidPayload
  return { segment with
    physicalAddress := loadAddress
    loadAddress := loadAddress
    runtimeAddress := loadAddress
    virtualAddress := virtualAddress
    linkedPhysicalAddress := linkedPhysicalAddress }

/-- The relative plan of an image, moved into the placement window. -/
def applyRelocatablePlacement (services : ServiceDirectory) (layout : DirectLoadPlan) :
    Except BootStatus DirectLoadPlan := do
  if layout.loadPlanFlags &&& loadPlanRelocatable == 0 then
    return layout
  let service ← demand (serviceAuthority services .payloadPlacement) .missingCapability
  let (base, extent) ← demand (placementWindow service) .missingCapability
  let windowEnd ← demand (addU64 base extent) .invalidPayload
  let segments ← layout.segments.mapM (placeSegment base windowEnd)
  let move (address : UInt64) : Except BootStatus UInt64 :=
    demand (addU64 address base) .invalidPayload
  return { layout with
    segments := segments
    entryPoint := ← move layout.entryPoint
    entryLoadAddress := ← move layout.entryLoadAddress
    runtimeEntryAddress := ← move layout.runtimeEntryAddress
    loadBase := ← move layout.loadBase
    loadEnd := ← move layout.loadEnd
    runtimeLoadBase := ← move layout.runtimeLoadBase
    runtimeLoadEnd := ← move layout.runtimeLoadEnd
    linkedVirtualBase := ← move layout.linkedVirtualBase
    linkedVirtualEnd := ← move layout.linkedVirtualEnd
    linkedPhysicalBase := ← move layout.linkedPhysicalBase
    linkedPhysicalEnd := ← move layout.linkedPhysicalEnd }

/-- A range lies inside one region that is neither usable memory nor a device. -/
def transitionRangeIsReserved (regions : List MemoryRegion) (base size : UInt64) : Bool :=
  size != 0 &&
  match addU64 base size with
  | none => false
  | some rangeEnd => regions.any fun region =>
      match memoryRegionEnd region with
      | .error _ => false
      | .ok regionEnd =>
          region.kind != .usable && region.kind != .mmio && region.kind != .framebuffer &&
          decide (region.base ≤ base) && decide (rangeEnd ≤ regionEnd)

end Boot

end Ribon
