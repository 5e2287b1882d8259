/-
The core context: product, registry, directory, mode and arena, checked together.

The check holds the registry and the directory against the product.  Of the mode it
uses the number and the arena size; the capabilities that the mode requires and
forbids are looked at for being consistent, and nothing is held against them.
`modePolicy_iff` says which contexts keep the mode's policy all the same.
-/
import Ribon.Core.Services

namespace Ribon

/-- A bump arena; `base` is zero for null. -/
structure Arena where
  base : UInt64
  capacity : UInt64
  used : UInt64
  highWatermark : UInt64
  deriving DecidableEq, Repr

structure CoreContext where
  size : UInt32
  abiVersion : UInt32
  product : ProductDescriptor
  registry : PluginRegistry
  services : ServiceDirectory
  mode : ModeDescriptor
  arena : Arena
  deriving DecidableEq, Repr

def coreContextSizeOf : UInt32 := 48

def coreContextValidate (context : CoreContext) : Except CoreStatus Unit := do
  refuse (context.size != coreContextSizeOf || context.abiVersion != coreAbiVersion) .badArgument
  refuse (!modeDescriptorIsValid context.mode ||
    context.product.modeMask &&& context.mode.mode.mask == 0) .badMode
  refuse (context.arena.base == 0 || context.arena.used != 0 ||
    context.arena.highWatermark != 0 ||
    decide (context.arena.capacity < context.mode.limits.arenaBytes) ||
    decide (context.arena.capacity < context.product.limits.arenaBytes)) .badLimit
  pluginRegistryValidate context.registry context.product context.mode.mode
  serviceDirectoryValidate context.services context.product context.mode.mode

def contextInitialize (product : ProductDescriptor) (registry : PluginRegistry)
    (services : ServiceDirectory) (mode : ModeDescriptor) (arena : Arena) :
    Except CoreStatus CoreContext := do
  let candidate : CoreContext := {
    size := coreContextSizeOf
    abiVersion := coreAbiVersion
    product := product
    registry := registry
    services := services
    mode := mode
    arena := arena }
  coreContextValidate candidate
  return candidate

namespace CoreContext

/-- A capability is provided by some plugin or service. -/
def Provides (context : CoreContext) (bit : Nat) : Prop :=
  (∃ plugin ∈ context.registry.plugins, plugin.provides.getLsbD bit = true) ∨
    ∃ service ∈ context.services.services, service.provides.getLsbD bit = true

/-- The policy of the mode: no plugin and no service has a forbidden capability, and each
required one is provided. -/
structure ModePolicy (context : CoreContext) : Prop where
  plugins : ∀ plugin ∈ context.registry.plugins, ∀ bit, plugin.provides.getLsbD bit = true →
    context.mode.forbiddenCapabilities.getLsbD bit = false
  services : ∀ service ∈ context.services.services, ∀ bit, service.provides.getLsbD bit = true →
    context.mode.forbiddenCapabilities.getLsbD bit = false
  required : ∀ bit, context.mode.requiredCapabilities.getLsbD bit = true → context.Provides bit

/-- All the bits that the registry and the directory provide. -/
def provided (context : CoreContext) : Capabilities :=
  Mask.gather PluginDescriptor.provides context.registry.plugins 0 |||
    Mask.gather ServiceDescriptor.provides context.services.services 0

theorem getLsbD_provided {context : CoreContext} {bit : Nat} :
    context.provided.getLsbD bit = true ↔ context.Provides bit := by
  simp [provided, Provides, Mask.getLsbD_gather]

/-- The policy in terms of what is provided. -/
theorem modePolicy_iff_provides {context : CoreContext} :
    context.ModePolicy ↔
      (∀ bit, context.Provides bit → context.mode.forbiddenCapabilities.getLsbD bit = false) ∧
        ∀ bit, context.mode.requiredCapabilities.getLsbD bit = true → context.Provides bit := by
  constructor
  · intro h
    refine ⟨?_, h.required⟩
    intro bit hbit
    obtain ⟨plugin, hplugin, hprovides⟩ | ⟨service, hsvc, hprovides⟩ := hbit
    · exact h.plugins plugin hplugin bit hprovides
    · exact h.services service hsvc bit hprovides
  · intro ⟨hforbidden, hrequired⟩
    refine ⟨?_, ?_, hrequired⟩
    · intro plugin hplugin bit hprovides
      exact hforbidden bit (.inl ⟨plugin, hplugin, hprovides⟩)
    · intro service hsvc bit hprovides
      exact hforbidden bit (.inr ⟨service, hsvc, hprovides⟩)

theorem isService_mask {bit : Nat} (hbit : bit < 64)
    (h : Registry.capabilityIsService (Mask.bit 64 bit) = true) :
    Services.capabilityMask.getLsbD bit = true := by
  have hall : ∀ bit < 64, Registry.capabilityIsService (Mask.bit 64 bit) = true →
      Services.capabilityMask.getLsbD bit = true := by decide +kernel
  exact hall bit hbit h

section Validated

variable {context : CoreContext} (hvalid : coreContextValidate context = .ok ())

include hvalid

theorem parts_of_validate :
    pluginRegistryValidate context.registry context.product context.mode.mode = .ok () ∧
      serviceDirectoryValidate context.services context.product context.mode.mode = .ok () := by
  simp only [coreContextValidate, bind_eq_ok, refuse_eq_ok, exists_const] at hvalid
  obtain ⟨_, _, _, _, hregistry, hsvcs⟩ := hvalid
  exact ⟨hregistry, hsvcs⟩

/-- Nothing is provided that the product does not allow. -/
theorem allowed_of_provides {bit : Nat} (h : context.Provides bit) :
    context.product.allowedCapabilities.getLsbD bit = true := by
  obtain ⟨hregistry, hsvcs⟩ := parts_of_validate hvalid
  obtain ⟨plugin, hplugin, hprovides⟩ | ⟨service, hsvc, hprovides⟩ := h
  · have hallowed := (pluginRegistryValidate_ok hregistry).1 plugin hplugin
    exact Mask.and_not_eq_zero_iff.mp hallowed bit hprovides
  · have hallowed := (serviceDirectoryValidate_ok hsvcs).1 service hsvc
    exact Mask.and_not_eq_zero_iff.mp hallowed bit hprovides

/-- Whatever the product requires is provided. -/
theorem provides_of_required {bit : Nat}
    (h : context.product.requiredCapabilities.getLsbD bit = true) : context.Provides bit := by
  obtain ⟨hregistry, hsvcs⟩ := parts_of_validate hvalid
  have hbit : bit < 64 := BitVec.lt_of_getLsbD h
  rw [← getLsbD_provided, provided, BitVec.getLsbD_or, Bool.or_eq_true]
  by_cases hsvc : Registry.capabilityIsService (Mask.bit 64 bit) = true
  · right
    exact (serviceDirectoryValidate_ok hsvcs).2 bit h (isService_mask hbit hsvc)
  · left
    exact (pluginRegistryValidate_ok hregistry).2 bit hbit h (Bool.eq_false_iff.mpr hsvc)

end Validated

/-! ### A product for x86-64 on a host -/

namespace Bench

def limits : ResourceLimits where
  maxMemoryRegions := 16
  maxLoadSegments := 4
  maxComponents := 4
  maxRetries := 1
  maxInputBytes := 4096
  maxHandoffBytes := 64
  arenaBytes := 4096
  operationDeadlineMs := 1000

/-- The bits that a boot needs. -/
def needed : Capabilities :=
  Capability.bootSourceRead ||| Capability.storageFlush ||| Capability.monotonicTimer |||
  Capability.persistentMetadata ||| Capability.environmentQuiesce ||| Capability.architecture |||
  Capability.imageElf64 ||| Capability.bootProtocol ||| Capability.handoff |||
  Capability.entryContract

/-- The product requires nothing by itself and allows the network as well. -/
def product : ProductDescriptor where
  magic := productDescriptorMagic
  size := productDescriptorSizeOf
  abiVersion := coreAbiVersion
  id := "bench".toUTF8.toList
  kind := .bootloader
  architectureMask := 1
  environmentMask := 1
  personalityMask := 0
  modeMask := modeMaskAll
  maxPlugins := 8
  requiredCapabilities := 0
  allowedCapabilities := needed ||| Capability.networkTransport
  serviceSelections := []
  pluginSelections := []
  limits := limits

def plugin (kind : PluginKind) (id : String) (provides : Capabilities) (operations : UInt64) :
    PluginDescriptor where
  magic := pluginDescriptorMagic
  size := pluginDescriptorSizeOf
  abiMajor := pluginAbiMajor
  abiMinor := 0
  kind := kind
  phase := .boot
  id := id.toUTF8.toList
  provides := provides
  requires := 0
  architectureMask := 1
  environmentMask := 1
  personalityMask := 0
  modeMask := modeMaskAll
  reserved := 0
  arenaBudget := 16
  inputBudget := 4096
  outputBudget := 64
  deadlineMs := 100
  operations := operations
  operationsSize := 64
  operationsAbi := 1
  validateOperations := some true

/-- The protocol needs the architecture to have come before it. -/
def registry : PluginRegistry where
  size := pluginRegistrySizeOf
  abiVersion := coreAbiVersion
  plugins := [
    plugin .architecture "arch" (Capability.architecture ||| Capability.entryContract) 0x1000,
    plugin .imageFormat "elf64" Capability.imageElf64 0x2000,
    plugin .environment "host" Capability.storageFlush 0x3000,
    { plugin .bootProtocol "protocol" (Capability.bootProtocol ||| Capability.handoff) 0x4000 with
      requires := Capability.architecture } ]

def service (kind : ServiceKind) (id : String) (operations : ServiceOperations) :
    ServiceDescriptor where
  magic := serviceDescriptorMagic
  size := serviceDescriptorSizeOf
  abiVersion := serviceAbiVersion
  kind := kind
  cardinality := .authority
  lifetime := .boot
  phase := .boot
  id := id.toUTF8.toList
  provides := Services.capabilities kind
  architectureMask := 1
  environmentMask := 1
  personalityMask := 0
  modeMask := modeMaskAll
  arenaBudget := 16
  inputBudget := 4096
  outputBudget := 64
  deadlineMs := 100
  operations := some operations
  operationsSize := 32
  operationsAbi := serviceAbiVersion
  validateOperations := some true

def bootServices : List ServiceDescriptor := [
  service .storageFlush "flush" (.storageFlush 24 serviceAbiVersion true),
  service .persistentMetadata "metadata" (.persistentMetadata 32 serviceAbiVersion true true)]

def laterServices : List ServiceDescriptor := [
  service .environmentQuiesce "quiesce" (.environmentQuiesce 24 serviceAbiVersion true),
  service .bootSource "source" (.bootSource 24 serviceAbiVersion true),
  service .monotonicTimer "timer" (.monotonicTimer 32 serviceAbiVersion 1000 true)]

def directory : ServiceDirectory where
  size := serviceDirectorySizeOf
  abiVersion := serviceDirectoryAbiVersion
  services := bootServices ++ laterServices

/-- The same directory with a network transport in it. -/
def online : ServiceDirectory :=
  { directory with
    services := bootServices ++ service .networkTransport "network" .other :: laterServices }

def arena : Arena := ⟨0x100000, 1024 * 1024, 0, 0⟩

def context (services : ServiceDirectory) : CoreContext where
  size := coreContextSizeOf
  abiVersion := coreAbiVersion
  product := product
  registry := registry
  services := services
  mode := Mode.normalDescriptor
  arena := arena

theorem directory_valid : coreContextValidate (context directory) = .ok () := by decide +kernel

theorem online_valid : coreContextValidate (context online) = .ok () := by decide +kernel

end Bench

end CoreContext

end Ribon
