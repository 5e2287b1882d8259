/-
The service directory of a product, and the check that admits it.

A service provides the capabilities of its role and no other.  A role is filled by
one authority, or by a collection out of which the product selects one service.
-/
import Ribon.Core.Registry

namespace Ribon

inductive ServiceCardinality where
  | authority
  | collection
  | unknown
  deriving DecidableEq, Repr

inductive ServiceLifetime where
  | boot
  | quiesce
  | persistent
  | unknown
  deriving DecidableEq, Repr

/-- The operation tables that a boot looks into.  A callback is given by whether it is there. -/
inductive ServiceOperations where
  | bootSource (size abiVersion : UInt32) (read : Bool)
  | monotonicTimer (size abiVersion : UInt32) (frequencyHz : UInt64) (now : Bool)
  | persistentMetadata (size abiVersion : UInt32) (read write : Bool)
  | storageFlush (size abiVersion : UInt32) (flush : Bool)
  | environmentQuiesce (size abiVersion : UInt32) (quiesce : Bool)
  | payloadPlacement (size abiVersion : UInt32) (physicalBase physicalSize : UInt64)
  | terminalImageLaunch (size abiVersion : UInt32) (launch : Bool)
  | other
  deriving DecidableEq, Repr

structure ServiceDescriptor where
  magic : UInt32
  size : UInt32
  abiVersion : UInt32
  kind : ServiceKind
  cardinality : ServiceCardinality
  lifetime : ServiceLifetime
  phase : PluginPhase
  id : List UInt8
  provides : Capabilities
  architectureMask : BitVec 32
  environmentMask : BitVec 32
  personalityMask : BitVec 32
  modeMask : BitVec 32
  arenaBudget : UInt64
  inputBudget : UInt64
  outputBudget : UInt64
  deadlineMs : UInt64
  operations : Option ServiceOperations
  operationsSize : UInt32
  operationsAbi : UInt32
  /-- What the typed validator answers, if there is one. -/
  validateOperations : Option Bool
  deriving DecidableEq, Repr

structure ServiceDirectory where
  size : UInt32
  abiVersion : UInt32
  services : List ServiceDescriptor
  deriving DecidableEq, Repr

def serviceDescriptorMagic : UInt32 := 0x52425356
def serviceDescriptorSizeOf : UInt32 := 120
def serviceAbiVersion : UInt32 := 4
def serviceDirectorySizeOf : UInt32 := 24
def serviceDirectoryAbiVersion : UInt32 := 1

namespace Services

/-- The capabilities of a role. -/
def capabilities : ServiceKind → Capabilities
  | .bootSource => Capability.bootSourceRead
  | .inactiveSlotStorage => Capability.inactiveSlotWrite ||| Capability.inactiveSlotErase
  | .storageFlush => Capability.storageFlush
  | .monotonicTimer => Capability.monotonicTimer
  | .watchdog => Capability.watchdog
  | .reset => Capability.reset
  | .persistentMetadata => Capability.persistentMetadata
  | .networkTransport => Capability.networkTransport
  | .randomNonce => Capability.randomNonce
  | .diagnosticSink => Capability.diagnosticSink
  | .environmentQuiesce => Capability.environmentQuiesce
  | .machineDescription => Capability.machineDescription
  | .payloadPlacement => Capability.payloadPlacement
  | .bootModuleBundle => Capability.bootModuleBundle
  | .terminalImageLaunch => Capability.terminalImageLaunch
  | .unknown => 0

def descriptorIsValid (descriptor : ServiceDescriptor) : Bool :=
  if descriptor.magic != serviceDescriptorMagic || descriptor.size != serviceDescriptorSizeOf ||
      descriptor.abiVersion != serviceAbiVersion || capabilities descriptor.kind == 0 ||
      descriptor.cardinality == .unknown || descriptor.lifetime == .unknown ||
      descriptor.phase == .runtime || descriptor.phase == .unknown || descriptor.id.isEmpty ||
      descriptor.provides != capabilities descriptor.kind ||
      descriptor.architectureMask &&& ~~~archMaskAll != 0 || descriptor.architectureMask == 0 ||
      descriptor.environmentMask &&& ~~~envMaskAll != 0 ||
      descriptor.personalityMask &&& ~~~personalityMaskAll != 0 ||
      (descriptor.environmentMask == 0 && descriptor.personalityMask == 0) ||
      descriptor.modeMask &&& ~~~modeMaskAll != 0 || descriptor.modeMask == 0 ||
      descriptor.arenaBudget == 0 || descriptor.inputBudget == 0 ||
      descriptor.outputBudget == 0 || descriptor.deadlineMs == 0 ||
      descriptor.operations.isNone || descriptor.operationsSize == 0 ||
      descriptor.operationsAbi == 0 then false
  else descriptor.validateOperations.getD false

def findExact (services : List ServiceDescriptor) (kind : ServiceKind) (id : List UInt8) :
    Option ServiceDescriptor :=
  services.find? fun service => service.kind == kind && streq service.id id

def selectionIsValid (selection : ServiceSelection) : Bool :=
  capabilities selection.kind != 0 && !selection.id.isEmpty

/-- All the bits that the directory answers for. -/
def capabilityMask : Capabilities := Mask.gather id Registry.serviceCapabilities 0

/-- A service fits the product, the mode and its predecessor in the array. -/
def admits (product : ProductDescriptor) (mode : Mode) (previous : Option ServiceDescriptor)
    (service : ServiceDescriptor) : Bool :=
  descriptorIsValid service && service.architectureMask &&& product.architectureMask != 0 &&
  frontendMatches product service.environmentMask service.personalityMask &&
  service.modeMask &&& mode.mask != 0 &&
  service.provides &&& ~~~product.allowedCapabilities == 0 &&
  decide (service.inputBudget ≤ product.limits.maxInputBytes) &&
  decide (service.outputBudget ≤ product.limits.maxHandoffBytes) &&
  decide (service.deadlineMs ≤ product.limits.operationDeadlineMs) &&
  previous.all fun before => decide (strcmp before.id service.id < 0)

structure Tally where
  arenaBudget : UInt64
  aggregate : Capabilities
  deriving DecidableEq, Repr

/-- The first pass; `seen` holds the services before this one, the last of them first. -/
def survey (product : ProductDescriptor) (mode : Mode) :
    List ServiceDescriptor → List ServiceDescriptor → Tally → Except CoreStatus Tally
  | _, [], tally => .ok tally
  | seen, service :: rest, tally => do
      refuse (!admits product mode seen.head? service) .invalidDescriptor
      refuse (seen.any fun other => other.kind == service.kind &&
        (other.cardinality == .authority || service.cardinality == .authority)) .duplicateProvider
      refuse (decide (0xffffffffffffffff - service.arenaBudget < tally.arenaBudget)) .badLimit
      survey product mode (service :: seen) rest {
        arenaBudget := tally.arenaBudget + service.arenaBudget
        aggregate := tally.aggregate ||| service.provides }

/-- Each selection names a service of a collection, in the order of their roles. -/
def checkSelections (services : List ServiceDescriptor) :
    Option ServiceSelection → List ServiceSelection → Except CoreStatus Unit
  | _, [] => .ok ()
  | previous, selection :: rest => do
      refuse (!selectionIsValid selection ||
        previous.any fun before => decide (selection.kind.value ≤ before.kind.value))
        .invalidDescriptor
      let service ← demand (findExact services selection.kind selection.id) .missingCapability
      refuse (service.cardinality != .collection) .ambiguousSelection
      checkSelections services (some selection) rest

/-- A collection of several services of one role without a selection. -/
def isAmbiguous (services : List ServiceDescriptor) (selections : List ServiceSelection)
    (service : ServiceDescriptor) : Bool :=
  service.cardinality == .collection &&
  decide (1 < services.countP fun other => other.kind == service.kind) &&
  !selections.any fun selection => selection.kind == service.kind

end Services

def serviceDirectoryValidate (directory : ServiceDirectory) (product : ProductDescriptor)
    (mode : Mode) : Except CoreStatus Unit := do
  let services := directory.services
  refuse (directory.size != serviceDirectorySizeOf ||
    directory.abiVersion != serviceDirectoryAbiVersion ||
    decide (serviceDirectoryLimit < services.length) || !mode.isKnown) .invalidDescriptor
  let tally ← Services.survey product mode [] services ⟨0, 0⟩
  refuse (decide (product.limits.arenaBytes < tally.arenaBudget) ||
    tally.aggregate &&& product.requiredCapabilities &&& Services.capabilityMask !=
      product.requiredCapabilities &&& Services.capabilityMask) .missingCapability
  Services.checkSelections services none product.serviceSelections
  refuse (services.any (Services.isAmbiguous services product.serviceSelections))
    .ambiguousSelection

/-! ### What admission says about capabilities -/

namespace Registry

theorem survey_ok {product : ProductDescriptor} {mode : Mode} {previous : Option PluginDescriptor}
    {plugins : List PluginDescriptor} {tally final : Tally}
    (h : survey product mode previous plugins tally = .ok final) :
    final.aggregate = Mask.gather (·.provides) plugins tally.aggregate ∧
      ∀ plugin ∈ plugins, plugin.provides &&& ~~~product.allowedCapabilities = 0 := by
  induction plugins generalizing previous tally with
  | nil =>
    simp only [survey, Except.ok.injEq] at h
    subst h
    exact ⟨rfl, by simp⟩
  | cons plugin rest ih =>
    simp only [survey, refuse_bind_eq_ok, Bool.not_eq_false'] at h
    obtain ⟨hadmits, _, hrest⟩ := h
    obtain ⟨hagg, hallowed⟩ := ih hrest
    refine ⟨hagg, List.forall_mem_cons.mpr ⟨?_, hallowed⟩⟩
    simp only [admits, Bool.and_eq_true, beq_iff_eq] at hadmits
    tauto

end Registry

namespace Services

theorem survey_ok {product : ProductDescriptor} {mode : Mode} {seen : List ServiceDescriptor}
    {services : List ServiceDescriptor} {tally final : Tally}
    (h : survey product mode seen services tally = .ok final) :
    final.aggregate = Mask.gather (·.provides) services tally.aggregate ∧
      ∀ service ∈ services, service.provides &&& ~~~product.allowedCapabilities = 0 := by
  induction services generalizing seen tally with
  | nil =>
    simp only [survey, Except.ok.injEq] at h
    subst h
    exact ⟨rfl, by simp⟩
  | cons service rest ih =>
    simp only [survey, refuse_bind_eq_ok, Bool.not_eq_false'] at h
    obtain ⟨hadmits, _, _, hrest⟩ := h
    obtain ⟨hagg, hallowed⟩ := ih hrest
    refine ⟨hagg, List.forall_mem_cons.mpr ⟨?_, hallowed⟩⟩
    simp only [admits, Bool.and_eq_true, beq_iff_eq] at hadmits
    tauto

end Services

/-- The registry keeps to the allowed bits and provides the required bits that no service
answers for. -/
theorem pluginRegistryValidate_ok {registry : PluginRegistry} {product : ProductDescriptor}
    {mode : Mode} (h : pluginRegistryValidate registry product mode = .ok ()) :
    (∀ plugin ∈ registry.plugins, plugin.provides &&& ~~~product.allowedCapabilities = 0) ∧
      ∀ bit < 64, product.requiredCapabilities.getLsbD bit = true →
        Registry.capabilityIsService (Mask.bit 64 bit) = false →
        (Mask.gather PluginDescriptor.provides registry.plugins 0).getLsbD bit = true := by
  simp only [pluginRegistryValidate, bind_eq_ok, refuse_eq_ok, exists_const] at h
  obtain ⟨_, tally, hsurvey, _, _, _, hrequired, _⟩ := h
  obtain ⟨hagg, hallowed⟩ := Registry.survey_ok hsurvey
  refine ⟨hallowed, ?_⟩
  intro bit hbit hreq hsvc
  have hthis := List.any_eq_false.mp hrequired bit (List.mem_range.mpr hbit)
  have hrequires : product.requiredCapabilities &&& Mask.bit 64 bit ≠ 0 := by
    intro hzero
    rw [Mask.and_bit_eq_zero_iff.mp hzero] at hreq
    cases hreq
  rw [hagg] at hthis
  by_contra hnot
  apply hthis
  have hzero := Mask.and_bit_eq_zero_iff.mpr (Bool.eq_false_iff.mpr hnot)
  simp only [Bool.and_eq_true, bne_iff_ne, ne_eq, Bool.not_eq_true', beq_iff_eq]
  exact ⟨⟨hrequires, hsvc⟩, hzero⟩

/-- The directory keeps to the allowed bits and provides the required bits that it answers
for. -/
theorem serviceDirectoryValidate_ok {directory : ServiceDirectory} {product : ProductDescriptor}
    {mode : Mode} (h : serviceDirectoryValidate directory product mode = .ok ()) :
    (∀ service ∈ directory.services, service.provides &&& ~~~product.allowedCapabilities = 0) ∧
      ∀ bit, product.requiredCapabilities.getLsbD bit = true →
        Services.capabilityMask.getLsbD bit = true →
        (Mask.gather ServiceDescriptor.provides directory.services 0).getLsbD bit = true := by
  simp only [serviceDirectoryValidate, bind_eq_ok, refuse_eq_ok, exists_const] at h
  obtain ⟨_, tally, hsurvey, hcovers, _⟩ := h
  obtain ⟨hagg, hallowed⟩ := Services.survey_ok hsurvey
  refine ⟨hallowed, ?_⟩
  intro bit hreq hmask
  simp only [Bool.or_eq_false_iff, bne_eq_false_iff_eq] at hcovers
  have hthis := congrArg (BitVec.getLsbD · bit) hcovers.2
  simp only [BitVec.getLsbD_and, hreq, hmask, Bool.and_true, hagg] at hthis
  exact hthis

end Ribon
