/-
The plugin registry of a product, and the check that admits it.

The check looks at every plugin by itself, then at the selections and providers,
and last at the dependencies: each required capability is drawn as an edge from its
provider to its consumer, and the registry is admitted if its plugins can be
visited in an order along the edges.
-/
import Ribon.Core.Capability

namespace Ribon

inductive ProductKind where
  | invalid
  | library
  | bootloader
  | firmware
  | unknown
  deriving DecidableEq, Repr

inductive PluginKind where
  | architecture
  | environment
  | imageFormat
  | bootProtocol
  | policy
  | firmwarePersonality
  | service
  | unknown
  deriving DecidableEq, Repr

def PluginKind.value : PluginKind → Nat
  | .architecture => 0
  | .environment => 1
  | .imageFormat => 2
  | .bootProtocol => 3
  | .policy => 4
  | .firmwarePersonality => 5
  | .service => 6
  | .unknown => 7

inductive PluginPhase where
  | early
  | foundation
  | driver
  | boot
  | quiesce
  | runtime
  | unknown
  deriving DecidableEq, Repr

def PluginPhase.value : PluginPhase → Nat
  | .early => 0
  | .foundation => 1
  | .driver => 2
  | .boot => 3
  | .quiesce => 4
  | .runtime => 5
  | .unknown => 6

inductive ServiceKind where
  | bootSource
  | inactiveSlotStorage
  | storageFlush
  | monotonicTimer
  | watchdog
  | reset
  | persistentMetadata
  | networkTransport
  | randomNonce
  | diagnosticSink
  | environmentQuiesce
  | machineDescription
  | payloadPlacement
  | bootModuleBundle
  | terminalImageLaunch
  | unknown
  deriving DecidableEq, Repr

def ServiceKind.value : ServiceKind → Nat
  | .bootSource => 0
  | .inactiveSlotStorage => 1
  | .storageFlush => 2
  | .monotonicTimer => 3
  | .watchdog => 4
  | .reset => 5
  | .persistentMetadata => 6
  | .networkTransport => 7
  | .randomNonce => 8
  | .diagnosticSink => 9
  | .environmentQuiesce => 10
  | .machineDescription => 11
  | .payloadPlacement => 12
  | .bootModuleBundle => 13
  | .terminalImageLaunch => 14
  | .unknown => 15

structure PluginSelection where
  kind : PluginKind
  id : List UInt8
  deriving DecidableEq, Repr

structure ServiceSelection where
  kind : ServiceKind
  id : List UInt8
  deriving DecidableEq, Repr

/-- A product.  A string that is null is taken for an empty one: both are refused. -/
structure ProductDescriptor where
  magic : UInt32
  size : UInt32
  abiVersion : UInt32
  id : List UInt8
  kind : ProductKind
  architectureMask : BitVec 32
  environmentMask : BitVec 32
  personalityMask : BitVec 32
  modeMask : BitVec 32
  maxPlugins : UInt32
  requiredCapabilities : Capabilities
  allowedCapabilities : Capabilities
  serviceSelections : List ServiceSelection
  pluginSelections : List PluginSelection
  limits : ResourceLimits
  deriving DecidableEq, Repr

/-- A plugin.  `operations` is the address of its table, zero for null, and
`validateOperations` what the typed validator answers about it. -/
structure PluginDescriptor where
  magic : UInt32
  size : UInt32
  abiMajor : UInt16
  abiMinor : UInt16
  kind : PluginKind
  phase : PluginPhase
  id : List UInt8
  provides : Capabilities
  requires : Capabilities
  architectureMask : BitVec 32
  environmentMask : BitVec 32
  personalityMask : BitVec 32
  modeMask : BitVec 32
  reserved : UInt32
  arenaBudget : UInt64
  inputBudget : UInt64
  outputBudget : UInt64
  deadlineMs : UInt64
  operations : UInt64
  operationsSize : UInt32
  operationsAbi : UInt32
  validateOperations : Option Bool
  deriving DecidableEq, Repr

structure PluginRegistry where
  size : UInt32
  abiVersion : UInt32
  plugins : List PluginDescriptor
  deriving DecidableEq, Repr

def productDescriptorMagic : UInt32 := 0x52425044
def productDescriptorSizeOf : UInt32 := 144
def pluginDescriptorMagic : UInt32 := 0x5242504c
def pluginDescriptorSizeOf : UInt32 := 128
def pluginAbiMajor : UInt16 := 6
def pluginAbiMinor : UInt16 := 0
def pluginRegistrySizeOf : UInt32 := 24

def pluginOneBit (value : BitVec 32) : Bool := value != 0 && value &&& (value - 1) == 0

def pluginDescriptorIsValid (descriptor : PluginDescriptor) : Bool :=
  if descriptor.magic != pluginDescriptorMagic || descriptor.size != pluginDescriptorSizeOf ||
      descriptor.abiMajor != pluginAbiMajor || decide (pluginAbiMinor < descriptor.abiMinor) ||
      descriptor.kind == .unknown || descriptor.phase == .unknown || descriptor.id.isEmpty ||
      descriptor.provides == 0 || descriptor.provides &&& ~~~Capability.all != 0 ||
      descriptor.requires &&& ~~~Capability.all != 0 ||
      descriptor.architectureMask &&& ~~~archMaskAll != 0 || descriptor.architectureMask == 0 ||
      descriptor.environmentMask &&& ~~~envMaskAll != 0 ||
      descriptor.personalityMask &&& ~~~personalityMaskAll != 0 ||
      (descriptor.environmentMask == 0 && descriptor.personalityMask == 0) ||
      descriptor.modeMask &&& ~~~modeMaskAll != 0 || descriptor.modeMask == 0 ||
      descriptor.reserved != 0 || descriptor.arenaBudget == 0 || descriptor.inputBudget == 0 ||
      descriptor.outputBudget == 0 || descriptor.deadlineMs == 0 || descriptor.operations == 0 ||
      descriptor.operationsSize == 0 || descriptor.operationsAbi == 0 then false
  else descriptor.validateOperations.getD false

def productDescriptorIsValid (product : ProductDescriptor) : Bool :=
  let frontendIsValid :=
    ((product.kind == .library || product.kind == .bootloader) &&
      pluginOneBit product.environmentMask && product.personalityMask == 0) ||
    (product.kind == .firmware && product.environmentMask == 0 &&
      pluginOneBit product.personalityMask)
  if product.magic != productDescriptorMagic || product.size != productDescriptorSizeOf ||
      product.abiVersion != coreAbiVersion || product.id.isEmpty || product.kind == .invalid ||
      product.kind == .unknown || !pluginOneBit product.architectureMask ||
      product.architectureMask &&& ~~~archMaskAll != 0 ||
      product.environmentMask &&& ~~~envMaskAll != 0 ||
      product.personalityMask &&& ~~~personalityMaskAll != 0 || !frontendIsValid ||
      product.modeMask == 0 || product.modeMask &&& ~~~modeMaskAll != 0 ||
      product.maxPlugins == 0 || decide (pluginRegistryLimit < product.maxPlugins.toNat) ||
      product.requiredCapabilities &&& ~~~Capability.all != 0 ||
      product.allowedCapabilities &&& ~~~Capability.all != 0 ||
      product.requiredCapabilities &&& ~~~product.allowedCapabilities != 0 ||
      decide (serviceDirectoryLimit < product.serviceSelections.length) ||
      decide (pluginRegistryLimit < product.pluginSelections.length) then false
  else resourceLimitsAreValid product.limits

/-- A firmware product matches by personality, any other by environment. -/
def frontendMatches (product : ProductDescriptor) (environmentMask personalityMask : BitVec 32) :
    Bool :=
  if product.kind == .firmware then personalityMask &&& product.personalityMask != 0
  else environmentMask &&& product.environmentMask != 0

namespace Registry

/-- Capabilities of which a registry may have one provider only. -/
def capabilityIsAuthority (capability : Capabilities) : Bool :=
  capability == Capability.architecture || capability == Capability.firmwarePersonality ||
  capability == Capability.firmwareServiceDirectory

/-- Capabilities that the service directory answers for. -/
def serviceCapabilities : List Capabilities :=
  [Capability.bootSourceRead, Capability.inactiveSlotWrite, Capability.inactiveSlotErase,
   Capability.storageFlush, Capability.monotonicTimer, Capability.watchdog, Capability.reset,
   Capability.persistentMetadata, Capability.networkTransport, Capability.randomNonce,
   Capability.diagnosticSink, Capability.environmentQuiesce, Capability.machineDescription,
   Capability.payloadPlacement, Capability.bootModuleBundle, Capability.terminalImageLaunch]

def capabilityIsService (capability : Capabilities) : Bool :=
  serviceCapabilities.contains capability

def find (plugins : List PluginDescriptor) (kind : PluginKind) (id : List UInt8) :
    Option PluginDescriptor :=
  plugins.find? fun plugin => plugin.kind == kind && strcmp plugin.id id == 0

def isSelectedProvider (product : ProductDescriptor) (plugin : PluginDescriptor)
    (capability : Capabilities) : Bool :=
  product.pluginSelections.any fun selection =>
    selection.kind == plugin.kind && strcmp selection.id plugin.id == 0 &&
    plugin.provides &&& capability != 0

/-- Selections name a plugin of the registry each, in the order of their kinds. -/
def selectionsAreValid (plugins : List PluginDescriptor) :
    Option PluginSelection → List PluginSelection → Bool
  | _, [] => true
  | previous, selection :: rest =>
      if selection.kind == .unknown || selection.id.isEmpty ||
          previous.any (fun before => decide (selection.kind.value ≤ before.kind.value)) ||
          (find plugins selection.kind selection.id).isNone then false
      else selectionsAreValid plugins (some selection) rest

/-- The plugins that provide a capability, with their places. -/
def providersOf (plugins : List PluginDescriptor) (capability : Capabilities) :
    List (PluginDescriptor × Nat) :=
  plugins.zipIdx.filter fun entry => entry.1.provides &&& capability != 0

/-- The place of the provider that a dependency is drawn to. -/
def provider (plugins : List PluginDescriptor) (product : ProductDescriptor)
    (capability : Capabilities) : Except CoreStatus Nat := do
  let providers := providersOf plugins capability
  let chosen := providers.filter fun entry => isSelectedProvider product entry.1 capability
  refuse (decide (1 < chosen.length)) .ambiguousSelection
  let found ← demand providers.head? .missingCapability
  if capabilityIsAuthority capability then
    refuse (providers.length != 1) .duplicateProvider
    return found.2
  match chosen.head? with
  | some entry => return entry.2
  | none =>
      refuse (providers.length != 1) .ambiguousSelection
      return found.2

/-- What the first pass adds up. -/
structure Tally where
  arenaBudget : UInt64
  aggregate : Capabilities
  architectures : Nat
  environments : Nat
  personalities : Nat
  deriving DecidableEq, Repr

def Tally.start : Tally := ⟨0, 0, 0, 0, 0⟩

/-- A plugin fits the product, the mode and its predecessor in the array. -/
def admits (product : ProductDescriptor) (mode : Mode) (previous : Option PluginDescriptor)
    (plugin : PluginDescriptor) : Bool :=
  pluginDescriptorIsValid plugin && plugin.architectureMask &&& product.architectureMask != 0 &&
  frontendMatches product plugin.environmentMask plugin.personalityMask &&
  plugin.modeMask &&& mode.mask != 0 &&
  plugin.provides &&& ~~~product.allowedCapabilities == 0 &&
  decide (plugin.inputBudget ≤ product.limits.maxInputBytes) &&
  decide (plugin.outputBudget ≤ product.limits.maxHandoffBytes) &&
  decide (plugin.deadlineMs ≤ product.limits.operationDeadlineMs) &&
  !(plugin.phase == .runtime && product.kind != .firmware) &&
  !(plugin.kind == .firmwarePersonality && product.kind != .firmware) &&
  !(plugin.kind == .environment && product.kind == .firmware) &&
  previous.all fun before => decide (strcmp before.id plugin.id < 0)

def survey (product : ProductDescriptor) (mode : Mode) :
    Option PluginDescriptor → List PluginDescriptor → Tally → Except CoreStatus Tally
  | _, [], tally => .ok tally
  | previous, plugin :: rest, tally => do
      refuse (!admits product mode previous plugin) .invalidDescriptor
      refuse (decide (0xffffffffffffffff - plugin.arenaBudget < tally.arenaBudget)) .badLimit
      survey product mode (some plugin) rest {
        arenaBudget := tally.arenaBudget + plugin.arenaBudget
        aggregate := tally.aggregate ||| plugin.provides
        architectures := tally.architectures + if plugin.kind == .architecture then 1 else 0
        environments := tally.environments + if plugin.kind == .environment then 1 else 0
        personalities :=
          tally.personalities + if plugin.kind == .firmwarePersonality then 1 else 0 }

/-- The dependency graph: in-degrees, and for each provider the mask of its consumers. -/
structure Graph where
  indegree : List Nat
  dependencies : List (BitVec 64)
  deriving DecidableEq, Repr

def Graph.empty (count : Nat) : Graph := ⟨List.replicate count 0, List.replicate count 0⟩

/-- An edge that is there already is not counted again. -/
def Graph.connect (graph : Graph) (provider consumer : Nat) : Graph :=
  if graph.dependencies.getD provider 0 &&& Mask.bit 64 consumer == 0 then {
    indegree := graph.indegree.modify consumer (· + 1)
    dependencies := graph.dependencies.modify provider (· ||| Mask.bit 64 consumer) }
  else graph

/-- One bit of what a plugin requires. -/
def require (plugins : List PluginDescriptor) (product : ProductDescriptor)
    (aggregate : Capabilities) (consumer : PluginDescriptor) (place : Nat) (graph : Graph)
    (bit : Nat) : Except CoreStatus Graph := do
  let capability : Capabilities := Mask.bit 64 bit
  if consumer.requires &&& capability == 0 then
    return graph
  if capabilityIsService capability && aggregate &&& capability == 0 then
    refuse (product.requiredCapabilities &&& capability == 0) .missingCapability
    return graph
  let source ← provider plugins product capability
  refuse (source == place) .dependencyCycle
  refuse (plugins[source]?.any fun plugin =>
    decide (consumer.phase.value < plugin.phase.value)) .phaseInversion
  return graph.connect source place

def dependenciesOf (plugins : List PluginDescriptor) (product : ProductDescriptor)
    (aggregate : Capabilities) : Except CoreStatus Graph :=
  plugins.zipIdx.foldlM
    (fun graph entry => (List.range 64).foldlM (require plugins product aggregate entry.1 entry.2)
      graph)
    (Graph.empty plugins.length)

/-- The stack of plugins that wait for nobody, top first, beside the in-degrees. -/
structure Frontier where
  indegree : List Nat
  ready : List Nat
  deriving DecidableEq, Repr

/-- A consumer loses one provider, and is ready when it was the last. -/
def release (consumers : BitVec 64) (frontier : Frontier) (consumer : Nat) : Frontier :=
  if consumers &&& Mask.bit 64 consumer == 0 then frontier
  else {
    indegree := frontier.indegree.modify consumer (· - 1)
    ready :=
      if frontier.indegree.getD consumer 0 = 1 then consumer :: frontier.ready
      else frontier.ready }

/-- The `while` loop over the stack, with the number of turns it may take; `drain_turns` says
that as many turns as there are plugins are enough. -/
def drain (dependencies : List (BitVec 64)) (count : Nat) : Nat → Frontier → Nat → Nat
  | 0, _, visited => visited
  | turns + 1, frontier, visited =>
      match frontier.ready with
      | [] => visited
      | top :: rest =>
          drain dependencies count turns
            ((List.range count).foldl (release (dependencies.getD top 0))
              { frontier with ready := rest })
            (visited + 1)

def Graph.start (graph : Graph) : Frontier where
  indegree := graph.indegree
  ready := ((List.range graph.indegree.length).filter fun index =>
    graph.indegree.getD index 0 == 0).reverse

def visits (graph : Graph) (count : Nat) : Nat :=
  drain graph.dependencies count count graph.start 0

/-! ### The stack is empty before the turns run out -/

end Registry

def pluginRegistryValidate (registry : PluginRegistry) (product : ProductDescriptor)
    (mode : Mode) : Except CoreStatus Unit := do
  let plugins := registry.plugins
  refuse (registry.size != pluginRegistrySizeOf || registry.abiVersion != coreAbiVersion ||
    plugins.isEmpty || !productDescriptorIsValid product || !mode.isKnown ||
    decide (product.maxPlugins.toNat < plugins.length)) .invalidDescriptor
  let tally ← Registry.survey product mode none plugins .start
  refuse (!Registry.selectionsAreValid plugins none product.pluginSelections) .invalidDescriptor
  refuse ((List.range 64).any fun bit => Registry.capabilityIsAuthority (Mask.bit 64 bit) &&
    decide (1 < (Registry.providersOf plugins (Mask.bit 64 bit)).length)) .duplicateProvider
  refuse (decide (product.limits.arenaBytes < tally.arenaBudget) ||
    (product.kind == .bootloader && (tally.architectures != 1 || tally.environments != 1 ||
      tally.personalities != 0)) ||
    (product.kind == .firmware && (tally.architectures != 1 || tally.personalities != 1 ||
      tally.environments != 0))) .missingCapability
  refuse ((List.range 64).any fun bit =>
    product.requiredCapabilities &&& Mask.bit 64 bit != 0 &&
    !Registry.capabilityIsService (Mask.bit 64 bit) &&
    tally.aggregate &&& Mask.bit 64 bit == 0) .missingCapability
  let graph ← Registry.dependenciesOf plugins product tally.aggregate
  refuse (Registry.visits graph plugins.length != plugins.length) .dependencyCycle

end Ribon
