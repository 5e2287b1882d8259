/-
A manifest has one encoding.

The writer and the reader of manifests check their input by different code: the
writer checks a structure, the reader checks bytes.  Here the two are compared.
What the writer makes of a valid input is a header and one row for each
component, and the reader opens it to that input.  Bytes that the reader opens
are the bytes that the writer makes of what it read, since the reader has looked
at all of them.

Signature envelopes are different.  Their reader knows only the envelope, so it
takes any digests; whether they are those of a manifest is for the
authorization to find out.
-/
import Ribon.Update.Manifest

namespace Ribon.Manifest

open Wire

@[simp] theorem length_manifestMagic : manifestMagic.length = 32 := by decide +kernel
@[simp] theorem length_envelopeMagic : envelopeMagic.length = 32 := by decide +kernel

/-! ### What the writer makes -/

theorem writeFrom_patch {write : List UInt8 → List UInt8} {output data : List UInt8}
    {offset k : Nat} (hwrite : ∀ l, (write l).length = l.length)
    (h : offset + k + data.length ≤ output.length) :
    writeFrom output offset (fun l => patch (write l) k data) =
      patch (writeFrom output offset write) (offset + k) data := by
  have hfront : (output.take offset).length = offset := by rw [List.length_take]; omega
  unfold writeFrom
  conv_rhs => rw [← hfront]
  rw [hfront, ← patch_append_right (by rw [hwrite, List.length_drop]; omega), hfront]

theorem writeFrom_self (output : List UInt8) (offset : Nat) :
    writeFrom output offset (fun l => l) = output := by
  rw [writeFrom, List.take_append_drop]

/-- A directory entry as patches of the whole buffer. -/
theorem writeFrom_directoryEntry {output : List UInt8} {base : Nat} (type : UInt32)
    (offset length : UInt64) (count entrySize : UInt32) (h : base + 32 ≤ output.length) :
    writeFrom output base (fun entry => writeDirectoryEntry entry type offset length count
        entrySize) =
      patch (patch (patch (patch (patch (patch output (base + 0) (storeU32 type)) (base + 4)
        (storeU32 0)) (base + 8) (storeU64 offset)) (base + 16) (storeU64 length)) (base + 24)
        (storeU32 count)) (base + 28) (storeU32 entrySize) := by
  unfold writeDirectoryEntry
  simp only
  iterate 6 rw [writeFrom_patch (by simp) (by simp; omega)]
  rw [writeFrom_self]

/-- The row that a component is written as. -/
def rowWire (component : ManifestComponent) : List UInt8 :=
  encodeComponent component (List.replicate componentBytes 0)

@[simp] theorem length_rowWire (component : ManifestComponent) :
    (rowWire component).length = componentBytes := by
  simp only [rowWire, encodeComponent, length_patch, List.length_replicate]

/-- Writing a row touches nothing behind it. -/
theorem encodeComponent_append (component : ManifestComponent) {row rest : List UInt8}
    (h : row.length = componentBytes) :
    encodeComponent component (row ++ rest) = encodeComponent component row ++ rest := by
  unfold componentBytes at h
  unfold encodeComponent
  simp (disch := (simp only [length_patch, Digest.length_val, length_storeU16, length_storeU32,
    length_storeU64]; omega)) only [patch_append]

theorem encodeComponents_eq (components : List ManifestComponent) {front : List UInt8} {index : Nat}
    (h : front.length = componentsOffset + index * componentBytes) :
    encodeComponents (front ++ List.replicate (components.length * componentBytes) 0) index
      components = front ++ components.flatMap rowWire := by
  induction components generalizing front index with
  | nil => simp [encodeComponents]
  | cons component rest ih =>
      have hsplit : List.replicate ((component :: rest).length * componentBytes) (0 : UInt8) =
          List.replicate componentBytes 0 ++ List.replicate (rest.length * componentBytes) 0 := by
        rw [List.length_cons, Nat.succ_mul, Nat.add_comm, List.replicate_append_replicate]
      unfold encodeComponents
      rw [hsplit, ← h, writeFrom, List.take_left, List.drop_left,
        encodeComponent_append _ (List.length_replicate ..), ← List.append_assoc,
        ih (by rw [List.length_append, h, ← rowWire, length_rowWire, Nat.succ_mul]; omega),
        List.flatMap_cons, List.append_assoc]
      rfl

/-! The header in three parts, the directory entries written out as patches. -/

def headerPart (input : ManifestInput) (totalSize : UInt64) (count : UInt32)
    (output : List UInt8) : List UInt8 :=
  let output := patch output 0 manifestMagic
  let output := patch output 32 (storeU16 1)
  let output := patch output 34 (storeU16 0)
  let output := patch output 36 (storeU32 256)
  let output := patch output 40 (storeU64 totalSize)
  let output := patch output 48 (storeU32 2)
  let output := patch output 52 (storeU32 count)
  let output := patch output 56 (storeU64 input.bundleGeneration)
  let output := patch output 64 (storeU64 input.predecessorGeneration)
  let output := patch output 72 (storeU64 input.rollbackSequence)
  let output := patch output 80 (storeU64 input.creationPolicyVersion)
  let output := patch output 88 (storeU16 1)
  let output := patch output 90 (storeU16 1)
  let output := patch output 92 (storeU16 input.mode.code)
  patch output 96 input.schemaDigest.1

def directoryPart (count : UInt32) (output : List UInt8) : List UInt8 :=
  let output := patch output 128 (storeU32 1)
  let output := patch output 132 (storeU32 0)
  let output := patch output 136 (storeU64 256)
  let output := patch output 144 (storeU64 256)
  let output := patch output 152 (storeU32 1)
  let output := patch output 156 (storeU32 256)
  let output := patch output 160 (storeU32 2)
  let output := patch output 164 (storeU32 0)
  let output := patch output 168 (storeU64 512)
  let output := patch output 176 (storeU64 (count.toUInt64 * 192))
  let output := patch output 184 (storeU32 count)
  patch output 188 (storeU32 192)

def bindingPart (input : ManifestInput) (output : List UInt8) : List UInt8 :=
  let output := patch output 256 input.productDigest.1
  let output := patch output 288 input.architectureDigest.1
  let output := patch output 320 input.platformDigest.1
  let output := patch output 352 input.environmentDigest.1
  let output := patch output 384 input.protocolDigest.1
  let output := patch output 416 input.rollbackDomainDigest.1
  let output := patch output 448 (storeU16 input.protocolMajor)
  let output := patch output 450 (storeU16 input.protocolMinor)
  let output := patch output 452 (storeU32 input.minimumHardwareRevision)
  patch output 456 (storeU32 input.maximumHardwareRevision)

section Header

variable (input : ManifestInput) (totalSize : UInt64) (count : UInt32)

@[simp] theorem length_headerPart (output : List UInt8) :
    (headerPart input totalSize count output).length = output.length := by
  simp only [headerPart, length_patch]

@[simp] theorem length_directoryPart (output : List UInt8) :
    (directoryPart count output).length = output.length := by
  simp only [directoryPart, length_patch]

theorem encodeHeader_eq {output : List UInt8} (h : componentsOffset ≤ output.length) :
    encodeHeader input totalSize count output =
      bindingPart input (directoryPart count (headerPart input totalSize count output)) := by
  have hlength : ∀ base, base + 32 ≤ 256 →
      base + 32 ≤ (headerPart input totalSize count output).length := by
    intro base hbase
    rw [length_headerPart]
    exact (Nat.le_trans hbase (by decide)).trans h
  have hfirst := writeFrom_directoryEntry 1 256 256 1 256 (hlength 128 (by omega))
  show bindingPart input (writeFrom (writeFrom (headerPart input totalSize count output) 128
    fun entry => writeDirectoryEntry entry 1 256 256 1 256) 160
    fun entry => writeDirectoryEntry entry 2 512 (count.toUInt64 * 192) count 192) = _
  rw [hfirst, writeFrom_directoryEntry]
  · rfl
  · simpa only [length_patch] using hlength 160 (by omega)

/-- The header, the section directory and the binding of a manifest. -/
def headerWire : List UInt8 :=
  bindingPart input (directoryPart count
    (headerPart input totalSize count (List.replicate componentsOffset 0)))

@[simp] theorem length_headerWire : (headerWire input totalSize count).length = 512 := by
  simp only [headerWire, bindingPart, length_patch, length_directoryPart, length_headerPart,
    List.length_replicate]
  rfl

/-- Writing the header touches nothing behind it. -/
theorem encodeHeader_append (rest : List UInt8) :
    encodeHeader input totalSize count (List.replicate componentsOffset 0 ++ rest) =
      headerWire input totalSize count ++ rest := by
  rw [encodeHeader_eq _ _ _ (by simp), headerWire]
  unfold bindingPart directoryPart headerPart componentsOffset headerBytes bindingBytes
  simp (disch := (simp only [length_patch, Digest.length_val, length_storeU16, length_storeU32,
    length_storeU64, length_manifestMagic, List.length_replicate]; omega)) only [patch_append]

end Header

/-! ### Reading what was written -/

/-- A component as the reader gives it. -/
def componentView (component : ManifestComponent) : ComponentView := { component with }

@[simp] theorem role_ofCode_code (role : ComponentRole) : ComponentRole.ofCode role.code = role := by
  cases role <;> rfl

@[simp] theorem destination_ofCode_code (destination : DestinationClass) :
    DestinationClass.ofCode destination.code = destination := by
  cases destination <;> rfl

@[simp] theorem format_ofCode_code (format : ImageFormat) :
    ImageFormat.ofCode format.code = format := by
  cases format <;> rfl

/-- The words of a row. -/
theorem rowWire_fields (component : ManifestComponent) :
    let row := rowWire component
    Digest.read (row.drop 0) = component.logicalIdDigest ∧
      Digest.read (row.drop 32) = component.contentDigest ∧
      Digest.read (row.drop 64) = component.destinationIdDigest ∧
      Digest.read (row.drop 96) = component.entryContractDigest ∧
      loadU64 (row.drop 128) = component.bundleOffset ∧
      loadU64 (row.drop 136) = component.exactSize ∧
      loadU64 (row.drop 144) = component.maximumSize ∧
      loadU16 (row.drop 152) = component.role.code ∧
      loadU16 (row.drop 154) = component.destinationClass.code ∧
      loadU16 (row.drop 156) = component.imageFormat.code ∧
      loadU16 (row.drop 158) = component.flags.toUInt16 ∧
      loadU32 (row.drop 160) = component.installOrder := by
  simp [-List.reduceReplicate, -List.drop_zero, rowWire, encodeComponent, componentBytes]

/-- A row is read back as its component, up to flags that do not fit. -/
theorem decodeComponent_rowWire (component : ManifestComponent) (rest : List UInt8)
    (hflags : component.flags.toUInt16.toUInt32 = component.flags) :
    decodeComponent (rowWire component ++ rest) = componentView component := by
  have hlength : (rowWire component).length = 192 := length_rowWire component
  have hhead : Digest.read (rowWire component ++ rest) = Digest.read ((rowWire component).drop 0) :=
    Digest.read_append (k := 0) (by omega)
  obtain ⟨hlogical, hcontent, hdst, hentry, hoff, hexact, hmax, hrole, hclass,
    hformat, hflag, horder⟩ := rowWire_fields component
  unfold decodeComponent
  simp (disch := omega) only [hhead, loadU16_append, loadU32_append, loadU64_append,
    Digest.read_append, hlogical, hcontent, hdst, hentry, hoff, hexact, hmax, hrole,
    hclass, hformat, hflag, horder, role_ofCode_code, destination_ofCode_code, format_ofCode_code,
    hflags]
  rfl

theorem rowWire_tail (component : ManifestComponent) (rest : List UInt8) :
    bytesZero ((rowWire component ++ rest).drop 164) 28 = true := by
  have hlength : (rowWire component).length = 192 := length_rowWire component
  rw [bytesZero_append (by omega)]
  simp [-List.reduceReplicate, rowWire, encodeComponent, componentBytes]

/-- The whole manifest that an input is written as. -/
def manifestWire (input : ManifestInput) : List UInt8 :=
  let components := input.components.getD []
  headerWire input (UInt64.ofNat (componentsOffset + components.length * componentBytes))
    (UInt32.ofNat components.length) ++ components.flatMap rowWire

variable {bytes : List UInt8}

theorem manifestEncode_eq_ok {input : ManifestInput} {capacity : Option Nat} :
    manifestEncode input capacity = .ok bytes ↔
      inputValidate input = .ok () ∧ bytes = manifestWire input ∧
        ∃ size ∈ capacity, componentsOffset + (input.components.getD []).length * componentBytes ≤
          size := by
  have hwire : ∀ n, encodeComponents (encodeHeader input n
      (UInt32.ofNat (input.components.getD []).length)
      (List.replicate (componentsOffset + (input.components.getD []).length * componentBytes) 0)) 0
      (input.components.getD []) = headerWire input n
        (UInt32.ofNat (input.components.getD []).length) ++
          (input.components.getD []).flatMap rowWire := by
    intro n
    rw [← List.replicate_append_replicate, encodeHeader_append, encodeComponents_eq]
    rw [length_headerWire]
    rfl
  simp only [manifestEncode, bind_eq_ok, refuse_eq_ok, pure_eq_ok, hwire, Unique.exists_iff]
  refine and_congr_right fun _ => ?_
  cases capacity with
  | none => simp
  | some size =>
      simp only [Option.all_some, decide_eq_false_iff_not, Nat.not_lt, Option.mem_def,
        Option.some.injEq, exists_eq_left', eq_comm (a := bytes), and_comm]
      rfl

/-! ### The two component loops -/

/-- The fields of a component that are not written. -/
@[mk_iff] structure NativeComponent (component : ManifestComponent) : Prop where
  size : component.size = componentSizeOf
  abiVersion : component.abiVersion = abiVersion
  reserved0 : component.reserved0 = 0
  reserved : reservedZero component.reserved = true

/-- The writer asks of a component what the reader asks of its row. -/
theorem componentInputIsValid_iff (component : ManifestComponent) {row : List UInt8} (order : Nat)
    (hzero : bytesZero (row.drop 164) 28 = true) :
    componentInputIsValid component order = true ↔
      NativeComponent component ∧
        componentViewIsValid row (componentView component) order = true := by
  simp only [componentInputIsValid, componentViewIsValid, componentView, hzero, Bool.and_eq_true,
    beq_iff_eq, and_true, nativeComponent_iff]
  exact iff_of_eq (by ac_rfl)

/-- The rows of a buffer are those of the components. -/
def RowsAre (bytes : List UInt8) (components : List ManifestComponent) : Prop :=
  ∀ index component, components[index]? = some component →
    decodeComponent (componentRow bytes index) = componentView component ∧
      bytesZero ((componentRow bytes index).drop 164) 28 = true

variable {before rest : List ManifestComponent}

/-- Comparing a component with every earlier row is comparing it with every earlier component. -/
theorem all_range_iff (hrows : RowsAre bytes (before ++ rest)) (differs : ComponentView → Bool) :
    (List.range before.length).all (fun other => differs (decodeComponent (componentRow bytes other)))
      = true ↔ before.any (fun previous => !differs (componentView previous)) = false := by
  rw [List.all_eq_true, List.any_eq_false]
  constructor
  · intro hall previous hprev
    obtain ⟨other, hother⟩ := List.mem_iff_getElem?.mp hprev
    have hlt : other < before.length := (List.getElem?_eq_some_iff.mp hother).1
    have hrow := (hrows other previous (by rw [List.getElem?_append_left hlt]; exact hother)).1
    have hdiffers := hall other (List.mem_range.mpr hlt)
    rw [hrow] at hdiffers
    simp [hdiffers]
  · intro hall other hother
    have hlt := List.mem_range.mp hother
    have hget : (before ++ rest)[other]? = some before[other] := by
      rw [List.getElem?_append_left hlt, List.getElem?_eq_getElem hlt]
    rw [(hrows other _ hget).1]
    simpa using hall before[other] (List.getElem_mem hlt)

/-- **The loop of the writer and the loop of the reader accept the same components.** -/
theorem inputComponentsAreValid_iff (hrows : RowsAre bytes (before ++ rest))
    (kernels policies recoveries : Nat) :
    inputComponentsAreValid before rest kernels policies recoveries = .ok () ↔
      (∀ component ∈ rest, NativeComponent component) ∧
        componentsAreValid bytes (List.range' before.length rest.length) kernels policies
          recoveries = true := by
  induction rest generalizing before kernels policies recoveries with
  | nil => simp [inputComponentsAreValid, componentsAreValid]
  | cons component rest ih =>
      have hself : (before ++ component :: rest)[before.length]? = some component := by simp
      obtain ⟨hrow, hzero⟩ := hrows _ _ hself
      have happend : before ++ component :: rest = (before ++ [component]) ++ rest := by simp
      have hnext := happend ▸ hrows
      have hvalid := componentInputIsValid_iff component before.length hzero
      have hothers := all_range_iff hrows fun previous =>
        !component.logicalIdDigest.equal previous.logicalIdDigest &&
        !rangesOverlap component.bundleOffset component.exactSize
          previous.bundleOffset previous.exactSize
      simp only [Bool.not_and, Bool.not_not] at hothers
      rw [List.length_cons, List.range'_succ]
      simp only [inputComponentsAreValid, componentsAreValid, bind_eq_ok, refuse_eq_ok,
        Unique.exists_iff, hrow, ih hnext, Bool.and_eq_true, Bool.not_eq_false', hvalid,
        List.forall_mem_cons, Bool.or_eq_false_iff, decide_eq_false_iff_not, decide_eq_true_eq,
        Nat.not_lt, List.length_append, List.length_singleton]
      simp only [componentView] at hothers ⊢
      rw [hothers]
      tauto

/-! ### The two checks of the header -/

/-- What writer and reader both ask of the fields of the header. -/
@[mk_iff] structure HeaderValid (view : ManifestView) : Prop where
  mode : modeIsValid view.mode = true
  generation : view.bundleGeneration ≠ 0
  predecessor : view.predecessorGeneration < view.bundleGeneration
  revisions : view.minimumHardwareRevision ≤ view.maximumHardwareRevision
  schema : digestIsValid view.schemaDigest = true
  product : digestIsValid view.productDigest = true
  architecture : digestIsValid view.architectureDigest = true
  platform : digestIsValid view.platformDigest = true
  environment : digestIsValid view.environmentDigest = true
  protocol : digestIsValid view.protocolDigest = true
  rollbackDomain : digestIsValid view.rollbackDomainDigest = true

/-- The fields of an input that are not written. -/
@[mk_iff] structure NativeInput (input : ManifestInput) : Prop where
  size : input.size = inputSizeOf
  abiVersion : input.abiVersion = abiVersion
  flags : input.flags = 0
  components : input.components.isSome = true
  reserved0 : input.reserved0 = 0
  reserved : reservedZero input.reserved = true

/-- The view that an input is opened as. -/
def viewFor (input : ManifestInput) : ManifestView :=
  { input with
    bytes := manifestWire input
    componentCount := UInt32.ofNat (input.components.getD []).length }

theorem inputValidate_iff {input : ManifestInput} :
    inputValidate input = .ok () ↔
      NativeInput input ∧ HeaderValid (viewFor input) ∧
        (input.components.getD []).length ≠ 0 ∧
        (input.components.getD []).length ≤ maxComponents ∧
        inputComponentsAreValid [] (input.components.getD []) 0 0 0 = .ok () := by
  simp only [inputValidate, bind_eq_ok, refuse_eq_ok, Unique.exists_iff, Bool.or_eq_false_iff,
    bne_eq_false_iff_eq, Bool.not_eq_false', beq_eq_false_iff_ne, decide_eq_false_iff_not,
    UInt64.not_le, UInt32.not_lt, Nat.not_lt, Option.isNone_eq_false_iff, nativeInput_iff,
    headerValid_iff, viewFor]
  exact iff_of_eq (by ac_rfl)

/-- The section directory, by the offsets of its words. -/
theorem directoryIsValid_iff {count : UInt32} :
    directoryIsValid bytes count = true ↔
      loadU32 (bytes.drop 128) = 1 ∧ loadU32 (bytes.drop 132) = 0 ∧ loadU64 (bytes.drop 136) = 256 ∧
      loadU64 (bytes.drop 144) = 256 ∧ loadU32 (bytes.drop 152) = 1 ∧
      loadU32 (bytes.drop 156) = 256 ∧ loadU32 (bytes.drop 160) = 2 ∧
      loadU32 (bytes.drop 164) = 0 ∧ loadU64 (bytes.drop 168) = 512 ∧
      loadU64 (bytes.drop 176) = count.toUInt64 * 192 ∧ loadU32 (bytes.drop 184) = count ∧
      loadU32 (bytes.drop 188) = 192 ∧ bytesZero (bytes.drop 192) 64 = true := by
  simp only [directoryIsValid, directoryOffset, directoryEntryBytes, List.drop_drop, Nat.reduceAdd,
    Nat.reduceMul, Bool.and_eq_true, beq_iff_eq, and_assoc]
  rfl

/-- What the reader finds in a header. -/
structure HeaderRead (bytes : List UInt8) (view : ManifestView) (totalSize : UInt64) : Prop where
  magic : bytesEqual bytes manifestMagic 32 = true
  major : loadU16 (bytes.drop 32) = 1
  minor : loadU16 (bytes.drop 34) = 0
  header : loadU32 (bytes.drop 36) = 256
  total : loadU64 (bytes.drop 40) = totalSize
  sections : loadU32 (bytes.drop 48) = 2
  count : loadU32 (bytes.drop 52) = view.componentCount
  generation : loadU64 (bytes.drop 56) = view.bundleGeneration
  predecessor : loadU64 (bytes.drop 64) = view.predecessorGeneration
  sequence : loadU64 (bytes.drop 72) = view.rollbackSequence
  policy : loadU64 (bytes.drop 80) = view.creationPolicyVersion
  hash : loadU16 (bytes.drop 88) = 1
  signature : loadU16 (bytes.drop 90) = 1
  mode : loadU16 (bytes.drop 92) = view.mode.code
  pad : loadU16 (bytes.drop 94) = 0
  schema : Digest.read (bytes.drop 96) = view.schemaDigest
  directory : directoryIsValid bytes view.componentCount = true
  product : Digest.read (bytes.drop 256) = view.productDigest
  architecture : Digest.read (bytes.drop 288) = view.architectureDigest
  platform : Digest.read (bytes.drop 320) = view.platformDigest
  environment : Digest.read (bytes.drop 352) = view.environmentDigest
  protocol : Digest.read (bytes.drop 384) = view.protocolDigest
  rollbackDomain : Digest.read (bytes.drop 416) = view.rollbackDomainDigest
  protocolMajor : loadU16 (bytes.drop 448) = view.protocolMajor
  protocolMinor : loadU16 (bytes.drop 450) = view.protocolMinor
  minimum : loadU32 (bytes.drop 452) = view.minimumHardwareRevision
  maximum : loadU32 (bytes.drop 456) = view.maximumHardwareRevision
  tail : bytesZero (bytes.drop 460) 52 = true

theorem headerRead_headerWire (input : ManifestInput) (totalSize : UInt64) (count : UInt32) :
    HeaderRead (headerWire input totalSize count) { viewFor input with componentCount := count }
      totalSize := by
  constructor
  case directory =>
    rw [directoryIsValid_iff]
    simp [-List.reduceReplicate, headerWire, bindingPart, directoryPart, headerPart,
      componentsOffset, headerBytes, bindingBytes]
  all_goals
    simp [-List.reduceReplicate, headerWire, bindingPart, directoryPart, headerPart, viewFor,
      componentsOffset, headerBytes, bindingBytes]

/-- A header is read from its own bytes. -/
theorem HeaderRead.append {front : List UInt8} {view : ManifestView} {totalSize : UInt64}
    (h : HeaderRead front view totalSize) (hlength : front.length = 512) (rest : List UInt8) :
    HeaderRead (front ++ rest) view totalSize := by
  have hdir := directoryIsValid_iff.mp h.directory
  cases h
  constructor
  case directory =>
    rw [directoryIsValid_iff]
    simp (disch := omega) only [loadU32_append, loadU64_append, bytesZero_append]
    exact hdir
  all_goals
    simp (disch := omega) only [loadU16_append, loadU32_append, loadU64_append, Digest.read_append,
      bytesZero_append, bytesEqual_append]
    assumption

@[simp] theorem mode_ofCode_code (mode : KeyPolicyMode) : KeyPolicyMode.ofCode mode.code = mode := by
  cases mode <;> rfl

variable {value : UInt16}

theorem mode_code_ofCode (h : KeyPolicyMode.ofCode value ≠ .invalid) :
    (KeyPolicyMode.ofCode value).code = value := by
  unfold KeyPolicyMode.ofCode at h ⊢
  split_ifs at h ⊢ <;> simp_all [KeyPolicyMode.code]

theorem manifestOpen_iff {view : ManifestView} :
    manifestOpen (.mem bytes) = .ok view ↔
      HeaderRead bytes view (UInt64.ofNat bytes.length) ∧ HeaderValid view ∧
        view.componentCount ≠ 0 ∧ view.componentCount.toNat ≤ maxComponents ∧
        componentsAreValid bytes (List.range view.componentCount.toNat) 0 0 0 = true ∧
        view.bytes = bytes ∧
        bytes.length = componentsOffset + view.componentCount.toNat * componentBytes := by
  have hsize : (View.mem bytes).size = bytes.length := rfl
  have hdata : (View.mem bytes).data = bytes := rfl
  have hnull : (View.mem bytes).isNull = false := rfl
  have hoff : bindingOffset = 256 := rfl
  simp only [manifestOpen, bind_eq_ok, refuse_eq_ok, Unique.exists_iff, pure_eq_ok, hsize, hdata,
    hnull, true_and, Bool.or_eq_false_iff, bne_eq_false_iff_eq, Bool.not_eq_false',
    beq_eq_false_iff_ne, decide_eq_false_iff_not, UInt64.not_le, Nat.not_lt, bindingIsValid,
    Bool.and_eq_true, decide_eq_true_eq, viewOf, List.drop_drop, hoff, Nat.reduceAdd]
  constructor
  · rintro ⟨hrange, hmagic, ⟨hmajor, hminor⟩, ⟨⟨hhdr, htotal⟩, hsections⟩, ⟨hhash, hsig⟩,
      ⟨⟨⟨⟨hempty, hmany⟩, hmode⟩, hpad⟩, hschema⟩, ⟨hgen, hpred⟩, hlength, hdir,
      ⟨⟨⟨⟨⟨⟨⟨hprod, harch⟩, hplatform⟩, henv⟩, hproto⟩, hdomain⟩, hrevisions⟩,
      htail⟩, hloop, rfl⟩
    have hcode := (mode_code_ofCode (by simpa [modeIsValid] using hmode)).symm
    exact ⟨⟨hmagic, hmajor, hminor, hhdr, htotal, hsections, rfl, rfl, rfl, rfl, rfl, hhash,
      hsig, hcode, hpad, rfl, hdir, rfl, rfl, rfl, rfl, rfl, rfl, rfl, rfl, rfl, rfl,
      htail⟩, ⟨hmode, hgen, hpred, hrevisions, hschema, hprod, harch,
      hplatform, henv, hproto, hdomain⟩, hempty, hmany, hloop, rfl, hlength.symm⟩
  · rintro ⟨h, valid, hempty, hmany, hloop, rfl, hlength⟩
    have hcount : 0 < view.componentCount.toNat := by
      rw [Nat.pos_iff_ne_zero]
      exact fun h => hempty (UInt32.toNat_inj.mp h)
    rw [h.count, h.generation, h.predecessor, h.sequence, h.policy, h.mode, h.schema, h.product,
      h.architecture, h.platform, h.environment, h.protocol, h.rollbackDomain, h.protocolMajor,
      h.protocolMinor, h.minimum, h.maximum, mode_ofCode_code]
    refine ⟨⟨?_, ?_⟩, h.magic, ⟨h.major, h.minor⟩, ⟨⟨h.header, h.total⟩, h.sections⟩,
      ⟨h.hash, h.signature⟩, ⟨⟨⟨⟨hempty, hmany⟩, valid.mode⟩, h.pad⟩, valid.schema⟩,
      ⟨valid.generation, valid.predecessor⟩, hlength.symm, h.directory,
      ⟨⟨⟨⟨⟨⟨⟨valid.product, valid.architecture⟩, valid.platform⟩, valid.environment⟩,
      valid.protocol⟩, valid.rollbackDomain⟩, valid.revisions⟩, h.tail⟩, hloop, rfl⟩
    · rw [hlength]
      unfold componentBytes
      omega
    · rw [hlength]
      unfold componentBytes
      omega

/-! ### What is written is opened -/

/-- Flags that are registered fit into the halfword they are written as. -/
theorem flags_fit {flags : UInt32} (h : (flags &&& ~~~ componentRequired) = 0) :
    flags.toUInt16.toUInt32 = flags := by
  have hbits : flags.toBitVec &&& ~~~ componentRequired.toBitVec = 0#32 := by
    rw [← UInt32.toBitVec_not, ← UInt32.toBitVec_and, h]
    rfl
  apply UInt32.eq_of_toBitVec_eq
  apply BitVec.eq_of_getLsbD_eq
  intro i hi
  have hbit := congrArg (fun b => b.getLsbD i) hbits
  have hone : componentRequired.toBitVec.getLsbD i = decide (i = 0) := by
    unfold componentRequired
    interval_cases i <;> rfl
  simp only [BitVec.getLsbD_and, BitVec.getLsbD_not, hone, BitVec.getLsbD_zero, hi, decide_true,
    Bool.true_and] at hbit
  simp only [UInt16.toBitVec_toUInt32, UInt32.toBitVec_toUInt16, BitVec.getLsbD_setWidth, hi,
    decide_true, Bool.true_and]
  by_cases hlow : i < 16
  · simp [hlow]
  · have hne : i ≠ 0 := by omega
    simp only [hne, decide_false, Bool.not_false, Bool.and_true] at hbit
    simp [hbit]

theorem flags_of_inputComponentsAreValid {kernels policies recoveries : Nat}
    (h : inputComponentsAreValid before rest kernels policies recoveries = .ok ()) :
    ∀ component ∈ rest, component.flags.toUInt16.toUInt32 = component.flags := by
  induction rest generalizing before kernels policies recoveries with
  | nil => simp
  | cons component rest ih =>
      simp only [inputComponentsAreValid, bind_eq_ok, refuse_eq_ok, Unique.exists_iff,
        Bool.not_eq_false'] at h
      obtain ⟨hvalid, -, -, hrest⟩ := h
      simp only [componentInputIsValid, Bool.and_eq_true, beq_iff_eq] at hvalid
      exact List.forall_mem_cons.mpr ⟨flags_fit (by tauto), ih hrest⟩

section Written

variable {input : ManifestInput}

theorem componentRow_manifestWire (input : ManifestInput) (index : Nat) :
    componentRow (manifestWire input) index =
      ((input.components.getD []).drop index).flatMap rowWire := by
  unfold componentRow manifestWire
  rw [← List.drop_drop, show componentsOffset = 512 from rfl,
    List.drop_left' (length_headerWire ..), drop_rows length_rowWire]

theorem rowsAre_manifestWire
    (hflags : ∀ component ∈ input.components.getD [],
      component.flags.toUInt16.toUInt32 = component.flags) :
    RowsAre (manifestWire input) (input.components.getD []) := by
  intro index component hcomp
  have hdrop : (input.components.getD []).drop index =
      component :: (input.components.getD []).drop (index + 1) := by
    obtain ⟨hlt, hget⟩ := List.getElem?_eq_some_iff.mp hcomp
    rw [List.drop_eq_getElem_cons hlt, hget]
  rw [componentRow_manifestWire, hdrop, List.flatMap_cons]
  exact ⟨decodeComponent_rowWire _ _ (hflags component (List.mem_of_getElem? hcomp)),
    rowWire_tail _ _⟩

theorem length_manifestWire (input : ManifestInput) :
    (manifestWire input).length =
      componentsOffset + (input.components.getD []).length * componentBytes := by
  rw [manifestWire, List.length_append, length_headerWire, length_rows length_rowWire]
  rfl

theorem viewFor_count (hmany : (input.components.getD []).length ≤ maxComponents) :
    (viewFor input).componentCount.toNat = (input.components.getD []).length := by
  show (UInt32.ofNat _).toNat = _
  unfold maxComponents at hmany
  rw [UInt32.toNat_ofNat']
  omega

theorem headerRead_manifestWire (input : ManifestInput) :
    HeaderRead (manifestWire input) (viewFor input) (UInt64.ofNat (manifestWire input).length) := by
  rw [length_manifestWire]
  exact (headerRead_headerWire input _ _).append (length_headerWire ..) _

/-- **What the writer makes of a valid input is opened**, as that input. -/
theorem manifestOpen_manifestWire (h : inputValidate input = .ok ()) :
    manifestOpen (.mem (manifestWire input)) = .ok (viewFor input) := by
  obtain ⟨-, hhdr, hempty, hmany, hloop⟩ := inputValidate_iff.mp h
  have hcount := viewFor_count hmany
  have hrows := rowsAre_manifestWire (flags_of_inputComponentsAreValid hloop)
  rw [manifestOpen_iff]
  refine ⟨headerRead_manifestWire input, hhdr, ?_, ?_, ?_, rfl, ?_⟩
  · intro hzero
    rw [← hcount, hzero] at hempty
    exact hempty rfl
  · rw [hcount]
    exact hmany
  · rw [hcount, List.range_eq_range']
    exact ((@inputComponentsAreValid_iff _ [] _ hrows 0 0 0).mp hloop).2
  · rw [length_manifestWire, hcount]

end Written

/-! ### What is opened was written -/

/-- The component that a row is the encoding of. -/
def componentOf (view : ComponentView) : ManifestComponent :=
  { view with
    size := componentSizeOf
    abiVersion := abiVersion
    reserved0 := 0
    reserved := Reserved.none }

/-- The components of a manifest as the writer would take them. -/
def componentsOf (bytes : List UInt8) (count : Nat) : List ManifestComponent :=
  (List.range count).map fun index => componentOf (decodeComponent (componentRow bytes index))

/-- The input that a manifest is the encoding of. -/
def inputOf (view : ManifestView) : ManifestInput :=
  { view with
    size := inputSizeOf
    abiVersion := abiVersion
    flags := 0
    components := some (componentsOf view.bytes view.componentCount.toNat)
    reserved0 := 0
    reserved := Reserved.none }

theorem role_code_ofCode (h : ComponentRole.ofCode value ≠ .invalid) :
    (ComponentRole.ofCode value).code = value := by
  unfold ComponentRole.ofCode at h ⊢
  split_ifs at h ⊢ <;> simp_all [ComponentRole.code]

theorem destination_code_ofCode (h : DestinationClass.ofCode value ≠ .invalid) :
    (DestinationClass.ofCode value).code = value := by
  unfold DestinationClass.ofCode at h ⊢
  split_ifs at h ⊢ <;> simp_all [DestinationClass.code]

theorem format_code_ofCode (h : ImageFormat.ofCode value ≠ .invalid) :
    (ImageFormat.ofCode value).code = value := by
  unfold ImageFormat.ofCode at h ⊢
  split_ifs at h ⊢ <;> simp_all [ImageFormat.code]

theorem roleDestinationIsValid_ne {role : ComponentRole} {destination : DestinationClass}
    (h : roleDestinationIsValid role destination = true) :
    role ≠ .invalid ∧ destination ≠ .invalid := by
  cases role <;> cases destination <;> first | exact ⟨by decide, by decide⟩ | cases h

/-- A row that the reader accepts is the encoding of what it read. -/
theorem take_row {row : List UInt8} {order : Nat} (hlength : componentBytes ≤ row.length)
    (h : componentViewIsValid row (decodeComponent row) order = true) :
    row.take componentBytes = rowWire (componentOf (decodeComponent row)) := by
  simp only [componentViewIsValid, Bool.and_eq_true] at h
  obtain ⟨⟨⟨⟨⟨⟨⟨⟨⟨⟨⟨-, -⟩, hroles⟩, hformats⟩, -⟩, -⟩, -⟩, -⟩, -⟩, -⟩, -⟩, hzero⟩ := h
  obtain ⟨hrole, hclass⟩ := roleDestinationIsValid_ne hroles
  have hformat : (decodeComponent row).imageFormat ≠ .invalid := by
    simpa [imageFormatIsValid] using hformats
  obtain ⟨f0, f1, f2, f3, f4, f5, f6, f7, f8, f9, f10, f11⟩ :=
    rowWire_fields (componentOf (decodeComponent row))
  have hzero' := rowWire_tail (componentOf (decodeComponent row)) []
  rw [List.append_nil] at hzero'
  generalize hwire : rowWire (componentOf (decodeComponent row)) = wire at *
  have hlen : wire.length = 192 := by rw [← hwire, length_rowWire]; rfl
  unfold componentBytes at hlength ⊢
  -- field after field, the row and its encoding agree
  have h0 : row.take 0 = wire.take 0 := rfl
  have h1 := Digest.take_read h0 rfl f0
  have h2 := Digest.take_read h1 rfl f1
  have h3 := Digest.take_read h2 rfl f2
  have h4 := Digest.take_read h3 rfl f3
  have h5 := take_u64 h4 rfl f4
  have h6 := take_u64 h5 rfl f5
  have h7 := take_u64 h6 rfl f6
  have h8 := take_u16 h7 (role_code_ofCode hrole).symm f7
  have h9 := take_u16 h8 (destination_code_ofCode hclass).symm f8
  have h10 := take_u16 h9 (format_code_ofCode hformat).symm f9
  have h11 := take_u16 h10 (by simp [componentOf, decodeComponent]) f10
  have h12 := take_u32 h11 rfl f11
  have h13 := take_zero h12 hzero hzero'
  rw [h13, List.take_of_length_le (by omega)]

section Opened

variable {bytes : List UInt8} {view : ManifestView}

/-- The section directory holds nothing but the number of components. -/
theorem take_directory {as bs : List UInt8} {count : UInt32} (ha : 512 ≤ as.length)
    (hb : 512 ≤ bs.length) (a : directoryIsValid as count = true)
    (b : directoryIsValid bs count = true) (h : as.take 128 = bs.take 128) :
    as.take 256 = bs.take 256 := by
  obtain ⟨a0, a1, a2, a3, a4, a5, a6, a7, a8, a9, a10, a11, a12⟩ := directoryIsValid_iff.mp a
  obtain ⟨b0, b1, b2, b3, b4, b5, b6, b7, b8, b9, b10, b11, b12⟩ := directoryIsValid_iff.mp b
  have h1 := take_u32 h a0 b0
  have h2 := take_u32 h1 a1 b1
  have h3 := take_u64 h2 a2 b2
  have h4 := take_u64 h3 a3 b3
  have h5 := take_u32 h4 a4 b4
  have h6 := take_u32 h5 a5 b5
  have h7 := take_u32 h6 a6 b6
  have h8 := take_u32 h7 a7 b7
  have h9 := take_u64 h8 a8 b8
  have h10 := take_u64 h9 a9 b9
  have h11 := take_u32 h10 a10 b10
  have h12 := take_u32 h11 a11 b11
  exact take_zero h12 a12 b12

/-- The header that the reader accepts is the encoding of what it read. -/
theorem take_header {totalSize : UInt64} (a : HeaderRead bytes view totalSize)
    (hlong : 512 ≤ bytes.length) :
    bytes.take 512 = headerWire (inputOf view) totalSize view.componentCount := by
  have b := headerRead_headerWire (inputOf view) totalSize view.componentCount
  have hwire := length_headerWire (inputOf view) totalSize view.componentCount
  generalize headerWire (inputOf view) totalSize view.componentCount = wire at *
  -- field after field, the header and its encoding agree
  have h1 : bytes.take 32 = wire.take 32 := by
    rw [take_of_bytesEqual (by omega) length_manifestMagic a.magic,
      take_of_bytesEqual (by omega) length_manifestMagic b.magic]
  have h2 := take_u16 h1 a.major b.major
  have h3 := take_u16 h2 a.minor b.minor
  have h4 := take_u32 h3 a.header b.header
  have h5 := take_u64 h4 a.total b.total
  have h6 := take_u32 h5 a.sections b.sections
  have h7 := take_u32 h6 a.count b.count
  have h8 := take_u64 h7 a.generation b.generation
  have h9 := take_u64 h8 a.predecessor b.predecessor
  have h10 := take_u64 h9 a.sequence b.sequence
  have h11 := take_u64 h10 a.policy b.policy
  have h12 := take_u16 h11 a.hash b.hash
  have h13 := take_u16 h12 a.signature b.signature
  have h14 := take_u16 h13 a.mode b.mode
  have h15 := take_u16 h14 a.pad b.pad
  have h16 := Digest.take_read h15 a.schema b.schema
  have h17 := take_directory hlong hwire.ge a.directory b.directory h16
  have h18 := Digest.take_read h17 a.product b.product
  have h19 := Digest.take_read h18 a.architecture b.architecture
  have h20 := Digest.take_read h19 a.platform b.platform
  have h21 := Digest.take_read h20 a.environment b.environment
  have h22 := Digest.take_read h21 a.protocol b.protocol
  have h23 := Digest.take_read h22 a.rollbackDomain b.rollbackDomain
  have h24 := take_u16 h23 a.protocolMajor b.protocolMajor
  have h25 := take_u16 h24 a.protocolMinor b.protocolMinor
  have h26 := take_u32 h25 a.minimum b.minimum
  have h27 := take_u32 h26 a.maximum b.maximum
  have h28 := take_zero h27 a.tail b.tail
  rw [h28, List.take_of_length_le (by omega)]

theorem componentsAreValid_each {indexes : List Nat} {kernels policies recoveries : Nat}
    (h : componentsAreValid bytes indexes kernels policies recoveries = true) :
    ∀ index ∈ indexes, componentViewIsValid (componentRow bytes index)
      (decodeComponent (componentRow bytes index)) index = true := by
  induction indexes generalizing kernels policies recoveries with
  | nil => simp
  | cons head rest ih =>
      simp only [componentsAreValid, Bool.and_eq_true] at h
      obtain ⟨⟨⟨⟨⟨hvalid, -⟩, -⟩, -⟩, -⟩, hrest⟩ := h
      exact List.forall_mem_cons.mpr ⟨hvalid, ih hrest⟩

theorem rowsAre_componentsOf {count : Nat}
    (h : componentsAreValid bytes (List.range count) 0 0 0 = true) :
    RowsAre bytes (componentsOf bytes count) := by
  intro index component hcomp
  obtain ⟨hlt, hget⟩ := List.getElem?_eq_some_iff.mp hcomp
  simp only [componentsOf, List.length_map, List.length_range] at hlt
  simp only [componentsOf, List.getElem_map, List.getElem_range] at hget
  subst hget
  have hvalid := componentsAreValid_each h index (List.mem_range.mpr hlt)
  simp only [componentViewIsValid, Bool.and_eq_true] at hvalid
  exact ⟨rfl, hvalid.2⟩

/-- The component table that the reader accepts is the encoding of what it read. -/
theorem drop_components {count : Nat} (hlength : bytes.length = componentsOffset + count * componentBytes)
    (h : componentsAreValid bytes (List.range count) 0 0 0 = true) :
    bytes.drop componentsOffset = (componentsOf bytes count).flatMap rowWire := by
  have htable : (bytes.drop componentsOffset).length = (0 + count) * componentBytes := by
    rw [List.length_drop, hlength, Nat.zero_add, Nat.add_sub_cancel_left]
  have hrows : (bytes.drop componentsOffset).drop (0 * componentBytes) =
      (List.range' 0 count).flatMap fun index =>
        rowWire (componentOf (decodeComponent (componentRow bytes index))) := by
    refine drop_eq_rows htable fun index _ hindex => ?_
    rw [List.drop_drop]
    refine take_row ?_ (componentsAreValid_each h index (List.mem_range.mpr (by omega)))
    have hle : (index + 1) * componentBytes ≤ count * componentBytes :=
      Nat.mul_le_mul_right _ (by omega)
    rw [List.length_drop, hlength]
    rw [Nat.succ_mul] at hle
    omega
  rw [Nat.zero_mul, List.drop_zero] at hrows
  rw [hrows, componentsOf, List.flatMap_map, List.range_eq_range']

/-- **Bytes that the reader opens are what the writer makes of what was read.** -/
theorem manifestWire_inputOf (h : manifestOpen (.mem bytes) = .ok view) :
    inputValidate (inputOf view) = .ok () ∧ manifestWire (inputOf view) = bytes := by
  obtain ⟨hread, valid, hempty, hmany, hloop, hbytes, hlength⟩ := manifestOpen_iff.mp h
  have hcomps : (inputOf view).components.getD [] =
      componentsOf bytes view.componentCount.toNat := by
    rw [← hbytes]
    rfl
  have hcount : ((inputOf view).components.getD []).length = view.componentCount.toNat := by
    rw [hcomps, componentsOf, List.length_map, List.length_range]
  refine ⟨?_, ?_⟩
  · rw [inputValidate_iff, hcount, hcomps]
    refine ⟨⟨rfl, rfl, rfl, rfl, rfl, reservedZero_none⟩, ⟨valid.mode, valid.generation,
      valid.predecessor, valid.revisions, valid.schema, valid.product, valid.architecture,
      valid.platform, valid.environment, valid.protocol, valid.rollbackDomain⟩, ?_, hmany, ?_⟩
    · exact fun hzero => hempty (UInt32.toNat_inj.mp hzero)
    · refine (@inputComponentsAreValid_iff bytes [] _ (rowsAre_componentsOf hloop) 0 0 0).mpr
        ⟨?_, ?_⟩
      · intro component hcomp
        obtain ⟨index, -, rfl⟩ := List.mem_map.mp hcomp
        exact ⟨rfl, rfl, rfl, reservedZero_none⟩
      · rw [List.length_map, List.length_range, List.length_nil, ← List.range_eq_range']
        exact hloop
  · have hhdr := take_header hread (by rw [hlength]; exact Nat.le_add_right _ _)
    have htable := drop_components hlength hloop
    unfold manifestWire
    dsimp only
    rw [hcount, hcomps, ← hlength, UInt32.ofNat_toNat, ← hhdr, ← htable]
    exact List.take_append_drop _ _

end Opened

/-! ### The components of an opened manifest -/

section Components

variable {bytes : List UInt8} {view : ManifestView}

/-- The components that `componentAt` gives are those of the rows. -/
theorem componentAt_eq (h : manifestOpen (.mem view.bytes) = .ok view) (index : Nat) :
    componentAt view index =
      if index < view.componentCount.toNat then
        .ok (decodeComponent (componentRow view.bytes index)) else .error .invalidArgument := by
  obtain ⟨-, -, -, -, -, -, hsize⟩ := manifestOpen_iff.mp h
  have hlength : view.byteSize = componentsOffset + view.componentCount.toNat * componentBytes :=
    hsize
  unfold componentAt
  rw [h]
  by_cases hindex : index < view.componentCount.toNat
  · have hle : (index + 1) * componentBytes ≤ view.componentCount.toNat * componentBytes :=
      Nat.mul_le_mul_right _ hindex
    rw [Nat.succ_mul] at hle
    have hstart : ¬ view.byteSize < componentsOffset + index * componentBytes := by omega
    have hrow : ¬ view.byteSize - (componentsOffset + index * componentBytes) < componentBytes := by
      omega
    rw [if_pos hindex]
    simp only [mapStatus, refuse, bind, Except.bind, Nat.not_le.mpr hindex, hstart, hrow,
      decide_false, Bool.or_self, Bool.false_eq_true, if_false]
    rfl
  · rw [if_neg hindex]
    simp only [mapStatus, refuse, bind, Except.bind, Nat.not_lt.mp hindex, decide_true, if_true]

/-- Opening is idempotent: a view opens to itself. -/
theorem manifestOpen_view (h : manifestOpen (.mem bytes) = .ok view) :
    view.bytes = bytes ∧ manifestOpen (.mem view.bytes) = .ok view := by
  obtain ⟨-, -, -, -, -, rfl, -⟩ := manifestOpen_iff.mp h
  exact ⟨rfl, h⟩

/-- Two components of an accepted table differ and do not overlap, by the checks of the loop. -/
theorem componentsAreValid_pair {indexes : List Nat} {kernels policies recoveries : Nat}
    (h : componentsAreValid bytes indexes kernels policies recoveries = true) :
    ∀ index ∈ indexes, ∀ other < index,
      (decodeComponent (componentRow bytes index)).logicalIdDigest ≠
        (decodeComponent (componentRow bytes other)).logicalIdDigest ∧
      rangesOverlap (decodeComponent (componentRow bytes index)).bundleOffset
        (decodeComponent (componentRow bytes index)).exactSize
        (decodeComponent (componentRow bytes other)).bundleOffset
        (decodeComponent (componentRow bytes other)).exactSize = false := by
  induction indexes generalizing kernels policies recoveries with
  | nil => simp
  | cons head rest ih =>
      simp only [componentsAreValid, Bool.and_eq_true] at h
      obtain ⟨⟨-, hothers⟩, hrest⟩ := h
      refine List.forall_mem_cons.mpr ⟨fun other hother => ?_, ih hrest⟩
      have hdiffers := List.all_eq_true.mp hothers other (List.mem_range.mpr hother)
      simp only [Bool.and_eq_true, Bool.not_eq_true'] at hdiffers
      refine ⟨fun hsame => ?_, hdiffers.2⟩
      rw [hsame, Digest.equal_self] at hdiffers
      cases hdiffers.1

/-- Ranges that end within 64 bits and do not overlap are disjoint. -/
theorem disjoint_of_rangesOverlap {leftOffset leftSize rightOffset rightSize : UInt64}
    (hleft : leftOffset.toNat + leftSize.toNat < 2 ^ 64)
    (hright : rightOffset.toNat + rightSize.toNat < 2 ^ 64)
    (h : rangesOverlap leftOffset leftSize rightOffset rightSize = false) :
    leftOffset.toNat + leftSize.toNat ≤ rightOffset.toNat ∨
      rightOffset.toNat + rightSize.toNat ≤ leftOffset.toNat := by
  simp only [rangesOverlap, Bool.and_eq_false_iff, decide_eq_false_iff_not, UInt64.not_lt,
    UInt64.le_iff_toNat_le, toNat_add_of_lt hleft, toNat_add_of_lt hright] at h
  omega

variable {component : ComponentView} {index : Nat} (h : manifestOpen (.mem view.bytes) = .ok view)
  (hcomp : componentAt view index = .ok component)
include h hcomp

/-- A component that is read is a row of the table. -/
theorem componentAt_eq_ok :
    index < view.componentCount.toNat ∧
      component = decodeComponent (componentRow view.bytes index) := by
  rw [componentAt_eq h] at hcomp
  split at hcomp
  · next hlt =>
    exact ⟨hlt, (Except.ok.inj hcomp).symm⟩
  · cases hcomp

/-- A component has content, and no more than it may have. -/
theorem component_sizes :
    0 < component.exactSize.toNat ∧ component.exactSize.toNat ≤ component.maximumSize.toNat := by
  obtain ⟨hindex, rfl⟩ := componentAt_eq_ok h hcomp
  obtain ⟨-, -, -, -, hloop, -⟩ := manifestOpen_iff.mp h
  have hvalid := componentsAreValid_each hloop index (List.mem_range.mpr hindex)
  simp only [componentViewIsValid, Bool.and_eq_true, bne_iff_ne, decide_eq_true_eq] at hvalid
  obtain ⟨⟨⟨⟨⟨⟨⟨⟨-, hexact⟩, hmax⟩, -⟩, -⟩, -⟩, -⟩, -⟩, -⟩ := hvalid
  exact ⟨ne_zero_iff.mp hexact,
    UInt64.le_iff_toNat_le.mp hmax⟩

omit h hcomp

/-- What holds of every two components of an opened manifest. -/
structure Separate (left right : ComponentView) : Prop where
  logicalId : left.logicalIdDigest ≠ right.logicalIdDigest
  ranges : left.bundleOffset.toNat + left.exactSize.toNat ≤ right.bundleOffset.toNat ∨
    right.bundleOffset.toNat + right.exactSize.toNat ≤ left.bundleOffset.toNat

theorem Separate.symm {left right : ComponentView} (h : Separate left right) :
    Separate right left :=
  ⟨h.logicalId.symm, h.ranges.symm⟩

/-- **The components of an opened manifest are in order, have ids of their own, and lie apart.** -/
theorem components_separate (h : manifestOpen (.mem bytes) = .ok view) {i j : Nat}
    {left right : ComponentView} (hleft : componentAt view i = .ok left)
    (hright : componentAt view j = .ok right) :
    left.installOrder = UInt32.ofNat i ∧ (i ≠ j → Separate left right) := by
  obtain ⟨hbytes, hview⟩ := manifestOpen_view h
  obtain ⟨-, -, -, -, hloop, -⟩ := manifestOpen_iff.mp hview
  obtain ⟨hi, rfl⟩ := componentAt_eq_ok hview hleft
  obtain ⟨hj, rfl⟩ := componentAt_eq_ok hview hright
  have hvalid := componentsAreValid_each hloop
  have hrange : ∀ k < view.componentCount.toNat,
      (decodeComponent (componentRow view.bytes k)).bundleOffset.toNat +
        (decodeComponent (componentRow view.bytes k)).exactSize.toNat < 2 ^ 64 := by
    intro k hk
    have hk := hvalid k (List.mem_range.mpr hk)
    simp only [componentViewIsValid, Bool.and_eq_true, decide_eq_true_eq, le_u64Max_sub_iff] at hk
    exact hk.1.1.1.1.1.2
  have hapart : ∀ {k other : Nat}, k < view.componentCount.toNat → other < k →
      Separate (decodeComponent (componentRow view.bytes k))
        (decodeComponent (componentRow view.bytes other)) := by
    intro k other hk hother
    obtain ⟨hid, hoverlap⟩ := componentsAreValid_pair hloop k (List.mem_range.mpr hk) other hother
    exact ⟨hid, disjoint_of_rangesOverlap (hrange k hk) (hrange other (by omega)) hoverlap⟩
  refine ⟨?_, fun hne => ?_⟩
  · have horder := hvalid i (List.mem_range.mpr hi)
    simp only [componentViewIsValid, Bool.and_eq_true, beq_iff_eq] at horder
    obtain ⟨⟨⟨⟨⟨⟨⟨⟨⟨⟨⟨horder, -⟩, -⟩, -⟩, -⟩, -⟩, -⟩, -⟩, -⟩, -⟩, -⟩, -⟩ := horder
    exact horder
  · rcases Nat.lt_or_gt_of_ne hne with hlt | hgt
    · exact (hapart hj hlt).symm
    · exact hapart hi hgt

end Components

end Ribon.Manifest
