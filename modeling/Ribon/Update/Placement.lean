/-
Installs that fit.

The preparation of an install says that every component lies in the slot.  What
it leaves to the passes is how the component lies there: the passes erase, write
and read whole ranges, padded to the write alignment, in one transfer each.
`Fits` is what these calls ask for.  Where an install fits and the bundle holds
what the manifest names, both passes go through.
-/
import Ribon.Update.Install
import Ribon.Update.Canonical
import Mathlib.Algebra.Order.BigOperators.Group.Finset
import Mathlib.Order.Interval.Finset.Nat

namespace Ribon

open Wire Crash Storage Manifest

/-! ### Ranges that lie apart -/

/-- Ranges that lie apart below a bound are together no longer than the bound. -/
theorem sum_le_of_apart {count bound : Nat} {offset size : Nat → Nat}
    (inside : ∀ i < count, offset i + size i ≤ bound)
    (apart : ∀ i < count, ∀ j < count, i ≠ j →
      offset i + size i ≤ offset j ∨ offset j + size j ≤ offset i) :
    ∑ i ∈ Finset.range count, size i ≤ bound := by
  have hdisj : Set.PairwiseDisjoint (Finset.range count : Set Nat) fun i =>
      Finset.Ico (offset i) (offset i + size i) := by
    intro i hi j hj hne
    rw [Function.onFun, Finset.disjoint_left]
    intro a hai haj
    rw [Finset.mem_Ico] at hai haj
    rcases apart i (by simpa using hi) j (by simpa using hj) hne with h | h <;> omega
  calc ∑ i ∈ Finset.range count, size i
      = ∑ i ∈ Finset.range count, (Finset.Ico (offset i) (offset i + size i)).card := by
        simp only [Nat.card_Ico, Nat.add_sub_cancel_left]
    _ = ((Finset.range count).biUnion fun i =>
          Finset.Ico (offset i) (offset i + size i)).card := (Finset.card_biUnion hdisj).symm
    _ ≤ (Finset.range bound).card := by
        refine Finset.card_le_card fun a ha => ?_
        obtain ⟨i, hi, hai⟩ := Finset.mem_biUnion.mp ha
        rw [Finset.mem_Ico] at hai
        have := inside i (Finset.mem_range.mp hi)
        exact Finset.mem_range.mpr (by omega)
    _ = bound := Finset.card_range bound

/-! ### Components in a slot -/

namespace Storage

/-- A fold that takes the largest of some ends ends above each of them. -/
theorem foldlM_largest {E : Type} {step : UInt64 → Nat → Except E UInt64} {Below : Nat → Nat → Prop}
    (hmono : ∀ index a b, Below index a → a ≤ b → Below index b)
    (hstep : ∀ largest index next, step largest index = .ok next →
      largest.toNat ≤ next.toNat ∧ Below index next.toNat)
    {indices : List Nat} {start final : UInt64} (h : indices.foldlM step start = .ok final) :
    start.toNat ≤ final.toNat ∧ ∀ index ∈ indices, Below index final.toNat := by
  induction indices generalizing start with
  | nil =>
      obtain rfl : start = final := Except.ok.inj h
      exact ⟨Nat.le_refl _, by simp⟩
  | cons index rest ih =>
      rw [List.foldlM_cons, bind_eq_ok] at h
      obtain ⟨next, hnext, hrest⟩ := h
      obtain ⟨hfirst, hbelow⟩ := hstep _ _ _ hnext
      obtain ⟨hle, hothers⟩ := ih hrest
      exact ⟨by omega, List.forall_mem_cons.mpr ⟨hmono index _ _ hbelow hle, hothers⟩⟩

theorem largerEnd_eq_ok {largest next : UInt64} {r : Except ManifestStatus ComponentView}
    (h : largerEnd largest r = .ok next) :
    ∃ component, r = .ok component ∧ largest.toNat ≤ next.toNat ∧
      component.bundleOffset.toNat + component.maximumSize.toNat ≤ next.toNat := by
  simp only [largerEnd, bind_eq_ok, mapStatus_eq_ok, demand_eq_ok, pure_eq_ok] at h
  obtain ⟨component, rfl, last, hadd, hnext⟩ := h
  refine ⟨component, rfl, ?_⟩
  rw [← addU64_eq_some hadd, ← hnext]
  split
  · next hlt =>
    exact ⟨Nat.le_of_lt (UInt64.lt_iff_toNat_lt.mp hlt), Nat.le_refl _⟩
  · next hlt =>
    exact ⟨Nat.le_refl _, UInt64.le_iff_toNat_le.mp (UInt64.not_lt.mp hlt)⟩

/-- The slot bytes that a manifest requires hold every component at its maximum size. -/
theorem requiredSlotBytes_eq_ok {manifest : ManifestView} {alignment required : UInt64}
    (hopen : manifestOpen (.mem manifest.bytes) = .ok manifest)
    (h : requiredSlotBytes manifest alignment = .ok required) :
    ∀ index < manifest.componentCount.toNat, ∀ component,
      componentAt manifest index = .ok component →
      component.bundleOffset.toNat + component.maximumSize.toNat ≤ required.toNat := by
  unfold requiredSlotBytes at h
  simp only [bind_eq_ok, refuse_eq_ok, mapStatus_eq_ok, demand_eq_ok, exists_const] at h
  obtain ⟨-, reopened, hreopened, largest, hlargest, hround⟩ := h
  obtain rfl : manifest = reopened := Except.ok.inj (hopen.symm.trans hreopened)
  have hle := le_alignUp hround
  have hbelow : ∀ index ∈ List.range manifest.componentCount.toNat, ∀ component,
      componentAt manifest index = .ok component →
      component.bundleOffset.toNat + component.maximumSize.toNat ≤ largest.toNat := by
    refine (@foldlM_largest _ _ (fun index bound => ∀ component,
      componentAt manifest index = .ok component →
      component.bundleOffset.toNat + component.maximumSize.toNat ≤ bound)
      (fun index a b h hle component hcomp => Nat.le_trans (h component hcomp) hle)
      (fun largest index next hnext => ?_) _ _ _ hlargest).2
    obtain ⟨found, hfound, hlargest, hend⟩ := largerEnd_eq_ok hnext
    refine ⟨hlargest, fun component hcomp => ?_⟩
    obtain rfl : found = component := Except.ok.inj (hfound.symm.trans hcomp)
    exact hend
  exact fun index hindex component hcomp =>
    Nat.le_trans (hbelow index (List.mem_range.mpr hindex) component hcomp) hle

/-- A manifest that the layout accepts has every component inside the slot. -/
theorem component_inside {layout : Layout} {manifest : ManifestView} {component : ComponentView}
    {index : Nat} (haccepted : layoutAcceptsManifest layout manifest = true)
    (hopen : manifestOpen (.mem manifest.bytes) = .ok manifest)
    (hindex : index < manifest.componentCount.toNat)
    (hcomp : componentAt manifest index = .ok component) (slotId : UInt32) :
    component.bundleOffset.toNat + component.maximumSize.toNat ≤
      (slotRegion layout slotId).length.toNat := by
  unfold layoutAcceptsManifest at haccepted
  split at haccepted
  · cases haccepted
  simp only [Bool.and_eq_true] at haccepted
  obtain ⟨-, haccepted⟩ := haccepted
  split at haccepted
  · cases haccepted
  next required hrequired =>
  simp only [Bool.and_eq_true, decide_eq_true_eq, UInt64.le_iff_toNat_le] at haccepted
  refine Nat.le_trans (requiredSlotBytes_eq_ok hopen hrequired index hindex _ hcomp) ?_
  unfold slotRegion
  split
  · exact haccepted.1
  · exact haccepted.2

end Storage

namespace Installer

/-- A region starts and ends where every transfer of the provider may. -/
structure RegionFits (provider : StorageProvider) (region : LayoutRegion) : Prop where
  read : aligned region.offset provider.readAlignment = true ∧
    aligned region.length provider.readAlignment = true
  write : aligned region.offset provider.writeAlignment = true ∧
    aligned region.length provider.writeAlignment = true
  erase : aligned region.offset provider.eraseAlignment = true ∧
    aligned region.length provider.eraseAlignment = true

/-- A component can be erased, written and read back in one transfer each. -/
structure ComponentFits (request : InstallRequest) (parts : Parts) (component : ComponentView)
    (backingSize : UInt64) : Prop where
  rounded : alignUp component.exactSize parts.provider.writeAlignment = some backingSize
  scratch : backingSize ≤ request.scratchSize
  transfer : backingSize ≤ parts.provider.maximumTransferBytes
  bundle : component.bundleOffset.toNat + component.exactSize.toNat ≤ parts.bundle.byteSize.toNat
  read : aligned component.bundleOffset parts.provider.readAlignment = true ∧
    aligned backingSize parts.provider.readAlignment = true
  write : aligned component.bundleOffset parts.provider.writeAlignment = true
  erase : aligned component.bundleOffset parts.provider.eraseAlignment = true ∧
    aligned backingSize parts.provider.eraseAlignment = true

/-- What the two passes ask for beyond the preparation. -/
structure Fits (request : InstallRequest) (parts : Parts) (manifest : ManifestView) : Prop where
  /-- The image that is running was installed under the same layout. -/
  active : (parts.currentMetadata.slot parts.currentMetadata.activeSlot).layoutDigest =
    parts.layout.identityDigest
  regions : ∀ slotId, RegionFits parts.provider (slotRegion parts.layout slotId)
  components : ∀ index < manifest.componentCount.toNat, ∀ component,
    componentAt manifest index = .ok component →
      ∃ backingSize, ComponentFits request parts component backingSize

/-- The bundle holds the components that the manifest names. -/
def Honest (parts : Parts) (manifest : ManifestView) : Prop :=
  ∀ index < manifest.componentCount.toNat, ∀ component,
    componentAt manifest index = .ok component →
      ∃ content, bundleRead parts component = .ok content ∧
        sha256 content component.exactSize.toNat = component.contentDigest

/-- The components of a manifest with their padded ranges, inside a slot and apart. -/
structure Laid (request : InstallRequest) (parts : Parts) (manifest : ManifestView)
    (region : LayoutRegion) (components : Nat → ComponentView) (backing : Nat → UInt64) : Prop where
  component : ∀ i < manifest.componentCount.toNat,
    componentAt manifest i = .ok (components i)
  fits : ∀ i < manifest.componentCount.toNat, ComponentFits request parts (components i) (backing i)
  positive : ∀ i < manifest.componentCount.toNat, 0 < (components i).exactSize.toNat
  inside : ∀ i < manifest.componentCount.toNat,
    (components i).bundleOffset.toNat + (backing i).toNat ≤ region.length.toNat
  apart : ∀ i < manifest.componentCount.toNat, ∀ j < manifest.componentCount.toNat, i ≠ j →
    (components i).bundleOffset.toNat + (backing i).toNat ≤ (components j).bundleOffset.toNat ∨
    (components j).bundleOffset.toNat + (backing j).toNat ≤ (components i).bundleOffset.toNat

/-- **An install that fits lays the components out inside the slot and apart.**  The components
lie apart by their exact sizes; as they start at multiples of the write alignment, so do the
ranges that are padded to it. -/
theorem Fits.laid {request : InstallRequest} {parts : Parts} {manifest : ManifestView}
    (fits : Fits request parts manifest)
    (hopen : manifestOpen (.mem manifest.bytes) = .ok manifest)
    (haccepted : layoutAcceptsManifest parts.layout manifest = true) (slotId : UInt32) :
    ∃ components backing, Laid request parts manifest (slotRegion parts.layout slotId)
      components backing := by
  obtain ⟨components, hrow⟩ : ∃ components : Nat → ComponentView,
      ∀ i < manifest.componentCount.toNat, componentAt manifest i = .ok (components i) :=
    ⟨fun i => decodeComponent (componentRow manifest.bytes i), fun i hi => by
      rw [componentAt_eq hopen, if_pos hi]⟩
  have hexists : ∀ i, ∃ backingSize, i < manifest.componentCount.toNat →
      ComponentFits request parts (components i) backingSize := by
    intro i
    by_cases hi : i < manifest.componentCount.toNat
    · obtain ⟨backingSize, hfits⟩ := fits.components i hi _ (hrow i hi)
      exact ⟨backingSize, fun _ => hfits⟩
    · exact ⟨0, fun h => absurd h hi⟩
  choose backing hback using hexists
  have hpow : ∀ {i}, i < manifest.componentCount.toNat →
      powerOfTwo parts.provider.writeAlignment = true := fun hi =>
    (alignUp_eq_some (hback _ hi).rounded).1
  have hstart : ∀ i < manifest.componentCount.toNat,
      parts.provider.writeAlignment.toNat ∣ (components i).bundleOffset.toNat := fun i hi =>
    (aligned_iff (hpow hi)).mp (hback i hi).write
  refine ⟨components, backing, hrow, hback, ?_, ?_, ?_⟩
  · intro i hi
    exact (component_sizes hopen (hrow i hi)).1
  · intro i hi
    have hinside := component_inside haccepted hopen hi (hrow i hi) slotId
    have hsizes := component_sizes hopen (hrow i hi)
    exact alignUp_end_le (hback i hi).rounded (hstart i hi)
      ((aligned_iff (hpow hi)).mp (fits.regions slotId).write.2) (by omega)
  · intro i hi j hj hne
    obtain ⟨-, hseparate⟩ := components_separate hopen (hrow i hi) (hrow j hj)
    rcases (hseparate hne).ranges with h | h
    · exact .inl (alignUp_end_le (hback i hi).rounded (hstart i hi) (hstart j hj) h)
    · exact .inr (alignUp_end_le (hback j hj).rounded (hstart j hj) (hstart i hi) h)

end Installer

namespace Storage

variable {session : StorageSession} {handle : SlotHandle}

/-- The regions of a valid session end below the address limit. -/
theorem slotRegion_bounded (h : sessionIsValid session = true) (slotId : UInt32) :
    (slotRegion session.layout slotId).last < 2 ^ 64 := by
  have hlay : layoutIsStructurallyValid session.layout = true := by
    rw [← layoutIdentityEncode_isOk]
    simp only [sessionIsValid, Bool.and_eq_true] at h
    cases hid : layoutIdentityEncode session.layout with
    | error e =>
        rw [hid] at h
        cases h.2
    | ok identity => rfl
  have hplaced := layoutIsStructurallyValid_placed hlay
  have hcap := session.layout.mediaCapacityBytes.toNat_lt
  unfold slotRegion
  split
  · exact Nat.lt_of_le_of_lt (hplaced.bounded 4 (by decide)) hcap
  · exact Nat.lt_of_le_of_lt (hplaced.bounded 6 (by decide)) hcap

/-- A range that keeps to the alignment, the transfer limit and the slot is resolved. -/
theorem resolveRange_completes (hhandle : handleIsValid session handle = true)
    {slotOffset size alignment : UInt64} (hsize : 0 < size.toNat)
    (halign : aligned slotOffset alignment = true ∧ aligned size alignment = true)
    (htransfer : size ≤ session.provider.maximumTransferBytes)
    (hfits : slotOffset.toNat + size.toNat ≤
      (slotRegion session.layout handle.slotId).length.toNat) :
    ∃ mediaOffset, resolveRange session handle slotOffset size alignment = .ok mediaOffset ∧
      mediaOffset.toNat =
        (slotRegion session.layout handle.slotId).offset.toNat + slotOffset.toNat := by
  have hsess : sessionIsValid session = true := by
    simp only [handleIsValid, Bool.and_eq_true] at hhandle
    exact hhandle.1.1.1.1.1.1.1.1.1
  have hlast := slotRegion_bounded hsess handle.slotId
  unfold LayoutRegion.last at hlast
  have hend : addU64 slotOffset size = some (slotOffset + size) := addU64_of_lt (by omega)
  have hoff : addU64 (slotRegion session.layout handle.slotId).offset slotOffset =
      some ((slotRegion session.layout handle.slotId).offset + slotOffset) :=
    addU64_of_lt (by omega)
  refine ⟨_, ?_, addU64_eq_some hoff⟩
  have hzero : (size == 0) = false := by
    rw [beq_eq_false_iff_ne]
    rintro rfl
    exact absurd hsize (by decide)
  have hle : ¬ (slotRegion session.layout handle.slotId).length < slotOffset + size := by
    rw [UInt64.lt_iff_toNat_lt, addU64_eq_some hend]
    omega
  unfold resolveRange
  simp only [bind_eq_ok, refuse_eq_ok, exists_const]
  refine ⟨by simp [hhandle, hzero], by simp [halign], by simpa using htransfer, ?_⟩
  rw [hend, hoff]
  simp [hle]

/-- The inactive slot that is being staged can be opened. -/
theorem openInactiveSlot_completes (h : sessionIsValid session = true) {slotId : UInt32}
    (hslot : slotId < slotCount) (hinact : session.metadata.activeSlot ≠ slotId)
    (hstag : (session.metadata.slot slotId).state = .staging) :
    ∃ handle, openInactiveSlot session slotId = .ok handle ∧ handle.slotId = slotId ∧
      handleIsValid session handle = true := by
  have hle := UInt32.not_le.mpr hslot
  refine ⟨{
    size := handleSizeOf
    abiVersion := abiVersion
    slotId := slotId
    flags := 0
    metadataGeneration := session.metadata.metadataGeneration
    mediaIdentityDigest := session.provider.mediaIdentityDigest
    layoutDigest := session.layout.identityDigest }, ?_, rfl, ?_⟩
  · simp only [openInactiveSlot, bind_eq_ok, refuse_eq_ok, pure_eq_ok, exists_const]
    exact ⟨by simp [h, hle], by simpa using hinact.symm, by simp [hstag], trivial⟩
  · simp [handleIsValid, h, hslot, hinact.symm, hstag]

/-- `t` is `t'` before a range of the device was erased and written. -/
def Overwritten (device start : Nat) (data : List UInt8) (t t' : World) : Prop :=
  ∀ a, (t'.media device).cached a =
    if InRange start data.length a then byteAt data (a - start) else (t.media device).cached a

variable {t : World} {slotOffset size mediaOffset : UInt64} {data : List UInt8}

theorem storageEraseInactive_completes
    (h : resolveRange session handle slotOffset size session.provider.eraseAlignment =
      .ok mediaOffset) :
    Act.Completes machine (storageEraseInactive session handle slotOffset size) t fun _ t' =>
      t' = machine.effect (.erase session.provider.device mediaOffset size) t :=
  Act.completes_bind_ofExcept h (Act.completes_bind_command (Act.completes_refuseIf rfl rfl))

theorem storageWriteInactive_completes
    (h : resolveRange session handle slotOffset (UInt64.ofNat data.length)
      session.provider.writeAlignment = .ok mediaOffset) :
    Act.Completes machine (storageWriteInactive session handle slotOffset data) t fun _ t' =>
      t' = machine.effect (.write session.provider.device mediaOffset data) t := by
  refine Act.completes_bind_ofExcept h (Act.completes_bind_command ?_)
  refine Act.completes_bind_refuseIf rfl (Act.completes_refuseIf ?_ rfl)
  exact bne_self_eq_false _

theorem storageRead_completes
    (h : resolveRange session handle slotOffset size session.provider.readAlignment =
      .ok mediaOffset) :
    Act.Completes machine (storageRead session handle slotOffset size) t fun bytes t' =>
      bytes = bytesAt (t.media session.provider.device).cached mediaOffset.toNat size.toNat ∧
      t' = t := by
  refine Act.completes_bind_ofExcept h (Act.completes_bind_command ?_)
  refine Act.completes_bind_refuseIf rfl (Act.completes_bind_refuseIf ?_ ?_)
  · exact bne_self_eq_false _
  · exact Act.completes_pure ⟨rfl, rfl⟩

theorem storageFlush_completes (h : sessionIsValid session = true) :
    Act.Completes machine (storageFlush session) t fun _ t' =>
      t' = machine.effect (.flush session.provider.device) t := by
  refine Act.completes_bind_refuseIf (by rw [h]; rfl) (Act.completes_bind_command ?_)
  exact Act.completes_refuseIf rfl rfl

/-- An erase and a write of the same range leave the data in the range. -/
theorem overwritten_effect (device : Nat) (mediaOffset : UInt64) (t : World)
    (hsize : size.toNat = data.length) :
    Overwritten device mediaOffset.toNat data t (machine.effect (.write device mediaOffset data)
      (machine.effect (.erase device mediaOffset size) t)) := by
  intro a
  show ((Function.update (Function.update t.media device _) device _) device).cached a = _
  rw [Function.update_self]
  show (if InRange mediaOffset.toNat data.length a then _ else
    ((Function.update t.media device _) device).cached a) = _
  rw [Function.update_self]
  show (if InRange mediaOffset.toNat data.length a then _ else
    if InRange mediaOffset.toNat size.toNat a then _ else (t.media device).cached a) = _
  rw [hsize]
  by_cases ha : InRange mediaOffset.toNat data.length a
  · rw [if_pos ha, if_pos ha]
  · rw [if_neg ha, if_neg ha, if_neg ha]

end Storage

/-- Content and the zeros behind it, written over a padded range, are the component. -/
theorem componentMatches_overwritten {device : Nat} {t t' : World} {region : LayoutRegion}
    {alignment backingSize : UInt64} {component : ComponentView} {content : List UInt8}
    (hrounded : alignUp component.exactSize alignment = some backingSize)
    (hinside : component.bundleOffset.toNat + backingSize.toNat ≤ region.length.toNat)
    (hlen : content.length = component.exactSize.toNat)
    (hdig : sha256 content component.exactSize.toNat = component.contentDigest)
    (h : Storage.Overwritten device (region.offset.toNat + component.bundleOffset.toNat)
      (content ++ List.replicate (backingSize.toNat - component.exactSize.toNat) 0) t t') :
    ComponentMatches (t'.media device).cached region alignment component := by
  have hle := le_alignUp hrounded
  have hbyte : ∀ i < backingSize.toNat, (t'.media device).cached
      (region.offset.toNat + component.bundleOffset.toNat + i) =
      byteAt (content ++ List.replicate (backingSize.toNat - component.exactSize.toNat) 0) i := by
    intro i hi
    rw [h, if_pos, Nat.add_sub_cancel_left]
    refine ⟨Nat.le_add_right _ _, ?_⟩
    rw [List.length_append, List.length_replicate, hlen]
    omega
  refine ⟨?_, backingSize, hrounded, hinside, fun i hlow hhigh => ?_⟩
  · have hcontent : bytesAt (t'.media device).cached
        (region.offset.toNat + component.bundleOffset.toNat) component.exactSize.toNat = content := by
      refine List.ext_getElem (by rw [Transaction.length_bytesAt, hlen]) fun i h₁ h₂ => ?_
      simp only [bytesAt, List.getElem_map, List.getElem_range]
      rw [hbyte i (by omega), byteAt, List.getD_eq_getElem?_getD, List.getElem?_append_left h₂,
        List.getElem?_eq_getElem h₂]
      rfl
    rw [hcontent]
    exact hdig
  · rw [hbyte i hhigh, byteAt, List.getD_eq_getElem?_getD,
      List.getElem?_append_right (by omega), List.getElem?_replicate]
    split <;> rfl

/-- A component is read from its padded range. -/
theorem ComponentMatches.congr_range {img img' : Nat → UInt8} {region : LayoutRegion}
    {alignment backingSize : UInt64} {component : ComponentView}
    (h : ComponentMatches img region alignment component)
    (hrounded : alignUp component.exactSize alignment = some backingSize)
    (himg : ∀ a, InRange (region.offset.toNat + component.bundleOffset.toNat) backingSize.toNat a →
      img' a = img a) : ComponentMatches img' region alignment component := by
  obtain ⟨found, hfound, hfits, htail⟩ := h.tail
  obtain rfl : backingSize = found := Option.some.inj (hrounded.symm.trans hfound)
  have hle := le_alignUp hrounded
  constructor
  · rw [← h.content]
    refine congrArg (sha256 · _) (Transaction.bytesAt_congr fun a ha => himg a ?_)
    obtain ⟨hlow, hhigh⟩ := ha
    exact ⟨hlow, by omega⟩
  · refine ⟨backingSize, hrounded, hfits, fun i hlow hhigh => ?_⟩
    rw [himg _ ⟨by omega, by omega⟩]
    exact htail i hlow hhigh

namespace Installer

section Passes

variable {request : InstallRequest} {parts : Parts} {manifest : ManifestView}
  {session : StorageSession} {handle : SlotHandle} {region : LayoutRegion}
  {components : Nat → ComponentView} {backing : Nat → UInt64} {t : World}

/-- A pass has what it needs: a session and a handle that are valid, components that are laid out,
and nobody who stops it. -/
structure Staged (request : InstallRequest) (parts : Parts) (manifest : ManifestView)
    (session : StorageSession) (handle : SlotHandle) (region : LayoutRegion)
    (components : Nat → ComponentView) (backing : Nat → UInt64) : Prop where
  laid : Laid request parts manifest region components backing
  provider : session.provider = parts.provider
  region : slotRegion session.layout handle.slotId = region
  handle : handleIsValid session handle = true
  unobserved : request.observer = none

theorem bind_observeStaging_completes {A : Type} {operation : TransactionOperation}
    {boundary : TransactionBoundary} {component : UInt32} {f : Unit → Act InstallStatus A}
    {Q : A → World → Prop} (hnone : request.observer = none) (h : Act.Completes machine (f ()) t Q) :
    Act.Completes machine
      (observeStaging request session operation boundary component >>= f) t Q := by
  unfold observeStaging
  rw [hnone]
  exact h

section Component

variable {component : ComponentView} {backingSize : UInt64}
  (h : ComponentFits request parts component backingSize)
include h

theorem ComponentFits.rounded_aligned :
    aligned backingSize parts.provider.writeAlignment = true := by
  obtain ⟨hpow, hdvd, -⟩ := alignUp_eq_some h.rounded
  exact (aligned_iff hpow).mpr hdvd

theorem ComponentFits.componentRange_eq {index : Nat}
    (hcomp : componentAt manifest index = .ok component) :
    componentRange request parts manifest index = .ok (component, backingSize) := by
  have hscr := UInt64.not_lt.mpr h.scratch
  have htransfer := UInt64.not_lt.mpr h.transfer
  unfold componentRange
  rw [hcomp]
  dsimp only
  rw [h.rounded]
  simp [refuse, hscr, htransfer, bind, Except.bind, pure, Except.pure]

end Component

variable (h : Staged request parts manifest session handle region components backing)
include h

/-- The range of a component is resolved under each of the provider's alignments. -/
theorem Staged.resolves {i : Nat} (hi : i < manifest.componentCount.toNat) {alignment : UInt64}
    (halign : aligned (components i).bundleOffset alignment = true ∧
      aligned (backing i) alignment = true) :
    ∃ mediaOffset, resolveRange session handle (components i).bundleOffset (backing i)
        alignment = .ok mediaOffset ∧
      mediaOffset.toNat = region.offset.toNat + (components i).bundleOffset.toNat := by
  have hle := le_alignUp (h.laid.fits i hi).rounded
  have hpos := h.laid.positive i hi
  have hresolve := resolveRange_completes h.handle (by omega) halign
    (by rw [h.provider]; exact (h.laid.fits i hi).transfer)
    (by rw [h.region]; exact h.laid.inside i hi)
  rw [h.region] at hresolve
  exact hresolve

/-- **The first pass over one component goes through**, and leaves the component on the media. -/
theorem Staged.writeComponent_completes (honest : Honest parts manifest) {i : Nat}
    (hi : i < manifest.componentCount.toNat) {exactTotal backingTotal : UInt64}
    (hexact : exactTotal.toNat + (components i).exactSize.toNat < 2 ^ 64)
    (hback : backingTotal.toNat + (backing i).toNat < 2 ^ 64) :
    Act.Completes machine
      (writeComponent request parts manifest session handle i exactTotal backingTotal) t
      fun totals t' => totals.1.toNat = exactTotal.toNat + (components i).exactSize.toNat ∧
        totals.2.toNat = backingTotal.toNat + (backing i).toNat ∧
        ComponentMatches (t'.media parts.provider.device).cached region
          parts.provider.writeAlignment (components i) ∧
        ∀ a, ¬ InRange (region.offset.toNat + (components i).bundleOffset.toNat) (backing i).toNat a →
          (t'.media parts.provider.device).cached a = (t.media parts.provider.device).cached a := by
  have fits := h.laid.fits i hi
  have hcomp := h.laid.component i hi
  obtain ⟨content, hread, hdig⟩ := honest i hi _ hcomp
  have hle := le_alignUp fits.rounded
  have hlen := bundleRead_length hread
  have htail : (backing i - (components i).exactSize).toNat =
      (backing i).toNat - (components i).exactSize.toNat := toNat_sub_of_le hle
  have hpadded : (content ++ List.replicate ((backing i).toNat -
      (components i).exactSize.toNat) 0).length = (backing i).toNat := by
    rw [List.length_append, List.length_replicate, hlen]
    omega
  have hsame : UInt64.ofNat (content ++ List.replicate ((backing i).toNat -
      (components i).exactSize.toNat) 0).length = backing i := by
    rw [hpadded, UInt64.ofNat_toNat]
  obtain ⟨eraseOffset, herase, heraseAt⟩ := h.resolves hi fits.erase
  obtain ⟨writeOffset, hwrite, hwriteAt⟩ := h.resolves hi ⟨fits.write, fits.rounded_aligned⟩
  obtain rfl : eraseOffset = writeOffset := UInt64.toNat_inj.mp (heraseAt.trans hwriteAt.symm)
  refine Act.completes_bind_ofExcept (fits.componentRange_eq hcomp) ?_
  refine Act.completes_bind_refuseIf ?_ ?_
  · have hbundle := fits.bundle
    have hstart : (components i).bundleOffset ≤ parts.bundle.byteSize :=
      UInt64.le_iff_toNat_le.mpr (by omega)
    have hrest : (components i).exactSize ≤ parts.bundle.byteSize - (components i).bundleOffset := by
      rw [UInt64.le_iff_toNat_le, toNat_sub_of_le]
      omega
    simp [hstart, hrest, le_u64Max_sub_iff.mpr hexact, le_u64Max_sub_iff.mpr hback]
  refine bind_observeStaging_completes h.unobserved ?_
  refine Act.completes_bind_ofExcept hread ?_
  refine bind_observeStaging_completes h.unobserved ?_
  refine Act.completes_bind_refuseIf (by simp [hdig]) ?_
  refine bind_observeStaging_completes h.unobserved ?_
  rw [← h.provider] at herase hwrite
  refine Act.Completes.bind ((storageEraseInactive_completes herase).mapError _) ?_
  rintro _ _ rfl
  refine bind_observeStaging_completes h.unobserved ?_
  refine bind_observeStaging_completes h.unobserved ?_
  rw [htail]
  rw [← hsame] at hwrite
  refine Act.Completes.bind ((storageWriteInactive_completes hwrite).mapError _) ?_
  rintro _ _ rfl
  refine bind_observeStaging_completes h.unobserved ?_
  have hover := overwritten_effect session.provider.device eraseOffset t hpadded.symm
  rw [h.provider, heraseAt] at hover
  refine Act.completes_pure ⟨?_, ?_, ?_, ?_⟩
  · exact toNat_add_of_lt hexact
  · exact toNat_add_of_lt hback
  · rw [h.provider]
    exact componentMatches_overwritten fits.rounded (h.laid.inside i hi) hlen hdig hover
  · intro a ha
    rw [h.provider, hover a, if_neg]
    rw [hpadded]
    exact ha

/-- The components together are no longer than the slot. -/
theorem Staged.totals_lt {k : Nat} (hk : k ≤ manifest.componentCount.toNat) :
    ∑ i ∈ Finset.range k, (components i).exactSize.toNat < 2 ^ 64 ∧
      ∑ i ∈ Finset.range k, (backing i).toNat < 2 ^ 64 := by
  have hsum := sum_le_of_apart h.laid.inside h.laid.apart
  have hsubset : Finset.range k ⊆ Finset.range manifest.componentCount.toNat :=
    Finset.range_subset_range.mpr hk
  have hback : ∑ i ∈ Finset.range k, (backing i).toNat ≤
      ∑ i ∈ Finset.range manifest.componentCount.toNat, (backing i).toNat :=
    Finset.sum_le_sum_of_subset hsubset
  have hexact : ∑ i ∈ Finset.range k, (components i).exactSize.toNat ≤
      ∑ i ∈ Finset.range k, (backing i).toNat := by
    refine Finset.sum_le_sum fun i hi => le_alignUp (h.laid.fits i ?_).rounded
    have := Finset.mem_range.mp hi
    omega
  have := region.length.toNat_lt
  exact ⟨by omega, by omega⟩

/-- **The first pass goes through**, and leaves every component on the media. -/
theorem Staged.writeComponents_completes (honest : Honest parts manifest) :
    ∀ (n k : Nat), k + n = manifest.componentCount.toNat →
    ∀ (exactTotal backingTotal : UInt64) (t : World),
      exactTotal.toNat = ∑ i ∈ Finset.range k, (components i).exactSize.toNat →
      backingTotal.toNat = ∑ i ∈ Finset.range k, (backing i).toNat →
      (∀ i < k, ComponentMatches (t.media parts.provider.device).cached region
        parts.provider.writeAlignment (components i)) →
      Act.Completes machine (writeComponents request parts manifest session handle
        (List.range' k n) exactTotal backingTotal) t fun _ t' =>
          ∀ i < manifest.componentCount.toNat, ComponentMatches (t'.media parts.provider.device).cached
            region parts.provider.writeAlignment (components i) := by
  intro n
  induction n with
  | zero =>
      intro k hk exactTotal backingTotal t _ _ hdone
      refine Act.completes_pure fun i hi => hdone i ?_
      omega
  | succ n ih =>
      intro k hk exactTotal backingTotal t hexact hback hdone
      have hlt : k < manifest.componentCount.toNat := by omega
      obtain ⟨hexactLt, hbackingLt⟩ := h.totals_lt (Nat.succ_le_of_lt hlt)
      rw [Finset.sum_range_succ, ← hexact] at hexactLt
      rw [Finset.sum_range_succ, ← hback] at hbackingLt
      refine Act.Completes.bind (h.writeComponent_completes honest hlt hexactLt hbackingLt) ?_
      rintro ⟨exactNext, backingNext⟩ t' ⟨hexactNext, hbackingNext, hmatches, hothers⟩
      refine ih (k + 1) (by omega) exactNext backingNext t' ?_ ?_ fun i hi => ?_
      · rw [Finset.sum_range_succ, ← hexact]
        exact hexactNext
      · rw [Finset.sum_range_succ, ← hback]
        exact hbackingNext
      · by_cases hsame : i = k
        · rw [hsame]
          exact hmatches
        · -- the components before this one lie elsewhere
          refine (hdone i (by omega)).congr_range (h.laid.fits i (by omega)).rounded fun a ha => ?_
          refine hothers a fun hin => ?_
          obtain ⟨hlow, hhigh⟩ := ha
          obtain ⟨hlow', hhigh'⟩ := hin
          rcases h.laid.apart i (by omega) k hlt hsame with hapart | hapart <;> omega

/-- **The second pass goes through** where the component is on the media. -/
theorem Staged.checkComponent_completes {i : Nat} (hi : i < manifest.componentCount.toNat)
    (hmatches : ComponentMatches (t.media parts.provider.device).cached region
      parts.provider.writeAlignment (components i)) :
    Act.Completes machine (checkComponent request parts manifest session handle i) t
      fun _ t' => t' = t := by
  have fits := h.laid.fits i hi
  have hle := le_alignUp fits.rounded
  have htail : (backing i - (components i).exactSize).toNat =
      (backing i).toNat - (components i).exactSize.toNat := toNat_sub_of_le hle
  obtain ⟨found, hfound, -, hzeros⟩ := hmatches.tail
  obtain rfl : backing i = found := Option.some.inj (fits.rounded.symm.trans hfound)
  obtain ⟨mediaOffset, hresolve, hoff⟩ := h.resolves hi fits.read
  rw [← h.provider] at hresolve
  refine Act.completes_bind_ofExcept (fits.componentRange_eq (h.laid.component i hi)) ?_
  refine bind_observeStaging_completes h.unobserved ?_
  refine Act.Completes.bind ((storageRead_completes hresolve).mapError _) ?_
  rintro scratch t' ⟨hscr, ht'⟩
  rw [hscr, ht', h.provider, hoff]
  refine bind_observeStaging_completes h.unobserved ?_
  refine Act.completes_refuseIf ?_ rfl
  rw [htail]
  have hcontent : sha256 (bytesAt (t.media parts.provider.device).cached
      (region.offset.toNat + (components i).bundleOffset.toNat) (backing i).toNat)
      (components i).exactSize.toNat = (components i).contentDigest := by
    rw [← hmatches.content]
    refine sha256_congr ?_
    rw [take_bytesAt _ _ hle, take_bytesAt _ _ (Nat.le_refl _)]
  have hbytes : bytesZero ((bytesAt (t.media parts.provider.device).cached
      (region.offset.toNat + (components i).bundleOffset.toNat) (backing i).toNat).drop
      (components i).exactSize.toNat) ((backing i).toNat - (components i).exactSize.toNat) = true := by
    refine bytesZero_iff.mpr fun j hj => ?_
    rw [byteAt_drop_bytesAt _ _ (by omega)]
    exact hzeros _ (by omega) (by omega)
  rw [hcontent, hbytes]
  simp

theorem Staged.checkComponents_completes {indices : List Nat}
    (hindices : ∀ i ∈ indices, i < manifest.componentCount.toNat)
    (hmatches : ∀ i < manifest.componentCount.toNat,
      ComponentMatches (t.media parts.provider.device).cached region
        parts.provider.writeAlignment (components i)) :
    Act.Completes machine (checkComponents request parts manifest session handle indices) t
      fun _ t' => t' = t := by
  induction indices with
  | nil => exact Act.completes_pure rfl
  | cons i rest ih =>
      have hi := hindices i (by simp)
      refine Act.Completes.bind (h.checkComponent_completes hi (hmatches i hi)) ?_
      rintro _ _ rfl
      exact ih fun j hj => hindices j (by simp [hj])

end Passes

/-! ### The whole install -/

section Install

variable {request : InstallRequest} {parts : Parts} {manifest : ManifestView} {plan : InstallPlan}

/-- What `requestIsValid` checks of the parts. -/
theorem requestIsValid_parts (h : requestIsValid request parts = true) :
    request.targetSlot < slotCount ∧ providerIsValid parts.provider = true ∧
      parts.provider.capacityBytes = parts.layout.mediaCapacityBytes := by
  simp only [requestIsValid, Bool.and_eq_true, decide_eq_true_eq, beq_iff_eq] at h
  obtain ⟨⟨⟨⟨⟨⟨⟨⟨⟨⟨-, htgt⟩, -⟩, -⟩, -⟩, -⟩, -⟩, -⟩, hprov⟩, hcap⟩, -⟩ := h
  exact ⟨htgt, hprov, hcap⟩

/-- The layout of an accepted manifest carries the digest of its identity. -/
theorem identity_of_accepts {layout : Layout}
    (h : layoutAcceptsManifest layout manifest = true) :
    ∃ identity, layoutIdentityEncode layout = .ok identity ∧
      sha256 identity layoutIdentityBytes = layout.identityDigest := by
  unfold layoutAcceptsManifest at h
  split at h
  · cases h
  next identity hid =>
  simp only [Bool.and_eq_true, Digest.equal_iff] at h
  exact ⟨identity, hid, h.1⟩

/-- **The session of an install that fits is valid.** -/
theorem Fits.session_valid (fits : Fits request parts manifest)
    (prepared : Prepared request parts manifest plan)
    (hstag : (parts.currentMetadata.slot request.targetSlot).state = .staging)
    (hvalid : metadataIsValid parts.currentMetadata = true) :
    sessionIsValid (sessionFor parts parts.currentMetadata) = true := by
  obtain ⟨-, -, -, -, hreq⟩ := openRequest_eq_ok prepared.parts_eq
  obtain ⟨htgt, hprov, hcap⟩ := requestIsValid_parts hreq
  obtain ⟨identity, hid, hdig⟩ := identity_of_accepts prepared.accepted
  have hresume : plan.resumeState = .staging := prepared.resumeState.trans hstag
  obtain ⟨-, hmatches⟩ := prepared.resumed (by rw [hresume]; simp)
  simp only [entryMatchesPlan, Bool.and_eq_true, Digest.equal_iff] at hmatches
  have hactive := (metadataIsValid_iff.mp hvalid).activeSlot
  -- one slot is the active one and the other is the one being staged
  have hents : ∀ slotId < slotCount,
      (parts.currentMetadata.slot slotId).layoutDigest = parts.layout.identityDigest := by
    intro slotId hslot
    by_cases hsame : slotId = request.targetSlot
    · rw [hsame]
      exact hmatches.2
    · have hother : slotId = parts.currentMetadata.activeSlot := by
        have hinact := prepared.inactive
        rcases slot_cases hslot with rfl | rfl <;>
          rcases slot_cases hactive with h | h <;>
          rcases slot_cases htgt with h' | h' <;> simp_all
      rw [hother]
      exact fits.active
  have hslot : ∀ slotId < slotCount, sessionSlotIsValid
      (sessionFor parts parts.currentMetadata) parts.layout.identityDigest slotId = true := by
    intro slotId hslot
    have hregion := fits.regions slotId
    simp [sessionSlotIsValid, sessionFor, hents slotId hslot, hregion.read, hregion.write,
      hregion.erase]
  unfold sessionIsValid
  rw [show (sessionFor parts parts.currentMetadata).layout = parts.layout from rfl, hid]
  dsimp only
  rw [hdig, hslot 0 (by decide), hslot 1 (by decide)]
  simp [sessionFor, hprov, hvalid, hcap]

/-- **Installing a bundle that fits goes through**, up to the metadata that calls it verified. -/
theorem Fits.installSignedBundle_completes (fits : Fits request parts manifest)
    (honest : Honest parts manifest) (hplan : installPrepare request = .ok plan)
    (prepared : Prepared request parts manifest plan)
    (hopen : manifestOpen (.mem manifest.bytes) = .ok manifest)
    (hstag : (parts.currentMetadata.slot request.targetSlot).state = .staging)
    (hvalid : metadataIsValid parts.currentMetadata = true)
    (hroom : parts.currentMetadata.metadataGeneration ≠ u64Max)
    (hnone : request.observer = none) (w : World) :
    Act.Completes machine (installSignedBundle request) w fun _ _ => True := by
  obtain ⟨-, -, -, -, hreq⟩ := openRequest_eq_ok prepared.parts_eq
  obtain ⟨htgt, -, -⟩ := requestIsValid_parts hreq
  obtain ⟨decision, hauth⟩ := prepared.authorized
  have hsess := fits.session_valid prepared hstag hvalid
  have hresume : plan.resumeState = .staging := prepared.resumeState.trans hstag
  obtain ⟨hsame, hmatches⟩ := prepared.resumed (by rw [hresume]; simp)
  obtain ⟨handle, hopened, hslot, hhandle⟩ :=
    openInactiveSlot_completes hsess htgt prepared.inactive hstag
  obtain ⟨components, backing, laid⟩ := fits.laid hopen prepared.accepted request.targetSlot
  have staged : Staged request parts manifest (sessionFor parts parts.currentMetadata) handle
      (slotRegion parts.layout request.targetSlot) components backing :=
    ⟨laid, rfl, by rw [hslot]; rfl, hhandle, hnone⟩
  refine Act.completes_bind_ofExcept hplan ?_
  refine Act.completes_bind_refuseIf (by rw [hresume]; rfl) ?_
  refine Act.completes_bind_ofExcept prepared.parts_eq ?_
  refine Act.completes_bind_ofExcept (mapStatus_eq_ok.mpr hauth) ?_
  rw [hsame]
  refine Act.completes_bind_ofExcept (mapStatus_eq_ok.mpr hopened) ?_
  rw [List.range_eq_range']
  refine Act.Completes.bind (staged.writeComponents_completes honest _ 0 (Nat.zero_add _) 0 0 w
    rfl rfl fun i hi => absurd hi (Nat.not_lt_zero i)) ?_
  rintro ⟨exactTotal, backingTotal⟩ t hmatches'
  refine bind_observeStaging_completes hnone ?_
  refine Act.Completes.bind ((storageFlush_completes hsess).mapError _) ?_
  rintro _ _ rfl
  refine bind_observeStaging_completes hnone ?_
  refine Act.Completes.bind (staged.checkComponents_completes (fun i hi => ?_) fun i hi => ?_) ?_
  · exact (List.mem_range'_1.mp hi).2.trans_eq (Nat.zero_add _)
  · change ComponentMatches ((Function.update t.media parts.provider.device
      (t.media parts.provider.device).flush) parts.provider.device).cached _ _ _
    rw [Function.update_self]
    exact hmatches' i hi
  · rintro _ _ rfl
    obtain ⟨next, hnext⟩ : ∃ next, metadataTransition parts.currentMetadata
        (transitionTo .verified request.targetSlot manifest.bundleGeneration plan.manifestDigest
          plan.imageSetDigest parts.layout.identityDigest) = .ok next := by
      refine Storage.InstallEdge.transitions ?_ hvalid htgt (Ne.symm prepared.inactive) hroom
        ⟨rfl, rfl, rfl, reservedZero_none⟩ hmatches
      change Storage.InstallEdge (parts.currentMetadata.slot request.targetSlot).state .verified 0
      rw [hstag]
      exact .verify
    exact Act.completes_bind_ofExcept (mapStatus_eq_ok.mpr hnext) (Act.completes_pure trivial)

end Install

end Installer

end Ribon
