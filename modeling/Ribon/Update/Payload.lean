/-
What installing a bundle does to the media.

Every erase and every write is resolved to a range of the slot's own region, so
the first pass changes nothing outside it.  The second pass reads each component
back from flushed media and compares it with the manifest, so a bundle that is
installed is on the media, whatever the first pass did and whatever was there
before.
-/
import Ribon.Update.Geometry

namespace Ribon

open Wire Crash Storage

/-! ### The observer -/

namespace Transaction

section Observe

variable {I : World → Prop} {device : Nat} {w t : World} {m : Media} {notes : List JournalNote}
  {E A : Type} {observer : Option TransactionObserver} {operation : TransactionOperation}
  {boundary : TransactionBoundary} {state : SlotState} {component : UInt32} {generation : UInt64}

/-- The observer changes itself and nothing else, and where there is none nobody asks to stop. -/
theorem observe_wpc {Q : Except E Int → World → Prop} (hI : ∀ o, I { w with observer := o })
    (hQ : ∀ n o, (observer = none → n = 0) → Q (.ok n) { w with observer := o }) :
    Act.wpc machine I Q (observe observer operation boundary state component generation) w := by
  cases observer with
  | none => exact Act.wpc_pure (hI w.observer) (hQ 0 w.observer fun _ => rfl)
  | some observer =>
      have hsome : ∀ n : Int, some observer = none → n = 0 := nofun
      refine Act.wpc_bind_command (hI w.observer) ?_
      by_cases hbad : (!observerIsValid observer || w.observer.nextSequence == u32Max) = true
      · rw [show machine.answer Cmd.observerSequence w = w.observer.nextSequence from rfl,
          if_pos hbad]
        exact Act.wpc_pure (hI w.observer) (hQ (-1) w.observer (hsome _))
      · rw [show machine.answer Cmd.observerSequence w = w.observer.nextSequence from rfl,
          if_neg hbad]
        exact Act.wpc_bind_command (hI w.observer)
          (Act.wpc_command (hI _) (hI _) (hQ _ _ (hsome _)))

variable (ht : Moved device w m notes t) (hI : ∀ t, Moved device w m notes t → I t)
include ht hI

/-- Asking the observer whether to stop: the program goes on where it was, or it stops there. -/
theorem stop_wpc {e : E} {Q : Except E Unit → World → Prop}
    (hstop : observer.isSome = true → ∀ t, Moved device w m notes t → Q (.error e) t)
    (hgo : ∀ t, Moved device w m notes t → Q (.ok ()) t) :
    Act.wpc machine I Q (do
      let answer ← observe observer operation boundary state component generation
      Act.refuseIf (answer != 0) e) t := by
  have hobs : Act.wpc machine I
      (fun (r : Except E Int) t' => Moved device w m notes t' ∧ ∃ n, r = .ok n ∧
        (observer = none → n = 0))
      (observe observer operation boundary state component generation) t :=
    observe_wpc (fun o => hI _ (ht.observed o)) fun n o hn => ⟨ht.observed o, n, rfl, hn⟩
  refine Act.wpc_bind hobs ?_ ?_
  · rintro answer t' hIt ⟨ht', n, hn, hnone⟩
    cases hn
    refine Act.wpc_refuseIf hIt (fun hbad => hstop ?_ t' ht') fun _ => hgo t' ht'
    cases observer with
    | none =>
        rw [hnone rfl] at hbad
        cases hbad
    | some _ => rfl
  · rintro e' t' - ⟨-, n, hn, -⟩
    cases hn

theorem bind_stop_wpc {e : E} {f : Unit → Act E A} {Q : Except E A → World → Prop}
    (hstop : observer.isSome = true → ∀ t, Moved device w m notes t → Q (.error e) t)
    (hgo : ∀ t, Moved device w m notes t → Act.wpc machine I Q (f ()) t) :
    Act.wpc machine I Q ((do
      let answer ← observe observer operation boundary state component generation
      Act.refuseIf (answer != 0) e) >>= f) t := by
  refine Act.wpc_bind (Q := fun r t' => Moved device w m notes t' ∧
    ∀ e', r = .error e' → e' = e ∧ observer.isSome = true)
    (stop_wpc ht hI (fun hsome t h => ⟨h, ?_⟩) fun t h => ⟨h, ?_⟩) ?_ ?_
  · rintro e' ⟨⟩
    exact ⟨rfl, hsome⟩
  · rintro e' ⟨⟩
  · rintro ⟨⟩ t' - ⟨ht', -⟩
    exact hgo t' ht'
  · rintro e' t' - ⟨ht', he⟩
    obtain ⟨rfl, hsome⟩ := he e' rfl
    exact hstop hsome t' ht'

end Observe

end Transaction

/-! ### Writes inside one region -/

/-- `t` is `w` with writes, erases and flushes of one region of one device. -/
def WrittenIn (device : Nat) (region : LayoutRegion) (w t : World) : Prop :=
  ∃ m, Moved device w m w.notes t ∧ Store.Within region.Contains (w.media device) m

namespace WrittenIn

variable {device : Nat} {region : LayoutRegion} {w t : World}

theorem refl (device : Nat) (region : LayoutRegion) (w : World) : WrittenIn device region w w :=
  ⟨w.media device, Moved.refl device w, Store.Within.refl _ _⟩

variable (h : WrittenIn device region w t)
include h

theorem within : Store.Within region.Contains (w.media device) (t.media device) := by
  obtain ⟨m, hmoved, hwithin⟩ := h
  rw [hmoved.media]
  exact hwithin

theorem moved : Moved device w (t.media device) w.notes t := by
  obtain ⟨m, hmoved, -⟩ := h
  rw [hmoved.media]
  exact hmoved

theorem of_moved {t' : World} (hmoved : Moved device t (t.media device) t.notes t') :
    WrittenIn device region w t' := by
  rw [h.moved.notes_eq] at hmoved
  exact ⟨t.media device, h.moved.trans hmoved, h.within⟩

theorem setMedia {m : Media} (hm : Store.Within region.Contains (w.media device) m) :
    WrittenIn device region w (t.setMedia device m) :=
  ⟨m, h.moved.setMedia m, hm⟩

end WrittenIn

namespace Storage

section Session

variable {session : StorageSession} {handle : SlotHandle} {w t : World} {device : Nat}
  {region : LayoutRegion}

variable {slotOffset size alignment mediaOffset : UInt64}
  (h : resolveRange session handle slotOffset size alignment = .ok mediaOffset)
include h

/-- A resolved range lies in the slot's region, behind its offset. -/
theorem resolveRange_eq_ok :
    mediaOffset.toNat =
        (slotRegion session.layout handle.slotId).offset.toNat + slotOffset.toNat ∧
      slotOffset.toNat + size.toNat ≤ (slotRegion session.layout handle.slotId).length.toNat := by
  unfold resolveRange at h
  simp only [bind_eq_ok, refuse_eq_ok, exists_const] at h
  obtain ⟨-, -, -, h⟩ := h
  split at h
  · cases h
  next last hlast =>
  simp only [bind_eq_ok, refuse_eq_ok, exists_const, decide_eq_false_iff_not, UInt64.not_lt] at h
  obtain ⟨hfits, h⟩ := h
  split at h
  · cases h
  next found hoff =>
  cases h
  have hfits := UInt64.le_iff_toNat_le.mp hfits
  rw [addU64_eq_some hlast] at hfits
  exact ⟨addU64_eq_some hoff, hfits⟩

/-- The addresses of a resolved range are addresses of the slot's region. -/
theorem resolveRange_contains {address : Nat} (ha : InRange mediaOffset.toNat size.toNat address) :
    (slotRegion session.layout handle.slotId).Contains address := by
  obtain ⟨hoff, hfits⟩ := resolveRange_eq_ok h
  obtain ⟨hlow, hhigh⟩ := ha
  exact ⟨by omega, by omega⟩

omit h

section Writes

variable (hdev : session.provider.device = device)
  (hreg : slotRegion session.layout handle.slotId = region)
include hdev hreg

theorem storageEraseInactive_keeps (slotOffset size : UInt64) :
    Act.Keeps machine (WrittenIn device region w)
      (storageEraseInactive session handle slotOffset size) := by
  subst hdev
  subst hreg
  refine Act.keeps_bind_ofExcept fun mediaOffset hresolve => ?_
  refine Act.Keeps.bind (Act.keeps_command fun t ht => ?_) fun _ => Act.keeps_refuseIf _ _
  exact ht.setMedia (ht.within.write fun a ha => resolveRange_contains hresolve ha)

/-- A buffer is written as long as it was resolved, so it stays in the region too. -/
theorem storageWriteInactive_keeps (slotOffset : UInt64) {buffer : List UInt8} (hlen : buffer.length < 2 ^ 64) :
    Act.Keeps machine (WrittenIn device region w)
      (storageWriteInactive session handle slotOffset buffer) := by
  subst hdev
  subst hreg
  refine Act.keeps_bind_ofExcept fun mediaOffset hresolve => ?_
  refine Act.Keeps.bind (Act.keeps_command fun t ht => ?_) fun _ =>
    Act.Keeps.bind (Act.keeps_refuseIf _ _) fun _ => Act.keeps_refuseIf _ _
  refine ht.setMedia (ht.within.write fun a ha => resolveRange_contains hresolve ?_)
  rw [UInt64.toNat_ofNat_of_lt' hlen]
  exact ha

end Writes

/-- A flush leaves nothing in the cache. -/
theorem storageFlush_wpc (hdev : session.provider.device = device)
    (ht : WrittenIn device region w t) :
    Act.wpc machine (WrittenIn device region w)
      (fun r t' => WrittenIn device region w t' ∧
        (r = .ok () → ∀ a, ¬ (t'.media device).dirty a)) (storageFlush session) t := by
  subst hdev
  have hflushed : WrittenIn session.provider.device region w
      (machine.effect (.flush session.provider.device) t) := ht.setMedia ht.within.flush
  refine Act.wpc_bind_refuseIf ht (fun _ => ⟨ht, nofun⟩) fun _ => ?_
  refine Act.wpc_bind_command ht (Act.wpc_refuseIf hflushed ?_ fun _ => ⟨hflushed, fun _ => ?_⟩)
  · intro hbad
    cases hbad
  · intro a hdirty
    rw [show (machine.effect (.flush session.provider.device) t).media session.provider.device =
      (t.media session.provider.device).flush from Function.update_self ..] at hdirty
    exact hdirty

/-- A read answers what the cache shows of the slot. -/
theorem storageRead_wpc (hdev : session.provider.device = device)
    (hreg : slotRegion session.layout handle.slotId = region) {slotOffset size : UInt64}
    {notes : List JournalNote} {m : Media} (ht : Moved device w m notes t) :
    Act.wpc machine (Moved device w m notes)
      (fun r t' => Moved device w m notes t' ∧ ∀ bytes, r = .ok bytes →
        bytes = bytesAt m.cached (region.offset.toNat + slotOffset.toNat) size.toNat ∧
        slotOffset.toNat + size.toNat ≤ region.length.toNat)
      (storageRead session handle slotOffset size) t := by
  subst hdev
  subst hreg
  refine Act.wpc_bind_ofExcept ht (fun e _ => ⟨ht, nofun⟩) fun mediaOffset hresolve => ?_
  obtain ⟨hoff, hfits⟩ := resolveRange_eq_ok hresolve
  refine Act.wpc_bind_command ht ?_
  refine Act.wpc_bind_refuseIf ht (fun _ => ⟨ht, nofun⟩) fun _ => ?_
  refine Act.wpc_bind_refuseIf ht (fun _ => ⟨ht, nofun⟩) fun _ => ?_
  refine Act.wpc_pure ht ⟨ht, fun bytes hbytes => ?_⟩
  cases hbytes
  refine ⟨?_, hfits⟩
  show bytesAt (t.media session.provider.device).cached mediaOffset.toNat size.toNat = _
  rw [ht.media, hoff]

end Session

end Storage

/-! ### The first pass -/

namespace Installer

section Passes

variable {request : InstallRequest} {parts : Parts} {manifest : ManifestView}
  {session : StorageSession} {handle : SlotHandle} {w : World} {device : Nat}
  {region : LayoutRegion}

theorem observeStaging_keeps {P : World → Prop} (hP : ∀ t o, P t → P { t with observer := o })
    (operation : TransactionOperation) (boundary : TransactionBoundary) (component : UInt32) :
    Act.Keeps machine P (observeStaging request session operation boundary component) := by
  intro t ht
  refine Act.wpc_bind (Q := fun _ t' => P t')
    (Transaction.observe_wpc (fun o => hP t o ht) fun n o _ => hP t o ht) ?_ ?_
  · intro n t' _ ht'
    exact Act.keeps_refuseIf _ _ t' ht'
  · intro e t' _ ht'
    exact ht'

theorem componentRange_eq_ok {index : Nat} {component : ComponentView} {backingSize : UInt64}
    (h : componentRange request parts manifest index = .ok (component, backingSize)) :
    Manifest.componentAt manifest index = .ok component ∧
      alignUp component.exactSize parts.provider.writeAlignment = some backingSize := by
  unfold componentRange at h
  split at h
  · cases h
  next found hcomp =>
  split at h
  · cases h
  next size halign =>
  simp only [bind_eq_ok, refuse_eq_ok, pure_eq_ok, exists_const, Prod.mk.injEq] at h
  obtain ⟨-, rfl, rfl⟩ := h
  exact ⟨hcomp, halign⟩

theorem bundleRead_length {component : ComponentView} {content : List UInt8}
    (h : bundleRead parts component = .ok content) :
    content.length = component.exactSize.toNat := by
  unfold bundleRead at h
  split at h
  · cases h
  simp only [bind_eq_ok, refuse_eq_ok, pure_eq_ok, exists_const] at h
  obtain ⟨-, rfl⟩ := h
  simp

variable (hdev : session.provider.device = device)
  (hreg : slotRegion session.layout handle.slotId = region)
include hdev hreg

theorem writeComponent_keeps (index : Nat) (exactTotal backingTotal : UInt64) :
    Act.Keeps machine (WrittenIn device region w)
      (writeComponent request parts manifest session handle index exactTotal backingTotal) := by
  have hobs : ∀ operation boundary, Act.Keeps machine (WrittenIn device region w)
      (observeStaging request session operation boundary (UInt32.ofNat index)) :=
    fun operation boundary => observeStaging_keeps
      (fun t o ht => ht.of_moved ((Moved.refl _ t).observed o)) operation boundary _
  refine Act.keeps_bind_ofExcept fun range hrange => ?_
  obtain ⟨component, backingSize⟩ := range
  obtain ⟨-, halign⟩ := componentRange_eq_ok hrange
  refine Act.Keeps.bind (Act.keeps_refuseIf _ _) fun _ => ?_
  refine Act.Keeps.bind (hobs _ _) fun _ => ?_
  refine Act.keeps_bind_ofExcept fun content hcontent => ?_
  refine Act.Keeps.bind (hobs _ _) fun _ => ?_
  refine Act.Keeps.bind (Act.keeps_refuseIf _ _) fun _ => ?_
  refine Act.Keeps.bind (hobs _ _) fun _ => ?_
  refine Act.Keeps.bind ((storageEraseInactive_keeps hdev hreg _ _).mapError _)
    fun _ => ?_
  refine Act.Keeps.bind (hobs _ _) fun _ => ?_
  refine Act.Keeps.bind (hobs _ _) fun _ => ?_
  have hlen : (content ++ List.replicate (backingSize - component.exactSize).toNat 0).length <
      2 ^ 64 := by
    have hle := le_alignUp halign
    have := backingSize.toNat_lt
    rw [List.length_append, List.length_replicate, bundleRead_length hcontent, toNat_sub_of_le]
    omega
  refine Act.Keeps.bind ((storageWriteInactive_keeps hdev hreg _ hlen).mapError _)
    fun _ => ?_
  exact Act.Keeps.bind (hobs _ _) fun _ => Act.keeps_pure _

/-- **The first pass writes nothing outside the slot's region.** -/
theorem writeComponents_keeps (indices : List Nat) (exactTotal backingTotal : UInt64) :
    Act.Keeps machine (WrittenIn device region w)
      (writeComponents request parts manifest session handle indices exactTotal backingTotal) := by
  induction indices generalizing exactTotal backingTotal with
  | nil => exact Act.keeps_pure _
  | cons index rest ih =>
      exact Act.Keeps.bind (writeComponent_keeps hdev hreg index exactTotal backingTotal)
        fun totals => ih totals.1 totals.2

end Passes

end Installer

/-! ### The second pass -/

/-- The region holds a component: its content under the digest of the manifest, and zeros behind it
up to the write alignment. -/
structure ComponentMatches (img : Nat → UInt8) (region : LayoutRegion) (alignment : UInt64)
    (component : ComponentView) : Prop where
  content : sha256 (bytesAt img (region.offset.toNat + component.bundleOffset.toNat)
    component.exactSize.toNat) component.exactSize.toNat = component.contentDigest
  tail : ∃ backingSize, alignUp component.exactSize alignment = some backingSize ∧
    component.bundleOffset.toNat + backingSize.toNat ≤ region.length.toNat ∧
    ∀ i, component.exactSize.toNat ≤ i → i < backingSize.toNat →
      img (region.offset.toNat + component.bundleOffset.toNat + i) = 0

/-- The region holds every component of a manifest. -/
def ManifestMatches (img : Nat → UInt8) (region : LayoutRegion) (alignment : UInt64)
    (manifest : ManifestView) : Prop :=
  ∀ index < manifest.componentCount.toNat, ∃ component,
    Manifest.componentAt manifest index = .ok component ∧
      ComponentMatches img region alignment component

/-- What a region holds is read from the region. -/
theorem ComponentMatches.congr {img img' : Nat → UInt8} {region : LayoutRegion}
    {alignment : UInt64} {component : ComponentView}
    (h : ComponentMatches img region alignment component)
    (himg : ∀ a, region.Contains a → img' a = img a) :
    ComponentMatches img' region alignment component := by
  obtain ⟨backingSize, halign, hfits, htail⟩ := h.tail
  have hle := le_alignUp halign
  constructor
  · rw [← h.content]
    refine congrArg (sha256 · _) (Transaction.bytesAt_congr fun a ha => himg a ?_)
    obtain ⟨hlow, hhigh⟩ := ha
    exact ⟨by omega, by omega⟩
  · refine ⟨backingSize, halign, hfits, fun i hlow hhigh => ?_⟩
    rw [himg _ ⟨by omega, by omega⟩]
    exact htail i hlow hhigh

theorem ManifestMatches.congr {img img' : Nat → UInt8} {region : LayoutRegion}
    {alignment : UInt64} {manifest : ManifestView}
    (h : ManifestMatches img region alignment manifest)
    (himg : ∀ a, region.Contains a → img' a = img a) :
    ManifestMatches img' region alignment manifest := by
  intro index hindex
  obtain ⟨component, hcomp, hmatches⟩ := h index hindex
  exact ⟨component, hcomp, hmatches.congr himg⟩

/-- The first bytes of a range. -/
theorem take_bytesAt (img : Nat → UInt8) (offset : Nat) {size n : Nat} (h : n ≤ size) :
    (bytesAt img offset size).take n = bytesAt img offset n := by
  unfold bytesAt
  rw [← List.map_take, List.take_range, Nat.min_eq_left h]

theorem byteAt_drop_bytesAt (img : Nat → UInt8) (offset : Nat) {size n i : Nat}
    (h : n + i < size) : byteAt ((bytesAt img offset size).drop n) i = img (offset + (n + i)) := by
  unfold byteAt bytesAt
  rw [List.getD_eq_getElem?_getD, List.getElem?_drop, List.getElem?_map,
    List.getElem?_range h]
  rfl

namespace Installer

section Passes

variable {request : InstallRequest} {parts : Parts} {manifest : ManifestView}
  {session : StorageSession} {handle : SlotHandle} {w t : World} {m : Media}
  {notes : List JournalNote} {device : Nat} {region : LayoutRegion}
  (hdev : session.provider.device = device)
  (hreg : slotRegion session.layout handle.slotId = region)
include hdev hreg

/-- A component that reads back right is on the media. -/
theorem checkComponent_wpc (index : Nat) (ht : Moved device w m notes t) :
    Act.wpc machine (Moved device w m notes)
      (fun r t' => Moved device w m notes t' ∧ (r = .ok () → ∃ component,
        Manifest.componentAt manifest index = .ok component ∧
        ComponentMatches m.cached region parts.provider.writeAlignment component))
      (checkComponent request parts manifest session handle index) t := by
  refine Act.wpc_bind_ofExcept ht (fun e _ => ⟨ht, nofun⟩) fun range hrange => ?_
  obtain ⟨component, backingSize⟩ := range
  obtain ⟨hcomp, halign⟩ := componentRange_eq_ok hrange
  have hle := le_alignUp halign
  refine Transaction.bind_stop_wpc ht (fun t h => h) (fun _ t h => ⟨h, nofun⟩)
    fun t ht => ?_
  refine Act.wpc_bind_mapError (storageRead_wpc hdev hreg ht) ?_ fun e t h => ⟨h.1, nofun⟩
  intro scratch t _ h
  obtain ⟨ht, hscr⟩ := h
  obtain ⟨hbytes, hfits⟩ := hscr scratch rfl
  refine Transaction.bind_stop_wpc ht (fun t h => h) (fun _ t h => ⟨h, nofun⟩)
    fun t ht => ?_
  refine Act.wpc_refuseIf ht (fun _ => ⟨ht, nofun⟩) fun hgood => ⟨ht, fun _ => ?_⟩
  simp only [Bool.or_eq_false_iff, Bool.not_eq_false', Bool.and_eq_false_iff, Digest.equal_iff] at hgood
  obtain ⟨hcontent, htail⟩ := hgood
  refine ⟨component, hcomp, ?_, backingSize, halign, hfits, ?_⟩
  · rw [← hcontent, hbytes]
    refine sha256_congr ?_
    rw [take_bytesAt _ _ hle, take_bytesAt _ _ (Nat.le_refl _)]
  · intro i hlow hhigh
    have hsize : (backingSize - component.exactSize).toNat =
        backingSize.toNat - component.exactSize.toNat := toNat_sub_of_le
    rcases htail with hnone | hzero
    · -- there is no tail, so there is no such byte
      have : (backingSize - component.exactSize) = 0 := by simpa using hnone
      rw [this] at hsize
      have : (0 : UInt64).toNat = 0 := rfl
      omega
    · have hbyte := bytesZero_iff.mp hzero (i - component.exactSize.toNat) (by omega)
      rw [hbytes, byteAt_drop_bytesAt _ _ (by omega), Nat.add_sub_cancel' hlow] at hbyte
      exact hbyte

theorem checkComponents_wpc (indices : List Nat) (ht : Moved device w m notes t) :
    Act.wpc machine (Moved device w m notes)
      (fun r t' => Moved device w m notes t' ∧ (r = .ok () →
        ∀ index ∈ indices, ∃ component, Manifest.componentAt manifest index = .ok component ∧
          ComponentMatches m.cached region parts.provider.writeAlignment component))
      (checkComponents request parts manifest session handle indices) t := by
  induction indices generalizing t with
  | nil => exact Act.wpc_pure ht ⟨ht, fun _ index h => by simp at h⟩
  | cons index rest ih =>
      refine Act.wpc_bind (checkComponent_wpc hdev hreg index ht) ?_ fun e t _ h => ⟨h.1, nofun⟩
      intro _ t _ h
      obtain ⟨ht, hfirst⟩ := h
      refine Act.wpc_mono (ih ht) (fun t h => h) ?_
      intro r t' h
      exact ⟨h.1, fun hr => List.forall_mem_cons.mpr ⟨hfirst rfl, h.2 hr⟩⟩

end Passes

/-! ### The whole install -/

/-- The parts of an accepted request are what the request holds. -/
theorem openRequest_eq_ok {request : InstallRequest} {parts : Parts}
    (h : openRequest request = .ok parts) :
    request.bundle = some parts.bundle ∧ request.provider = some parts.provider ∧
      request.layout = some parts.layout ∧ request.currentMetadata = some parts.currentMetadata ∧
      requestIsValid request parts = true := by
  unfold openRequest at h
  split at h
  · cases h
  next found hparts =>
  split at h
  · next hvalid =>
    cases h
    simp only [requestParts, Option.bind_eq_bind, Option.bind_eq_some_iff, Option.pure_def,
      Option.some.injEq] at hparts
    obtain ⟨bundle, hbundle, provider, hprov, layout, hlay, metadata, hmeta, rfl⟩ :=
      hparts
    exact ⟨hbundle, hprov, hlay, hmeta, hvalid⟩
  · cases h

/-- What an installed bundle leaves behind: nothing in the cache, every component of the authorized
manifest in the slot's region, and the metadata that says so. -/
structure Installed (request : InstallRequest) (parts : Parts) (t : World)
    (plan : InstallPlan) (manifest : ManifestView) (verifiedMetadata : SlotMetadata) : Prop where
  authorized : ∃ decision, Manifest.manifestAuthorize request.authorization = .ok (manifest, decision)
  prepared : installPrepare request = .ok plan
  clean : ∀ a, ¬ (t.media parts.provider.device).dirty a
  onMedia : ManifestMatches (t.media parts.provider.device).cached
    (slotRegion parts.layout request.targetSlot) parts.provider.writeAlignment manifest
  transition : metadataTransition plan.stagingMetadata
    (transitionTo .verified request.targetSlot manifest.bundleGeneration plan.manifestDigest
      plan.imageSetDigest parts.layout.identityDigest) = .ok verifiedMetadata

/-- **Installing a bundle writes its slot only, and what it calls verified is on the media.** -/
theorem installSignedBundle_wpc {request : InstallRequest} {parts : Parts}
    (hparts : openRequest request = .ok parts) (w : World) :
    Act.wpc machine
      (WrittenIn parts.provider.device (slotRegion parts.layout request.targetSlot) w)
      (fun r t =>
        WrittenIn parts.provider.device (slotRegion parts.layout request.targetSlot) w t ∧
        ∀ result, r = .ok result → ∃ plan manifest,
          Installed request parts t plan manifest result.verifiedMetadata)
      (installSignedBundle request) w := by
  generalize hgen : slotRegion parts.layout request.targetSlot = region
  have hstart := WrittenIn.refl parts.provider.device region w
  refine Act.wpc_bind_ofExcept hstart (fun e _ => ⟨hstart, nofun⟩) fun plan hplan => ?_
  refine Act.wpc_bind_refuseIf hstart (fun _ => ⟨hstart, nofun⟩) fun _ => ?_
  refine Act.wpc_bind_ofExcept hstart (fun e _ => ⟨hstart, nofun⟩) fun parts' hparts' => ?_
  obtain rfl : parts = parts' := Except.ok.inj (hparts.symm.trans hparts')
  refine Act.wpc_bind_ofExcept hstart (fun e _ => ⟨hstart, nofun⟩) fun authorized hauth => ?_
  obtain ⟨manifest, decision⟩ := authorized
  rw [mapStatus_eq_ok] at hauth
  refine Act.wpc_bind_ofExcept hstart (fun e _ => ⟨hstart, nofun⟩) fun handle hhandle => ?_
  have hslot : handle.slotId = request.targetSlot := by
    simp only [mapStatus_eq_ok, openInactiveSlot, bind_eq_ok, refuse_eq_ok, pure_eq_ok,
      exists_const] at hhandle
    obtain ⟨-, -, -, rfl⟩ := hhandle
    rfl
  have hreg : slotRegion (sessionFor parts plan.stagingMetadata).layout handle.slotId =
      region := by
    rw [hslot]
    exact hgen
  have herror : ∀ (e : InstallStatus) (t : World), WrittenIn parts.provider.device region w t →
      WrittenIn parts.provider.device region w t ∧
        ∀ result : InstallResult, Except.error e = .ok result → ∃ plan manifest,
          Installed request parts t plan manifest result.verifiedMetadata :=
    fun e t h => ⟨h, nofun⟩
  have hobserved : ∀ (t : World) (o : ObserverState), WrittenIn parts.provider.device region w t →
      WrittenIn parts.provider.device region w { t with observer := o } :=
    fun t o h => h.of_moved ((Moved.refl _ t).observed o)
  refine Act.Keeps.wpc_bind (writeComponents_keeps rfl hreg _ _ _) hstart (fun totals t ht => ?_)
    herror
  refine Act.Keeps.wpc_bind (observeStaging_keeps hobserved _ _ _) ht (fun _ t ht => ?_) herror
  have hdev : (sessionFor parts plan.stagingMetadata).provider.device = parts.provider.device := rfl
  refine Act.wpc_bind_mapError (storageFlush_wpc hdev ht) ?_ fun e t h => herror _ t h.1
  intro _ t _ h
  obtain ⟨ht, hclean⟩ := h
  have hclean := hclean rfl
  -- from here on only the observer changes
  have hsame : ∀ t', Moved parts.provider.device t (t.media parts.provider.device) t.notes t' →
      WrittenIn parts.provider.device region w t' := fun t' h => ht.of_moved h
  refine Transaction.bind_stop_wpc (Moved.refl _ t) hsame (fun _ t h => herror _ t (hsame t h))
    fun t' ht' => ?_
  refine Act.wpc_bind (Act.wpc_mono (checkComponents_wpc hdev hreg _ ht') hsame fun _ _ h => h) ?_
    fun e t _ h => herror e t (hsame t h.1)
  intro _ t'' _ h
  obtain ⟨ht'', hmatches⟩ := h
  have hmatches := hmatches rfl
  refine Act.wpc_bind_ofExcept (hsame t'' ht'') (fun e _ => herror e t'' (hsame t'' ht''))
    fun metadata hmeta => ?_
  rw [mapStatus_eq_ok] at hmeta
  refine Act.wpc_pure (hsame t'' ht'') ⟨hsame t'' ht'', fun result hres => ?_⟩
  cases hres
  refine ⟨plan, manifest, ⟨decision, hauth⟩, hplan, ?_, ?_, hmeta⟩
  · rw [ht''.media]
    exact hclean
  · rw [ht''.media, hgen]
    exact fun index hindex => hmatches index (List.mem_range.mpr hindex)

end Installer

end Ribon
