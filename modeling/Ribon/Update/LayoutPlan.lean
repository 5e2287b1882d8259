/-
Calculating a storage layout.

`layoutCalculate` sums the rounded regions, gives what is left of the media to the
last one, and then appends them one after the other.  Every step is checked against
wrapping.  Here the result is compared with the sum as a number, and with the two
other pieces of code that know what a layout is: the validator, and the encoder and
opener of its identity.
-/
import Ribon.Rounding
import Ribon.Update.Geometry

namespace Ribon

open Wire

structure LayoutInput where
  size : UInt32
  abiVersion : UInt32
  flags : UInt32
  reserved0 : UInt32
  mediaCapacityBytes : UInt64
  allocationAlignment : UInt64
  guardGapBytes : UInt64
  bootloaderBytes : UInt64
  immutableRecoveryBytes : UInt64
  slotPayloadBytes : UInt64
  slotMetadataBytes : UInt64
  updateJournalBytes : UInt64
  minimumTrailingReservedBytes : UInt64
  reserved : Reserved
  deriving DecidableEq

/-- A code that is not a kind is read as `invalid`, which no place in a layout has. -/
def LayoutRegionKind.ofCode (code : UInt32) : LayoutRegionKind :=
  match code.toNat with
  | 1 => .bootloader
  | 2 => .guardBootRecovery
  | 3 => .immutableRecovery
  | 4 => .guardRecoverySlotA
  | 5 => .slotA
  | 6 => .guardSlotASlotB
  | 7 => .slotB
  | 8 => .guardSlotBMetadata
  | 9 => .slotMetadata
  | 10 => .updateJournal
  | 11 => .trailingReserved
  | _ => .invalid

namespace Storage

def layoutInputSizeOf : UInt32 := 120

/-- The requested sizes of all regions but the last. -/
def requestedFront (input : LayoutInput) : List UInt64 :=
  [input.bootloaderBytes, input.guardGapBytes, input.immutableRecoveryBytes, input.guardGapBytes,
    input.slotPayloadBytes, input.guardGapBytes, input.slotPayloadBytes, input.guardGapBytes,
    input.slotMetadataBytes, input.updateJournalBytes]

/-- The first loop: the sum of the rounded sizes. -/
def alignedSum (alignment : UInt64) : List UInt64 → UInt64 → Option UInt64
  | [], total => some total
  | requested :: rest, total => do
    let length ← alignUp requested alignment
    let total ← addU64 total length
    alignedSum alignment rest total

/-- The region behind `cursor`, and the cursor behind it. -/
def layoutAppend (alignment capacity : UInt64) (index : Nat) (requested cursor : UInt64) :
    Except StorageStatus (LayoutRegion × UInt64) := do
  refuse (requested == 0) .capacity
  let length ← demand (alignUp requested alignment) .capacity
  let last ← demand (addU64 cursor length) .capacity
  refuse (capacity < last) .capacity
  return (⟨.ofCode (UInt32.ofNat (index + 1)), 0, cursor, length⟩, last)

/-- The second loop. -/
def layoutAppendAll (alignment capacity : UInt64) : (requests : List UInt64) → Nat → UInt64 →
    Except StorageStatus { regions : List LayoutRegion // regions.length = requests.length }
  | [], _, _ => .ok ⟨[], rfl⟩
  | requested :: rest, index, cursor => do
    let (region, last) ← layoutAppend alignment capacity index requested cursor
    let regions ← layoutAppendAll alignment capacity rest (index + 1) last
    return ⟨region :: regions.1, by simp [regions.2]⟩

def layoutInputIsValid (input : LayoutInput) : Bool :=
  input.size == layoutInputSizeOf && input.abiVersion == abiVersion && input.flags == 0 &&
  input.reserved0 == 0 && input.mediaCapacityBytes != 0 && powerOfTwo input.allocationAlignment &&
  input.guardGapBytes != 0 && input.bootloaderBytes != 0 && input.immutableRecoveryBytes != 0 &&
  input.slotPayloadBytes != 0 &&
  decide (UInt64.ofNat (2 * metadataBytes) ≤ input.slotMetadataBytes) &&
  input.updateJournalBytes != 0 && input.minimumTrailingReservedBytes != 0 &&
  reservedZero input.reserved

/-- The layout of the given regions, before its digest is known. -/
def layoutOf (capacity alignment : UInt64) (regions : Vector LayoutRegion 11) : Layout where
  size := layoutSizeOf
  abiVersion := abiVersion
  flags := 0
  regionCount := regionCount
  mediaCapacityBytes := capacity
  allocationAlignment := alignment
  regions := regions
  identityDigest := Digest.zero
  reserved := Reserved.none

def layoutCalculate (input : LayoutInput) : Except StorageStatus Layout := do
  refuse (!layoutInputIsValid input) .invalidArgument
  let alignment := input.allocationAlignment
  let total ← demand
    (alignedSum alignment (requestedFront input ++ [input.minimumTrailingReservedBytes]) 0) .overflow
  -- the loop has rounded the last region up as well, and keeps the result
  let trailingMinimum ← demand (alignUp input.minimumTrailingReservedBytes alignment) .overflow
  refuse (input.mediaCapacityBytes < total) .capacity
  let trailing := input.mediaCapacityBytes - (total - trailingMinimum)
  refuse (!aligned trailing alignment) .alignment
  let regions ← layoutAppendAll alignment input.mediaCapacityBytes
    (requestedFront input ++ [trailing]) 0 0
  let layout := layoutOf input.mediaCapacityBytes alignment ⟨regions.1.toArray, regions.2⟩
  let identity ← layoutIdentityEncode layout
  return { layout with identityDigest := sha256 identity layoutIdentityBytes }

/-- The region that a row is read as. -/
def layoutRegionAt (bytes : List UInt8) (index : Nat) : LayoutRegion :=
  let row := bytes.drop (layoutHeaderBytes + index * layoutRegionBytes)
  ⟨.ofCode (loadU32 row), loadU32 (row.drop 4), loadU64 (row.drop 8), loadU64 (row.drop 16)⟩

def layoutIdentityOpen (bytes : List UInt8) : Except StorageStatus Layout := do
  refuse (bytes.length != layoutIdentityBytes || !bytesEqual bytes layoutMagic 32 ||
    loadU16 (bytes.drop 32) != 1 || loadU16 (bytes.drop 34) != UInt16.ofNat layoutHeaderBytes ||
    loadU32 (bytes.drop 36) != UInt32.ofNat layoutIdentityBytes ||
    loadU32 (bytes.drop 56) != regionCount || !bytesZero (bytes.drop 60) (layoutHeaderBytes - 60) ||
    !bytesZero (bytes.drop (layoutHeaderBytes + 11 * layoutRegionBytes)) (5 * layoutRegionBytes))
    .malformed
  let layout := layoutOf (loadU64 (bytes.drop 40)) (loadU64 (bytes.drop 48))
    (Vector.ofFn fun index => layoutRegionAt bytes index)
  refuse (!layoutIsStructurallyValid layout) .malformed
  return { layout with identityDigest := sha256 bytes bytes.length }

/-! ### The two loops -/

/-- The sum of the sizes, each rounded up. -/
def roundedSum (alignment : UInt64) (requests : List UInt64) : Nat :=
  (requests.map fun requested => roundUp requested.toNat alignment.toNat).sum

@[simp] theorem roundedSum_nil (alignment : UInt64) : roundedSum alignment [] = 0 := rfl

@[simp] theorem roundedSum_cons (alignment requested : UInt64) (rest : List UInt64) :
    roundedSum alignment (requested :: rest) =
      roundUp requested.toNat alignment.toNat + roundedSum alignment rest := by
  simp [roundedSum]

theorem roundedSum_append (alignment : UInt64) (front back : List UInt64) :
    roundedSum alignment (front ++ back) =
      roundedSum alignment front + roundedSum alignment back := by
  simp [roundedSum]

section Loops

variable {alignment capacity : UInt64} (hpow : powerOfTwo alignment = true)
include hpow

theorem dvd_roundedSum (requests : List UInt64) :
    alignment.toNat ∣ roundedSum alignment requests := by
  induction requests with
  | nil => simp
  | cons requested rest ih =>
      rw [roundedSum_cons]
      exact Nat.dvd_add (roundUp_spec (powerOfTwo_pos hpow) _).1 ih

variable {requests : List UInt64}

theorem alignedSum_iff {start total : UInt64} :
    alignedSum alignment requests start = some total ↔
      total.toNat = start.toNat + roundedSum alignment requests := by
  induction requests generalizing start with
  | nil =>
      rw [alignedSum, Option.some.injEq, ← UInt64.toNat_inj, roundedSum_nil, Nat.add_zero, eq_comm]
  | cons requested rest ih =>
      simp only [alignedSum, Option.bind_eq_bind, Option.bind_eq_some_iff, alignUp_iff hpow,
        addU64_iff, ih, roundedSum_cons]
      constructor
      · rintro ⟨length, hlen, sum, hsum, htotal⟩
        omega
      · intro htotal
        have hlt := total.toNat_lt
        obtain ⟨length, hlen⟩ := exists_toNat_eq
          (show roundUp requested.toNat alignment.toNat < 2 ^ 64 by omega)
        obtain ⟨sum, hsum⟩ := exists_toNat_eq (show start.toNat + length.toNat < 2 ^ 64 by omega)
        exact ⟨length, hlen, sum, hsum, by omega⟩

theorem layoutAppend_eq_ok {index : Nat} {requested cursor last : UInt64} {region : LayoutRegion} :
    layoutAppend alignment capacity index requested cursor = .ok (region, last) ↔
      requested ≠ 0 ∧ last.toNat = cursor.toNat + roundUp requested.toNat alignment.toNat ∧
        last ≤ capacity ∧ region.length.toNat = roundUp requested.toNat alignment.toNat ∧
        region = ⟨.ofCode (UInt32.ofNat (index + 1)), 0, cursor, region.length⟩ := by
  simp only [layoutAppend, bind_eq_ok, refuse_eq_ok, demand_eq_ok, pure_eq_ok, exists_const,
    beq_eq_false_iff_ne, decide_eq_false_iff_not, UInt64.not_lt, Prod.mk.injEq, alignUp_iff hpow,
    addU64_iff]
  constructor
  · rintro ⟨hzero, length, hlen, found, hfound, hcap, rfl, rfl⟩
    exact ⟨hzero, by omega, hcap, hlen, rfl⟩
  · rintro ⟨hzero, hlast, hcap, hlen, hreg⟩
    exact ⟨hzero, region.length, hlen, last, by omega, hcap, hreg.symm, rfl⟩

/-- The cursor ends behind the sum, and the validator's loop follows it. -/
theorem layoutAppendAll_ok {index : Nat} {cursor : UInt64}
    {regions : { regions : List LayoutRegion // regions.length = requests.length }}
    (hcount : index + requests.length ≤ 11) (hcursor : alignment.toNat ∣ cursor.toNat)
    (h : layoutAppendAll alignment capacity requests index cursor = .ok regions) :
    (∃ last, regionsEnd alignment capacity index cursor regions.1 = some last ∧
      last.toNat = cursor.toNat + roundedSum alignment requests) ∧
    regions.1.map (·.length.toNat) =
      requests.map fun requested => roundUp requested.toNat alignment.toNat := by
  induction requests generalizing index cursor with
  | nil =>
      cases h
      exact ⟨⟨cursor, rfl, by simp⟩, rfl⟩
  | cons requested rest ih =>
      simp only [layoutAppendAll, bind_eq_ok, pure_eq_ok, Prod.exists] at h
      obtain ⟨region, last, hreg, tail, htail, rfl⟩ := h
      obtain ⟨hzero, hlast, hcap, hlen, hfields⟩ := (layoutAppend_eq_ok hpow).mp hreg
      obtain ⟨hdvd, hle, -⟩ := roundUp_spec (powerOfTwo_pos hpow) requested.toNat
      rw [List.length_cons] at hcount
      obtain ⟨⟨final, hfinal, hsum⟩, hlens⟩ := ih (by omega)
        (by rw [hlast]; exact Nat.dvd_add hcursor hdvd) htail
      have hkind : (LayoutRegionKind.ofCode (UInt32.ofNat (index + 1))).code =
          UInt32.ofNat (index + 1) := by
        have hindex : index < 11 := by omega
        interval_cases index <;> rfl
      have hsize : region.length ≠ 0 := by
        intro hempty
        rw [hempty, UInt64.toNat_zero] at hlen
        exact hzero (UInt64.toNat_inj.mp (Nat.le_zero.mp (hle.trans hlen.symm.le)))
      have hend : regionEnd alignment capacity index cursor region = some last := by
        have hadd : addU64 cursor region.length = some last := addU64_iff.mpr (by omega)
        have halign : aligned cursor alignment = true := (aligned_iff hpow).mpr hcursor
        have halign' : aligned region.length alignment = true :=
          (aligned_iff hpow).mpr (hlen ▸ hdvd)
        rw [hfields, regionEnd]
        simp only [hkind, hadd, halign, halign', UInt64.not_lt.mpr hcap, if_false]
        simp [hsize]
      refine ⟨⟨final, ?_, ?_⟩, ?_⟩
      · rw [regionsEnd, hend]
        exact hfinal
      · rw [roundedSum_cons]
        omega
      · rw [List.map_cons, List.map_cons, hlen, hlens]

theorem layoutAppendAll_succeeds (hzero : ∀ r ∈ requests, r ≠ 0) {cursor : UInt64} (index : Nat)
    (hfits : cursor.toNat + roundedSum alignment requests ≤ capacity.toNat) :
    ∃ regions, layoutAppendAll alignment capacity requests index cursor = .ok regions := by
  induction requests generalizing index cursor with
  | nil => exact ⟨_, rfl⟩
  | cons requested rest ih =>
      rw [roundedSum_cons] at hfits
      have hcap := capacity.toNat_lt
      obtain ⟨length, hlen⟩ := exists_toNat_eq
        (show roundUp requested.toNat alignment.toNat < 2 ^ 64 by omega)
      obtain ⟨last, hlast⟩ := exists_toNat_eq (show cursor.toNat + length.toNat < 2 ^ 64 by omega)
      obtain ⟨regions, hregs⟩ := @ih (fun r hr => hzero r (List.mem_cons_of_mem _ hr)) last
        (index + 1) (by omega)
      have happend := (@layoutAppend_eq_ok _ capacity hpow index requested cursor last
        ⟨_, _, _, length⟩).mpr ⟨hzero requested (List.mem_cons_self ..), by omega,
          UInt64.le_iff_toNat_le.mpr (by omega), hlen, rfl⟩
      simp only [layoutAppendAll, bind_eq_ok, pure_eq_ok, Prod.exists]
      exact ⟨_, _, _, happend, regions, hregs, rfl⟩

end Loops

/-! ### The identity of a layout -/

/-- The row that a region is written as. -/
def rowWire (region : LayoutRegion) : List UInt8 :=
  storeU32 region.kind.code ++ (storeU32 region.flags ++ (storeU64 region.offset ++
    storeU64 region.length))

theorem length_rowWire (region : LayoutRegion) : (rowWire region).length = layoutRegionBytes := by
  simp [rowWire, layoutRegionBytes]

/-- A row is written over the next 24 bytes and nothing else. -/
theorem layoutRow_eq {front rest : List UInt8} {index : Nat} (region : LayoutRegion)
    (hfront : front.length = layoutHeaderBytes + index * layoutRegionBytes) :
    layoutRow (front ++ (List.replicate layoutRegionBytes 0 ++ rest)) index region =
      front ++ rowWire region ++ rest := by
  have hpieces := congrArg Prod.fst (@foldl_appendAt front (List.replicate layoutRegionBytes 0 ++ rest)
    [storeU32 region.kind.code, storeU32 region.flags, storeU64 region.offset,
      storeU64 region.length] (by simp [layoutRegionBytes]))
  simp only [List.foldl_cons, List.foldl_nil, appendAt, hfront, length_storeU32, length_storeU64,
    Nat.add_assoc, Nat.reduceAdd] at hpieces
  unfold layoutRow
  simp only [Nat.add_assoc]
  rw [hpieces]
  simp [rowWire, layoutRegionBytes]

theorem foldl_layoutRow_eq {regions : List LayoutRegion} {front rest : List UInt8} {index : Nat}
    (hfront : front.length = layoutHeaderBytes + index * layoutRegionBytes) :
    (regions.zipIdx index).foldl (fun output (region, index) => layoutRow output index region)
        (front ++ (List.replicate (regions.length * layoutRegionBytes) 0 ++ rest)) =
      front ++ (regions.flatMap rowWire ++ rest) := by
  induction regions generalizing front index with
  | nil => simp
  | cons region regions ih =>
      have hzeros : List.replicate ((region :: regions).length * layoutRegionBytes) (0 : UInt8) =
          List.replicate layoutRegionBytes 0 ++
            List.replicate (regions.length * layoutRegionBytes) 0 := by
        rw [List.length_cons, Nat.succ_mul, Nat.add_comm, List.replicate_append_replicate]
      rw [hzeros, List.zipIdx_cons, List.foldl_cons, List.append_assoc]
      dsimp only
      rw [layoutRow_eq region hfront,
        ih (by rw [List.length_append, hfront, length_rowWire, Nat.succ_mul]; omega)]
      simp

/-- The first 128 bytes of an identity. -/
def headerWire (layout : Layout) : List UInt8 :=
  let output := patch (List.replicate layoutHeaderBytes 0) 0 layoutMagic
  let output := patch output 32 (storeU16 1)
  let output := patch output 34 (storeU16 (UInt16.ofNat layoutHeaderBytes))
  let output := patch output 36 (storeU32 (UInt32.ofNat layoutIdentityBytes))
  let output := patch output 40 (storeU64 layout.mediaCapacityBytes)
  let output := patch output 48 (storeU64 layout.allocationAlignment)
  patch output 56 (storeU32 layout.regionCount)

theorem length_layoutMagic : layoutMagic.length = 32 := by decide +kernel

@[simp] theorem length_headerWire (layout : Layout) :
    (headerWire layout).length = layoutHeaderBytes := by
  simp [headerWire]

def identityWire (layout : Layout) : List UInt8 :=
  headerWire layout ++ (layout.regions.toList.flatMap rowWire ++
    List.replicate (5 * layoutRegionBytes) 0)

theorem layoutIdentityEncode_eq_ok {layout : Layout} {identity : List UInt8} :
    layoutIdentityEncode layout = .ok identity ↔
      layoutIsStructurallyValid layout = true ∧ identity = identityWire layout := by
  have hzeros : List.replicate layoutIdentityBytes (0 : UInt8) =
      List.replicate layoutHeaderBytes 0 ++ (List.replicate (11 * layoutRegionBytes) 0 ++
        List.replicate (5 * layoutRegionBytes) 0) := by
    rw [List.replicate_append_replicate, List.replicate_append_replicate]
    rfl
  have hrows := @foldl_layoutRow_eq layout.regions.toList (headerWire layout)
    (List.replicate (5 * layoutRegionBytes) 0) 0 (by simp [layoutHeaderBytes])
  rw [Vector.length_toList] at hrows
  simp only [layoutIdentityEncode, bind_eq_ok, refuse_eq_ok, pure_eq_ok, exists_const,
    Bool.not_eq_false', hzeros]
  simp (disch := (simp only [length_patch, length_layoutMagic, length_storeU16, length_storeU32,
    length_storeU64, List.length_replicate, layoutHeaderBytes]; omega)) only [patch_append]
  rw [show List.zipIdx layout.regions.toList = layout.regions.toList.zipIdx 0 from rfl]
  refine and_congr_right fun _ => ?_
  rw [eq_comm]
  exact Eq.congr_right hrows

theorem ofCode_code (kind : LayoutRegionKind) : LayoutRegionKind.ofCode kind.code = kind := by
  cases kind <;> rfl

/-- A row is read back as its region. -/
theorem layoutRegionAt_identityWire (layout : Layout) {i : Nat} (hi : i < 11) :
    layoutRegionAt (identityWire layout) i = layout.regions[i] := by
  have hdrop : (identityWire layout).drop (layoutHeaderBytes + i * layoutRegionBytes) =
      rowWire layout.regions[i] ++ ((layout.regions.toList.drop (i + 1)).flatMap rowWire ++
        List.replicate (5 * layoutRegionBytes) 0) := by
    have hlen : i * layoutRegionBytes ≤ (layout.regions.toList.flatMap rowWire).length := by
      rw [length_rows length_rowWire, Vector.length_toList]
      exact Nat.mul_le_mul_right _ hi.le
    rw [identityWire, ← List.drop_drop, List.drop_left' (length_headerWire layout),
      List.drop_append_of_le_length hlen, drop_rows length_rowWire,
      List.drop_eq_getElem_cons (by simpa using hi), List.flatMap_cons, List.append_assoc]
    simp
  simp only [layoutRegionAt, hdrop]
  simp [rowWire, List.drop_append, List.drop_eq_nil_of_le, ofCode_code]

/-- **What is calculated can be opened.** -/
theorem layoutIdentityOpen_identityWire {capacity alignment : UInt64}
    {regions : Vector LayoutRegion 11} {layout : Layout}
    (hlay : layout = layoutOf capacity alignment regions)
    (hvalid : layoutIsStructurallyValid layout = true) :
    layoutIdentityOpen (identityWire layout) = .ok { layout with
      identityDigest := sha256 (identityWire layout) layoutIdentityBytes } := by
  have hrows : (layout.regions.toList.flatMap rowWire).length = 11 * layoutRegionBytes := by
    rw [length_rows length_rowWire, Vector.length_toList]
  have hlen : (identityWire layout).length = layoutIdentityBytes := by
    rw [identityWire, List.length_append, List.length_append, length_headerWire, hrows]
    rfl
  have hregs : (Vector.ofFn fun index : Fin 11 => layoutRegionAt (identityWire layout) index) =
      layout.regions := by
    ext1 i hi
    rw [Vector.getElem_ofFn]
    exact layoutRegionAt_identityWire layout hi
  have htail : bytesZero ((identityWire layout).drop (layoutHeaderBytes + 11 * layoutRegionBytes))
      (5 * layoutRegionBytes) = true := by
    rw [identityWire, ← List.drop_drop, List.drop_left' (length_headerWire layout),
      List.drop_left' hrows]
    exact bytesZero_replicate _ _
  have hhdr : bytesEqual (identityWire layout) layoutMagic 32 = true ∧
      loadU16 ((identityWire layout).drop 32) = 1 ∧
      loadU16 ((identityWire layout).drop 34) = UInt16.ofNat layoutHeaderBytes ∧
      loadU32 ((identityWire layout).drop 36) = UInt32.ofNat layoutIdentityBytes ∧
      loadU64 ((identityWire layout).drop 40) = layout.mediaCapacityBytes ∧
      loadU64 ((identityWire layout).drop 48) = layout.allocationAlignment ∧
      loadU32 ((identityWire layout).drop 56) = layout.regionCount ∧
      bytesZero ((identityWire layout).drop 60) (layoutHeaderBytes - 60) = true := by
    unfold identityWire
    simp (disch := (rw [length_headerWire]; simp [layoutHeaderBytes])) only [bytesEqual_append,
      loadU16_append, loadU32_append, loadU64_append, bytesZero_append]
    unfold headerWire layoutHeaderBytes
    simp [-List.reduceReplicate, length_layoutMagic]
  obtain ⟨hmagic, h32, h34, h36, h40, h48, h56, h60⟩ := hhdr
  have hcount : layout.regionCount = regionCount := by rw [hlay]; rfl
  have hself : layoutOf layout.mediaCapacityBytes layout.allocationAlignment layout.regions =
      layout := by rw [hlay]; rfl
  simp only [layoutIdentityOpen, bind_eq_ok, refuse_eq_ok, pure_eq_ok, exists_const, hlen, hmagic,
    h32, h34, h36, h40, h48, h56, h60, htail, hregs, hself, hvalid, hcount]
  exact ⟨rfl, rfl, trivial⟩

/-! ### The calculation -/

/-- The parameters that a layout can be calculated for, whatever the sizes add up to. -/
structure Admissible (input : LayoutInput) : Prop where
  size : input.size = layoutInputSizeOf
  abiVersion : input.abiVersion = abiVersion
  flags : input.flags = 0
  reserved0 : input.reserved0 = 0
  reserved : reservedZero input.reserved = true
  alignment : powerOfTwo input.allocationAlignment = true
  capacity : input.mediaCapacityBytes ≠ 0
  whole : input.allocationAlignment.toNat ∣ input.mediaCapacityBytes.toNat
  requested : ∀ size ∈ requestedFront input, size ≠ 0
  trailing : input.minimumTrailingReservedBytes ≠ 0
  metadata : 2 * metadataBytes ≤ input.slotMetadataBytes.toNat

/-- The rounded sizes of all regions together. -/
def demandedBytes (input : LayoutInput) : Nat :=
  roundedSum input.allocationAlignment
    (requestedFront input ++ [input.minimumTrailingReservedBytes])

theorem layoutInputIsValid_iff {input : LayoutInput} :
    layoutInputIsValid input = true ∧
        input.allocationAlignment.toNat ∣ input.mediaCapacityBytes.toNat ↔ Admissible input := by
  simp only [layoutInputIsValid, Bool.and_eq_true, beq_iff_eq, bne_iff_ne, ne_eq, decide_eq_true_eq,
    UInt64.le_iff_toNat_le]
  constructor
  · rintro ⟨⟨⟨⟨⟨⟨⟨⟨⟨⟨⟨⟨⟨⟨hsize, habi⟩, hflags⟩, hreserved0⟩, hcap⟩, halignment⟩, hguard⟩, hboot⟩,
      hrecovery⟩, hpay⟩, hmeta⟩, hjnl⟩, htrail⟩, hresv⟩, hwhole⟩
    have hmeta' : input.slotMetadataBytes ≠ 0 := by
      intro hzero
      rw [hzero] at hmeta
      exact absurd hmeta (by decide)
    refine ⟨hsize, habi, hflags, hreserved0, hresv, halignment, hcap, hwhole, ?_, htrail,
      hmeta⟩
    simp [requestedFront, hboot, hguard, hrecovery, hpay, hmeta', hjnl]
  · intro h
    have hreq := h.requested
    simp only [requestedFront, List.forall_mem_cons] at hreq
    obtain ⟨hboot, hguard, hrecovery, -, hpay, -, -, -, -, hjnl, -⟩ := hreq
    exact ⟨⟨⟨⟨⟨⟨⟨⟨⟨⟨⟨⟨⟨⟨h.size, h.abiVersion⟩, h.flags⟩, h.reserved0⟩, h.capacity⟩, h.alignment⟩, hguard⟩,
      hboot⟩, hrecovery⟩, hpay⟩, h.metadata⟩, hjnl⟩, h.trailing⟩, h.reserved⟩, h.whole⟩

/-- What is left of the media for the last region. -/
def trailingBytes (input : LayoutInput) : UInt64 :=
  input.mediaCapacityBytes -
    UInt64.ofNat (roundedSum input.allocationAlignment (requestedFront input))

/-- The sizes of all regions, as the calculation asks for them. -/
def requests (input : LayoutInput) : List UInt64 := requestedFront input ++ [trailingBytes input]

/-- The layout with the appended regions. -/
def appended (input : LayoutInput)
    (regions : { regions : List LayoutRegion // regions.length = (requests input).length }) : Layout :=
  layoutOf input.mediaCapacityBytes input.allocationAlignment ⟨regions.1.toArray, regions.2⟩

section Calculate

variable {input : LayoutInput}

/-- The last region gets the rest of the media, which is a multiple of the alignment. -/
theorem toNat_trailingBytes (hfits : demandedBytes input ≤ input.mediaCapacityBytes.toNat) :
    (trailingBytes input).toNat = input.mediaCapacityBytes.toNat -
      roundedSum input.allocationAlignment (requestedFront input) := by
  rw [demandedBytes, roundedSum_append] at hfits
  have hlt := input.mediaCapacityBytes.toNat_lt
  have hfront := UInt64.toNat_ofNat_of_lt'
    (show roundedSum input.allocationAlignment (requestedFront input) < 2 ^ 64 by omega)
  rw [trailingBytes, toNat_sub_of_le (by rw [hfront]; omega), hfront]

/-- The calculation, with its intermediate results as numbers. -/
theorem layoutCalculate_eq_ok {layout : Layout} :
    layoutCalculate input = .ok layout ↔
      Admissible input ∧ demandedBytes input ≤ input.mediaCapacityBytes.toNat ∧
        ∃ regions, layoutAppendAll input.allocationAlignment input.mediaCapacityBytes
            (requests input) 0 0 = .ok regions ∧
          ∃ identity, layoutIdentityEncode (appended input regions) = .ok identity ∧
            layout = { appended input regions with
              identityDigest := sha256 identity layoutIdentityBytes } := by
  rw [← layoutInputIsValid_iff]
  by_cases hvalid : layoutInputIsValid input = true
  swap
  · simp [layoutCalculate, hvalid, refuse_eq_ok]
  have hpow : powerOfTwo input.allocationAlignment = true := by
    simp only [layoutInputIsValid, Bool.and_eq_true] at hvalid
    tauto
  simp only [layoutCalculate, bind_eq_ok, refuse_eq_ok, demand_eq_ok, pure_eq_ok, exists_const,
    hvalid, alignedSum_iff hpow, alignUp_iff hpow, decide_eq_false_iff_not, UInt64.not_lt,
    Bool.not_eq_false', aligned_iff hpow, UInt64.toNat_zero, Nat.zero_add, true_and]
  have hrest : ∀ {total trailingMinimum : UInt64}, total.toNat = demandedBytes input →
      trailingMinimum.toNat =
        roundUp input.minimumTrailingReservedBytes.toNat input.allocationAlignment.toNat →
      input.mediaCapacityBytes - (total - trailingMinimum) = trailingBytes input := by
    intro total trailingMinimum htotal htrail
    rw [trailingBytes]
    congr 1
    rw [demandedBytes, roundedSum_append, roundedSum_cons, roundedSum_nil] at htotal
    have hlt := total.toNat_lt
    rw [← UInt64.toNat_inj, toNat_sub_of_le, UInt64.toNat_ofNat', Nat.mod_eq_of_lt (by omega)]
    omega
  have hdvd : demandedBytes input ≤ input.mediaCapacityBytes.toNat →
      (input.allocationAlignment.toNat ∣ (trailingBytes input).toNat ↔
        input.allocationAlignment.toNat ∣ input.mediaCapacityBytes.toNat) := by
    intro hfits
    rw [toNat_trailingBytes hfits]
    rw [demandedBytes, roundedSum_append] at hfits
    exact (Nat.dvd_sub_iff_left (by omega) (dvd_roundedSum hpow _))
  constructor
  · rintro ⟨total, htotal, trailingMinimum, htrail, hcap, hlater⟩
    rw [hrest htotal htrail] at hlater
    obtain ⟨haligned, regions, hregs, identity, hid, rfl⟩ := hlater
    have hfits : demandedBytes input ≤ input.mediaCapacityBytes.toNat := by
      rw [← show total.toNat = demandedBytes input from htotal]
      exact UInt64.le_iff_toNat_le.mp hcap
    exact ⟨(hdvd hfits).mp haligned, hfits, regions, hregs, identity, hid, rfl⟩
  · rintro ⟨hwhole, hfits, regions, hregs, identity, hid, rfl⟩
    have hlt := input.mediaCapacityBytes.toNat_lt
    obtain ⟨total, htotal⟩ := exists_toNat_eq (show demandedBytes input < 2 ^ 64 by omega)
    have hsum := hfits
    rw [demandedBytes, roundedSum_append, roundedSum_cons] at hsum
    obtain ⟨trailing, htrail⟩ := exists_toNat_eq (show roundUp
      input.minimumTrailingReservedBytes.toNat input.allocationAlignment.toNat < 2 ^ 64 by omega)
    refine ⟨total, htotal, trailing, htrail, UInt64.le_iff_toNat_le.mpr (by omega), ?_⟩
    rw [hrest htotal htrail]
    exact ⟨(hdvd hfits).mpr hwhole, regions, hregs, identity, hid, rfl⟩

end Calculate

/-- What the validator's loop asks of each region. -/
theorem regionsEnd_rows {alignment capacity : UInt64} {regions : List LayoutRegion} {index : Nat}
    {cursor last : UInt64} (h : regionsEnd alignment capacity index cursor regions = some last)
    {i : Nat} {region : LayoutRegion} (hi : regions[i]? = some region) :
    region.kind.code = UInt32.ofNat (index + i + 1) ∧ aligned region.offset alignment = true ∧
      aligned region.length alignment = true := by
  induction regions generalizing index cursor i with
  | nil => simp at hi
  | cons first rest ih =>
      rw [regionsEnd] at h
      split at h
      · cases h
      next found hstep =>
      cases i with
      | zero =>
          obtain rfl := Option.some.inj hi
          rw [regionEnd] at hstep
          split at hstep
          · cases hstep
          next hgood =>
          simp only [Bool.or_eq_true, not_or, bne_iff_ne, ne_eq, not_not, Bool.not_eq_true',
            Bool.not_eq_false] at hgood
          exact ⟨hgood.1.1.1.1.1, hgood.1.2, hgood.2⟩
      | succ i =>
          have hrow := ih h (by simpa using hi)
          rwa [show index + 1 + i = index + (i + 1) by omega] at hrow

/-- A layout as it is calculated. -/
structure Planned (input : LayoutInput) (layout : Layout) : Prop where
  media : layout.mediaCapacityBytes = input.mediaCapacityBytes
  alignment : layout.allocationAlignment = input.allocationAlignment
  kinds : ∀ (i : Nat) (hi : i < 11), layout.regions[i].kind.code = UInt32.ofNat (i + 1)
  placed : Placed layout
  disjoint : ∀ (i j : Nat) (hi : i < 11) (hj : j < 11), i ≠ j → ∀ address,
    layout.regions[i].Contains address → ¬ layout.regions[j].Contains address
  aligned : ∀ (i : Nat) (hi : i < 11),
    input.allocationAlignment.toNat ∣ layout.regions[i].offset.toNat ∧
      input.allocationAlignment.toNat ∣ layout.regions[i].length.toNat
  slots : (slotRegion layout 0).length = (slotRegion layout 1).length
  payload : input.slotPayloadBytes ≤ (slotRegion layout 0).length
  valid : layoutIsStructurallyValid layout = true
  roundTrip : ∃ identity, layoutIdentityEncode layout = .ok identity ∧
    layoutIdentityOpen identity = .ok layout

section Regions

variable {input : LayoutInput} (hinput : Admissible input)
  (hfits : demandedBytes input ≤ input.mediaCapacityBytes.toNat)
include hinput hfits

/-- The last region ends with the media. -/
theorem roundedSum_requests :
    roundedSum input.allocationAlignment (requests input) = input.mediaCapacityBytes.toNat := by
  have hpos := powerOfTwo_pos hinput.alignment
  have htrail := toNat_trailingBytes hfits
  rw [demandedBytes, roundedSum_append] at hfits
  have hdvd : input.allocationAlignment.toNat ∣ (trailingBytes input).toNat := by
    rw [htrail]
    exact Nat.dvd_sub hinput.whole (dvd_roundedSum hinput.alignment _)
  rw [requests, roundedSum_append, roundedSum_cons, roundedSum_nil, roundUp_of_dvd hpos hdvd,
    htrail]
  omega

theorem trailingBytes_ne_zero : trailingBytes input ≠ 0 := by
  intro hzero
  have htrail := toNat_trailingBytes hfits
  have hle := (roundUp_spec (powerOfTwo_pos hinput.alignment)
    input.minimumTrailingReservedBytes.toNat).2.1
  have hmin : input.minimumTrailingReservedBytes.toNat ≠ 0 :=
    fun h => hinput.trailing (UInt64.toNat_inj.mp h)
  rw [demandedBytes, roundedSum_append, roundedSum_cons] at hfits
  rw [hzero, UInt64.toNat_zero] at htrail
  omega

variable {regions : { regions : List LayoutRegion // regions.length = (requests input).length }}
  (hregs : layoutAppendAll input.allocationAlignment input.mediaCapacityBytes (requests input) 0 0 =
    .ok regions)
include hregs

omit hfits in
theorem length_appended {i : Nat} (hi : i < 11) : (appended input regions).regions[i].length.toNat =
    roundUp ((requests input).get ⟨i, hi⟩).toNat input.allocationAlignment.toNat := by
  obtain ⟨-, hlens⟩ := layoutAppendAll_ok hinput.alignment (by simp [requests, requestedFront])
    (by simp) hregs
  have hget := congrArg (fun l => l[i]?) hlens
  simp only [List.getElem?_map] at hget
  have hcount : i < (requests input).length := hi
  rw [List.getElem?_eq_getElem (by rw [regions.2]; exact hcount),
    List.getElem?_eq_getElem hcount] at hget
  exact Option.some.inj hget

/-- The appended regions are a layout, by the validator's own loop. -/
theorem layoutIsStructurallyValid_appended :
    layoutIsStructurallyValid (appended input regions) = true := by
  obtain ⟨⟨last, hloop, hlast⟩, -⟩ :=
    layoutAppendAll_ok hinput.alignment (by simp [requests, requestedFront]) (by simp) hregs
  have hlen := @length_appended _ hinput _ hregs
  have hcap : last = input.mediaCapacityBytes := by
    rw [← UInt64.toNat_inj, hlast, roundedSum_requests hinput hfits]
    simp
  have hmeta :
      UInt64.ofNat (2 * metadataBytes) ≤ (appended input regions).regions[8].length := by
    rw [UInt64.le_iff_toNat_le, hlen (by decide)]
    exact le_trans hinput.metadata (roundUp_spec (powerOfTwo_pos hinput.alignment) _).2.1
  have hslots : (appended input regions).regions[4].length =
      (appended input regions).regions[6].length := by
    rw [← UInt64.toNat_inj, hlen (by decide), hlen (by decide)]
    rfl
  rw [hcap] at hloop
  simp only [layoutIsStructurallyValid, Bool.and_eq_true, beq_iff_eq, bne_iff_ne]
  exact ⟨⟨⟨⟨⟨⟨⟨⟨⟨rfl, rfl⟩, rfl⟩, rfl⟩, hinput.capacity⟩, hinput.alignment⟩,
    reservedZero_none⟩, hloop⟩, decide_eq_true hmeta⟩, hslots⟩

end Regions

/-- **The calculation of a layout is exact.**  It succeeds where the rounded sizes, as numbers, fit
the media, and only there; and what it calculates is a layout to every other piece of code. -/
theorem layoutCalculate_exact (input : LayoutInput) :
    ((∃ layout, layoutCalculate input = .ok layout) ↔
      Admissible input ∧ demandedBytes input ≤ input.mediaCapacityBytes.toNat) ∧
    ∀ layout, layoutCalculate input = .ok layout → Planned input layout := by
  constructor
  · simp only [layoutCalculate_eq_ok]
    constructor
    · rintro ⟨layout, hinput, hfits, -⟩
      exact ⟨hinput, hfits⟩
    · rintro ⟨hinput, hfits⟩
      have hzero : ∀ size ∈ requests input, size ≠ 0 :=
        List.forall_mem_append.mpr ⟨hinput.requested,
          List.forall_mem_singleton.mpr (trailingBytes_ne_zero hinput hfits)⟩
      have hroom : (0 : UInt64).toNat + roundedSum input.allocationAlignment (requests input) ≤
          input.mediaCapacityBytes.toNat := by
        simp [roundedSum_requests hinput hfits]
      obtain ⟨regions, hregs⟩ := layoutAppendAll_succeeds hinput.alignment hzero 0 hroom
      have hvalid := layoutIsStructurallyValid_appended hinput hfits hregs
      exact ⟨_, hinput, hfits, regions, hregs, _, layoutIdentityEncode_eq_ok.mpr ⟨hvalid, rfl⟩,
        rfl⟩
  · intro layout hlay
    obtain ⟨hinput, hfits, regions, hregs, identity, hid, rfl⟩ :=
      layoutCalculate_eq_ok.mp hlay
    have hvalid := layoutIsStructurallyValid_appended hinput hfits hregs
    have hlen := @length_appended _ hinput _ hregs
    obtain ⟨-, rfl⟩ := layoutIdentityEncode_eq_ok.mp hid
    have hloop : regionsEnd input.allocationAlignment input.mediaCapacityBytes 0 0 regions.1 =
        some input.mediaCapacityBytes := by
      simp only [layoutIsStructurallyValid, Bool.and_eq_true, beq_iff_eq] at hvalid
      exact hvalid.1.1.2
    have hrow := fun i (hi : i < 11) => regionsEnd_rows hloop
      (List.getElem?_eq_getElem (show i < regions.1.length by rw [regions.2]; exact hi))
    have hpow := hinput.alignment
    -- the digest is no part of what the validator and the encoder read
    have hplaced := layoutIsStructurallyValid_placed (show layoutIsStructurallyValid
      { appended input regions with
        identityDigest := sha256 (identityWire (appended input regions)) layoutIdentityBytes } = true
      from hvalid)
    constructor
    case media => rfl
    case alignment => rfl
    case kinds =>
      intro i hi
      have hkind := (hrow i hi).1
      rwa [Nat.zero_add] at hkind
    case placed => exact hplaced
    case disjoint =>
      intro i j hi hj hne address ha
      exact hplaced.disjoint hi hj hne ha
    case aligned =>
      intro i hi
      exact ⟨(aligned_iff hpow).mp (hrow i hi).2.1, (aligned_iff hpow).mp (hrow i hi).2.2⟩
    case slots =>
      refine UInt64.toNat_inj.mp ((@hlen 4 (by decide)).trans ?_)
      exact (@hlen 6 (by decide)).symm
    case payload =>
      refine UInt64.le_iff_toNat_le.mpr (le_of_le_of_eq ?_ (@hlen 4 (by decide)).symm)
      exact (roundUp_spec (powerOfTwo_pos hpow) _).2.1
    case valid => exact hvalid
    case roundTrip =>
      refine ⟨_, layoutIdentityEncode_eq_ok.mpr ⟨hvalid, rfl⟩, ?_⟩
      exact @layoutIdentityOpen_identityWire _ _ _ (layoutOf _ _ _) rfl hvalid

end Storage

end Ribon
