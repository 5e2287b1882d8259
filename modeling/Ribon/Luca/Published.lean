/-
What a reader of the new tree finds.

The tree is four parts one behind the other, and every field is read back from the part that
it was written in: the header, the reserve map, the properties and their names.
-/
import Ribon.Luca.DirectFdt

namespace Ribon.Luca

open Wire

theorem toNat_toUInt32 {n : Nat} (h : n ≤ u32Max) : n.toUInt32.toNat = n := by
  have hmax : u32Max = 2 ^ 32 - 1 := rfl
  rw [Nat.toUInt32, UInt32.toNat_ofNat']
  exact Nat.mod_eq_of_lt (by omega)

/-! ### The header -/

/-- All fields of the header are words. -/
structure FdtHeader.Fits (header : FdtHeader) : Prop where
  totalSize : header.totalSize ≤ u32Max
  structureOffset : header.structureOffset ≤ u32Max
  stringsOffset : header.stringsOffset ≤ u32Max
  reserveOffset : header.reserveOffset ≤ u32Max
  stringsSize : header.stringsSize ≤ u32Max
  structureSize : header.structureSize ≤ u32Max

variable {input : List UInt8}

theorem length_writeHeader (h : 40 ≤ input.length) (header : FdtHeader) :
    (writeHeader input header).length = 40 := by
  simp only [writeHeader, List.length_append, List.length_take, List.length_drop, length_storeBe32]
  omega

variable {front rest : List UInt8}

theorem readBe32_behind {k : Nat} (h : front.length ≤ k) :
    readBe32 (front ++ rest) k = readBe32 rest (k - front.length) := by
  rw [readBe32, readBe32, List.drop_append, List.drop_eq_nil_of_le h, List.nil_append]

theorem readBe32_head (v : UInt32) (rest : List UInt8) : readBe32 (storeBe32 v ++ rest) 0 = v :=
  loadBe32_append v rest

theorem readBe32_next {v : UInt32} {k : Nat} (h : 4 ≤ k) :
    readBe32 (storeBe32 v ++ rest) k = readBe32 rest (k - 4) := readBe32_behind h

variable {header : FdtHeader}

theorem readHeader_writeHeader (h : 40 ≤ input.length) (hfits : header.Fits) :
    readHeader (writeHeader input header ++ rest) = header := by
  have hfirst : (input.take 4).length = 4 := by
    rw [List.length_take]
    omega
  have hver : ((input.drop 20).take 12).length = 12 := by
    rw [List.length_take, List.length_drop]
    omega
  unfold readHeader writeHeader
  simp only [List.append_assoc, readBe32_behind, readBe32_next, hfirst, hver, Nat.le_refl,
    Nat.reduceLeDiff, Nat.reduceSub, Nat.sub_self, readBe32_head, toNat_toUInt32 hfits.totalSize,
    toNat_toUInt32 hfits.structureOffset, toNat_toUInt32 hfits.stringsOffset,
    toNat_toUInt32 hfits.reserveOffset, toNat_toUInt32 hfits.stringsSize,
    toNat_toUInt32 hfits.structureSize]

/-! ### The reserve map -/

/-- A range as the reserve map has it. -/
def reserved (region : MemoryRegion) : MemoryRegion := ⟨region.base, region.length, .reserved, 0⟩

theorem covered_reserved (ranges : List MemoryRegion) :
    covered (ranges.map reserved) = covered ranges := by
  induction ranges with
  | nil => rfl
  | cons region ranges ih =>
      rw [List.map_cons, covered_cons, covered_cons, ih]
      rfl

@[simp] theorem length_writeReservations (ranges : List MemoryRegion) :
    (writeReservations ranges).length = (ranges.length + 1) * 16 := by
  unfold writeReservations
  induction ranges with
  | nil => rfl
  | cons region ranges ih =>
      simp only [List.map_cons, List.flatten_cons, List.append_assoc, List.length_append,
        length_storeBe64, List.length_cons] at ih ⊢
      omega

theorem writeReservations_cons (region : MemoryRegion) (ranges : List MemoryRegion) :
    writeReservations (region :: ranges) =
      storeBe64 region.base ++ (storeBe64 region.length ++ writeReservations ranges) := by
  simp only [writeReservations, List.map_cons, List.flatten_cons, List.append_assoc]

/-- The pair of words that begins where a part of the bytes ends. -/
theorem pair_read (first second : UInt64) :
    loadBe64 ((front ++ (storeBe64 first ++ (storeBe64 second ++ rest))).drop front.length) =
      first ∧
    loadBe64 ((front ++ (storeBe64 first ++ (storeBe64 second ++ rest))).drop
      (front.length + 8)) = second := by
  refine ⟨loadBe64_drop rfl, ?_⟩
  rw [← List.append_assoc]
  exact loadBe64_drop (by simp)

/-- **The ranges are read back.** -/
theorem scanReservations_write {ranges : List MemoryRegion} {back : List UInt8} {total : Nat}
    (htotal : front.length + (ranges.length + 1) * 16 ≤ total)
    (hranges : ∀ region ∈ ranges, region.length ≠ 0) :
    scanReservations (front ++ (writeReservations ranges ++ back)) total front.length =
      some (ranges.map reserved) := by
  have hroom {offset : Nat} (h : offset + 16 ≤ total) :
      (decide (total < offset) || decide (total - offset < 16)) = false := by
    simp only [Bool.or_eq_false_iff, decide_eq_false_iff_not]
    omega
  induction ranges generalizing front with
  | nil =>
      have hzero : writeReservations [] ++ back = storeBe64 0 ++ (storeBe64 0 ++ back) := rfl
      obtain ⟨haddr, hsize⟩ := @pair_read front back 0 0
      unfold scanReservations
      rw [hroom (by omega), hzero]
      rw [haddr, hsize]
      rfl
  | cons region ranges ih =>
      have hsome : region.length ≠ 0 := hranges region (by simp)
      have hcons : writeReservations (region :: ranges) ++ back = storeBe64 region.base ++
          (storeBe64 region.length ++ (writeReservations ranges ++ back)) := by
        rw [writeReservations_cons, List.append_assoc, List.append_assoc]
      obtain ⟨haddr, hsize⟩ :=
        @pair_read front (writeReservations ranges ++ back) region.base region.length
      have hnext : scanReservations (front ++ (storeBe64 region.base ++
          (storeBe64 region.length ++ (writeReservations ranges ++ back)))) total
          (front.length + 16) = some (ranges.map reserved) := by
        have hlen : (front ++ (storeBe64 region.base ++ storeBe64 region.length)).length =
            front.length + 16 := by
          simp
        have hrest := @ih (front ++ (storeBe64 region.base ++ storeBe64 region.length))
          (by
            rw [hlen]
            simp only [List.length_cons] at htotal
            omega)
          fun other hmem => hranges other (by simp [hmem])
        rw [hlen] at hrest
        simpa only [List.append_assoc] using hrest
      unfold scanReservations
      rw [hroom (by omega), hcons]
      rw [haddr, hsize, hnext, if_neg Bool.false_ne_true, if_neg (by simp [hsome])]
      rfl

/-! ### The properties -/

/-- The number that the cells of a property hold. -/
def readAddress (addressCells : UInt32) (input : List UInt8) (offset : Nat) : UInt64 :=
  if addressCells == 2 then loadBe64 (input.drop offset) else (readBe32 input offset).toUInt64

/-- A tree has a property at an offset of its structure block. -/
structure PropertyAt (input : List UInt8) (addressCells : UInt32) (offset : Nat)
    (property : Property) : Prop where
  token : readBe32 input offset = fdtProp
  size : readBe32 input (offset + 4) = addressCells * 4
  name : (input.drop ((readHeader input).stringsOffset + (readBe32 input (offset + 8)).toNat)).take
    (property.1.length + 1) = property.1 ++ [0]
  value : readAddress addressCells input (offset + 12) = property.2

/-- The properties stand one behind the other from an offset on. -/
def PropertiesAt (input : List UInt8) (addressCells : UInt32) : Nat → List Property → Prop
  | _, [] => True
  | offset, property :: rest =>
      PropertyAt input addressCells offset property ∧
        PropertiesAt input addressCells (offset + (12 + addressCells.toNat * 4)) rest

/-- The cells that a root may ask for, and a value that they hold. -/
def Holds (addressCells : UInt32) (value : UInt64) : Prop :=
  addressCells = 2 ∨ (addressCells = 1 ∧ value.toNat ≤ u32Max)

variable {addressCells : UInt32}

variable {value : UInt64} (h : Holds addressCells value)
include h

theorem length_writeAddress :
    (writeAddress addressCells value).length = addressCells.toNat * 4 := by
  rcases h with htwo | ⟨hone, -⟩
  · rw [htwo]
    rfl
  · rw [hone]
    rfl

theorem readAddress_writeAddress {offset : Nat} (hfront : front.length = offset) :
    readAddress addressCells (front ++ (writeAddress addressCells value ++ rest)) offset = value := by
  rcases h with htwo | ⟨hone, hvalue⟩
  · rw [htwo]
    have hboth : writeAddress 2 value = storeBe64 value := rfl
    unfold readAddress
    rw [if_pos (by decide), hboth, loadBe64_drop hfront]
  · rw [hone]
    have hsingle : writeAddress 1 value = storeBe32 value.toUInt32 := rfl
    unfold readAddress
    rw [if_neg (by decide), hsingle, readBe32, loadBe32_drop hfront]
    rw [← UInt64.toNat_inj, UInt32.toNat_toUInt64, UInt64.toNat_toUInt32]
    have hmax : u32Max = 2 ^ 32 - 1 := rfl
    exact Nat.mod_eq_of_lt (by omega)

theorem length_writeProperty (nameOffset : Nat) :
    (writeProperty nameOffset addressCells value).length = 12 + addressCells.toNat * 4 := by
  simp only [writeProperty, List.length_append, length_storeBe32, length_writeAddress h]

omit h

theorem length_writeProperties {properties : List Property}
    (h : ∀ property ∈ properties, Holds addressCells property.2) (nameOffset : Nat) :
    (writeProperties addressCells nameOffset properties).length =
      properties.length * (12 + addressCells.toNat * 4) := by
  induction properties generalizing nameOffset with
  | nil => simp [writeProperties]
  | cons property properties ih =>
      rw [writeProperties, List.length_append, length_writeProperty (h property (by simp)),
        ih (fun other hmem => h other (by simp [hmem])), List.length_cons, Nat.add_one_mul,
        Nat.add_comm]

/-- A property is read back where it was written. -/
theorem propertyAt_write {back : List UInt8} {name : List UInt8} {value : UInt64} {nameOffset : Nat}
    (hholds : Holds addressCells value)
    (hinput : input = front ++ (writeProperty nameOffset addressCells value ++ back))
    (hoff : nameOffset ≤ u32Max)
    (hname : ∃ rest, input.drop ((readHeader input).stringsOffset + nameOffset) =
      name ++ [0] ++ rest) :
    PropertyAt input addressCells front.length (name, value) := by
  obtain ⟨rest, hrest⟩ := hname
  have hparts : input = front ++ (storeBe32 fdtProp ++ (storeBe32 (addressCells * 4) ++
      (storeBe32 nameOffset.toUInt32 ++ (writeAddress addressCells value ++ back)))) := by
    rw [hinput]
    simp only [writeProperty, List.append_assoc]
  have hnameOffset : readBe32 input (front.length + 8) = nameOffset.toUInt32 := by
    rw [hparts, ← List.append_assoc, ← List.append_assoc, readBe32]
    exact loadBe32_drop (by simp)
  refine ⟨?_, ?_, ?_, ?_⟩
  · rw [hparts, readBe32]
    exact loadBe32_drop rfl
  · rw [hparts, ← List.append_assoc, readBe32]
    exact loadBe32_drop (by simp)
  · rw [hnameOffset, toNat_toUInt32 hoff, hrest]
    exact List.take_left' (by simp)
  · rw [hparts, ← List.append_assoc, ← List.append_assoc, ← List.append_assoc]
    exact readAddress_writeAddress hholds (by simp)

/-- **The properties are read back**, each with its name. -/
theorem propertiesAt_write {back : List UInt8} {properties : List Property} {nameOffset : Nat}
    (hholds : ∀ property ∈ properties, Holds addressCells property.2)
    (hinput : input = front ++ (writeProperties addressCells nameOffset properties ++ back))
    (hoff : nameOffset + (writeNames properties).length ≤ u32Max)
    (hnames : ∃ rest, input.drop ((readHeader input).stringsOffset + nameOffset) =
      writeNames properties ++ rest) :
    PropertiesAt input addressCells front.length properties := by
  induction properties generalizing front nameOffset with
  | nil => trivial
  | cons property properties ih =>
      obtain ⟨name, value⟩ := property
      obtain ⟨rest, hrest⟩ := hnames
      have hvalue : Holds addressCells value := hholds (name, value) (by simp)
      have hcons : writeNames ((name, value) :: properties) =
          name ++ [0] ++ writeNames properties := by
        simp [writeNames]
      have hlen : (front ++ writeProperty nameOffset addressCells value).length =
          front.length + (12 + addressCells.toNat * 4) := by
        rw [List.length_append, length_writeProperty hvalue]
      rw [hcons, List.length_append, List.length_append] at hoff
      rw [writeProperties, List.append_assoc] at hinput
      constructor
      · exact propertyAt_write hvalue hinput (by omega)
          ⟨writeNames properties ++ rest, by rw [hrest, hcons, List.append_assoc]⟩
      · rw [← hlen]
        refine @ih _ (nameOffset + (name.length + 1))
          (fun other hmem => hholds other (by simp [hmem])) ?_ ?_ ?_
        · rw [List.append_assoc]
          exact hinput
        · simp only [List.length_singleton] at hoff
          omega
        · refine ⟨rest, ?_⟩
          rw [← Nat.add_assoc, ← List.drop_drop, hrest, hcons, List.append_assoc]
          exact List.drop_left' (by simp)

/-! ### The whole tree -/

/-- A header that was let through. -/
structure HeaderValid (tree : DeviceTree) (header : FdtHeader) : Prop where
  room : header.totalSize ≤ tree.data.length
  block : header.structureOffset + header.structureSize ≤ header.totalSize
  strings : header.stringsOffset + header.stringsSize ≤ header.totalSize

theorem headerValid_of_isValid {tree : DeviceTree} (h : headerIsValid tree header = true) :
    HeaderValid tree header := by
  simp only [headerIsValid, Bool.and_eq_true, decide_eq_true_eq] at h
  obtain ⟨⟨⟨⟨⟨⟨⟨⟨⟨⟨_, _⟩, hroom⟩, _⟩, _⟩, _⟩, _⟩, hstructure⟩, hblock⟩, hstrings⟩, hnames⟩ := h
  exact ⟨hroom, by omega, by omega⟩

theorem length_writeStructure {tree : DeviceTree} (h : HeaderValid tree header) (chosenInsert : Nat)
    (properties : List UInt8) :
    (writeStructure tree.data header chosenInsert properties).length =
      header.structureSize + properties.length := by
  have hroom := h.room
  have hblock := h.block
  simp only [writeStructure, List.length_append, List.length_take, List.length_drop]
  omega

theorem holds_of_usable {state : ScanState} {sawEnd : Bool}
    {kernelStart kernelEnd kernelEntry initrdStart initrdSize : UInt64}
    (h : scanIsUsable state sawEnd kernelStart kernelEnd kernelEntry initrdStart initrdSize = true) :
    ∀ property ∈ chosenProperties kernelStart kernelEnd kernelEntry initrdStart initrdSize,
      Holds state.addressCells property.2 := by
  simp only [scanIsUsable, Bool.and_eq_true, decide_eq_true_eq, Bool.not_eq_true',
    UInt32.le_iff_toNat_le] at h
  obtain ⟨⟨⟨⟨_, hmin⟩, hmax⟩, hwide⟩, _⟩ := h
  have hleast : fdtMinAddressCells.toNat = 1 := rfl
  have hmost : fdtMaxAddressCells.toNat = 2 := rfl
  by_cases htwo : state.addressCells = 2
  · intro property _
    exact Or.inl htwo
  have hone : state.addressCells = 1 := by
    have hne : state.addressCells.toNat ≠ 2 := fun heq => htwo (UInt32.toNat_inj.mp heq)
    refine UInt32.toNat_inj.mp ?_
    have hsingle : (1 : UInt32).toNat = 1 := rfl
    omega
  rw [hone] at hwide
  simp only [BEq.rfl, Bool.true_and, Bool.or_eq_false_iff, decide_eq_false_iff_not, not_lt]
    at hwide
  obtain ⟨⟨⟨hstart, hend⟩, hentry⟩, hinitrd⟩ := hwide
  intro property hmem
  refine Or.inr ⟨hone, ?_⟩
  revert property
  refine List.forall_mem_append.mpr ⟨?_, ?_⟩
  · simp only [List.forall_mem_cons]
    exact ⟨hstart, hend, hentry, nofun⟩
  · split
    · next hsize =>
      simp only [hsize, Bool.true_and, Bool.or_eq_false_iff, decide_eq_false_iff_not, not_lt]
        at hinitrd
      simp only [List.forall_mem_cons]
      exact ⟨hinitrd.1, hinitrd.2, nofun⟩
    · nofun

section Parts

variable {tree : DeviceTree} {header : FdtHeader} {merged : List MemoryRegion}
  {addressCells : UInt32} {chosenInsert : Nat} {properties : List Property}

/-- The header of a tree that is written with these parts. -/
abbrev partsHeader (header : FdtHeader) (merged : List MemoryRegion) (addressCells : UInt32)
    (properties : List Property) : FdtHeader :=
  newHeader header merged (properties.length * (12 + addressCells.toNat * 4))
    (writeNames properties).length

variable (hinput : 40 ≤ tree.data.length)
include hinput

/-- The strings behind the structure block, and how long all of it is. -/
theorem length_writeBlob (hvalid : HeaderValid tree header)
    (hholds : ∀ property ∈ properties, Holds addressCells property.2) :
    (writeBlob tree.data header (partsHeader header merged addressCells properties) merged
      addressCells chosenInsert properties).length =
      (partsHeader header merged addressCells properties).totalSize := by
  have hroom := hvalid.room
  have hstrings := hvalid.strings
  have hforty : fdtHeaderSize = 40 := rfl
  simp only [writeBlob, List.length_append, length_writeHeader hinput, length_writeReservations,
    length_writeStructure hvalid, length_writeProperties hholds, List.length_take,
    List.length_drop, partsHeader, newHeader, hforty]
  omega

theorem reserveMap_writeBlob (hfits : (partsHeader header merged addressCells properties).Fits)
    (hmerged : ∀ region ∈ merged, region.length ≠ 0) :
    reserveMap (writeBlob tree.data header (partsHeader header merged addressCells properties)
      merged addressCells chosenInsert properties) = some (merged.map reserved) := by
  have hlen := length_writeHeader hinput (partsHeader header merged addressCells properties)
  have htotal : (writeHeader tree.data
      (partsHeader header merged addressCells properties)).length + (merged.length + 1) * 16 ≤
      (partsHeader header merged addressCells properties).totalSize := by
    have hforty : fdtHeaderSize = 40 := rfl
    simp only [partsHeader, newHeader, hforty] at hlen ⊢
    omega
  have hscan := @scanReservations_write _ merged
    (writeStructure tree.data header chosenInsert
      (writeProperties addressCells header.stringsSize properties) ++
      ((tree.data.drop header.stringsOffset).take header.stringsSize ++ writeNames properties))
    _ htotal hmerged
  unfold reserveMap writeBlob
  rw [readHeader_writeHeader hinput hfits]
  rw [hlen] at hscan
  exact hscan

theorem propertiesAt_writeBlob (hvalid : HeaderValid tree header)
    (hholds : ∀ property ∈ properties, Holds addressCells property.2)
    (hfits : (partsHeader header merged addressCells properties).Fits) :
    ∃ offset, PropertiesAt (writeBlob tree.data header
      (partsHeader header merged addressCells properties) merged addressCells chosenInsert
      properties) addressCells offset properties := by
  have hread : readHeader (writeBlob tree.data header
      (partsHeader header merged addressCells properties) merged addressCells chosenInsert
      properties) = partsHeader header merged addressCells properties :=
    readHeader_writeHeader hinput hfits
  -- what stands before the properties, and behind them
  refine ⟨_, @propertiesAt_write _ (writeHeader tree.data
    (partsHeader header merged addressCells properties) ++ (writeReservations merged ++
      ((tree.data.drop header.structureOffset).take header.structureSize).take chosenInsert)) _
    (((tree.data.drop header.structureOffset).take header.structureSize).drop chosenInsert ++
      ((tree.data.drop header.stringsOffset).take header.stringsSize ++ writeNames properties))
    _ header.stringsSize hholds ?_ hfits.stringsSize ⟨[], ?_⟩⟩
  · simp only [writeBlob, writeStructure, List.append_assoc]
  · have hroom := hvalid.room
    have hstrings := hvalid.strings
    have hforty : fdtHeaderSize = 40 := rfl
    rw [hread, List.append_nil]
    unfold writeBlob
    rw [← List.append_assoc, ← List.append_assoc, ← List.append_assoc]
    refine List.drop_left' ?_
    simp only [List.length_append, length_writeHeader hinput, length_writeReservations,
      length_writeStructure hvalid, length_writeProperties hholds, List.length_take,
      List.length_drop, partsHeader, newHeader, hforty]
    omega

end Parts

/-- What the new tree has, read from its bytes. -/
structure BlobRead (tree : DeviceTree) (properties : List Property)
    (reservations : List MemoryRegion) (blob : List UInt8) : Prop where
  reserveMap : ∃ source ranges, reserveMap tree.data = some source ∧
    Luca.reserveMap blob = some ranges ∧ covered ranges = covered reservations ∪ covered source
  properties : ∃ addressCells offset, PropertiesAt blob addressCells offset properties

theorem Reserves.length_ne_zero {ranges : List MemoryRegion} {bytes : Set Nat}
    (h : Reserves ranges bytes) : ∀ region ∈ ranges, region.length ≠ 0 := by
  intro region hmem hzero
  have hpos := (h.ordered.each region hmem).length
  rw [hzero] at hpos
  exact absurd hpos (by decide)

/-- The checks of the sizes: every field of the new header is a word. -/
theorem fits_newHeader {merged : List MemoryRegion} {propertySize nameSize : Nat}
    (hstrings : ¬ u32Max - (newHeader header merged propertySize nameSize).stringsSize <
      (newHeader header merged propertySize nameSize).stringsOffset) :
    (newHeader header merged propertySize nameSize).Fits := by
  have hforty : fdtHeaderSize = 40 := rfl
  simp only [newHeader, hforty] at hstrings ⊢
  constructor
  all_goals
    dsimp only
    omega

/-- **A tree that is built is read back.** -/
theorem blobRead_of_build {tree : DeviceTree} {kernelStart kernelSize kernelEntry initrdStart
    initrdSize destination destinationCapacity : UInt64} {reservations : List MemoryRegion}
    {blob : List UInt8}
    (h : directFdtBuildBlob tree kernelStart kernelSize kernelEntry initrdStart initrdSize
      reservations destination destinationCapacity = .ok blob) :
    BlobRead tree (chosenProperties kernelStart (kernelStart + kernelSize) kernelEntry initrdStart
      initrdSize) reservations blob ∧ blob.length ≤ destinationCapacity.toNat := by
  simp only [directFdtBuildBlob, bind_eq_ok, refuse_eq_ok, demand_eq_ok, pure_eq_ok,
    exists_const] at h
  obtain ⟨hchecks, hhdr, -, source, hsrc, sourceRanges, hsourceRanges, merged, hmerged,
    ⟨state, sawEnd⟩, -, chosenInsert, -, husable, -, -, hstringsRoom, hcap,
    hblob⟩ := h
  simp only [Bool.or_eq_false_iff, decide_eq_false_iff_not] at hchecks
  simp only [Bool.or_eq_false_iff, Bool.not_eq_false'] at hhdr
  rw [decide_eq_false_iff_not] at hstringsRoom hcap
  rw [Bool.not_eq_false'] at husable
  have hforty : fdtHeaderSize = 40 := rfl
  have hinput : 40 ≤ tree.data.length := by
    omega
  have hvalid := headerValid_of_isValid hhdr.1
  have hholds := holds_of_usable husable
  have hreserves := (reserves_nil.addAll hsourceRanges).addAll hmerged
  have hfits := fits_newHeader hstringsRoom
  rw [← hblob]
  refine ⟨⟨⟨source, merged.map reserved, hsrc,
    reserveMap_writeBlob hinput hfits hreserves.length_ne_zero, ?_⟩,
    ⟨state.addressCells, propertiesAt_writeBlob hinput hvalid hholds hfits⟩⟩, ?_⟩
  · rw [covered_reserved, hreserves.covers, Set.union_empty]
  · rw [length_writeBlob hinput hvalid hholds]
    exact Nat.le_of_not_lt hcap

/-- **Merging reservations is a canonical union**, and the reserve map of a tree that is built has
the ranges of the source and the added ones. -/
theorem reservations_canonical :
    (∀ ranges base length, (⟨base, length, .reserved, 0⟩ : MemoryRegion).Extends →
      (addReservation ranges base length = none ↔ ranges.length = reservationCapacity)) ∧
    (∀ regions ranges, addReservations regions [] = some ranges →
      ranges.Pairwise (fun left right => left.base < right.base ∧ Gap left right) ∧
      covered ranges = covered regions ∧
      ∀ regions' ranges', regions'.Perm regions → addReservations regions' [] = some ranges' →
        ranges' = ranges) ∧
    ∀ tree kernelStart kernelSize kernelEntry initrdStart initrdSize reservations destination
      destinationCapacity blob,
      directFdtBuildBlob tree kernelStart kernelSize kernelEntry initrdStart initrdSize reservations
        destination destinationCapacity = .ok blob →
      ∃ source ranges, reserveMap tree.data = some source ∧ reserveMap blob = some ranges ∧
        covered ranges = covered reservations ∪ covered source := by
  have hcovers : ∀ {regions ranges}, addReservations regions [] = some ranges →
      covered ranges = covered regions := by
    intro regions ranges hadd
    rw [(reserves_nil.addAll hadd).covers, Set.union_empty]
  refine ⟨?_, ?_, ?_⟩
  · intro ranges base length hext
    rw [Option.eq_none_iff_forall_ne_some]
    constructor
    · intro hnone
      by_contra hroom
      exact hnone _ (addReservation_eq_some.mpr ⟨hext, hroom, rfl⟩)
    · intro hfull next hadd
      exact (addReservation_eq_some.mp hadd).2.1 hfull
  · intro regions ranges hadd
    have hseparated := separated_nil.addAll hadd
    refine ⟨?_, hcovers hadd, ?_⟩
    · refine hseparated.gaps.imp fun {left right} hgap => ⟨?_, hgap⟩
      rw [UInt64.lt_iff_toNat_lt]
      exact Nat.lt_of_le_of_lt (Nat.le_add_right _ _) hgap
    · intro regions' ranges' hperm hadd'
      refine (separated_nil.addAll hadd').eq_of_covered hseparated ?_
      rw [hcovers hadd, hcovers hadd', covered_perm hperm]
  · intro tree kernelStart kernelSize kernelEntry initrdStart initrdSize reservations destination
      destinationCapacity blob hbuild
    exact (blobRead_of_build hbuild).1.reserveMap

end Ribon.Luca
