/-
A buffer is what its fields say.

Reading a word and storing it again gives back the bytes that were read.  So two
buffers agree as far as their fields do, one field after the other, and a reader
that looks at every byte of its input leaves no room for a second input with the
same fields.

A table is rows of one width back to back.  Writing a row touches no other row.
-/
import Ribon.Wire.Bytes

namespace Wire

/-! ### Storing what was loaded -/

private theorem split_u16 (a b : UInt8) :
    storeU16 (a.toUInt16 ||| (b.toUInt16 <<< 8)) = [a, b] := by
  simp only [storeU16, List.cons.injEq, and_true]
  refine ⟨?_, ?_⟩
  all_goals
    apply UInt8.eq_of_toBitVec_eq
    ext i hi
    interval_cases i <;> simp

private theorem split_u32 (a b c d : UInt8) :
    storeU32 (a.toUInt32 ||| (b.toUInt32 <<< 8) ||| (c.toUInt32 <<< 16) |||
      (d.toUInt32 <<< 24)) = [a, b, c, d] := by
  simp only [storeU32, List.cons.injEq, and_true]
  refine ⟨?_, ?_, ?_, ?_⟩
  all_goals
    apply UInt8.eq_of_toBitVec_eq
    ext i hi
    interval_cases i <;> simp

private theorem split_u64 (low high : UInt32) :
    (low.toUInt64 ||| (high.toUInt64 <<< 32)).toUInt32 = low ∧
      ((low.toUInt64 ||| (high.toUInt64 <<< 32)) >>> 32).toUInt32 = high := by
  refine ⟨?_, ?_⟩
  all_goals
    apply UInt32.eq_of_toBitVec_eq
    ext i hi
  · simp [hi]
  · simp [hi, show 32 + i < 64 by omega, show i < 64 by omega]

/-- Reading two bytes and storing them again changes nothing. -/
theorem storeU16_loadU16 {bs : List UInt8} (h : 2 ≤ bs.length) :
    storeU16 (loadU16 bs) = bs.take 2 := by
  obtain ⟨a, b, rest, rfl⟩ : ∃ a b rest, bs = a :: b :: rest := by
    match bs, h with
    | a :: b :: rest, _ => exact ⟨a, b, rest, rfl⟩
  exact split_u16 a b

theorem storeU32_loadU32 {bs : List UInt8} (h : 4 ≤ bs.length) :
    storeU32 (loadU32 bs) = bs.take 4 := by
  obtain ⟨a, b, c, d, rest, rfl⟩ : ∃ a b c d rest, bs = a :: b :: c :: d :: rest := by
    match bs, h with
    | a :: b :: c :: d :: rest, _ => exact ⟨a, b, c, d, rest, rfl⟩
  exact split_u32 a b c d

theorem storeU64_loadU64 {bs : List UInt8} (h : 8 ≤ bs.length) :
    storeU64 (loadU64 bs) = bs.take 8 := by
  obtain ⟨hlow, hhigh⟩ := split_u64 (loadU32 bs) (loadU32 (bs.drop 4))
  unfold storeU64 loadU64
  rw [hlow, hhigh, storeU32_loadU32 (by omega), storeU32_loadU32 (by rw [List.length_drop]; omega),
    ← List.take_add]

/-! ### Agreeing field by field -/

section Agree

variable {as bs : List UInt8} {o n : Nat}

/-- Two buffers that agree up to a field and on it agree behind it. -/
theorem take_field (h : as.take o = bs.take o) (hf : (as.drop o).take n = (bs.drop o).take n) :
    as.take (o + n) = bs.take (o + n) := by
  rw [List.take_add, List.take_add, h, hf]

theorem take_u16 {v : UInt16} (h : as.take o = bs.take o) (hva : loadU16 (as.drop o) = v)
    (hvb : loadU16 (bs.drop o) = v) (ha : o + 2 ≤ as.length := by omega)
    (hb : o + 2 ≤ bs.length := by omega) : as.take (o + 2) = bs.take (o + 2) := by
  refine take_field h ?_
  rw [← storeU16_loadU16 (by rw [List.length_drop]; omega), hva, ← hvb,
    storeU16_loadU16 (by rw [List.length_drop]; omega)]

theorem take_u32 {v : UInt32} (h : as.take o = bs.take o) (hva : loadU32 (as.drop o) = v)
    (hvb : loadU32 (bs.drop o) = v) (ha : o + 4 ≤ as.length := by omega)
    (hb : o + 4 ≤ bs.length := by omega) : as.take (o + 4) = bs.take (o + 4) := by
  refine take_field h ?_
  rw [← storeU32_loadU32 (by rw [List.length_drop]; omega), hva, ← hvb,
    storeU32_loadU32 (by rw [List.length_drop]; omega)]

theorem take_u64 {v : UInt64} (h : as.take o = bs.take o) (hva : loadU64 (as.drop o) = v)
    (hvb : loadU64 (bs.drop o) = v) (ha : o + 8 ≤ as.length := by omega)
    (hb : o + 8 ≤ bs.length := by omega) : as.take (o + 8) = bs.take (o + 8) := by
  refine take_field h ?_
  rw [← storeU64_loadU64 (by rw [List.length_drop]; omega), hva, ← hvb,
    storeU64_loadU64 (by rw [List.length_drop]; omega)]

/-- A range that a reader found zero holds zeros. -/
theorem take_of_bytesZero (hlen : n ≤ bs.length) (h : bytesZero bs n = true) :
    bs.take n = List.replicate n 0 := by
  refine List.ext_getElem (by simp [hlen]) fun i h₁ h₂ => ?_
  rw [List.length_replicate] at h₂
  have hbyte := bytesZero_iff.mp h i h₂
  rw [List.getElem_take, List.getElem_replicate]
  simpa [byteAt, List.getD_eq_getElem?_getD, show i < bs.length by omega] using hbyte

theorem take_zero (h : as.take o = bs.take o) (hza : bytesZero (as.drop o) n = true)
    (hzb : bytesZero (bs.drop o) n = true) (ha : o + n ≤ as.length := by omega)
    (hb : o + n ≤ bs.length := by omega) : as.take (o + n) = bs.take (o + n) := by
  refine take_field h ?_
  rw [take_of_bytesZero (by rw [List.length_drop]; omega) hza,
    take_of_bytesZero (by rw [List.length_drop]; omega) hzb]

/-- A buffer that a reader found to start with some bytes starts with them. -/
theorem take_of_bytesEqual {data : List UInt8} (hlen : n ≤ bs.length) (hdata : data.length = n)
    (h : bytesEqual bs data n = true) : bs.take n = data := by
  refine eq_of_bytesEqual (by rw [List.length_take]; omega) hdata ?_
  rw [bytesEqual_iff] at h ⊢
  intro i hi
  have htake : (bs.take n).take n = bs.take n := by rw [List.take_take, Nat.min_self]
  rw [byteAt_eq_of_take htake hi]
  exact h i hi

end Agree

/-! ### A buffer with more behind it -/

section Append

variable {front rest : List UInt8} {k n : Nat}

variable {data : List UInt8}

/-- A patch of the front leaves the rest alone. -/
theorem patch_append (h : k + data.length ≤ front.length) :
    patch (front ++ rest) k data = patch front k data ++ rest := by
  rw [patch_eq (by rw [List.length_append]; omega), patch_eq h,
    List.take_append_of_le_length (by omega), List.drop_append_of_le_length h]
  simp only [List.append_assoc]

/-- A patch behind the front leaves the front alone. -/
theorem patch_append_right (h : k + data.length ≤ rest.length) :
    patch (front ++ rest) (front.length + k) data = front ++ patch rest k data := by
  rw [patch_eq (by rw [List.length_append]; omega), patch_eq h, List.take_length_add_append,
    Nat.add_assoc, List.drop_length_add_append]
  simp only [List.append_assoc]

/-- A patch of the whole rest replaces it. -/
theorem patch_append_whole (h : data.length = rest.length) :
    patch (front ++ rest) front.length data = front ++ data := by
  have hrest := @patch_append_right front rest 0 data (by omega)
  rw [Nat.add_zero] at hrest
  rw [hrest, patch_eq (by omega), h]
  simp

/-- A patch right behind the front makes the front longer. -/
theorem patch_append_next (h : data.length ≤ rest.length) :
    patch (front ++ rest) front.length data = front ++ data ++ rest.drop data.length := by
  have hrest := @patch_append_right front rest 0 data (by omega)
  rw [Nat.add_zero] at hrest
  rw [hrest, patch_eq (by omega), Nat.zero_add, List.take_zero, List.nil_append,
    List.append_assoc]

/-- Write a piece at the running offset. -/
def appendAt (cursor : List UInt8 × Nat) (piece : List UInt8) : List UInt8 × Nat :=
  (patch cursor.1 cursor.2 piece, cursor.2 + piece.length)

/-- Pieces that are written one after the other stand one after the other. -/
theorem foldl_appendAt {pieces : List (List UInt8)} (h : pieces.flatten.length ≤ rest.length) :
    pieces.foldl appendAt (front ++ rest, front.length) =
      (front ++ pieces.flatten ++ rest.drop pieces.flatten.length,
        front.length + pieces.flatten.length) := by
  induction pieces generalizing front rest with
  | nil => simp
  | cons piece pieces ih =>
      rw [List.flatten_cons, List.length_append] at h
      have hfits : pieces.flatten.length ≤ (rest.drop piece.length).length := by
        rw [List.length_drop]
        omega
      have hstep : appendAt (front ++ rest, front.length) piece =
          ((front ++ piece) ++ rest.drop piece.length, (front ++ piece).length) := by
        rw [appendAt, patch_append_next (by omega), List.length_append]
      rw [List.foldl_cons, hstep, ih hfits, List.flatten_cons, List.drop_drop,
        List.length_append, List.length_append, List.append_assoc front piece, Nat.add_assoc]

theorem slice_append (h : k + n ≤ front.length) :
    ((front ++ rest).drop k).take n = (front.drop k).take n := by
  rw [List.drop_append_of_le_length (by omega),
    List.take_append_of_le_length (by rw [List.length_drop]; omega)]

theorem loadU16_append (h : k + 2 ≤ front.length) :
    loadU16 ((front ++ rest).drop k) = loadU16 (front.drop k) := by
  rw [← loadU16_take, slice_append h, loadU16_take]

theorem loadU32_append (h : k + 4 ≤ front.length) :
    loadU32 ((front ++ rest).drop k) = loadU32 (front.drop k) := by
  rw [← loadU32_take, slice_append h, loadU32_take]

theorem loadU64_append (h : k + 8 ≤ front.length) :
    loadU64 ((front ++ rest).drop k) = loadU64 (front.drop k) := by
  rw [← loadU64_take, slice_append h, loadU64_take]

theorem bytesZero_append (h : k + n ≤ front.length) :
    bytesZero ((front ++ rest).drop k) n = bytesZero (front.drop k) n := by
  rw [← bytesZero_take, slice_append h, bytesZero_take]

theorem bytesEqual_append (h : n ≤ front.length) :
    bytesEqual (front ++ rest) data n = bytesEqual front data n := by
  have htake : (front ++ rest).take n = front.take n := List.take_append_of_le_length h
  rw [Bool.eq_iff_iff, bytesEqual_iff, bytesEqual_iff]
  exact forall₂_congr fun i hi => by rw [byteAt_eq_of_take htake hi]

variable {α : Type} {width : Nat} {row : α → List UInt8} (hwidth : ∀ a, (row a).length = width)
  (table : List α)
include hwidth table

/-- Everything behind a row of a table of equal rows. -/
theorem drop_rows (i : Nat) :
    (table.flatMap row).drop (i * width) = (table.drop i).flatMap row := by
  induction i generalizing table with
  | zero => simp
  | succ i ih =>
      cases table with
      | nil => simp
      | cons a table =>
          rw [List.flatMap_cons, List.drop_succ_cons, ← ih table, Nat.succ_mul, Nat.add_comm,
            ← hwidth a, ← List.drop_drop, List.drop_left]

theorem length_rows : (table.flatMap row).length = table.length * width := by
  induction table with
  | nil => simp
  | cons a table ih => rw [List.flatMap_cons, List.length_append, hwidth, ih, List.length_cons,
      Nat.succ_mul, Nat.add_comm]

omit hwidth table

/-- A table is its rows. -/
theorem drop_eq_rows {bs : List UInt8} {row : Nat → List UInt8} {width i count : Nat}
    (hlength : bs.length = (i + count) * width)
    (h : ∀ j, i ≤ j → j < i + count → (bs.drop (j * width)).take width = row j) :
    bs.drop (i * width) = (List.range' i count).flatMap row := by
  induction count generalizing i with
  | zero => simp [hlength]
  | succ count ih =>
      have hrest := ih (i := i + 1) (by rw [hlength]; congr 1; omega)
        (fun j hj hj' => h j (by omega) (by omega))
      rw [List.range'_succ, List.flatMap_cons, ← hrest, ← h i (by omega) (by omega), Nat.succ_mul,
        ← List.drop_drop, List.take_append_drop]

end Append

end Wire
