/-
Codecs with one image for each value.

A codec is canonical if what it writes it reads back, and what it reads is what it would
write.  Then no two images of the size have the same value: whoever changes bytes of an
accepted image is refused, or is read as something else.
-/
import Ribon.Wire.Fields

namespace Wire

variable {X : Type}

/-- Values with one image of a fixed size each. -/
structure Canonical (size : Nat) (Valid : X → Prop) (encode : X → Option (List UInt8))
    (decode : List UInt8 → Option X) : Prop where
  written : ∀ x, Valid x → ∃ bytes, encode x = some bytes ∧ bytes.length = size ∧
    decode bytes = some x
  read : ∀ bytes x, bytes.length = size → decode bytes = some x →
    Valid x ∧ encode x = some bytes
  altered : ∀ bytes other x, bytes.length = size → other.length = size → other ≠ bytes →
    decode bytes = some x → decode other ≠ some x

/-- A reader that tells images apart undoes a writer on both sides. -/
theorem Canonical.of_injective {size : Nat} {Valid : X → Prop} {encode : X → Option (List UInt8)}
    {decode : List UInt8 → Option X}
    (hwritten : ∀ x, Valid x → ∃ bytes, encode x = some bytes ∧ bytes.length = size ∧
      decode bytes = some x)
    (hvalid : ∀ bytes x, bytes.length = size → decode bytes = some x → Valid x)
    (hinjective : ∀ left right x, left.length = size → right.length = size →
      decode left = some x → decode right = some x → left = right) :
    Canonical size Valid encode decode := by
  refine ⟨hwritten, ?_, ?_⟩
  · intro bytes x hsize hread
    have hx := hvalid bytes x hsize hread
    obtain ⟨image, hencode, hlen, hback⟩ := hwritten x hx
    refine ⟨hx, ?_⟩
    rw [hencode, hinjective image bytes x hlen hsize hback hread]
  · intro bytes other x hsize hother hne hread hback
    exact hne (hinjective other bytes x hother hsize hback hread)

/-! ### Fields that depend on the bytes before them -/

section Sealed

variable {as bs : List UInt8} {n : Nat}

theorem crc32c_congr (h : as.take n = bs.take n) : crc32c as n = crc32c bs n := by
  rw [crc32c, crc32c, h]

/-- A checksum adds nothing to the bytes that it covers. -/
theorem take_checksum (h : as.take n = bs.take n) (hca : loadU32 (as.drop n) = crc32c as n)
    (hcb : loadU32 (bs.drop n) = crc32c bs n) (ha : n + 4 ≤ as.length := by omega)
    (hb : n + 4 ≤ bs.length := by omega) : as.take (n + 4) = bs.take (n + 4) :=
  take_u32 h hca (hcb.trans (crc32c_congr h).symm)

/-- One byte. -/
theorem take_byte {v : UInt8} (h : as.take n = bs.take n) (hva : byteAt as n = v)
    (hvb : byteAt bs n = v) (ha : n + 1 ≤ as.length := by omega)
    (hb : n + 1 ≤ bs.length := by omega) : as.take (n + 1) = bs.take (n + 1) := by
  have hbyte := hva.trans hvb.symm
  have hget : as[n]? = bs[n]? := by
    rw [byteAt, byteAt, List.getD_eq_getElem?_getD, List.getD_eq_getElem?_getD,
      List.getElem?_eq_getElem (by omega), List.getElem?_eq_getElem (by omega)] at hbyte
    rw [List.getElem?_eq_getElem (by omega), List.getElem?_eq_getElem (by omega)]
    exact congrArg some hbyte
  rw [List.take_add_one, List.take_add_one, h, hget]

end Sealed

end Wire
