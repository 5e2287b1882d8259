/-
The checked 64-bit arithmetic against arithmetic without a bound.

Each of the two functions gives the number that unbounded arithmetic gives, and refuses
exactly where that number does not fit.
-/
import Ribon.Native

namespace Ribon

/-- The least multiple of `a` that is not below `n`. -/
def roundUp (n a : Nat) : Nat := (n + a - 1) / a * a

theorem roundUp_spec {a : Nat} (ha : 0 < a) (n : Nat) :
    a ∣ roundUp n a ∧ n ≤ roundUp n a ∧ roundUp n a < n + a := by
  have hlow := Nat.div_add_mod (n + a - 1) a
  have hmod := Nat.mod_lt (n + a - 1) ha
  rw [Nat.mul_comm] at hlow
  refine ⟨Nat.dvd_mul_left a _, ?_, ?_⟩
  · rw [roundUp]
    omega
  · rw [roundUp]
    omega

/-- Two multiples that are less than `a` apart are the same. -/
theorem roundUp_unique {n a m : Nat} (hm : a ∣ m) (hle : n ≤ m) (hlt : m < n + a) :
    roundUp n a = m := by
  have ha : 0 < a := by omega
  obtain ⟨hdvd, hle', hlt'⟩ := roundUp_spec ha n
  obtain ⟨c, hc⟩ := hdvd
  obtain ⟨d, rfl⟩ := hm
  rw [hc] at hle' hlt' ⊢
  have hcd : a * c < a * (d + 1) := by rw [Nat.mul_succ]; omega
  have hdc : a * d < a * (c + 1) := by rw [Nat.mul_succ]; omega
  have h₁ := Nat.lt_of_mul_lt_mul_left hcd
  have h₂ := Nat.lt_of_mul_lt_mul_left hdc
  rw [show c = d by omega]

theorem roundUp_of_dvd {n a : Nat} (ha : 0 < a) (h : a ∣ n) : roundUp n a = n :=
  roundUp_unique h le_rfl (by omega)

theorem exists_toNat_eq {n : Nat} (h : n < 2 ^ 64) : ∃ word : UInt64, word.toNat = n :=
  ⟨.ofNat n, UInt64.toNat_ofNat_of_lt' h⟩

theorem addU64_iff {left right total : UInt64} :
    addU64 left right = some total ↔ total.toNat = left.toNat + right.toNat := by
  refine ⟨addU64_eq_some, ?_⟩
  intro h
  have hlt : left.toNat + right.toNat < 2 ^ 64 := h ▸ total.toNat_lt
  rw [addU64_of_lt hlt, Option.some.injEq, ← UInt64.toNat_inj, UInt64.toNat_add,
    Nat.mod_eq_of_lt hlt, h]

/-- **Rounding up by masks is rounding up.**  It is refused only where the multiple does not fit. -/
theorem alignUp_iff {value alignment total : UInt64} (hpow : powerOfTwo alignment = true) :
    alignUp value alignment = some total ↔
      total.toNat = roundUp value.toNat alignment.toNat := by
  have hsound : ∀ {t}, alignUp value alignment = some t →
      t.toNat = roundUp value.toNat alignment.toNat := by
    intro t h
    obtain ⟨-, hdvd, hle, hlt⟩ := alignUp_eq_some h
    exact (roundUp_unique hdvd hle hlt).symm
  refine ⟨hsound, ?_⟩
  intro h
  have hpos := powerOfTwo_pos hpow
  -- the alignment divides the bound, so a multiple below it leaves room for the whole block
  have hroom : value.toNat + (alignment - 1).toNat < 2 ^ 64 := by
    obtain ⟨k, hk⟩ := powerOfTwo_eq_true hpow
    have hlt : alignment.toNat < 2 ^ 64 := alignment.toNat_lt
    have hbound : alignment.toNat ∣ 2 ^ 64 := by
      rw [hk] at hlt ⊢
      exact Nat.pow_dvd_pow 2 (Nat.pow_lt_pow_iff_right (by omega)|>.mp hlt).le
    have htotal : roundUp value.toNat alignment.toNat < 2 ^ 64 / alignment.toNat * alignment.toNat := by
      rw [Nat.div_mul_cancel hbound, ← h]
      exact total.toNat_lt
    have hblocks := Nat.lt_of_mul_lt_mul_right htotal
    rw [Nat.div_lt_iff_lt_mul hpos, Nat.div_mul_cancel hbound] at hblocks
    rw [toNat_pred hpos]
    omega
  have hsome : ∃ t, alignUp value alignment = some t := by
    rw [alignUp, if_pos hpow, addU64_of_lt hroom]
    exact ⟨_, rfl⟩
  obtain ⟨t, ht⟩ := hsome
  rw [ht, Option.some.injEq, ← UInt64.toNat_inj, hsound ht, h]

end Ribon
