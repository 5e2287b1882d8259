/-
The C conventions that the modules share: byte views, reserved words, and the
64-bit arithmetic that checks before it adds.
-/
import Ribon.Security.Sha256

namespace Ribon

open Wire

/-- A pointer and a size.  A pointer that is not null is to exactly that many bytes. -/
inductive View where
  | null (size : Nat)
  | mem (data : List UInt8)
  deriving DecidableEq, Repr

namespace View

def size : View → Nat
  | .null n => n
  | .mem data => data.length

def data : View → List UInt8
  | .null _ => []
  | .mem data => data

def isNull : View → Bool
  | .null _ => true
  | .mem _ => false

end View

/-- `if (bad) return status;` -/
def refuse {E : Type} (bad : Bool) (status : E) : Except E Unit :=
  if bad then .error status else .ok ()

variable {E A : Type}

@[simp] theorem refuse_bind_eq_ok {bad : Bool} {status : E} {f : Unit → Except E A} {a : A} :
    (refuse bad status >>= f) = .ok a ↔ bad = false ∧ f () = .ok a := by
  cases bad <;> simp [refuse, bind, Except.bind]

@[simp] theorem refuse_eq_ok {bad : Bool} {status : E} {u : Unit} :
    refuse bad status = .ok u ↔ bad = false := by
  cases bad <;> simp [refuse]

@[simp] theorem bind_eq_ok {B : Type} {x : Except E A} {f : A → Except E B} {b : B} :
    (x >>= f) = .ok b ↔ ∃ a, x = .ok a ∧ f a = .ok b := by
  cases x <;> simp [bind, Except.bind]

theorem bind_eq_error {B : Type} {x : Except E A} {f : A → Except E B} {e : E} :
    (x >>= f) = .error e ↔ x = .error e ∨ ∃ a, x = .ok a ∧ f a = .error e := by
  cases x <;> simp [bind, Except.bind]

theorem refuse_eq_error {bad : Bool} {status e : E} :
    refuse bad status = .error e ↔ bad = true ∧ status = e := by
  cases bad <;> simp [refuse]

@[simp] theorem pure_eq_ok {a b : A} :
    (pure a : Except E A) = .ok b ↔ a = b := by
  simp [pure, Except.pure]

/-- Translate the status of a callee. -/
def mapStatus {E F A : Type} (f : E → F) : Except E A → Except F A
  | .ok a => .ok a
  | .error status => .error (f status)

@[simp] theorem mapStatus_eq_ok {F : Type} {f : E → F} {x : Except E A} {a : A} :
    mapStatus f x = .ok a ↔ x = .ok a := by
  cases x <;> simp [mapStatus]

theorem toOption_eq_some {result : Except E A} {a : A} :
    result.toOption = some a ↔ result = .ok a := by
  cases result <;> simp [Except.toOption]

/-- `if (!callee(&value)) return status;` -/
def demand {E A : Type} (value : Option A) (status : E) : Except E A :=
  match value with
  | some a => .ok a
  | none => .error status

@[simp] theorem demand_eq_ok {value : Option A} {status : E} {a : A} :
    demand value status = .ok a ↔ value = some a := by
  cases value <;> simp [demand]

/-- What every step of a fallible fold keeps holds at its end. -/
theorem foldlM_invariant {B : Type} {f : B → A → Except E B} {items : List A} (P : B → Prop)
    (hstep : ∀ b a c, a ∈ items → P b → f b a = .ok c → P c) {b c : B} (hb : P b)
    (h : items.foldlM f b = .ok c) : P c := by
  induction items generalizing b with
  | nil =>
    simp only [List.foldlM_nil, pure_eq_ok] at h
    rw [← h]
    exact hb
  | cons item rest ih =>
    simp only [List.foldlM_cons, bind_eq_ok] at h
    obtain ⟨next, hfirst, hrest⟩ := h
    apply ih _ (hstep b item next (by simp) hb hfirst) hrest
    intro b a c ha
    exact hstep b a c (by simp [ha])

/-- A fallible check of every item passes if it passes for each of them. -/
theorem forM_eq_ok {f : A → Except E Unit} {items : List A} {u : Unit} :
    items.forM f = .ok u ↔ ∀ item ∈ items, f item = .ok () := by
  induction items with
  | nil => exact ⟨fun _ => by simp, fun _ => rfl⟩
  | cons item rest ih =>
    have hcons : (item :: rest).forM f = f item >>= fun _ => rest.forM f := rfl
    rw [hcons, bind_eq_ok]
    constructor
    · rintro ⟨⟨⟩, hfirst, hrest⟩
      exact List.forall_mem_cons.mpr ⟨hfirst, ih.mp hrest⟩
    · intro h
      obtain ⟨hfirst, hrest⟩ := List.forall_mem_cons.mp h
      exact ⟨(), hfirst, ih.mpr hrest⟩

/-- A fallible map has made each result of its item. -/
theorem forall₂_of_mapM {B : Type} {f : A → Except E B} {items : List A} {results : List B}
    (h : items.mapM f = .ok results) :
    List.Forall₂ (fun item result => f item = .ok result) items results := by
  induction items generalizing results with
  | nil =>
    rw [List.mapM_nil, pure_eq_ok] at h
    rw [← h]
    exact .nil
  | cons item rest ih =>
    simp only [List.mapM_cons, bind_eq_ok, pure_eq_ok] at h
    obtain ⟨first, hfirst, others, hothers, rfl⟩ := h
    exact .cons hfirst (ih hothers)

/-- The four reserved words that end every native structure; version 1 wants them zero. -/
abbrev Reserved := Vector UInt64 4

def reservedZero (r : Reserved) : Bool := r.toList.all (· == 0)

/-- Reserved words as version 1 fills them. -/
def Reserved.none : Reserved := Vector.replicate 4 0

@[simp] theorem reservedZero_none : reservedZero Reserved.none = true := rfl

/-- A fixed array of bytes that starts with a text and is zero behind it. -/
def paddedText (text : String) (size : Nat) : List UInt8 :=
  let bytes := text.toUTF8.toList
  bytes ++ List.replicate (size - bytes.length) 0

/-- The largest 64-bit value. -/
def u64Max : UInt64 := 0xffffffffffffffff

/-- The largest 32-bit value. -/
def u32Max : UInt32 := 0xffffffff

def powerOfTwo (value : UInt64) : Bool := value != 0 && (value &&& (value - 1)) == 0

/-- Whether a value is a multiple of a power of two, by its low bits. -/
def aligned (value alignment : UInt64) : Bool := (value &&& (alignment - 1)) == 0

/-- Addition that refuses to wrap. -/
def addU64 (left right : UInt64) : Option UInt64 :=
  if left > u64Max - right then none else some (left + right)

/-- Round up to a power of two, refusing to wrap. -/
def alignUp (value alignment : UInt64) : Option UInt64 :=
  if powerOfTwo alignment then
    (addU64 value (alignment - 1)).map (· &&& ~~~ (alignment - 1))
  else none

/-! ### Words as numbers -/

variable {left right : UInt64}

theorem toNat_sub_of_le (h : right.toNat ≤ left.toNat := by omega) : 
    (left - right).toNat = left.toNat - right.toNat :=
  UInt64.toNat_sub_of_le _ _ (UInt64.le_iff_toNat_le.mpr h)

theorem toNat_add_of_lt (h : left.toNat + right.toNat < 2 ^ 64 := by omega) : 
    (left + right).toNat = left.toNat + right.toNat := by
  rw [UInt64.toNat_add, Nat.mod_eq_of_lt h]

variable {value : UInt64}

theorem ne_zero_iff : value ≠ 0 ↔ 0 < value.toNat := by
  rw [Ne, ← UInt64.toNat_inj, UInt64.toNat_zero, Nat.pos_iff_ne_zero]

/-- The test for whether a sum wraps. -/
theorem u64Max_sub_lt_iff :
    u64Max - right < left ↔ 2 ^ 64 ≤ left.toNat + right.toNat := by
  have hmax : u64Max.toNat = 2 ^ 64 - 1 := rfl
  have hright := right.toNat_lt
  rw [UInt64.lt_iff_toNat_lt, toNat_sub_of_le, hmax]
  omega

theorem le_u64Max_sub_iff :
    left ≤ u64Max - right ↔ left.toNat + right.toNat < 2 ^ 64 := by
  rw [← UInt64.not_lt, u64Max_sub_lt_iff, Nat.not_le]

theorem addU64_eq_some {total : UInt64} (h : addU64 left right = some total) :
    total.toNat = left.toNat + right.toNat := by
  unfold addU64 at h
  by_cases hc : left > u64Max - right
  · rw [if_pos hc] at h; cases h
  · rw [if_neg hc] at h
    obtain rfl := Option.some.inj h
    rw [gt_iff_lt, u64Max_sub_lt_iff] at hc
    exact toNat_add_of_lt

/-- Clearing the bits of a mask takes away what is under the mask. -/
theorem toNat_and_not (x mask : UInt64) :
    (x &&& ~~~ mask).toNat = x.toNat - (x &&& mask).toNat := by
  have hbits : (x.toBitVec &&& mask.toBitVec) + (x.toBitVec &&& ~~~ mask.toBitVec) =
      x.toBitVec := by
    rw [BitVec.add_eq_or_of_and_eq_zero]
    · ext i hi
      cases hx : x.toBitVec[i] <;> cases hm : mask.toBitVec[i] <;> simp [hx, hm]
    · ext i hi
      cases hm : mask.toBitVec[i] <;> simp [hm]
  have hsum : (x &&& mask) + (x &&& ~~~ mask) = x :=
    UInt64.toBitVec_inj.mp (by simpa using hbits)
  have hnat := congrArg UInt64.toNat hsum
  rw [UInt64.toNat_add] at hnat
  have hunder : (x &&& mask).toNat ≤ x.toNat := by
    rw [UInt64.toNat_and]
    exact Nat.and_le_left
  have hrest : (x &&& ~~~ mask).toNat ≤ x.toNat := by
    rw [UInt64.toNat_and]
    exact Nat.and_le_left
  omega

/-- Addition that stays below the bound succeeds. -/
theorem addU64_of_lt (h : left.toNat + right.toNat < 2 ^ 64) :
    addU64 left right = some (left + right) := by
  rw [addU64, if_neg]
  rw [gt_iff_lt, u64Max_sub_lt_iff]
  omega

theorem toNat_pred (h : 0 < value.toNat) : (value - 1).toNat = value.toNat - 1 := by
  exact toNat_sub_of_le h

/-- A power of two has one bit. -/
theorem powerOfTwo_eq_true (h : powerOfTwo value = true) :
    ∃ k, value.toNat = 2 ^ k := by
  simp only [powerOfTwo, Bool.and_eq_true, bne_iff_ne, ne_eq, beq_iff_eq] at h
  obtain ⟨hzero, hand⟩ := h
  have hpos := ne_zero_iff.mp hzero
  have hand : value.toNat &&& (value.toNat - 1) = 0 := by
    rw [← toNat_pred hpos, ← UInt64.toNat_and, hand]
    rfl
  generalize value.toNat = n at hpos hand
  refine ⟨n.log2, ?_⟩
  have hlow := Nat.log2_self_le (Nat.ne_of_gt hpos)
  have hhigh := Nat.lt_log2_self (n := n)
  -- a value between two powers and the value below it share the top bit
  have htop : ∀ x, 2 ^ n.log2 ≤ x → x < 2 ^ (n.log2 + 1) → x.testBit n.log2 = true := by
    intro x hle hlt
    have hrest : (x - 2 ^ n.log2).testBit n.log2 = false :=
      Nat.testBit_lt_two_pow (by rw [Nat.pow_succ] at hlt; omega)
    rw [← Nat.add_sub_cancel' hle, Nat.testBit_two_pow_add_eq, hrest]
    rfl
  by_contra hne
  have hboth : (n &&& (n - 1)).testBit n.log2 = true := by
    rw [Nat.testBit_and, htop n hlow hhigh, htop (n - 1) (by omega) (by omega)]
    rfl
  rw [hand, Nat.zero_testBit] at hboth
  cases hboth

theorem powerOfTwo_pos (h : powerOfTwo value = true) : 0 < value.toNat := by
  obtain ⟨k, hk⟩ := powerOfTwo_eq_true h
  rw [hk]
  exact Nat.two_pow_pos k

variable {alignment : UInt64}

theorem toNat_and_pred (h : powerOfTwo alignment = true) (value : UInt64) :
    (value &&& (alignment - 1)).toNat = value.toNat % alignment.toNat := by
  rw [UInt64.toNat_and, toNat_pred (powerOfTwo_pos h)]
  obtain ⟨k, hk⟩ := powerOfTwo_eq_true h
  rw [hk]
  exact Nat.and_two_pow_sub_one_eq_mod _ _

/-- A value without low bits is a multiple. -/
theorem aligned_iff (h : powerOfTwo alignment = true) :
    aligned value alignment = true ↔ alignment.toNat ∣ value.toNat := by
  rw [aligned, beq_iff_eq, ← UInt64.toNat_inj, toNat_and_pred h, Nat.dvd_iff_mod_eq_zero]
  rfl

variable {total : UInt64} (h : alignUp value alignment = some total)
include h

/-- Rounding up gives the next multiple. -/
theorem alignUp_eq_some :
    powerOfTwo alignment = true ∧ alignment.toNat ∣ total.toNat ∧
      value.toNat ≤ total.toNat ∧ total.toNat < value.toNat + alignment.toNat := by
  unfold alignUp at h
  split at h
  · next hpow =>
    rw [Option.map_eq_some_iff] at h
    obtain ⟨sum, hadd, rfl⟩ := h
    have hpos := powerOfTwo_pos hpow
    have hsum := addU64_eq_some hadd
    rw [toNat_pred hpos] at hsum
    rw [toNat_and_not, toNat_and_pred hpow]
    have hlow := Nat.mod_lt sum.toNat hpos
    exact ⟨hpow, Nat.dvd_sub_mod _, by omega, by omega⟩
  · cases h

/-- Rounding up does not go down. -/
theorem le_alignUp : value.toNat ≤ total.toNat :=
  (alignUp_eq_some h).2.2.1

/-- A multiple that holds the start and the exact end of a range holds the rounded end too. -/
theorem alignUp_end_le {start bound : Nat} (hstart : alignment.toNat ∣ start)
    (hbound : alignment.toNat ∣ bound) (hle : start + value.toNat ≤ bound) :
    start + total.toNat ≤ bound := by
  obtain ⟨-, htotal, -, hlt⟩ := alignUp_eq_some h
  obtain ⟨a, rfl⟩ := hstart
  obtain ⟨b, rfl⟩ := hbound
  obtain ⟨c, hc⟩ := htotal
  rw [hc] at hlt ⊢
  rw [← Nat.mul_add]
  refine Nat.mul_le_mul_left _ ?_
  by_contra hgt
  have hmul : alignment.toNat * (b + 1) ≤ alignment.toNat * (a + c) :=
    Nat.mul_le_mul_left _ (by omega)
  rw [Nat.mul_add, Nat.mul_one, Nat.mul_add] at hmul
  omega

end Ribon
