/-
The SHA-256 of FIPS 180-4.

The words of the standard that look arbitrary are defined as the standard
explains them: they are the first bits of the fractional parts of the square and
cube roots of the first primes.  `rootBits_eq` reads such a word off from
inequalities between natural numbers.
-/
import Mathlib.Analysis.SpecialFunctions.Pow.Real

namespace Sha2

/-! ### Functions on words -/

def rotr (n x : UInt32) : UInt32 := (x >>> n) ||| (x <<< (32 - n))

def ch (x y z : UInt32) : UInt32 := (x &&& y) ^^^ (~~~ x &&& z)

def maj (x y z : UInt32) : UInt32 := (x &&& y) ^^^ (x &&& z) ^^^ (y &&& z)

def bigSigma0 (x : UInt32) : UInt32 := rotr 2 x ^^^ rotr 13 x ^^^ rotr 22 x

def bigSigma1 (x : UInt32) : UInt32 := rotr 6 x ^^^ rotr 11 x ^^^ rotr 25 x

def sigma0 (x : UInt32) : UInt32 := rotr 7 x ^^^ rotr 18 x ^^^ (x >>> 3)

def sigma1 (x : UInt32) : UInt32 := rotr 17 x ^^^ rotr 19 x ^^^ (x >>> 10)

/-! ### The constants -/

/-- The first sixty-four primes. -/
def primes : List Nat := (List.range 312).filter fun p => decide p.Prime

/-- The first thirty-two bits of the fractional part of the `n`-th root of `p`. -/
noncomputable def rootBits (n p : Nat) : UInt32 :=
  UInt32.ofNat ⌊Int.fract ((p : ℝ) ^ (n : ℝ)⁻¹) * 2 ^ 32⌋₊

noncomputable def k (t : Nat) : UInt32 := rootBits 3 (primes.getD t 0)

/-- The hash value, and the working variables. -/
structure Hash where
  a : UInt32
  b : UInt32
  c : UInt32
  d : UInt32
  e : UInt32
  f : UInt32
  g : UInt32
  h : UInt32

noncomputable def initial : Hash :=
  ⟨rootBits 2 2, rootBits 2 3, rootBits 2 5, rootBits 2 7, rootBits 2 11, rootBits 2 13,
    rootBits 2 17, rootBits 2 19⟩

/-- A root lies between two neighbours of the grid of 2^-32. -/
theorem rootBits_eq {n p whole bits : Nat} (hn : n ≠ 0) (hbits : bits < 2 ^ 32)
    (hlow : (whole * 2 ^ 32 + bits) ^ n ≤ p * (2 ^ 32) ^ n)
    (hhigh : p * (2 ^ 32) ^ n < (whole * 2 ^ 32 + bits + 1) ^ n) :
    rootBits n p = UInt32.ofNat bits := by
  have hroot : 0 ≤ (p : ℝ) ^ (n : ℝ)⁻¹ := Real.rpow_nonneg p.cast_nonneg _
  have hpow : ((p : ℝ) ^ (n : ℝ)⁻¹) ^ n = p := Real.rpow_inv_natCast_pow p.cast_nonneg hn
  rw [rootBits]
  generalize (p : ℝ) ^ (n : ℝ)⁻¹ = root at hroot hpow
  have hscaled : (root * 2 ^ 32) ^ n = ((p * (2 ^ 32) ^ n : Nat) : ℝ) := by
    rw [mul_pow, hpow]
    push_cast
    norm_num
  have hle : ((whole * 2 ^ 32 + bits : Nat) : ℝ) ≤ root * 2 ^ 32 := by
    refine le_of_pow_le_pow_left₀ hn (by positivity) ?_
    rw [hscaled]
    exact_mod_cast hlow
  have hlt : root * 2 ^ 32 < ((whole * 2 ^ 32 + bits + 1 : Nat) : ℝ) := by
    refine lt_of_pow_lt_pow_left₀ n (by positivity) ?_
    rw [hscaled]
    exact_mod_cast hhigh
  push_cast at hle hlt
  have hbits' : (bits : ℝ) + 1 ≤ 2 ^ 32 := by exact_mod_cast hbits
  have hfloor : ⌊root⌋ = (whole : ℤ) := by
    refine Int.floor_eq_iff.mpr ⟨?_, ?_⟩
    · push_cast
      nlinarith [(Nat.cast_nonneg bits : (0 : ℝ) ≤ bits)]
    · push_cast
      nlinarith
  have hfract : ⌊Int.fract root * 2 ^ 32⌋₊ = bits := by
    rw [Int.fract, hfloor]
    refine (Nat.floor_eq_iff (by push_cast; nlinarith [(Nat.cast_nonneg bits : (0 : ℝ) ≤ bits)])).mpr
      ⟨?_, ?_⟩
    · push_cast
      linarith
    · push_cast
      linarith
  rw [hfract]

/-! ### The hash computation -/

/-- The message schedule. -/
def schedule (m : Nat → UInt32) (t : Nat) : UInt32 :=
  if t < 16 then m t
  else sigma1 (schedule m (t - 2)) + schedule m (t - 7) + sigma0 (schedule m (t - 15)) +
    schedule m (t - 16)

noncomputable def round (w : Nat → UInt32) (t : Nat) (v : Hash) : Hash :=
  let t1 := v.h + bigSigma1 v.e + ch v.e v.f v.g + k t + w t
  let t2 := bigSigma0 v.a + maj v.a v.b v.c
  ⟨t1 + t2, v.a, v.b, v.c, v.d + t1, v.e, v.f, v.g⟩

noncomputable def rounds (w : Nat → UInt32) (v : Hash) : Nat → Hash
  | 0 => v
  | t + 1 => round w t (rounds w v t)

noncomputable def compress (hash : Hash) (m : Nat → UInt32) : Hash :=
  let v := rounds (schedule m) hash 64
  ⟨hash.a + v.a, hash.b + v.b, hash.c + v.c, hash.d + v.d, hash.e + v.e, hash.f + v.f,
    hash.g + v.g, hash.h + v.h⟩

/-- A word of a block, the most significant byte first. -/
def word (block : List UInt8) (i : Nat) : UInt32 :=
  ((block.getD (4 * i) 0).toUInt32 <<< 24) ||| ((block.getD (4 * i + 1) 0).toUInt32 <<< 16) |||
    ((block.getD (4 * i + 2) 0).toUInt32 <<< 8) ||| (block.getD (4 * i + 3) 0).toUInt32

/-- A one bit, as few zero bits as fill up all but the last eight bytes of a block, and the length
in bits. -/
def pad (message : List UInt8) : List UInt8 :=
  message ++ (0x80 :: List.replicate ((119 - message.length % 64) % 64) 0) ++
    (List.range 8).map fun i => UInt8.ofNat (8 * message.length / 256 ^ (7 - i))

noncomputable def hashBlocks : Nat → Hash → List UInt8 → Hash
  | 0, hash, _ => hash
  | n + 1, hash, bytes => hashBlocks n (compress hash (word (bytes.take 64))) (bytes.drop 64)

def wordBytes (w : UInt32) : List UInt8 :=
  [(w >>> 24).toUInt8, (w >>> 16).toUInt8, (w >>> 8).toUInt8, w.toUInt8]

noncomputable def sha256 (message : List UInt8) : List UInt8 :=
  let hash := hashBlocks ((pad message).length / 64) initial (pad message)
  wordBytes hash.a ++ wordBytes hash.b ++ wordBytes hash.c ++ wordBytes hash.d ++
    wordBytes hash.e ++ wordBytes hash.f ++ wordBytes hash.g ++ wordBytes hash.h

end Sha2
