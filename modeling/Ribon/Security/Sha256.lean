/-
SHA-256, as the security library computes it: a streaming context that collects
bytes into blocks, the compression of one block, and the padding.

The digest is used below as a name for bytes and never for a property of the
function: no proof assumes that two inputs with one digest are equal.
-/
import Ribon.Wire.Canonical

namespace Ribon

open Wire

/-- A SHA-256 digest: 32 bytes. -/
abbrev Digest := { bytes : List UInt8 // bytes.length = 32 }

namespace Digest

/-- The all-zero digest, which the formats use for the absence of one. -/
def zero : Digest := ⟨List.replicate 32 0, by simp⟩

/-- The 32 bytes at a pointer. -/
def read (bs : List UInt8) : Digest :=
  ⟨(bs ++ List.replicate 32 0).take 32, by simp⟩

/-- Whether all 32 bytes are zero. -/
def isZero (d : Digest) : Bool := bytesZero d.1 32

/-- Whether the 32 bytes agree. -/
def equal (left right : Digest) : Bool := bytesEqual left.1 right.1 32

theorem equal_iff {left right : Digest} : left.equal right = true ↔ left = right := by
  constructor
  · intro h
    exact Subtype.ext (eq_of_bytesEqual left.2 right.2 h)
  · rintro rfl
    exact bytesEqual_self _ _

@[simp] theorem equal_self (d : Digest) : d.equal d = true := equal_iff.mpr rfl

theorem isZero_iff {d : Digest} : d.isZero = true ↔ d = zero := by
  constructor
  · intro h
    refine Subtype.ext (eq_of_bytesEqual d.2 (by simp [zero]) ?_)
    refine bytesEqual_iff.mpr fun i hi => ?_
    rw [bytesZero_iff.mp h i hi, zero, byteAt_replicate_zero]
  · rintro rfl
    exact bytesZero_replicate 32 32

@[simp] theorem isZero_zero : zero.isZero = true := isZero_iff.mpr rfl

variable {bs : List UInt8}

/-- A digest is read back from the bytes it was copied to. -/
theorem read_eq {d : Digest} (h : bs.take 32 = d.1) : read bs = d := by
  refine Subtype.ext ?_
  have hlen : 32 ≤ bs.length := by
    have h32 : (bs.take 32).length = 32 := by rw [h]; exact d.2
    simpa using h32
  show (bs ++ List.replicate 32 0).take 32 = d.1
  rw [List.take_append_of_le_length hlen, h]

@[simp] theorem length_val (d : Digest) : d.1.length = 32 := d.2

@[simp] theorem read_patch_before {off o : Nat} {data : List UInt8} (h : o + 32 ≤ off) :
    read ((patch bs off data).drop o) = read (bs.drop o) := by
  have hslice := @slice_patch_before bs data off o 32 h
  refine Subtype.ext ?_
  show ((patch bs off data).drop o ++ _).take 32 = (bs.drop o ++ _).take 32
  rw [List.take_append, List.take_append, hslice, List.length_drop, List.length_drop,
    length_patch]

@[simp] theorem read_patch_self {off : Nat} {d : Digest} (h : off + 32 ≤ bs.length) :
    read ((patch bs off d.1).drop off) = d :=
  read_eq (slice_patch_self d.2 h)

/-- The digest at the start of a buffer is its first bytes. -/
theorem val_read (h : 32 ≤ bs.length) : (read bs).1 = bs.take 32 := by
  have hlength : (bs.take 32).length = 32 := by rw [List.length_take]; omega
  exact congrArg Subtype.val (read_eq (d := ⟨bs.take 32, hlength⟩) rfl)

theorem take_read {as : List UInt8} {o : Nat} {d : Digest} (h : as.take o = bs.take o)
    (hda : read (as.drop o) = d) (hdb : read (bs.drop o) = d) (ha : o + 32 ≤ as.length := by omega)
    (hb : o + 32 ≤ bs.length := by omega) : 
    as.take (o + 32) = bs.take (o + 32) := by
  refine take_field h ?_
  rw [← val_read (by rw [List.length_drop]; omega), hda, ← hdb,
    val_read (by rw [List.length_drop]; omega)]

theorem read_append {front rest : List UInt8} {k : Nat} (h : k + 32 ≤ front.length) :
    read ((front ++ rest).drop k) = read (front.drop k) := by
  refine Subtype.ext ?_
  rw [val_read (by simp; omega), val_read (by simp; omega), slice_append h]

end Digest

namespace Sha256

/-- The eight words of the chaining state, and the eight working variables of a block. -/
structure State where
  a : UInt32
  b : UInt32
  c : UInt32
  d : UInt32
  e : UInt32
  f : UInt32
  g : UInt32
  h : UInt32
  deriving DecidableEq, Repr

/-- The streaming context; `block` holds the bytes of the block that is not full yet. -/
structure Context where
  state : State
  totalBytes : UInt64
  block : List UInt8
  deriving DecidableEq, Repr

def rotateRight (value count : UInt32) : UInt32 := (value >>> count) ||| (value <<< (32 - count))

def constants : List UInt32 := [
  0x428a2f98, 0x71374491, 0xb5c0fbcf, 0xe9b5dba5, 0x3956c25b, 0x59f111f1, 0x923f82a4, 0xab1c5ed5,
  0xd807aa98, 0x12835b01, 0x243185be, 0x550c7dc3, 0x72be5d74, 0x80deb1fe, 0x9bdc06a7, 0xc19bf174,
  0xe49b69c1, 0xefbe4786, 0x0fc19dc6, 0x240ca1cc, 0x2de92c6f, 0x4a7484aa, 0x5cb0a9dc, 0x76f988da,
  0x983e5152, 0xa831c66d, 0xb00327c8, 0xbf597fc7, 0xc6e00bf3, 0xd5a79147, 0x06ca6351, 0x14292967,
  0x27b70a85, 0x2e1b2138, 0x4d2c6dfc, 0x53380d13, 0x650a7354, 0x766a0abb, 0x81c2c92e, 0x92722c85,
  0xa2bfe8a1, 0xa81a664b, 0xc24b8b70, 0xc76c51a3, 0xd192e819, 0xd6990624, 0xf40e3585, 0x106aa070,
  0x19a4c116, 0x1e376c08, 0x2748774c, 0x34b0bcb5, 0x391c0cb3, 0x4ed8aa4a, 0x5b9cca4f, 0x682e6ff3,
  0x748f82ee, 0x78a5636f, 0x84c87814, 0x8cc70208, 0x90befffa, 0xa4506ceb, 0xbef9a3f7, 0xc67178f2]

/-- The big-endian words of a block. -/
def blockWords : List UInt8 → List UInt32
  | b0 :: b1 :: b2 :: b3 :: rest =>
      ((b0.toUInt32 <<< 24) ||| (b1.toUInt32 <<< 16) ||| (b2.toUInt32 <<< 8) ||| b3.toUInt32) ::
        blockWords rest
  | _ => []

/-- The message schedule: `n` more words, each from the last sixteen. -/
def schedule : Nat → List UInt32 → List UInt32
  | 0, words => words
  | n + 1, words =>
      let index := words.length
      let first := words.getD (index - 15) 0
      let second := words.getD (index - 2) 0
      let word := words.getD (index - 16) 0 +
        (rotateRight first 7 ^^^ rotateRight first 18 ^^^ (first >>> 3)) +
        words.getD (index - 7) 0 +
        (rotateRight second 17 ^^^ rotateRight second 19 ^^^ (second >>> 10))
      schedule n (words ++ [word])

def round (s : State) (constant word : UInt32) : State :=
  let first := s.h + (rotateRight s.e 6 ^^^ rotateRight s.e 11 ^^^ rotateRight s.e 25) +
    ((s.e &&& s.f) ^^^ ((~~~ s.e) &&& s.g)) + constant + word
  let second := (rotateRight s.a 2 ^^^ rotateRight s.a 13 ^^^ rotateRight s.a 22) +
    ((s.a &&& s.b) ^^^ (s.a &&& s.c) ^^^ (s.b &&& s.c))
  { a := first + second, b := s.a, c := s.b, d := s.c, e := s.d + first, f := s.e, g := s.f, h := s.g }

def rounds : List UInt32 → List UInt32 → State → State
  | constant :: constants, word :: words, s => rounds constants words (round s constant word)
  | _, _, s => s

/-- Compress one 64-byte block into the state. -/
def transform (s : State) (block : List UInt8) : State :=
  let r := rounds constants (schedule 48 (blockWords block)) s
  { a := s.a + r.a, b := s.b + r.b, c := s.c + r.c, d := s.d + r.d,
    e := s.e + r.e, f := s.f + r.f, g := s.g + r.g, h := s.h + r.h }

def start : Context where
  state :=
    { a := 0x6a09e667, b := 0xbb67ae85, c := 0x3c6ef372, d := 0xa54ff53a,
      e := 0x510e527f, f := 0x9b05688c, g := 0x1f83d9ab, h := 0x5be0cd19 }
  totalBytes := 0
  block := []

/-- The copy loop of `update`; every round consumes at least one byte, so `bytes.length` rounds
are enough. -/
def absorb : Nat → Context → List UInt8 → Context
  | 0, context, _ => context
  | fuel + 1, context, bytes =>
      if bytes.length = 0 then context
      else
        let count := min (64 - context.block.length) bytes.length
        let block := context.block ++ bytes.take count
        let next :=
          if block.length = 64 then { context with state := transform context.state block, block := [] }
          else { context with block := block }
        absorb fuel next (bytes.drop count)

def update (context : Context) (bytes : List UInt8) : Context :=
  absorb bytes.length
    { context with totalBytes := context.totalBytes + UInt64.ofNat bytes.length } bytes

/-- The bytes of a word, most significant first. -/
def wordBytes (w : UInt32) : List UInt8 :=
  [(w >>> 24).toUInt8, (w >>> 16).toUInt8, (w >>> 8).toUInt8, w.toUInt8]

/-- The digest, read off the state. -/
def digestOf (s : State) : Digest :=
  ⟨wordBytes s.a ++ wordBytes s.b ++ wordBytes s.c ++ wordBytes s.d ++
    wordBytes s.e ++ wordBytes s.f ++ wordBytes s.g ++ wordBytes s.h, rfl⟩

/-- Pad the stream with its bit length and close it. -/
def finish (context : Context) : Digest :=
  let bitLength := context.totalBytes * 8
  let used := context.block.length
  let paddingSize := if used < 56 then 56 - used else 120 - used
  let padding := (0x80 : UInt8) :: List.replicate (paddingSize - 1) 0
  let length := (List.range 8).map fun i => (bitLength >>> (UInt64.ofNat (8 * (7 - i)))).toUInt8
  digestOf (update (update context padding) length).state

end Sha256

/-- The SHA-256 of the first `size` bytes. -/
@[irreducible] def sha256 (bytes : List UInt8) (size : Nat) : Digest :=
  Sha256.finish (Sha256.update Sha256.start (bytes.take size))

theorem sha256_congr {as bs : List UInt8} {size : Nat} (h : as.take size = bs.take size) :
    sha256 as size = sha256 bs size := by
  unfold sha256
  rw [h]

@[simp] theorem sha256_patch_before {bs : List UInt8} {off n : Nat} {data : List UInt8} (h : n ≤ off) :
    sha256 (patch bs off data) n = sha256 bs n :=
  sha256_congr (take_patch_before h)

/-- A digest adds nothing to the bytes that it covers. -/
theorem Digest.take_sealed {as bs : List UInt8} {n : Nat} (h : as.take n = bs.take n)
    (hda : sha256 as n = Digest.read (as.drop n)) (hdb : sha256 bs n = Digest.read (bs.drop n))
    (ha : n + 32 ≤ as.length := by omega) (hb : n + 32 ≤ bs.length := by omega) :
    as.take (n + 32) = bs.take (n + 32) :=
  Digest.take_read h hda.symm (hdb.symm.trans (sha256_congr h).symm)

end Ribon
