/-
The four SHA-256 of the repository and the one of the standard.

The key policy, the artifact format and the schema carry their own copies of the
hash next to the one of the security library.  The compression of a block is the
same text up to names.  What differs is how a block is filled, what is counted,
and how the last block is closed: the key policy sends its padding through its own
update, and the two Ribos copies write it into the block in place.

Every copy is compared with one picture of the stream, `Absorbed`: the whole
blocks of what came so far are compressed, and the rest lies in the block.  It
follows that the way a message is cut into updates does not matter, and that all
of them compute the hash of the standard.
-/
import Ribon.Security.Evaluation
import Ribon.Sha2.Standard

namespace Ribon

open Wire

namespace Sha256

/-! ### The copies -/

/-- The 64 bytes of a block. -/
abbrev Block := { bytes : List UInt8 // bytes.length = 64 }

/-- Write bytes into a block. -/
def Block.copy (block : Block) (offset : Nat) (bytes : List UInt8) : Block :=
  ⟨patch block.1 offset bytes, by rw [length_patch, block.2]⟩

/-- The context of the other copies.  `counter` is the number of bytes (`total_bytes`) for the key
policy and of bits (`bit_count`) for the artifact and the schema. -/
structure BlockContext where
  state : State
  counter : UInt64
  block : Block
  used : Nat
  deriving DecidableEq

def sha256Initialize : BlockContext := ⟨start.state, 0, ⟨List.replicate 64 0, rfl⟩, 0⟩

/-- Copy a piece that fits behind what is there, and compress the block when it is full. -/
def BlockContext.advance (context : BlockContext) (counter : UInt64) (piece : List UInt8) :
    BlockContext :=
  let block := context.block.copy context.used piece
  let used := context.used + piece.length
  if used = 64 then ⟨transform context.state block.1, counter, block, 0⟩
  else ⟨context.state, counter, block, used⟩

/-- The loop that two of the updates share; `tally` is what a piece does to the counter.  Every
turn takes a byte at least, so `bytes.length` turns are enough. -/
def absorbPieces (tally : UInt64 → Nat → UInt64) : Nat → BlockContext → List UInt8 → BlockContext
  | 0, context, _ => context
  | fuel + 1, context, bytes =>
      if bytes.length = 0 then context
      else
        let available := 64 - context.used
        let count := if available < bytes.length then available else bytes.length
        absorbPieces tally fuel
          (context.advance (tally context.counter count) (bytes.take count)) (bytes.drop count)

/-- A length in bits, most significant byte first. -/
def lengthBytes (bits : UInt64) : List UInt8 :=
  (List.range 8).map fun i => (bits >>> UInt64.ofNat (8 * (7 - i))).toUInt8

def keyPolicySha256Update (context : BlockContext) (bytes : List UInt8) : BlockContext :=
  absorbPieces (fun total _ => total) bytes.length
    { context with counter := context.counter + UInt64.ofNat bytes.length } bytes

def keyPolicySha256Finish (context : BlockContext) : Digest :=
  let bitLength := context.counter * 8
  let paddingSize := if context.used < 56 then 56 - context.used else 120 - context.used
  let padding := (0x80 : UInt8) :: List.replicate (paddingSize - 1) 0
  digestOf (keyPolicySha256Update (keyPolicySha256Update context padding)
    (lengthBytes bitLength)).state

def keyPolicySha256 (bytes : List UInt8) : Digest :=
  keyPolicySha256Finish (keyPolicySha256Update sha256Initialize bytes)

def artifactSha256Update (context : BlockContext) (input : List UInt8) : BlockContext :=
  absorbPieces (fun bits amount => bits + UInt64.ofNat amount * 8) input.length context input

/-- The end of the artifact's and of the schema's hash: the padding is written into the block. -/
def closeInPlace (context : BlockContext) : Digest :=
  let block := context.block.copy context.used [0x80]
  let used := context.used + 1
  if used > 56 then
    let full := block.copy used (List.replicate (64 - used) 0)
    let last := (full.copy 0 (List.replicate 56 0)).copy 56 (lengthBytes context.counter)
    digestOf (transform (transform context.state full.1) last.1)
  else
    let last := (block.copy used (List.replicate (56 - used) 0)).copy 56
      (lengthBytes context.counter)
    digestOf (transform context.state last.1)

def artifactSha256Finish : BlockContext → Digest := closeInPlace

def artifactSha256 (input : List UInt8) : Digest :=
  artifactSha256Finish
    (if input.length ≠ 0 then artifactSha256Update sha256Initialize input else sha256Initialize)

/-- The schema's update goes byte by byte. -/
def schemaSha256Update (context : BlockContext) (bytes : List UInt8) : BlockContext :=
  bytes.foldl (fun context byte => context.advance (context.counter + 8) [byte]) context

def schemaSha256Finish : BlockContext → Digest := closeInPlace

/-! ### The stream in a block -/

variable {bytes : List UInt8}

theorem Block.take_copy {block : Block} {offset : Nat} (h : offset + bytes.length ≤ 64) :
    (block.copy offset bytes).1.take (offset + bytes.length) = block.1.take offset ++ bytes := by
  have hlength : (block.1.take offset ++ bytes).length = offset + bytes.length := by
    rw [List.length_append, List.length_take, block.2]
    omega
  show (patch block.1 offset bytes).take _ = _
  rw [patch_eq (by rw [block.2]; exact h), List.take_left' hlength]

/-- A block that is written up to its end. -/
theorem Block.copy_full {block : Block} {offset : Nat} (h : offset + bytes.length = 64) :
    (block.copy offset bytes).1 = block.1.take offset ++ bytes := by
  rw [← take_copy h.le, List.take_of_length_le (by rw [(block.copy offset bytes).2, h])]

/-- The context holds a message. -/
structure Holds (message : List UInt8) (context : BlockContext) : Prop where
  room : context.used < 64
  absorbed : Absorbed message
    ⟨context.state, context.counter, context.block.1.take context.used⟩

theorem holds_sha256Initialize : Holds [] sha256Initialize := ⟨by decide, ⟨rfl, rfl⟩⟩

variable {message : List UInt8} {context : BlockContext}

theorem Holds.used_eq (h : Holds message context) :
    context.used = message.length % 64 := by
  have hlength := h.absorbed.length_block
  rw [List.length_take, context.block.2, Nat.min_eq_left h.room.le] at hlength
  exact hlength

theorem Holds.advance {piece : List UInt8} (h : Holds message context)
    (hfits : context.used + piece.length ≤ 64) (counter : UInt64) :
    Holds (message ++ piece) (context.advance counter piece) := by
  have hroom := h.room
  have hpend : (context.block.1.take context.used).length = context.used := by
    rw [List.length_take, context.block.2, Nat.min_eq_left hroom.le]
  rw [BlockContext.advance]
  split
  · next hfull =>
    have hfill := @Absorbed.fill message piece _ h.absorbed (by rw [hpend, hfull])
    refine ⟨Nat.zero_lt_succ _, ⟨?_, ?_⟩⟩
    · rw [Block.copy_full hfull]
      exact hfill.state
    · rw [List.take_zero]
      exact hfill.block
  · have hkeep := @Absorbed.keep message piece _ h.absorbed (by rw [hpend]; omega)
    refine ⟨by dsimp only; omega, ⟨hkeep.state, ?_⟩⟩
    rw [Block.take_copy hfits]
    exact hkeep.block

theorem counter_advance (context : BlockContext) (counter : UInt64) (piece : List UInt8) :
    (context.advance counter piece).counter = counter := by
  rw [BlockContext.advance]
  split <;> rfl

/-- The shared loop takes all the bytes in, and counts them. -/
theorem absorbPieces_spec {tally : UInt64 → Nat → UInt64} (hzero : ∀ c, tally c 0 = c)
    (hadd : ∀ c m n, tally (tally c m) n = tally c (m + n)) {fuel : Nat} (h : Holds message context)
    (hfuel : bytes.length ≤ fuel) :
    Holds (message ++ bytes) (absorbPieces tally fuel context bytes) ∧
      (absorbPieces tally fuel context bytes).counter = tally context.counter bytes.length := by
  induction fuel generalizing message bytes context with
  | zero =>
      obtain rfl : bytes = [] := List.length_eq_zero_iff.mp (by omega)
      rw [List.append_nil]
      exact ⟨h, (hzero _).symm⟩
  | succ fuel ih =>
      rw [absorbPieces]
      by_cases hempty : bytes.length = 0
      · obtain rfl : bytes = [] := List.length_eq_zero_iff.mp hempty
        rw [if_pos hempty, List.append_nil]
        exact ⟨h, (hzero _).symm⟩
      rw [if_neg hempty]
      dsimp only
      have hroom := h.room
      generalize hcount :
        (if 64 - context.used < bytes.length then 64 - context.used else bytes.length) = count
      have hbnds : 0 < count ∧ count ≤ bytes.length ∧ context.used + count ≤ 64 := by
        split at hcount <;> omega
      have htake : (bytes.take count).length = count := by
        rw [List.length_take]
        omega
      have hstep := h.advance (by rw [htake]; exact hbnds.2.2) (tally context.counter count)
      obtain ⟨hheld, hctr⟩ := ih hstep (show (bytes.drop count).length ≤ fuel by
        rw [List.length_drop]
        omega)
      rw [List.append_assoc, List.take_append_drop] at hheld
      refine ⟨hheld, hctr.trans ?_⟩
      rw [counter_advance, hadd, List.length_drop]
      congr 1
      omega

/-- The context holds a message and has counted it, in bytes or in bits. -/
structure Tracks (unit : UInt64) (message : List UInt8) (context : BlockContext) : Prop where
  held : Holds message context
  counted : context.counter = UInt64.ofNat message.length * unit

theorem tracks_sha256Initialize (unit : UInt64) : Tracks unit [] sha256Initialize :=
  ⟨holds_sha256Initialize, (UInt64.zero_mul).symm⟩

/-- A message that comes in pieces. -/
theorem tracks_foldl {unit : UInt64} {update : BlockContext → List UInt8 → BlockContext}
    (hupdate : ∀ {message context}, Tracks unit message context → ∀ bytes,
      Tracks unit (message ++ bytes) (update context bytes)) (h : Tracks unit message context)
    (chunks : List (List UInt8)) :
    Tracks unit (message ++ chunks.flatten) (chunks.foldl update context) := by
  induction chunks generalizing message context with
  | nil => rwa [List.flatten_nil, List.append_nil]
  | cons chunk chunks ih =>
      rw [List.flatten_cons, ← List.append_assoc]
      exact ih (hupdate h chunk)

theorem ofNat_length_append (message bytes : List UInt8) (unit : UInt64) :
    UInt64.ofNat (message ++ bytes).length * unit =
      UInt64.ofNat message.length * unit + UInt64.ofNat bytes.length * unit := by
  rw [List.length_append, UInt64.ofNat_add, UInt64.add_mul]

theorem tracks_keyPolicySha256Update (h : Tracks 1 message context) (bytes : List UInt8) :
    Tracks 1 (message ++ bytes) (keyPolicySha256Update context bytes) := by
  have hstart : Holds message
      { context with counter := context.counter + UInt64.ofNat bytes.length } :=
    ⟨h.held.room, ⟨h.held.absorbed.state, h.held.absorbed.block⟩⟩
  obtain ⟨hheld, hctr⟩ := @absorbPieces_spec bytes _ _ (fun total _ => total)
    (fun _ => rfl) (fun _ _ _ => rfl) _ hstart le_rfl
  refine ⟨hheld, hctr.trans ?_⟩
  rw [ofNat_length_append, ← h.counted, UInt64.mul_one]

theorem tracks_artifactSha256Update (h : Tracks 8 message context) (input : List UInt8) :
    Tracks 8 (message ++ input) (artifactSha256Update context input) := by
  obtain ⟨hheld, hctr⟩ := @absorbPieces_spec input _ _
    (fun bits amount => bits + UInt64.ofNat amount * 8) (fun _ => by simp)
    (fun _ _ _ => by simp only [UInt64.ofNat_add, UInt64.add_mul, UInt64.add_assoc]) _ h.held le_rfl
  refine ⟨hheld, hctr.trans ?_⟩
  rw [ofNat_length_append, ← h.counted]

theorem tracks_schemaSha256Update (h : Tracks 8 message context) (bytes : List UInt8) :
    Tracks 8 (message ++ bytes) (schemaSha256Update context bytes) := by
  induction bytes generalizing message context with
  | nil => rwa [List.append_nil]
  | cons byte bytes ih =>
      rw [show message ++ byte :: bytes = (message ++ [byte]) ++ bytes by simp]
      refine ih ⟨@Holds.advance _ _ [byte] h.held h.held.room _, ?_⟩
      rw [counter_advance, ofNat_length_append, h.counted]
      rfl

/-! ### The end of the stream -/

/-- Padding that goes through the update. -/
theorem absorbed_keyPolicySha256Finish (h : Tracks 1 message context) :
    ∃ last, Absorbed (padded message) last ∧ keyPolicySha256Finish context = digestOf last.state := by
  refine ⟨_, (tracks_keyPolicySha256Update (tracks_keyPolicySha256Update h _) _).held.absorbed, ?_⟩
  rw [keyPolicySha256Finish, h.held.used_eq, h.counted, UInt64.mul_one]
  rfl

/-- Padding that is written in place. -/
theorem absorbed_closeInPlace (h : Tracks 8 message context) :
    ∃ last, Absorbed (padded message) last ∧ closeInPlace context = digestOf last.state := by
  have hroom := h.held.room
  have hused := h.held.used_eq
  have hlength : (lengthBytes context.counter).length = 8 := by simp [lengthBytes]
  have hpend : (context.block.1.take context.used).length = context.used := by
    rw [List.length_take, context.block.2, Nat.min_eq_left hroom.le]
  have hone : (context.block.copy context.used [0x80]).1.take (context.used + 1) =
      context.block.1.take context.used ++ [0x80] := @Block.take_copy [0x80] _ _ hroom
  have hpadded : ∀ zeros, (if context.used < 56 then 56 - context.used else 120 - context.used) =
      zeros + 1 → padded message =
        message ++ (0x80 :: List.replicate zeros 0 ++ lengthBytes context.counter) := by
    intro zeros hzeros
    rw [padded, ← hused, hzeros, h.counted, lengthBytes, List.append_assoc]
    rfl
  rw [closeInPlace]
  dsimp only
  by_cases hlate : context.used + 1 > 56
  · -- the marker and zeros end this block, and the length stands in one of its own
    have hmsg : padded message = message ++ (0x80 :: List.replicate (63 - context.used) 0) ++
        (List.replicate 56 0 ++ lengthBytes context.counter) := by
      rw [hpadded (63 - context.used + 56) (by rw [if_neg (by omega)]; omega), List.replicate_add]
      simp
    have hfirst := @Absorbed.fill message (0x80 :: List.replicate (63 - context.used) 0) _
      h.held.absorbed (by rw [hpend, List.length_cons, List.length_replicate]; omega)
    have hfull : ∀ block : Block, block.1.take (context.used + 1) =
        context.block.1.take context.used ++ [0x80] →
        (block.copy (context.used + 1) (List.replicate (64 - (context.used + 1)) 0)).1 =
          context.block.1.take context.used ++ 0x80 :: List.replicate (63 - context.used) 0 := by
      intro block hblock
      rw [Block.copy_full (by rw [List.length_replicate]; omega), hblock, List.append_assoc,
        show 64 - (context.used + 1) = 63 - context.used by omega]
      rfl
    have hlast : ∀ block : Block, ((block.copy 0 (List.replicate 56 0)).copy 56
        (lengthBytes context.counter)).1 = List.replicate 56 0 ++ lengthBytes context.counter := by
      intro block
      rw [Block.copy_full (by rw [hlength])]
      exact congrArg (· ++ _) (@Block.take_copy (List.replicate 56 0) block 0 (by simp))
    rw [if_pos hlate, hmsg, hlast, hfull _ hone]
    exact ⟨_, hfirst.fill (by simp [hlength]), rfl⟩
  · have hmsg := hpadded (55 - context.used) (by rw [if_pos (by omega)]; omega)
    have hlast : ((((context.block.copy context.used [0x80]).copy (context.used + 1)
        (List.replicate (56 - (context.used + 1)) 0)).copy 56 (lengthBytes context.counter))).1 =
        context.block.1.take context.used ++
          (0x80 :: List.replicate (55 - context.used) 0 ++ lengthBytes context.counter) := by
      have hzeros := @Block.take_copy (List.replicate (56 - (context.used + 1)) 0)
        (context.block.copy context.used [0x80]) (context.used + 1) (by rw [List.length_replicate]; omega)
      rw [List.length_replicate, show context.used + 1 + (56 - (context.used + 1)) = 56 by omega,
        hone] at hzeros
      rw [Block.copy_full (by rw [hlength]), hzeros,
        show 56 - (context.used + 1) = 55 - context.used by omega]
      simp
    rw [if_neg hlate, hmsg, hlast]
    refine ⟨_, h.held.absorbed.fill ?_, rfl⟩
    simp only [hpend, List.length_append, List.length_cons, List.length_replicate, hlength]
    omega

/-! ### The standard -/

/-- The state as the standard's hash value. -/
def State.hash (s : State) : Sha2.Hash := ⟨s.a, s.b, s.c, s.d, s.e, s.f, s.g, s.h⟩

theorem primes_eq : Sha2.primes = [2, 3, 5, 7, 11, 13, 17, 19, 23, 29, 31, 37, 41, 43, 47, 53, 59,
    61, 67, 71, 73, 79, 83, 89, 97, 101, 103, 107, 109, 113, 127, 131, 137, 139, 149, 151, 157, 163,
    167, 173, 179, 181, 191, 193, 197, 199, 211, 223, 227, 229, 233, 239, 241, 251, 257, 263, 269,
    271, 277, 281, 283, 293, 307, 311] := by
  -- trial division up to the root of 312
  have hprime : ∀ p ∈ List.range 312, decide p.Prime =
      decide (2 ≤ p ∧ ∀ m ∈ List.range 18, 2 ≤ m → m < p → p % m ≠ 0) := by
    intro p hp
    rw [decide_eq_decide]
    constructor
    · intro h
      refine ⟨h.two_le, fun m _ hm hlt hzero => ?_⟩
      rcases (Nat.dvd_prime h).mp (Nat.dvd_of_mod_eq_zero hzero) with hone | hself <;> omega
    · rintro ⟨htwo, h⟩
      refine Nat.prime_def_le_sqrt.mpr ⟨htwo, fun m hm hle hdvd => ?_⟩
      have hsquare := Nat.le_sqrt.mp hle
      have hbound := List.mem_range.mp hp
      exact h m (List.mem_range.mpr (by nlinarith)) hm (by nlinarith) (Nat.mod_eq_zero_of_dvd hdvd)
  rw [Sha2.primes, List.filter_congr hprime]
  decide +kernel

/-- The table of the code holds the standard's constants. -/
theorem constants_eq : constants = (List.range 64).map Sha2.k := by
  have hroots : ∀ t < 64, ∃ whole < 7,
      (whole * 2 ^ 32 + (constants.getD t 0).toNat) ^ 3 ≤ Sha2.primes.getD t 0 * (2 ^ 32) ^ 3 ∧
      Sha2.primes.getD t 0 * (2 ^ 32) ^ 3 <
        (whole * 2 ^ 32 + (constants.getD t 0).toNat + 1) ^ 3 := by
    rw [primes_eq]
    decide +kernel
  refine List.ext_getElem rfl fun t ht _ => ?_
  obtain ⟨whole, -, hlow, hhigh⟩ := hroots t ht
  rw [List.getElem_map, List.getElem_range, Sha2.k,
    Sha2.rootBits_eq (by decide) (UInt32.toNat_lt _) hlow hhigh, UInt32.ofNat_toNat,
    List.getD_eq_getElem?_getD, List.getElem?_eq_getElem ht, Option.getD_some]

theorem hash_start : start.state.hash = Sha2.initial := by
  have hroots : Sha2.rootBits 2 2 = 0x6a09e667 ∧ Sha2.rootBits 2 3 = 0xbb67ae85 ∧
      Sha2.rootBits 2 5 = 0x3c6ef372 ∧ Sha2.rootBits 2 7 = 0xa54ff53a ∧
      Sha2.rootBits 2 11 = 0x510e527f ∧ Sha2.rootBits 2 13 = 0x9b05688c ∧
      Sha2.rootBits 2 17 = 0x1f83d9ab ∧ Sha2.rootBits 2 19 = 0x5be0cd19 :=
    ⟨@Sha2.rootBits_eq 2 2 1 0x6a09e667 (by decide) (by decide) (by decide) (by decide),
      @Sha2.rootBits_eq 2 3 1 0xbb67ae85 (by decide) (by decide) (by decide) (by decide),
      @Sha2.rootBits_eq 2 5 2 0x3c6ef372 (by decide) (by decide) (by decide) (by decide),
      @Sha2.rootBits_eq 2 7 2 0xa54ff53a (by decide) (by decide) (by decide) (by decide),
      @Sha2.rootBits_eq 2 11 3 0x510e527f (by decide) (by decide) (by decide) (by decide),
      @Sha2.rootBits_eq 2 13 3 0x9b05688c (by decide) (by decide) (by decide) (by decide),
      @Sha2.rootBits_eq 2 17 4 0x1f83d9ab (by decide) (by decide) (by decide) (by decide),
      @Sha2.rootBits_eq 2 19 4 0x5be0cd19 (by decide) (by decide) (by decide) (by decide)⟩
  obtain ⟨h0, h1, h2, h3, h4, h5, h6, h7⟩ := hroots
  rw [Sha2.initial, h0, h1, h2, h3, h4, h5, h6, h7]
  rfl

/-- The words of a block. -/
theorem blockWords_eq {n : Nat} (h : bytes.length = 4 * n) :
    blockWords bytes = (List.range n).map (Sha2.word bytes) := by
  induction n generalizing bytes with
  | zero =>
      obtain rfl : bytes = [] := List.length_eq_zero_iff.mp h
      rfl
  | succ n ih =>
      obtain ⟨b0, b1, b2, b3, rest, rfl, hrest⟩ := exists_word h
      rw [blockWords, ih hrest, List.range_succ_eq_map, List.map_cons, List.map_map]
      rfl

/-- The list of the code grows along the schedule of the standard. -/
theorem schedule_eq (m : Nat → UInt32) (n : Nat) {len : Nat} (hlen : 16 ≤ len) :
    schedule n ((List.range len).map (Sha2.schedule m)) =
      (List.range (len + n)).map (Sha2.schedule m) := by
  induction n generalizing len with
  | zero => rfl
  | succ n ih =>
      have hget : ∀ back, 0 < back → back ≤ 16 →
          ((List.range len).map (Sha2.schedule m)).getD (len - back) 0 =
            Sha2.schedule m (len - back) := by
        intro back hpos hback
        rw [List.getD_eq_getElem?_getD, List.getElem?_map, List.getElem?_range (by omega)]
        rfl
      have hnext : (List.range (len + 1)).map (Sha2.schedule m) =
          (List.range len).map (Sha2.schedule m) ++ [Sha2.schedule m len] := by
        rw [List.range_succ, List.map_append, List.map_singleton]
      have hword : Sha2.schedule m len = Sha2.sigma1 (Sha2.schedule m (len - 2)) +
          Sha2.schedule m (len - 7) + Sha2.sigma0 (Sha2.schedule m (len - 15)) +
            Sha2.schedule m (len - 16) := by
        rw [Sha2.schedule, if_neg (by omega)]
      have horder : ∀ first second third fourth : UInt32,
          first + (rotateRight second 7 ^^^ rotateRight second 18 ^^^ (second >>> 3)) + third +
            (rotateRight fourth 17 ^^^ rotateRight fourth 19 ^^^ (fourth >>> 10)) =
          Sha2.sigma1 fourth + third + Sha2.sigma0 second + first := by
        intro first second third fourth
        show first + Sha2.sigma0 second + third + Sha2.sigma1 fourth = _
        ac_rfl
      rw [schedule, List.length_map, List.length_range, hget 15 (by omega) (by omega),
        hget 2 (by omega) (by omega), hget 16 (by omega) (by omega), hget 7 (by omega) (by omega),
        show len + (n + 1) = len + 1 + n by omega, ← ih (by omega), hnext, hword, horder]

/-- The rounds of the code, from any of them on. -/
theorem hash_rounds (w : Nat → UInt32) (v : Sha2.Hash) (n : Nat) {t : Nat} {s : State}
    (h : s.hash = Sha2.rounds w v t) :
    (rounds ((List.range' t n).map Sha2.k) ((List.range' t n).map w) s).hash =
      Sha2.rounds w v (t + n) := by
  induction n generalizing t s with
  | zero => exact h
  | succ n ih =>
      rw [List.range'_succ, List.map_cons, List.map_cons, rounds,
        show t + (n + 1) = t + 1 + n by omega]
      refine ih ?_
      rw [Sha2.rounds, ← h]
      rfl

theorem hash_transform {block : List UInt8} (h : block.length = 64) (s : State) :
    (transform s block).hash = Sha2.compress s.hash (Sha2.word block) := by
  have hwords : blockWords block = (List.range 16).map (Sha2.schedule (Sha2.word block)) := by
    rw [blockWords_eq (show block.length = 4 * 16 from h)]
    refine List.map_congr_left fun t ht => ?_
    rw [Sha2.schedule, if_pos (List.mem_range.mp ht)]
  have hrounds := @hash_rounds (Sha2.schedule (Sha2.word block)) s.hash 64 0 s rfl
  rw [← List.range_eq_range', ← constants_eq, Nat.zero_add] at hrounds
  rw [transform, hwords, schedule_eq _ 48 (le_refl 16), Sha2.compress, ← hrounds]
  rfl

theorem hash_blocks {n : Nat} {s : State} (h : bytes.length = 64 * n) :
    (blocks n s bytes).hash = Sha2.hashBlocks n s.hash bytes := by
  induction n generalizing s bytes with
  | zero => rfl
  | succ n ih =>
      have htake : (bytes.take 64).length = 64 := by
        rw [List.length_take]
        omega
      rw [blocks, ih (by rw [List.length_drop]; omega), hash_transform htake, Sha2.hashBlocks]

/-- The length is exact in 64 bits for the messages that the standard has a hash for. -/
theorem padded_eq (h : message.length < 2 ^ 61) :
    padded message = Sha2.pad message := by
  have hbits : (UInt64.ofNat message.length * 8).toNat = 8 * message.length := by
    rw [UInt64.toNat_mul, UInt64.toNat_ofNat']
    show message.length % 2 ^ 64 * 8 % 2 ^ 64 = _
    omega
  have hzeros : (if message.length % 64 < 56 then 56 - message.length % 64
      else 120 - message.length % 64) - 1 = (119 - message.length % 64) % 64 := by
    split <;> omega
  rw [padded, Sha2.pad, hzeros]
  congr 1
  refine List.map_congr_left fun i _ => UInt8.toNat_inj.mp ?_
  have hshift : (UInt64.ofNat (8 * (7 - i))).toNat % 64 = 8 * (7 - i) := by
    rw [UInt64.toNat_ofNat']
    omega
  rw [UInt64.toNat_toUInt8, UInt64.toNat_shiftRight, hbits, hshift, Nat.shiftRight_eq_div_pow,
    Nat.pow_mul, UInt8.toNat_ofNat']

/-- What is read off a context that holds the padded message. -/
theorem digestOf_absorbed (h : message.length < 2 ^ 61) {context : Context}
    (hlast : Absorbed (padded message) context) :
    (digestOf context.state).1 = Sha2.sha256 message := by
  have hlength := (Nat.mul_div_cancel' (Nat.dvd_of_mod_eq_zero (length_padded message))).symm
  have hhash : context.state.hash =
      Sha2.hashBlocks ((Sha2.pad message).length / 64) Sha2.initial (Sha2.pad message) := by
    rw [hlast.state, hash_blocks hlength, hash_start, padded_eq h]
  rw [Sha2.sha256, ← hhash]
  rfl

end Sha256

open Sha256 in
/-- **The copies of the hash agree.**  However a message is cut into updates, the streaming hashes
of the key policy, the artifact and the schema end with the standard's hash of the whole message,
and so do the hashes that take it at once. -/
theorem sha256_copies_agree (chunks : List (List UInt8)) (h : chunks.flatten.length < 2 ^ 61) :
    (keyPolicySha256Finish (chunks.foldl keyPolicySha256Update sha256Initialize)).1 =
        Sha2.sha256 chunks.flatten ∧
      (artifactSha256Finish (chunks.foldl artifactSha256Update sha256Initialize)).1 =
        Sha2.sha256 chunks.flatten ∧
      (schemaSha256Finish (chunks.foldl schemaSha256Update sha256Initialize)).1 =
        Sha2.sha256 chunks.flatten ∧
      (keyPolicySha256 chunks.flatten).1 = Sha2.sha256 chunks.flatten ∧
      (artifactSha256 chunks.flatten).1 = Sha2.sha256 chunks.flatten ∧
      (sha256 chunks.flatten chunks.flatten.length).1 = Sha2.sha256 chunks.flatten := by
  have hkey : ∀ {context}, Tracks 1 chunks.flatten context →
      (keyPolicySha256Finish context).1 = Sha2.sha256 chunks.flatten := by
    intro context htracks
    obtain ⟨last, hlast, hfin⟩ := absorbed_keyPolicySha256Finish htracks
    rw [hfin, digestOf_absorbed h hlast]
  have hplace : ∀ {context}, Tracks 8 chunks.flatten context →
      (closeInPlace context).1 = Sha2.sha256 chunks.flatten := by
    intro context htracks
    obtain ⟨last, hlast, hfin⟩ := absorbed_closeInPlace htracks
    rw [hfin, digestOf_absorbed h hlast]
  refine ⟨hkey ?_, hplace ?_, hplace ?_, hkey ?_, hplace ?_, ?_⟩
  · exact tracks_foldl tracks_keyPolicySha256Update (tracks_sha256Initialize 1) chunks
  · exact tracks_foldl tracks_artifactSha256Update (tracks_sha256Initialize 8) chunks
  · exact tracks_foldl tracks_schemaSha256Update (tracks_sha256Initialize 8) chunks
  · exact tracks_keyPolicySha256Update (tracks_sha256Initialize 1) _
  · by_cases hempty : chunks.flatten.length = 0
    · rw [if_neg (not_not.mpr hempty), List.length_eq_zero_iff.mp hempty]
      exact tracks_sha256Initialize 8
    · rw [if_pos hempty]
      exact tracks_artifactSha256Update (tracks_sha256Initialize 8) _
  · unfold sha256
    rw [List.take_length, finish_update]
    exact @digestOf_absorbed _ h ⟨_, 0, _⟩ ⟨rfl, rfl⟩

open Sha256 in
/-- `abc` in three pieces, one of them empty. -/
theorem sha256_copies_agree_abc : (schemaSha256Finish ([[0x61], [], [0x62, 0x63]].foldl
    schemaSha256Update sha256Initialize)).1 = Sha2.sha256 [0x61, 0x62, 0x63] :=
  (sha256_copies_agree [[0x61], [], [0x62, 0x63]] (by decide)).2.2.1

end Ribon
