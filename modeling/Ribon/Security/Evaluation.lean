/-
Digests and checksums as computations with natural numbers.

For the digest the streaming context goes: the message is padded, and its blocks
are compressed one after the other.  `sha256_eq` says that this is the digest of
the streaming code, and `crc32c_eq` says the same of the checksum.  Words are numbers below 2^32, so what these functions make of
known bytes is found by computing with numerals.
-/
import Ribon.Security.Sha256

/-! ### The checksum -/

namespace Wire

def crcBitNumber (crc : Nat) : Nat := (crc >>> 1) ^^^ (0x82f63b78 * (crc % 2))

def crcByteNumber (crc : Nat) (b : UInt8) : Nat :=
  (List.range 8).foldl (fun crc _ => crcBitNumber crc) (crc ^^^ b.toNat)

theorem toNat_crcBit (crc : UInt32) : (crcBit crc).toNat = crcBitNumber crc.toNat := by
  have hbit : (crc &&& 1).toNat = crc.toNat % 2 := by
    rw [UInt32.toNat_and]
    exact Nat.and_one_is_mod _
  rw [crcBit, crcBitNumber, UInt32.toNat_xor, UInt32.toNat_shiftRight]
  congr 1
  rcases Nat.mod_two_eq_zero_or_one crc.toNat with hzero | hone
  · have hmask : crc &&& 1 = 0 := UInt32.toNat_inj.mp (hbit.trans hzero)
    rw [hmask, hzero]
    rfl
  · have hmask : crc &&& 1 = 1 := UInt32.toNat_inj.mp (hbit.trans hone)
    rw [hmask, hone]
    rfl

theorem toNat_crcByte (crc : UInt32) (b : UInt8) :
    (crcByte crc b).toNat = crcByteNumber crc.toNat b := by
  have hbits : ∀ (bits : List Nat) (crc : UInt32),
      (bits.foldl (fun crc _ => crcBit crc) crc).toNat =
        bits.foldl (fun crc _ => crcBitNumber crc) crc.toNat := by
    intro bits
    induction bits with
    | nil => intro crc; rfl
    | cons bit bits ih =>
        intro crc
        rw [List.foldl_cons, List.foldl_cons, ih, toNat_crcBit]
  rw [crcByte, crcByteNumber, hbits, UInt32.toNat_xor, UInt8.toNat_toUInt32]

theorem crc32c_eq (bs : List UInt8) (size : Nat) :
    crc32c bs size = ~~~ UInt32.ofNat ((bs.take size).foldl crcByteNumber 0xffffffff) := by
  have hbytes : ∀ (bytes : List UInt8) (crc : UInt32),
      (bytes.foldl crcByte crc).toNat = bytes.foldl crcByteNumber crc.toNat := by
    intro bytes
    induction bytes with
    | nil => intro crc; rfl
    | cons b bytes ih =>
        intro crc
        rw [List.foldl_cons, List.foldl_cons, ih, toNat_crcByte]
  have hall := hbytes (bs.take size) 0xffffffff
  rw [crc32c, ← UInt32.ofNat_toNat (x := (bs.take size).foldl crcByte 0xffffffff), hall]
  rfl

end Wire

namespace Ribon

open Wire

namespace Sha256

/-! ### The stream -/

/-- Compress the first `n` blocks of a message. -/
def blocks : Nat → State → List UInt8 → State
  | 0, s, _ => s
  | n + 1, s, bytes => blocks n (transform s (bytes.take 64)) (bytes.drop 64)

/-- The context holds a message: its whole blocks are compressed, and the rest is kept. -/
structure Absorbed (message : List UInt8) (context : Context) : Prop where
  state : context.state = blocks (message.length / 64) start.state message
  block : context.block = message.drop (64 * (message.length / 64))

variable {message : List UInt8} {context : Context}

theorem Absorbed.length_block (h : Absorbed message context) :
    context.block.length = message.length % 64 := by
  rw [h.block, List.length_drop]
  omega

variable {n : Nat} {bytes : List UInt8}

theorem blocks_append {s : State} (h : 64 * n ≤ bytes.length) (more : List UInt8) :
    blocks n s (bytes ++ more) = blocks n s bytes := by
  induction n generalizing s bytes with
  | zero => rfl
  | succ n ih =>
      have htake : (bytes ++ more).take 64 = bytes.take 64 :=
        List.take_append_of_le_length (by omega)
      have hdrop : (bytes ++ more).drop 64 = bytes.drop 64 ++ more :=
        List.drop_append_of_le_length (by omega)
      rw [blocks, blocks, htake, hdrop, ih (by rw [List.length_drop]; omega)]

/-- One more block is compressed last. -/
theorem blocks_succ {s : State} :
    blocks (n + 1) s bytes = transform (blocks n s bytes) ((bytes.drop (64 * n)).take 64) := by
  induction n generalizing s bytes with
  | zero => rfl
  | succ n ih =>
      rw [blocks, ih, blocks, List.drop_drop]
      congr 3
      omega

section Absorbed

variable {message chunk : List UInt8} {context : Context} (h : Absorbed message context)
include h

/-- What is kept goes on with the next bytes. -/
theorem Absorbed.drop_append : (message ++ chunk).drop (64 * (message.length / 64)) =
    context.block ++ chunk := by
  rw [h.block, List.drop_append_of_le_length (Nat.mul_div_le _ _)]

/-- Bytes that leave room in the block are kept. -/
theorem Absorbed.keep (hroom : context.block.length + chunk.length < 64) :
    Absorbed (message ++ chunk) { context with block := context.block ++ chunk } := by
  have hblocks : (message ++ chunk).length / 64 = message.length / 64 := by
    rw [h.length_block] at hroom
    rw [List.length_append]
    omega
  constructor
  · rw [hblocks, blocks_append (Nat.mul_div_le _ _)]
    exact h.state
  · rw [hblocks, h.drop_append]

/-- Bytes that fill the block up are compressed with it. -/
theorem Absorbed.fill (hfull : context.block.length + chunk.length = 64) :
    Absorbed (message ++ chunk)
      { context with state := transform context.state (context.block ++ chunk), block := [] } := by
  have hlen : (context.block ++ chunk).length = 64 := by rw [List.length_append, hfull]
  have hblocks : (message ++ chunk).length / 64 = message.length / 64 + 1 := by
    rw [h.length_block] at hfull
    rw [List.length_append]
    omega
  constructor
  · rw [hblocks, blocks_succ, h.drop_append, List.take_of_length_le hlen.le,
      blocks_append (Nat.mul_div_le _ _), ← h.state]
  · rw [hblocks, Nat.mul_succ, ← List.drop_drop, h.drop_append, List.drop_of_length_le hlen.le]

end Absorbed

/-- The copy loop takes all the bytes in. -/
theorem absorb_absorbed {fuel : Nat} (h : Absorbed message context) (hfuel : bytes.length ≤ fuel) :
    Absorbed (message ++ bytes) (absorb fuel context bytes) := by
  induction fuel generalizing message bytes context with
  | zero =>
      obtain rfl : bytes = [] := List.length_eq_zero_iff.mp (by omega)
      rw [List.append_nil]
      exact h
  | succ fuel ih =>
      rw [absorb]
      by_cases hempty : bytes.length = 0
      · obtain rfl : bytes = [] := List.length_eq_zero_iff.mp hempty
        rw [if_pos hempty, List.append_nil]
        exact h
      rw [if_neg hempty]
      have hblock := h.length_block
      generalize hcount : min (64 - context.block.length) bytes.length = count
      have htake : (bytes.take count).length = count := by
        rw [List.length_take]
        omega
      rw [show message ++ bytes = (message ++ bytes.take count) ++ bytes.drop count by simp]
      refine ih ?_ (by rw [List.length_drop]; omega)
      -- the block fills up, or the bytes run out before
      split
      · next hfull =>
        exact h.fill (by rwa [List.length_append] at hfull)
      · next hfull =>
        rw [List.length_append, htake] at hfull
        exact h.keep (by omega)

theorem update_absorbed (h : Absorbed message context) :
    Absorbed (message ++ bytes) (update context bytes) :=
  absorb_absorbed ⟨h.state, h.block⟩ (Nat.le_refl _)

/-- The message with its padding: a one bit, zeros, and its length in bits. -/
def padded (message : List UInt8) : List UInt8 :=
  let used := message.length % 64
  let paddingSize := if used < 56 then 56 - used else 120 - used
  let bitLength := UInt64.ofNat message.length * 8
  message ++ (0x80 :: List.replicate (paddingSize - 1) 0) ++
    (List.range 8).map fun i => (bitLength >>> (UInt64.ofNat (8 * (7 - i)))).toUInt8

theorem length_padded (message : List UInt8) : (padded message).length % 64 = 0 := by
  simp only [padded, List.length_append, List.length_cons, List.length_replicate, List.length_map,
    List.length_range]
  split <;> omega

/-- The copy loop does not count. -/
theorem absorb_totalBytes {fuel : Nat} :
    (absorb fuel context bytes).totalBytes = context.totalBytes := by
  induction fuel generalizing context bytes with
  | zero => rfl
  | succ fuel ih =>
      rw [absorb]
      split
      · rfl
      · rw [ih]
        split <;> rfl

/-- **Streaming is one pass over the padded message.** -/
theorem finish_update (message : List UInt8) :
    finish (update start message) =
      digestOf (blocks ((padded message).length / 64) start.state (padded message)) := by
  have hstart : Absorbed [] start := ⟨rfl, rfl⟩
  have hmsg : Absorbed message (update start message) := update_absorbed hstart
  have htotal : (update start message).totalBytes = UInt64.ofNat message.length := by
    rw [update, absorb_totalBytes]
    exact UInt64.zero_add _
  unfold finish padded
  rw [hmsg.length_block, htotal]
  exact congrArg digestOf (update_absorbed (update_absorbed hmsg)).state

/-! ### Words as numbers -/

/-- Rotate a word right by `right`, with `left = 32 - right`. -/
def turn (word right left : Nat) : Nat := (word >>> right) ||| ((word <<< left) % 2 ^ 32)

/-- The eight words of a state as numbers. -/
structure Words where
  a : Nat
  b : Nat
  c : Nat
  d : Nat
  e : Nat
  f : Nat
  g : Nat
  h : Nat
  deriving DecidableEq, Repr

def State.words (s : State) : Words :=
  ⟨s.a.toNat, s.b.toNat, s.c.toNat, s.d.toNat, s.e.toNat, s.f.toNat, s.g.toNat, s.h.toNat⟩

def scheduleWord (w0 w1 w9 w14 : Nat) : Nat :=
  (w0 + (turn w1 7 25 ^^^ turn w1 18 14 ^^^ (w1 >>> 3)) + w9 +
    (turn w14 17 15 ^^^ turn w14 19 13 ^^^ (w14 >>> 10))) % 2 ^ 32

def roundWords (s : Words) (constant word : Nat) : Words :=
  let first := s.h + (turn s.e 6 26 ^^^ turn s.e 11 21 ^^^ turn s.e 25 7) +
    ((s.e &&& s.f) ^^^ ((4294967295 - s.e) &&& s.g)) + constant + word
  let second := (turn s.a 2 30 ^^^ turn s.a 13 19 ^^^ turn s.a 22 10) +
    ((s.a &&& s.b) ^^^ (s.a &&& s.c) ^^^ (s.b &&& s.c))
  ⟨(first + second) % 2 ^ 32, s.a, s.b, s.c, (s.d + first) % 2 ^ 32, s.e, s.f, s.g⟩

/-- The message schedule, the last word first: `n` more words, each from the last sixteen. -/
def scheduleWords : Nat → List Nat → List Nat
  | 0, back => back
  | n + 1, back => scheduleWords n
      (scheduleWord (back.getD 15 0) (back.getD 14 0) (back.getD 6 0) (back.getD 1 0) :: back)

def roundsWords : List Nat → List Nat → Words → Words
  | constant :: constants, word :: words, s => roundsWords constants words (roundWords s constant word)
  | _, _, s => s

def addWords (s r : Words) : Words :=
  ⟨(s.a + r.a) % 2 ^ 32, (s.b + r.b) % 2 ^ 32, (s.c + r.c) % 2 ^ 32, (s.d + r.d) % 2 ^ 32,
    (s.e + r.e) % 2 ^ 32, (s.f + r.f) % 2 ^ 32, (s.g + r.g) % 2 ^ 32, (s.h + r.h) % 2 ^ 32⟩

/-- The words of a message as numbers. -/
def messageWords : List UInt8 → List Nat
  | b0 :: b1 :: b2 :: b3 :: rest =>
      ((b0.toNat <<< 24) ||| (b1.toNat <<< 16) ||| (b2.toNat <<< 8) ||| b3.toNat) ::
        messageWords rest
  | _ => []

/-- Compress one block. -/
def transformWords (s : Words) (block : List UInt8) : Words :=
  addWords s (roundsWords (constants.map UInt32.toNat)
    (scheduleWords 48 (messageWords block).reverse).reverse s)

/-- Compress the first `n` blocks of a message. -/
def blocksWords : Nat → Words → List UInt8 → Words
  | 0, s, _ => s
  | n + 1, s, bytes => blocksWords n (transformWords s (bytes.take 64)) (bytes.drop 64)

theorem toNat_rotateRight (word count : UInt32) (right left : Nat) (hcount : count.toNat = right)
    (hsum : right + left = 32) (hleft : 0 < left) (hright : 0 < right) :
    (rotateRight word count).toNat = turn word.toNat right left := by
  have hback : ((32 : UInt32) - count).toNat = left := by
    rw [UInt32.toNat_sub_of_le]
    · rw [hcount]
      show 32 - right = left
      omega
    · rw [UInt32.le_iff_toNat_le, hcount]
      show right ≤ 32
      omega
  rw [rotateRight, UInt32.toNat_or, UInt32.toNat_shiftRight, UInt32.toNat_shiftLeft, hcount, hback,
    Nat.mod_eq_of_lt (by omega : right < 32), Nat.mod_eq_of_lt (by omega : left < 32), turn]

theorem toNat_scheduleWord (w0 w1 w9 w14 : UInt32) :
    (w0 + (rotateRight w1 7 ^^^ rotateRight w1 18 ^^^ (w1 >>> 3)) + w9 +
      (rotateRight w14 17 ^^^ rotateRight w14 19 ^^^ (w14 >>> 10))).toNat =
      scheduleWord w0.toNat w1.toNat w9.toNat w14.toNat := by
  simp only [UInt32.toNat_add, UInt32.toNat_xor, UInt32.toNat_shiftRight,
    toNat_rotateRight w1 7 7 25 rfl rfl (by omega) (by omega),
    toNat_rotateRight w1 18 18 14 rfl rfl (by omega) (by omega),
    toNat_rotateRight w14 17 17 15 rfl rfl (by omega) (by omega),
    toNat_rotateRight w14 19 19 13 rfl rfl (by omega) (by omega), Nat.mod_add_mod]
  rfl

theorem words_round (s : State) (constant word : UInt32) :
    (round s constant word).words = roundWords s.words constant.toNat word.toNat := by
  simp only [round, State.words, roundWords, UInt32.toNat_add, UInt32.toNat_xor, UInt32.toNat_and,
    UInt32.toNat_not,
    toNat_rotateRight s.e 6 6 26 rfl rfl (by omega) (by omega),
    toNat_rotateRight s.e 11 11 21 rfl rfl (by omega) (by omega),
    toNat_rotateRight s.e 25 25 7 rfl rfl (by omega) (by omega),
    toNat_rotateRight s.a 2 2 30 rfl rfl (by omega) (by omega),
    toNat_rotateRight s.a 13 13 19 rfl rfl (by omega) (by omega),
    toNat_rotateRight s.a 22 22 10 rfl rfl (by omega) (by omega), Nat.mod_add_mod, Nat.add_mod_mod]
  rfl

theorem words_rounds (constants words : List UInt32) (s : State) :
    (rounds constants words s).words =
      roundsWords (constants.map UInt32.toNat) (words.map UInt32.toNat) s.words := by
  induction constants generalizing words s with
  | nil => simp [rounds, roundsWords]
  | cons constant constants ih =>
      cases words with
      | nil => simp [rounds, roundsWords]
      | cons word words => rw [rounds, ih, words_round, List.map_cons, List.map_cons, roundsWords]

theorem map_schedule {words : List UInt32} (h : 16 ≤ words.length) :
    (schedule n words).map UInt32.toNat =
      (scheduleWords n (words.map UInt32.toNat).reverse).reverse := by
  induction n generalizing words with
  | zero => simp [schedule, scheduleWords]
  | succ n ih =>
      have hget : ∀ k < 16, (words.map UInt32.toNat).reverse.getD k 0 =
          (words.getD (words.length - (k + 1)) 0).toNat := by
        intro k hk
        have hlast : words.length - 1 - k = words.length - (k + 1) := by omega
        rw [List.getD_eq_getElem?_getD, List.getD_eq_getElem?_getD, ← List.map_reverse,
          List.getElem?_map, List.getElem?_reverse (by omega), hlast]
        exact Option.getD_map UInt32.toNat 0 _
      rw [schedule, scheduleWords, ih (by rw [List.length_append]; omega), List.map_append,
        List.reverse_append, List.map_singleton, toNat_scheduleWord, hget 15 (by omega),
        hget 14 (by omega), hget 6 (by omega), hget 1 (by omega)]
      rfl

/-- The first word of whole words. -/
theorem exists_word (h : bytes.length = 4 * (n + 1)) :
    ∃ b0 b1 b2 b3 rest, bytes = b0 :: b1 :: b2 :: b3 :: rest ∧ rest.length = 4 * n := by
  match bytes, h with
  | [_], h => simp at h; omega
  | [_, _], h => simp at h; omega
  | [_, _, _], h => simp at h; omega
  | b0 :: b1 :: b2 :: b3 :: rest, h =>
      simp only [List.length_cons] at h
      exact ⟨b0, b1, b2, b3, rest, rfl, by omega⟩

theorem length_blockWords (h : bytes.length = 4 * n) :
    (blockWords bytes).length = n := by
  induction n generalizing bytes with
  | zero =>
      obtain rfl : bytes = [] := List.length_eq_zero_iff.mp h
      rfl
  | succ n ih =>
      obtain ⟨b0, b1, b2, b3, rest, rfl, hrest⟩ := exists_word h
      rw [blockWords, List.length_cons, ih hrest]

theorem toNat_blockWord (b0 b1 b2 b3 : UInt8) :
    ((b0.toUInt32 <<< 24) ||| (b1.toUInt32 <<< 16) ||| (b2.toUInt32 <<< 8) ||| b3.toUInt32).toNat =
      (b0.toNat <<< 24) ||| (b1.toNat <<< 16) ||| (b2.toNat <<< 8) ||| b3.toNat := by
  have hlt : ∀ (b : UInt8) (k : Nat), k ≤ 24 → (b.toNat <<< k) % 2 ^ 32 = b.toNat <<< k := by
    intro b k hk
    refine Nat.mod_eq_of_lt ?_
    have hb := b.toNat_lt
    rw [Nat.shiftLeft_eq]
    calc b.toNat * 2 ^ k < 2 ^ 8 * 2 ^ k := Nat.mul_lt_mul_of_pos_right hb (Nat.two_pow_pos k)
      _ = 2 ^ (8 + k) := (Nat.pow_add 2 8 k).symm
      _ ≤ 2 ^ 32 := Nat.pow_le_pow_right (by omega) (by omega)
  show (b0.toNat <<< 24) % 2 ^ 32 ||| (b1.toNat <<< 16) % 2 ^ 32 ||| (b2.toNat <<< 8) % 2 ^ 32 |||
    b3.toNat = _
  rw [hlt b0 24 (by omega), hlt b1 16 (by omega), hlt b2 8 (by omega)]

theorem map_blockWords (bytes : List UInt8) :
    (blockWords bytes).map UInt32.toNat = messageWords bytes := by
  fun_induction messageWords bytes with
  | case1 b0 b1 b2 b3 rest ih => rw [blockWords, List.map_cons, toNat_blockWord, ih]
  | case2 bytes hshort =>
      rw [blockWords]
      · rfl
      · exact hshort

theorem words_transform (s : State) {block : List UInt8} (h : block.length = 64) :
    (transform s block).words = transformWords s.words block := by
  have hwords : (blockWords block).length = 16 := length_blockWords h
  rw [transformWords, ← map_blockWords, ← map_schedule hwords.ge, ← words_rounds]
  simp only [transform, State.words, addWords, UInt32.toNat_add]

theorem words_blocks (h : bytes.length = 64 * n) (s : State) :
    (blocks n s bytes).words = blocksWords n s.words bytes := by
  induction n generalizing s bytes with
  | zero => rfl
  | succ n ih =>
      have hfirst : (bytes.take 64).length = 64 := by
        rw [List.length_take]
        omega
      rw [blocks, ih (by rw [List.length_drop]; omega), words_transform _ hfirst, blocksWords]

/-- The digest of a message in one pass. -/
def digestWords (message : List UInt8) : Words :=
  let bytes := padded message
  blocksWords (bytes.length / 64) start.state.words bytes

/-- The digest whose words these are. -/
def Words.digest (s : Words) : Digest :=
  digestOf ⟨UInt32.ofNat s.a, UInt32.ofNat s.b, UInt32.ofNat s.c, UInt32.ofNat s.d,
    UInt32.ofNat s.e, UInt32.ofNat s.f, UInt32.ofNat s.g, UInt32.ofNat s.h⟩

end Sha256

/-- **The one pass computes the digest of the streaming code.** -/
theorem sha256_eq (bytes : List UInt8) (size : Nat) :
    sha256 bytes size = (Sha256.digestWords (bytes.take size)).digest := by
  have hlen := Sha256.length_padded (bytes.take size)
  unfold sha256
  rw [Sha256.finish_update, Sha256.digestWords,
    ← Sha256.words_blocks (Nat.mul_div_cancel' (Nat.dvd_of_mod_eq_zero hlen)).symm]
  simp only [Sha256.Words.digest, Sha256.State.words, UInt32.ofNat_toNat]

/-- The digest of `abc`. -/
example : sha256 [0x61, 0x62, 0x63] 3 = Sha256.Words.digest ⟨0xba7816bf, 0x8f01cfea, 0x414140de,
    0x5dae2223, 0xb00361a3, 0x96177a9c, 0xb410ff61, 0xf20015ad⟩ := by
  rw [sha256_eq]
  exact congrArg Sha256.Words.digest (by decide +kernel)

end Ribon
