/-
What the TFTP guard makes of a conforming server.

A server either answers the `blksize` option with an OACK or ignores it and sends
blocks of 512 bytes.  The guard learns the block size from an OACK only, so two
things can go wrong: without an OACK it takes the first block of 512 bytes for the
last one, and with a small negotiated block size the block numbers can run out.
Apart from these the file arrives as it is, and the theorem at the end says so in
both directions.
-/
import Ribon.Network.Tftp
import Mathlib.Data.Nat.Digits.Lemmas

namespace Ribon.Tftp

open Wire

/-! ### Servers -/

/-- How a server takes the `blksize` option. -/
inductive Reply where
  | ignored
  | oack (name : List UInt8) (blockSize : Nat)

/-- The size of the blocks that the server sends. -/
def Reply.blockSize : Reply → Nat
  | .ignored => 512
  | .oack _ blockSize => blockSize

/-- An OACK names the option, in any case, and a block size between 512 and the requested one. -/
def Reply.Conforms (requested : UInt16) : Reply → Prop
  | .ignored => True
  | .oack name blockSize =>
      name.map lowered = blksize ∧ 512 ≤ blockSize ∧ blockSize ≤ requested.toNat

/-- The decimal digits of a number, as text. -/
def decimal (n : Nat) : List UInt8 := (Nat.digits 10 n).reverse.map fun d => UInt8.ofNat (d + 0x30)

def oackPacket (name : List UInt8) (blockSize : Nat) : View :=
  .mem (0 :: 6 :: (name ++ 0 :: (decimal blockSize ++ [0])))

/-- The block with index `j`, counted from zero. -/
def block (file : List UInt8) (blockSize j : Nat) : List UInt8 :=
  (file.drop (j * blockSize)).take blockSize

/-- The DATA packet of the block with index `j`; block numbers start at one and have 16 bits. -/
def dataPacket (file : List UInt8) (blockSize j : Nat) : View :=
  let number := UInt16.ofNat (j + 1)
  .mem (0 :: 3 :: (number >>> 8).toUInt8 :: number.toUInt8 :: block file blockSize j)

/-- The last block is the first one that is not full; it may be empty. -/
def blockCount (file : List UInt8) (blockSize : Nat) : Nat := file.length / blockSize + 1

/-- The packets that can have arrived once the server has been heard with `j` new blocks: each new
packet in order, with the latest DATA packet again as often as it is repeated. -/
inductive Arrives (reply : Reply) (file : List UInt8) : Option Nat → List View → Prop
  | nothing : Arrives reply file none []
  | started (h : reply = .ignored) : Arrives reply file (some 0) []
  | options {name : List UInt8} {blockSize : Nat} (h : reply = .oack name blockSize) :
      Arrives reply file (some 0) [oackPacket name blockSize]
  | data {j : Nat} {packets : List View} (arrived : Arrives reply file (some j) packets)
      (h : j < blockCount file reply.blockSize) :
      Arrives reply file (some (j + 1)) (packets ++ [dataPacket file reply.blockSize j])
  | again {j : Nat} {packets : List View} (arrived : Arrives reply file (some (j + 1)) packets) :
      Arrives reply file (some (j + 1)) (packets ++ [dataPacket file reply.blockSize j])

/-- What holds when the server is first heard and is kept by every DATA packet holds from then on. -/
theorem Arrives.invariant {reply : Reply} {file : List UInt8} {P : Nat → List View → Prop}
    (hstarted : reply = .ignored → P 0 [])
    (hoptions : ∀ name n, reply = .oack name n → P 0 [oackPacket name n])
    (hdata : ∀ i j packets, i = j ∨ i + 1 = j → P j packets →
      P (i + 1) (packets ++ [dataPacket file reply.blockSize i]))
    {heard : Option Nat} {packets : List View} (h : Arrives reply file heard packets) :
    (heard = none ∧ packets = []) ∨ ∃ j, heard = some j ∧ P j packets := by
  induction h with
  | nothing => exact .inl ⟨rfl, rfl⟩
  | started h => exact .inr ⟨0, rfl, hstarted h⟩
  | options h => exact .inr ⟨0, rfl, hoptions _ _ h⟩
  | data arrived _ ih =>
      obtain ⟨⟨⟩, -⟩ | ⟨j, ⟨⟩, hj⟩ := ih
      exact .inr ⟨_, rfl, hdata _ _ _ (.inl rfl) hj⟩
  | again arrived ih =>
      obtain ⟨⟨⟩, -⟩ | ⟨j, ⟨⟩, hj⟩ := ih
      exact .inr ⟨_, rfl, hdata _ _ _ (.inr rfl) hj⟩

/-- **The guard delivers the file**: the payloads are blocks of the file, each once and in order, the
transfer is complete only with the whole file, and it is complete when all packets have arrived. -/
structure Delivers (guard : TftpGuard) (reply : Reply) (file : List UInt8) : Prop where
  ordered : ∀ heard packets, Arrives reply file heard packets →
    spans guard packets <+: (List.range (blockCount file reply.blockSize)).map
      (block file reply.blockSize) ∧ (spans guard packets).flatten <+: file
  whole : ∀ heard packets packet, Arrives reply file heard (packets ++ [packet]) →
    (accept (after guard packets) packet).status = .complete →
    (spans guard (packets ++ [packet])).flatten = file
  completes : ∀ packets, Arrives reply file (some (blockCount file reply.blockSize)) packets →
    ∃ answer ∈ receive guard packets, answer.status = .complete

/-- The guard can tell where the file ends: the option was answered, or the blocks have the requested
size anyway, or the file has no second block; and the block numbers do not run out. -/
def Reply.Bounded (requested : UInt16) (file : List UInt8) : Reply → Prop
  | .ignored => requested = 512 ∨ file.length ≤ 512
  | .oack _ blockSize => file.length < 65534 * blockSize

/-! ### Blocks -/

section Blocks

variable {file : List UInt8} {b j : Nat}

theorem length_block : (block file b j).length = min b (file.length - j * b) := by
  simp [block]

theorem length_block_le : (block file b j).length ≤ b :=
  length_block.trans_le (Nat.min_le_left _ _)

theorem lt_blockCount_iff (hb : 0 < b) : j < blockCount file b ↔ j * b ≤ file.length :=
  Nat.lt_succ_iff.trans (Nat.le_div_iff_mul_le hb)

/-- A block before the last one is full. -/
theorem length_block_full (h : (j + 1) * b ≤ file.length) : (block file b j).length = b := by
  rw [Nat.succ_mul] at h
  rw [length_block]
  omega

/-- The first blocks together are the beginning of the file. -/
theorem flatten_blocks (file : List UInt8) (b k : Nat) :
    ((List.range k).map (block file b)).flatten = file.take (k * b) := by
  induction k with
  | zero => simp
  | succ k ih =>
      rw [List.range_succ, List.map_append, List.flatten_append, ih]
      simp only [List.map_cons, List.map_nil, List.flatten_cons, List.flatten_nil, List.append_nil]
      rw [Nat.succ_mul, List.take_add]
      rfl

/-- Fewer blocks are the beginning of all blocks. -/
theorem blocks_begin (h : j ≤ blockCount file b) :
    (List.range j).map (block file b) <+: (List.range (blockCount file b)).map (block file b) := by
  have htake : List.range j = (List.range (blockCount file b)).take j := by
    rw [List.take_range, Nat.min_eq_left h]
  rw [htake]
  exact ( List.take_prefix _ _).map _

end Blocks

/-! ### What the guard does with a DATA packet -/

theorem loadBe16_store (n : UInt16) (rest : List UInt8) :
    loadBe16 ((n >>> 8).toUInt8 :: n.toUInt8 :: rest) = n := by
  have hjoin := loadU16_storeU16 n
  change n.toUInt8.toUInt16 ||| ((n >>> 8).toUInt8.toUInt16 <<< 8) = n at hjoin
  rw [UInt16.or_comm] at hjoin
  exact hjoin

/-- A guard that has taken `j` blocks of `b` bytes and takes blocks of up to `e` bytes. -/
structure Receiving (maximumBytes : UInt64) (e b j : Nat) (guard : TftpGuard) : Prop where
  size : guard.size = guardSizeOf
  abiVersion : guard.abiVersion = abiVersion
  running : guard.complete = false
  blockSize : guard.blockSize.toNat = e
  expected : guard.expectedBlock.toNat = j + 1
  packets : guard.packetCount.toNat ≤ j + 1
  maximum : guard.maximumBytes = maximumBytes
  received : guard.receivedBytes.toNat = j * b

section Data

variable {maximumBytes : UInt64} {e b j : Nat} {guard : TftpGuard} {file : List UInt8}

theorem opcode_dataPacket (file : List UInt8) (size i : Nat) :
    loadBe16 (dataPacket file size i).data = 3 := by
  show ((0 : UInt8).toUInt16 <<< 8) ||| (3 : UInt8).toUInt16 = 3
  decide

/-- What a new block does to the guard. -/
theorem acceptData_new {packet : List UInt8}
    (hsize : ¬ guard.blockSize.toNat < (packet.drop 4).length)
    (hblock : loadBe16 (packet.drop 2) = guard.expectedBlock)
    (hlast : guard.expectedBlock.toNat ≠ 65535)
    (hroom : ¬ guard.maximumBytes - guard.receivedBytes < UInt64.ofNat (packet.drop 4).length) :
    acceptData guard packet =
      ⟨if decide ((packet.drop 4).length < guard.blockSize.toNat) then .complete else .ok, { guard with
        optionsComplete := true
        receivedBytes := guard.receivedBytes + UInt64.ofNat (packet.drop 4).length
        expectedBlock := guard.expectedBlock + 1
        packetCount := guard.packetCount + 1
        complete := decide ((packet.drop 4).length < guard.blockSize.toNat) },
        some (packet.drop 4)⟩ := by
  have hother : (guard.expectedBlock == guard.expectedBlock - 1) = false := by
    rw [beq_eq_false_iff_ne]
    intro hsame
    have hnat := congrArg UInt16.toNat hsame
    rw [UInt16.toNat_sub] at hnat
    change guard.expectedBlock.toNat = (65536 - 1 + guard.expectedBlock.toNat) % 65536 at hnat
    omega
  have hmore : (guard.expectedBlock == 0xffff) = false := by
    rw [beq_eq_false_iff_ne]
    intro hsame
    exact hlast (by rw [hsame]; rfl)
  unfold acceptData
  rw [hblock]
  rw [if_neg hsize, if_neg (by simp [hother]), if_neg (by simp [hmore]), if_neg hroom]

/-- A guard that is running reads a DATA packet as one. -/
theorem Receiving.accept_eq (h : Receiving maximumBytes e b j guard) (hj : j < 65534)
    (file : List UInt8) (size i : Nat) :
    accept guard (dataPacket file size i) = acceptData guard (dataPacket file size i).data := by
  have hcount : ¬ 65535 ≤ guard.packetCount := by
    intro hle
    have hnat : 65535 ≤ guard.packetCount.toNat := UInt32.le_iff_toNat_le.mp hle
    have hpackets := h.packets
    omega
  have hopcode := opcode_dataPacket file size i
  have hsize : 4 ≤ (dataPacket file size i).size := by
    show 4 ≤ (block file size i).length + 4
    omega
  have hfour : ¬ (dataPacket file size i).size < 4 := by omega
  have htwo : ¬ (dataPacket file size i).size < 2 := by omega
  have hnull : (dataPacket file size i).isNull = false := rfl
  unfold accept
  dsimp only
  rw [hopcode]
  simp [h.size, h.abiVersion, h.running, hcount, hfour, htwo, hnull]

/-- The number and the payload of a DATA packet. -/
theorem dataPacket_parts (file : List UInt8) (size i : Nat) :
    loadBe16 ((dataPacket file size i).data.drop 2) = UInt16.ofNat (i + 1) ∧
      (dataPacket file size i).data.drop 4 = block file size i :=
  ⟨loadBe16_store _ _, rfl⟩

/-- **The next block is taken**, and ends the transfer if it is short. -/
theorem Receiving.accept_next (h : Receiving maximumBytes e b j guard) (hj : j < 65534)
    (hshort : (block file b j).length ≤ e)
    (hroom : j * b + (block file b j).length ≤ maximumBytes.toNat) :
    (accept guard (dataPacket file b j)).payload = some (block file b j) ∧
    ((block file b j).length < e →
      (accept guard (dataPacket file b j)).status = .complete ∧
      (accept guard (dataPacket file b j)).after.complete = true) ∧
    (¬ (block file b j).length < e →
      (accept guard (dataPacket file b j)).status = .ok ∧
      ((block file b j).length = b →
        Receiving maximumBytes e b (j + 1) (accept guard (dataPacket file b j)).after)) := by
  obtain ⟨hnum, hpay⟩ := dataPacket_parts file b j
  have hexp : guard.expectedBlock = UInt16.ofNat (j + 1) := by
    apply UInt16.toNat_inj.mp
    rw [h.expected, UInt16.toNat_ofNat']
    omega
  have hcap : ¬ guard.maximumBytes - guard.receivedBytes <
      UInt64.ofNat (block file b j).length := by
    have hmax := maximumBytes.toNat_lt
    rw [UInt64.lt_iff_toNat_lt, toNat_sub_of_le (by rw [h.maximum, h.received]; omega), h.maximum,
      h.received, UInt64.toNat_ofNat']
    omega
  have hsum : (guard.receivedBytes + UInt64.ofNat (block file b j).length).toNat =
      j * b + (block file b j).length := by
    have hmax := maximumBytes.toNat_lt
    rw [UInt64.toNat_add, h.received, UInt64.toNat_ofNat']
    omega
  have hnext : (guard.expectedBlock + 1).toNat = j + 2 := by
    rw [UInt16.toNat_add, h.expected]
    show (j + 1 + 1) % 65536 = j + 2
    omega
  have hcount : (guard.packetCount + 1).toNat ≤ j + 2 := by
    have hpackets := h.packets
    rw [UInt32.toNat_add]
    show (guard.packetCount.toNat + 1) % 4294967296 ≤ j + 2
    omega
  rw [h.accept_eq hj, acceptData_new (by rw [hpay, h.blockSize]; omega)
    (by rw [hnum, hexp]) (by rw [h.expected]; omega) (by rw [hpay]; exact hcap), hpay, h.blockSize]
  refine ⟨rfl, fun hlt => ?_, fun hlt => ?_⟩
  · simp [hlt]
  · refine ⟨by simp [hlt], fun hfull => ?_⟩
    refine ⟨h.size, h.abiVersion, by simp [hlt], h.blockSize, hnext, hcount, h.maximum, ?_⟩
    rw [Nat.succ_mul]
    exact hsum.trans (by rw [hfull])

/-- **The block before is a duplicate**, and nothing happens. -/
theorem Receiving.accept_again (h : Receiving maximumBytes e b (j + 1) guard) (hj : j + 1 < 65534)
    (hshort : (block file b j).length ≤ e) :
    accept guard (dataPacket file b j) = .refused guard .duplicate := by
  obtain ⟨hnum, hpay⟩ := dataPacket_parts file b j
  have hmore : 1 < guard.expectedBlock := by
    rw [UInt16.lt_iff_toNat_lt, h.expected]
    show 1 < j + 1 + 1
    omega
  have hbefore : UInt16.ofNat (j + 1) = guard.expectedBlock - 1 := by
    apply UInt16.toNat_inj.mp
    rw [UInt16.toNat_ofNat', UInt16.toNat_sub, h.expected]
    show (j + 1) % 65536 = (65536 - 1 + (j + 1 + 1)) % 65536
    omega
  rw [h.accept_eq hj]
  unfold acceptData
  rw [hnum, hpay, h.blockSize]
  simp [Nat.not_lt.mpr hshort, hmore, hbefore]

/-- A guard at the last block number takes no DATA packet any more. -/
theorem accept_exhausted (hlast : guard.expectedBlock = 0xffff) (file : List UInt8) (size i : Nat) :
    (accept guard (dataPacket file size i)).status ≠ .complete ∧
      (accept guard (dataPacket file size i)).after = guard := by
  unfold accept acceptData
  simp only [opcode_dataPacket, hlast]
  split_ifs <;> simp_all [Accepted.refused]

/-- A guard that has completed refuses everything. -/
theorem accept_completed (hdone : guard.complete = true) (packet : View) :
    accept guard packet = .refused guard .invalidArgument := by
  unfold accept
  simp [hdone]

end Data

/-! ### What the guard does with an OACK -/

/-- The value of digits, most significant first, behind a value. -/
def valueOf (digits : List Nat) (start : Nat) : Nat := digits.foldl (fun value d => value * 10 + d) start

theorem le_valueOf (digits : List Nat) (start : Nat) : start ≤ valueOf digits start := by
  induction digits generalizing start with
  | nil => exact Nat.le_refl _
  | cons d digits ih =>
      have hrest := ih (start * 10 + d)
      show start ≤ valueOf digits (start * 10 + d)
      omega

/-- Digits are read as their value while it stays within 16 bits. -/
theorem parseDigits_eq (digits : List Nat) (start : UInt32) (hdigits : ∀ d ∈ digits, d < 10)
    (hvalue : valueOf digits start.toNat ≤ 65535) :
    parseDigits (digits.map fun d => UInt8.ofNat (d + 0x30)) start =
      some (UInt32.ofNat (valueOf digits start.toNat)) := by
  induction digits generalizing start with
  | nil =>
      show some start = some (UInt32.ofNat start.toNat)
      rw [UInt32.ofNat_toNat]
  | cons d digits ih =>
      have hd : d < 10 := hdigits d List.mem_cons_self
      have hdigit : (UInt8.ofNat (d + 0x30) - 0x30).toUInt32 = UInt32.ofNat d := by
        interval_cases d <;> decide
      have hlow : ¬ UInt8.ofNat (d + 0x30) < 0x30 := by interval_cases d <;> decide
      have hhigh : ¬ 0x39 < UInt8.ofNat (d + 0x30) := by interval_cases d <;> decide
      have hstep : start.toNat * 10 + d ≤ 65535 := (le_valueOf digits _).trans hvalue
      have hnext : (start * 10 + UInt32.ofNat d).toNat = start.toNat * 10 + d := by
        rw [UInt32.toNat_add, UInt32.toNat_mul, UInt32.toNat_ofNat']
        show (start.toNat * 10 % 4294967296 + d % 4294967296) % 4294967296 = _
        omega
      have hroom : ¬ (0xffff - UInt32.ofNat d) / 10 < start := by
        rw [UInt32.lt_iff_toNat_lt, UInt32.toNat_div, UInt32.toNat_sub, UInt32.toNat_ofNat']
        show ¬ (4294967296 - d % 4294967296 + 65535) % 4294967296 / 10 < start.toNat
        omega
      rw [List.map_cons, parseDigits, hdigit]
      rw [if_neg (by simp only [hlow, hhigh, hroom, decide_false, Bool.or_false, Bool.false_eq_true,
        not_false_eq_true])]
      have hrest := ih (start * 10 + UInt32.ofNat d) (fun d' hd' => hdigits d' (List.mem_cons_of_mem _ hd'))
        (by rw [hnext]; exact hvalue)
      rw [hrest, hnext]
      rfl

theorem valueOf_digits (n : Nat) : valueOf (Nat.digits 10 n).reverse 0 = n := by
  have hvalue := Nat.ofDigits_digits 10 n
  rw [Nat.ofDigits_eq_foldr] at hvalue
  unfold valueOf
  rw [List.foldl_reverse]
  refine Eq.trans ?_ hvalue
  congr 1
  funext d value
  simp
  ring

/-- **A block size in decimal is read as it was written.** -/
theorem parseBlockSize_decimal {n : Nat} (hmin : 512 ≤ n) (hmax : n ≤ 1468) :
    parseBlockSize (decimal n) = some (UInt16.ofNat n) := by
  have hlen : (Nat.digits 10 n).length ≤ 4 := by
    rw [Nat.digits_length_le_iff (by decide)]
    omega
  have hpos : (Nat.digits 10 n).length ≠ 0 := by
    rw [Ne, List.length_eq_zero_iff, Nat.digits_eq_nil_iff_eq_zero]
    omega
  have hshort : ¬ 5 < (Nat.digits 10 n).length := by omega
  have hparse := parseDigits_eq (Nat.digits 10 n).reverse 0
    (fun d hd => Nat.digits_lt_base (by decide) (List.mem_reverse.mp hd))
    (by rw [show (0 : UInt32).toNat = 0 from rfl, valueOf_digits]; omega)
  rw [show (0 : UInt32).toNat = 0 from rfl, valueOf_digits] at hparse
  have hdecimal : (decimal n).length = (Nat.digits 10 n).length := by simp [decimal]
  unfold parseBlockSize
  rw [hdecimal, if_neg (by simp only [hpos, hshort, decide_false, Bool.or_false,
    Bool.false_eq_true, not_false_eq_true])]
  unfold decimal
  rw [hparse]
  dsimp only
  have hlow : ¬ UInt32.ofNat n < 512 := by
    rw [UInt32.lt_iff_toNat_lt, UInt32.toNat_ofNat']
    show ¬ n % 4294967296 < 512
    omega
  have hhigh : ¬ 1468 < UInt32.ofNat n := by
    rw [UInt32.lt_iff_toNat_lt, UInt32.toNat_ofNat']
    show ¬ 1468 < n % 4294967296
    omega
  rw [if_neg (by simp only [hlow, hhigh, decide_false, Bool.or_false, Bool.false_eq_true,
    not_false_eq_true])]
  congr 1
  apply UInt16.toNat_inj.mp
  rw [UInt32.toNat_toUInt16, UInt32.toNat_ofNat', UInt16.toNat_ofNat']
  omega

/-- The text of a field, up to the zero that ends it. -/
theorem takeWhile_field {text rest : List UInt8} (h : ∀ c ∈ text, c ≠ 0) :
    (text ++ 0 :: rest).takeWhile (· != 0) = text := by
  rw [List.takeWhile_append_of_pos (fun c hc => by simpa using h c hc)]
  simp

variable {guard : TftpGuard}

/-- **An OACK of a conforming server sets the block size.** -/
theorem acceptOack_eq {name : List UInt8} {n : Nat} (hname : name.map lowered = blksize)
    (hmin : 512 ≤ n) (hmax : n ≤ 1468) (hsize : n ≤ guard.blockSize.toNat)
    (hfirst : guard.optionsComplete = false) (hexp : guard.expectedBlock = 1) :
    acceptOack guard (oackPacket name n).data = ⟨.ok, { guard with
      blockSize := UInt16.ofNat n
      optionsComplete := true
      packetCount := guard.packetCount + 1 }, none⟩ := by
  have hlen : name.length = 7 := by
    have hlens := congrArg List.length hname
    simpa [blksize] using hlens
  have hzero : ∀ c ∈ name, c ≠ 0 := by
    intro c hc hzero
    have hmem : lowered c ∈ blksize := by
      rw [← hname]
      exact List.mem_map_of_mem hc
    rw [hzero] at hmem
    exact absurd hmem (by decide)
  have hdigits : ∀ c ∈ decimal n, c ≠ 0 := by
    intro c hc hzero
    obtain ⟨d, hd, rfl⟩ := List.mem_map.mp hc
    have hlt : d < 10 := Nat.digits_lt_base (by decide) (List.mem_reverse.mp hd)
    interval_cases d <;> exact absurd hzero (by decide)
  have hdecimal : (decimal n).length ≠ 0 := by
    rw [decimal, List.length_map, List.length_reverse, Ne, List.length_eq_zero_iff,
      Nat.digits_eq_nil_iff_eq_zero]
    omega
  have hdata : (oackPacket name n).data = 0 :: 6 :: (name ++ 0 :: (decimal n ++ [0])) := rfl
  have htext : ((oackPacket name n).data.drop 2).takeWhile (· != 0) = name := by
    rw [hdata]
    exact takeWhile_field hzero
  have hvalue : ((oackPacket name n).data.drop (2 + name.length + 1)).takeWhile (· != 0) =
      decimal n := by
    have hdrop : (oackPacket name n).data.drop (2 + name.length + 1) = decimal n ++ [0] := by
      rw [hdata, show 2 + name.length + 1 = name.length + 1 + 2 by omega]
      show (name ++ 0 :: (decimal n ++ [0])).drop (name.length + 1) = _
      rw [← List.drop_drop, List.drop_left]
      rfl
    rw [hdrop]
    exact takeWhile_field hdigits
  have htotal : (oackPacket name n).data.length = 2 + name.length + 1 + (decimal n).length + 1 := by
    rw [hdata]
    simp
    omega
  have hnegotiated : ¬ guard.blockSize < UInt16.ofNat n := by
    rw [UInt16.lt_iff_toNat_lt, UInt16.toNat_ofNat']
    omega
  unfold acceptOack
  dsimp only
  rw [htext, hvalue, htotal, hlen, parseBlockSize_decimal hmin hmax]
  rw [if_neg (by simp [hfirst, hexp]; omega), if_neg ?_, if_neg ?_]
  · dsimp only
    rw [if_neg hnegotiated]
  · simp [hdecimal]
  · simp [isBlksize, hname]
    omega

theorem acceptOack_status (guard : TftpGuard) (packet : List UInt8) :
    (acceptOack guard packet).status ≠ .complete := by
  unfold acceptOack
  dsimp only
  split_ifs
  · simp [Accepted.refused]
  · simp [Accepted.refused]
  · simp [Accepted.refused]
  · cases parseBlockSize _ with
    | none => simp [Accepted.refused]
    | some negotiated =>
        dsimp only
        split_ifs <;> simp [Accepted.refused]

theorem acceptData_status {packet : List UInt8} (h : (acceptData guard packet).status = .complete) :
    (acceptData guard packet).after.complete = true := by
  unfold acceptData at h ⊢
  dsimp only at h ⊢
  split_ifs at h ⊢ <;> simp_all [Accepted.refused]

/-- Only a packet that finishes the transfer is answered so. -/
theorem complete_of_status {packet : View} (h : (accept guard packet).status = .complete) :
    (accept guard packet).after.complete = true := by
  unfold accept at h ⊢
  dsimp only at h ⊢
  split_ifs at h ⊢
  · cases h
  · exact absurd h (acceptOack_status _ _)
  · cases h
  · cases h
  · cases h
  · exact acceptData_status h

/-! ### Whole transfers -/

section Transfer

variable {requested : UInt16} {maximumBytes : UInt64} {guard : TftpGuard} {reply : Reply}
  {file : List UInt8}

variable (h : guardInitialize requested maximumBytes = .ok guard)
include h

/-- A new guard has received nothing. -/
theorem receiving_initial (b : Nat) : Receiving maximumBytes requested.toNat b 0 guard := by
  simp only [guardInitialize, refuse_bind_eq_ok, pure_eq_ok] at h
  obtain ⟨-, rfl⟩ := h
  exact ⟨rfl, rfl, rfl, rfl, rfl, by simp, rfl, by simp⟩

/-- **A new guard takes the OACK of a conforming server.** -/
theorem accept_oack {name : List UInt8} {n : Nat}
    (hreply : (Reply.oack name n).Conforms requested) :
    (accept guard (oackPacket name n)).status = .ok ∧
    (accept guard (oackPacket name n)).payload = none ∧
    Receiving maximumBytes n n 0 (accept guard (oackPacket name n)).after := by
  obtain ⟨hname, hmin, hmax⟩ := hreply
  have hinit := receiving_initial h n
  obtain ⟨hlimit, hfirst, hone, hcount⟩ : requested ≤ maximumBlockSize ∧
      guard.optionsComplete = false ∧ guard.expectedBlock = 1 ∧ guard.packetCount = 0 := by
    simp only [guardInitialize, refuse_bind_eq_ok, pure_eq_ok, Bool.or_eq_false_iff,
      decide_eq_false_iff_not, UInt16.not_lt] at h
    obtain ⟨⟨⟨-, hreq⟩, -⟩, rfl⟩ := h
    exact ⟨hreq, rfl, rfl, rfl⟩
  have hmaximum : requested.toNat ≤ 1468 := UInt16.le_iff_toNat_le.mp hlimit
  have hopcode : loadBe16 (oackPacket name n).data = 6 := by
    show ((0 : UInt8).toUInt16 <<< 8) ||| (6 : UInt8).toUInt16 = 6
    decide
  have hsize : ¬ (oackPacket name n).size < 2 := by
    show ¬ (name ++ 0 :: (decimal n ++ [0])).length + 2 < 2
    omega
  have hnull : (oackPacket name n).isNull = false := rfl
  have haccept := acceptOack_eq hname hmin (by omega) (by rw [hinit.blockSize]; exact hmax)
    hfirst hone
  unfold accept
  dsimp only
  rw [hopcode, if_neg (by simp [hnull, hsize, hinit.size, hinit.abiVersion, hinit.running,
    hcount]), if_pos (by decide), haccept]
  refine ⟨rfl, rfl, hinit.size, hinit.abiVersion, hinit.running, ?_, hinit.expected, ?_,
    hinit.maximum, ?_⟩
  · rw [UInt16.toNat_ofNat']
    omega
  · show (guard.packetCount + 1).toNat ≤ 0 + 1
    rw [hcount]
    decide
  · exact hinit.received

omit h

/-- The blocks that the guard takes have the size it expects, or the file has only one. -/
def Clear (e b : Nat) (file : List UInt8) : Prop :=
  (e = b ∧ blockCount file b ≤ 65534) ∨ (b = 512 ∧ 512 < e ∧ file.length ≤ 512)

/-- The transfer is complete, with the whole file. -/
structure Done (b : Nat) (file : List UInt8) (guard : TftpGuard) (packets : List View) : Prop where
  complete : (after guard packets).complete = true
  taken : spans guard packets <+: (List.range (blockCount file b)).map (block file b)
  all : (spans guard packets).flatten = file
  told : ∃ answer ∈ receive guard packets, answer.status = .complete

/-- The transfer has taken `j` blocks and waits for the next one. -/
structure Running (maximumBytes : UInt64) (e b : Nat) (file : List UInt8) (guard : TftpGuard)
    (packets : List View) (j : Nat) : Prop where
  receiving : Receiving maximumBytes e b j (after guard packets)
  more : j < blockCount file b
  one : e ≠ b → j = 0
  taken : spans guard packets = (List.range j).map (block file b)

section Standing

variable {e b j : Nat} {packets : List View} {packet : View} {status : TftpStatus}

theorem after_concat (guard : TftpGuard) (packets : List View) (packet : View) :
    after guard (packets ++ [packet]) = (accept (after guard packets) packet).after := by
  rw [after_append]
  rfl

theorem after_refused (h : accept (after guard packets) packet =
    .refused (after guard packets) status) :
    after guard (packets ++ [packet]) = after guard packets ∧
      spans guard (packets ++ [packet]) = spans guard packets := by
  rw [after_concat, spans_concat, h]
  exact ⟨rfl, List.append_nil _⟩

/-- A transfer that is complete stays so. -/
theorem Done.next (h : Done b file guard packets) (packet : View) :
    Done b file guard (packets ++ [packet]) := by
  obtain ⟨hafter, hspans⟩ := after_refused (accept_completed h.complete packet)
  obtain ⟨answer, hans, hstatus⟩ := h.told
  refine ⟨by rw [hafter]; exact h.complete, by rw [hspans]; exact h.taken,
    by rw [hspans]; exact h.all, answer, ?_, hstatus⟩
  rw [receive_append]
  exact List.mem_append_left _ hans

/-- The number of the next block is in range. -/
theorem Running.in_range (h : Running maximumBytes e b file guard packets j)
    (hclear : Clear e b file) : j < 65534 := by
  rcases hclear with ⟨-, hcount⟩ | ⟨rfl, hlt, -⟩
  · exact Nat.lt_of_lt_of_le h.more hcount
  · have hzero := h.one (by omega)
    omega

theorem Clear.le (hclear : Clear e b file) : b ≤ e := by
  rcases hclear with ⟨rfl, -⟩ | ⟨rfl, hlt, -⟩
  · exact Nat.le_refl _
  · exact Nat.le_of_lt hlt

/-- A repeated block changes nothing. -/
theorem Running.again (h : Running maximumBytes e b file guard packets (j + 1))
    (hclear : Clear e b file) :
    Running maximumBytes e b file guard (packets ++ [dataPacket file b j]) (j + 1) := by
  obtain ⟨hafter, hspans⟩ := after_refused
    (h.receiving.accept_again (h.in_range hclear) (length_block_le.trans hclear.le))
  exact ⟨by rw [hafter]; exact h.receiving, h.more, h.one, by rw [hspans]; exact h.taken⟩

/-- **A new block moves the transfer on**, and the last one completes it. -/
theorem Running.next (h : Running maximumBytes e b file guard packets j) (hb : 0 < b)
    (hclear : Clear e b file) (hfile : file.length ≤ maximumBytes.toNat) :
    Running maximumBytes e b file guard (packets ++ [dataPacket file b j]) (j + 1) ∨
      Done b file guard (packets ++ [dataPacket file b j]) := by
  have hle := hclear.le
  have hshort : (block file b j).length ≤ b := length_block_le
  have hstart : j * b ≤ file.length := (lt_blockCount_iff hb).mp h.more
  have hroom : j * b + (block file b j).length ≤ maximumBytes.toNat := by
    rw [length_block]
    omega
  obtain ⟨hpay, hlast, hnext⟩ :=
    h.receiving.accept_next (h.in_range hclear) (hshort.trans hle) hroom
  have hspans : spans guard (packets ++ [dataPacket file b j]) =
      (List.range (j + 1)).map (block file b) := by
    rw [spans_concat, hpay, h.taken, List.range_succ, List.map_append]
    rfl
  by_cases hend : (block file b j).length < e
  · refine Or.inr ⟨?_, ?_, ?_, ?_⟩
    · rw [after_concat]
      exact (hlast hend).2
    · rw [hspans]
      exact blocks_begin h.more
    · rw [hspans, flatten_blocks, List.take_of_length_le]
      rw [length_block] at hend
      rw [Nat.succ_mul]
      rcases hclear with ⟨rfl, -⟩ | ⟨rfl, hlt, hone⟩
      · omega
      · omega
    · refine ⟨_, ?_, (hlast hend).1⟩
      rw [receive_append]
      exact List.mem_append_right _ List.mem_cons_self
  · -- the block is as long as it can be, so it is full and not the last one
    have hsame : e = b := by omega
    have hfull : (block file b j).length = b := by omega
    refine Or.inl ⟨?_, ?_, fun hne => absurd hsame hne, hspans⟩
    · rw [after_concat]
      exact (hnext hend).2 hfull
    · rw [lt_blockCount_iff hb, Nat.succ_mul]
      rw [length_block] at hfull
      omega

end Standing

/-- The block size that the guard works with once it has heard the server. -/
def Reply.taken (requested : UInt16) : Reply → Nat
  | .ignored => requested.toNat
  | .oack _ blockSize => blockSize

variable (hguard : guardInitialize requested maximumBytes = .ok guard)
  (hreply : reply.Conforms requested) (hfile : file.length ≤ maximumBytes.toNat)
include hguard hreply hfile

/-- **Where every transfer stands**: it is taking blocks in order, or it has the whole file. -/
theorem Arrives.standing (hclear : Clear (reply.taken requested) reply.blockSize file)
    {heard : Option Nat} {packets : List View} (h : Arrives reply file heard packets) :
    (heard = none ∧ packets = []) ∨ ∃ j, heard = some j ∧
      (Running maximumBytes (reply.taken requested) reply.blockSize file guard packets j ∨
        Done reply.blockSize file guard packets) := by
  have hpos : 0 < reply.blockSize := by
    cases reply with
    | ignored => decide
    | oack name n => exact Nat.lt_of_lt_of_le (by decide) hreply.2.1
  have hcount : 0 < blockCount file reply.blockSize := Nat.succ_pos _
  refine h.invariant (P := fun j packets => Running maximumBytes (reply.taken requested)
    reply.blockSize file guard packets j ∨ Done reply.blockSize file guard packets) ?_ ?_ ?_
  · rintro rfl
    exact Or.inl ⟨receiving_initial hguard _, hcount, fun _ => rfl, rfl⟩
  · rintro name n rfl
    obtain ⟨-, hpay, hrecv⟩ := accept_oack hguard hreply
    refine Or.inl ⟨hrecv, hcount, fun _ => rfl, ?_⟩
    have hspans := spans_concat guard [] (oackPacket name n)
    rw [show after guard [] = guard from rfl, hpay] at hspans
    exact hspans
  · rintro i j packets hi (hrunning | hdone)
    · rcases hi with rfl | rfl
      · exact hrunning.next hpos hclear hfile
      · exact Or.inl (hrunning.again hclear)
    · exact Or.inr (hdone.next _)

/-- **A guard that can tell where the file ends delivers it.** -/
theorem delivers_of_clear (hclear : Clear (reply.taken requested) reply.blockSize file) :
    Delivers guard reply file := by
  refine ⟨fun heard packets harrives => ?_, fun heard packets packet harrives hstatus => ?_,
    fun packets harrives => ?_⟩
  · obtain ⟨-, rfl⟩ | ⟨j, -, hrunning | hdone⟩ := harrives.standing hguard hreply hfile hclear
    · exact ⟨ List.nil_prefix, List.nil_prefix⟩
    · rw [hrunning.taken]
      exact ⟨blocks_begin (Nat.le_of_lt hrunning.more), by rw [flatten_blocks]; exact List.take_prefix _ _⟩
    · exact ⟨hdone.taken, by rw [hdone.all]⟩
  · have hcomplete := complete_of_status hstatus
    rw [← after_concat] at hcomplete
    obtain ⟨-, hempty⟩ | ⟨j, -, hrunning | hdone⟩ := harrives.standing hguard hreply hfile hclear
    · exact absurd hempty (by simp)
    · rw [hrunning.receiving.running] at hcomplete
      cases hcomplete
    · exact hdone.all
  · obtain ⟨⟨⟩, -⟩ | ⟨j, ⟨⟩, hrunning | hdone⟩ := harrives.standing hguard hreply hfile hclear
    · exact absurd hrunning.more (Nat.lt_irrefl _)
    · exact hdone.told

omit hreply in
/-- **Without an OACK the guard takes the first block for the last one.** -/
theorem not_delivers_ignored (hreq : 512 < requested.toNat) (hlong : 512 < file.length) :
    ¬ Delivers guard .ignored file := by
  intro hdelivers
  have hlen : (block file 512 0).length = 512 := by
    rw [length_block]
    omega
  have hroom : 0 * 512 + (block file 512 0).length ≤ maximumBytes.toNat := by omega
  obtain ⟨hpay, hlast, -⟩ := (receiving_initial hguard 512).accept_next (by decide)
    (show (block file 512 0).length ≤ requested.toNat by omega) hroom
  have harrives : Arrives .ignored file (some 1) ([] ++ [dataPacket file 512 0]) :=
    .data (.started rfl) (Nat.succ_pos _)
  have hall := hdelivers.whole _ _ _ harrives (hlast (by omega)).1
  rw [spans_concat, show after guard [] = guard from rfl, hpay] at hall
  have hlens := congrArg List.length hall
  have hspan : (spans guard [] ++ (some (block file 512 0)).toList).flatten = block file 512 0 := by
    simp [spans, receive]
  rw [hspan] at hlens
  omega

omit hguard hreply hfile in
/-- All packets can arrive. -/
theorem arrives_all {name : List UInt8} {n : Nat} {j : Nat} (hj : j ≤ blockCount file n) :
    ∃ packets, Arrives (.oack name n) file (some j) packets := by
  induction j with
  | zero => exact ⟨_, .options rfl⟩
  | succ j ih =>
      obtain ⟨packets, harrives⟩ := ih (Nat.le_of_lt hj)
      exact ⟨_, .data harrives hj⟩

omit hguard hreply in
/-- Full blocks move the guard up to the last block number, and there it stays. -/
theorem Receiving.saturates {n i j : Nat} (h : Receiving maximumBytes n n (min j 65534) guard)
    (hlong : 65534 * n ≤ file.length) (hi : i = j ∨ i + 1 = j) :
    Receiving maximumBytes n n (min (i + 1) 65534) (accept guard (dataPacket file n i)).after ∧
      (accept guard (dataPacket file n i)).status ≠ .complete := by
  by_cases hj : j < 65534
  · rw [Nat.min_eq_left (Nat.le_of_lt hj)] at h
    rw [Nat.min_eq_left (by omega)]
    rcases hi with rfl | rfl
    · have hwhole : (i + 1) * n ≤ file.length := (Nat.mul_le_mul_right n hj).trans hlong
      have hfull := length_block_full hwhole
      rw [Nat.succ_mul] at hwhole
      obtain ⟨-, -, hnext⟩ := h.accept_next hj (Nat.le_of_eq hfull)
        (show i * n + (block file n i).length ≤ maximumBytes.toNat by omega)
      obtain ⟨hstatus, hrecv⟩ := hnext (by omega)
      exact ⟨hrecv hfull, by simp [hstatus]⟩
    · rw [h.accept_again hj length_block_le]
      exact ⟨h, by simp [Accepted.refused]⟩
  · rw [Nat.min_eq_right (by omega)] at h
    obtain ⟨hstatus, hsame⟩ := accept_exhausted (UInt16.toNat_inj.mp h.expected) file n i
    rw [hsame, Nat.min_eq_right (by omega)]
    exact ⟨h, hstatus⟩

omit hreply in
/-- A file with more than 65533 full blocks leaves the guard at the last block number. -/
theorem Arrives.exhausted {name : List UInt8} {n : Nat}
    (hconforms : (Reply.oack name n).Conforms requested) (hlong : 65534 * n ≤ file.length)
    {heard : Option Nat} {packets : List View}
    (h : Arrives (.oack name n) file heard packets) :
    (heard = none ∧ packets = []) ∨ ∃ j, heard = some j ∧
      Receiving maximumBytes n n (min j 65534) (after guard packets) ∧
        ∀ answer ∈ receive guard packets, answer.status ≠ .complete := by
  refine h.invariant (P := fun j packets => Receiving maximumBytes n n (min j 65534)
    (after guard packets) ∧ ∀ answer ∈ receive guard packets, answer.status ≠ .complete) ?_ ?_ ?_
  · exact nofun
  · rintro _ _ ⟨⟩
    obtain ⟨hstatus, -, hrecv⟩ := accept_oack hguard hconforms
    exact ⟨hrecv, List.forall_mem_singleton.mpr (by simp [hstatus])⟩
  · rintro i j packets hi ⟨hrecv, hbefore⟩
    obtain ⟨hnext, hstatus⟩ := hrecv.saturates hfile hlong hi
    rw [after_concat, receive_append]
    exact ⟨hnext, List.forall_mem_append.mpr ⟨hbefore, List.forall_mem_singleton.mpr hstatus⟩⟩

end Transfer

/-! ### The products' transfers -/

/-- What the binding admits for an object of the product. -/
theorem bounds_of_binding {binding : RecoveryBinding} (h : Recovery.bindingValidate binding = true)
    {object : RecoveryObject} (hobject : object ∈ binding.objects.toList) :
    512 ≤ binding.blockSize.toNat ∧ binding.blockSize.toNat ≤ 1468 ∧
      object.maximumBytes.toNat < 65534 * binding.blockSize.toNat := by
  simp only [Recovery.bindingValidate, Bool.and_eq_true, decide_eq_true_eq] at h
  obtain ⟨⟨⟨⟨⟨⟨⟨⟨⟨-, hmin⟩, hmax⟩, -⟩, -⟩, -⟩, -⟩, hman⟩, henv⟩, hbundle⟩ := h
  have hvalid : ∃ kind, Recovery.objectIsValid binding.blockSize kind object = true := by
    obtain ⟨i, hi, rfl⟩ := List.mem_iff_getElem.mp hobject
    have hlt : i < 3 := by simpa using hi
    interval_cases i
    · exact ⟨_, hman⟩
    · exact ⟨_, henv⟩
    · exact ⟨_, hbundle⟩
  obtain ⟨kind, hvalid⟩ := hvalid
  simp only [Recovery.objectIsValid, Bool.and_eq_true, decide_eq_true_eq] at hvalid
  have hlimit := UInt64.lt_iff_toNat_lt.mp hvalid.2
  have hmin : 512 ≤ binding.blockSize.toNat := UInt16.le_iff_toNat_le.mp hmin
  have hmax : binding.blockSize.toNat ≤ 1468 := UInt16.le_iff_toNat_le.mp hmax
  rw [UInt64.toNat_mul, UInt16.toNat_toUInt64] at hlimit
  change object.maximumBytes.toNat < 65534 * binding.blockSize.toNat % 18446744073709551616 at hlimit
  refine ⟨hmin, hmax, ?_⟩
  omega

/-- **The guard delivers every file of a conforming server if and only if it can tell where the file
ends and the block numbers suffice.**  The block size and the limit are those of a valid product
binding. -/
theorem delivers_iff {binding : RecoveryBinding} (hbinding : Recovery.bindingValidate binding = true)
    {object : RecoveryObject} (hobject : object ∈ binding.objects.toList) {guard : TftpGuard}
    (hguard : guardInitialize binding.blockSize object.maximumBytes = .ok guard)
    {file : List UInt8} (hfile : file.length ≤ object.maximumBytes.toNat) {reply : Reply}
    (hreply : reply.Conforms binding.blockSize) :
    Delivers guard reply file ↔ reply.Bounded binding.blockSize file := by
  obtain ⟨hmin, hmax, hlimit⟩ := bounds_of_binding hbinding hobject
  cases reply with
  | ignored =>
      constructor
      · intro hdelivers
        by_contra hunbounded
        obtain ⟨hne, hlong⟩ := not_or.mp hunbounded
        refine not_delivers_ignored hguard hfile ?_ (by omega) hdelivers
        refine Nat.lt_of_le_of_ne hmin fun heq => hne (UInt16.toNat_inj.mp heq.symm)
      · intro hbounded
        refine delivers_of_clear hguard hreply hfile ?_
        by_cases hsame : binding.blockSize = 512
        · refine Or.inl ⟨congrArg UInt16.toNat hsame, ?_⟩
          rw [hsame] at hlimit
          change file.length / 512 + 1 ≤ 65534
          change object.maximumBytes.toNat < 65534 * 512 at hlimit
          omega
        · have hshort : file.length ≤ 512 := hbounded.resolve_left hsame
          refine Or.inr ⟨rfl, ?_, hshort⟩
          exact Nat.lt_of_le_of_ne hmin fun heq => hsame (UInt16.toNat_inj.mp heq.symm)
  | oack name n =>
      have hpos : 0 < n := Nat.lt_of_lt_of_le (by decide) hreply.2.1
      constructor
      · intro hdelivers
        by_contra hunbounded
        have hlong : 65534 * n ≤ file.length := Nat.not_lt.mp hunbounded
        obtain ⟨packets, harrives⟩ := @arrives_all file name n (blockCount file n) (Nat.le_refl _)
        obtain ⟨answer, hans, hstatus⟩ := hdelivers.completes packets harrives
        obtain ⟨⟨⟩, -⟩ | ⟨-, -, -, hquiet⟩ := harrives.exhausted hguard hfile hreply hlong
        exact hquiet answer hans hstatus
      · intro hbounded
        refine delivers_of_clear hguard hreply hfile (Or.inl ⟨rfl, ?_⟩)
        exact (Nat.div_lt_iff_lt_mul hpos).mpr hbounded

/-! ### A small product -/

namespace Bench

def object (kind : RecoveryObjectKind) : RecoveryObject where
  kind := kind
  flags := 0
  path := some [0x61]
  maximumBytes := 4096

/-- A product that asks for blocks of 1024 bytes. -/
def binding : RecoveryBinding where
  size := Recovery.bindingSizeOf
  abiVersion := Recovery.abiVersion
  transport := .nativeTftp
  flags := 0
  serviceId := some [0x61]
  serverIpv4 := #v[10, 0, 0, 1]
  stationIpv4 := #v[10, 0, 0, 2]
  subnetMaskIpv4 := #v[255, 255, 255, 0]
  blockSize := 1024
  retryCount := 0
  absoluteDeadlineMs := 1000
  objects := #v[object .manifest, object .signatureEnvelope, object .bundle]
  reserved := Reserved.none

def fresh : TftpGuard := ⟨guardSizeOf, abiVersion, 1024, 1, 0, 4096, 0, false, false⟩

/-- A server that answers the option delivers a file of 2000 bytes. -/
theorem delivers_iff_negotiated :
    Delivers fresh (.oack blksize 1024) (List.replicate 2000 7) := by
  refine (delivers_iff (show Recovery.bindingValidate binding = true by decide)
    (show object .bundle ∈ binding.objects.toList by decide) rfl ?_ ?_).mpr ?_
  · rw [List.length_replicate]
    decide
  · exact ⟨rfl, by decide, by decide⟩
  · show (List.replicate 2000 7).length < 65534 * 1024
    rw [List.length_replicate]
    decide

/-- A server that ignores the option does not: the first 512 of 600 bytes count as the whole file. -/
theorem ignored_not_delivered : Recovery.bindingValidate binding = true ∧
    guardInitialize binding.blockSize (object .bundle).maximumBytes = .ok fresh ∧
    Reply.ignored.Conforms binding.blockSize ∧
    ¬ Delivers fresh .ignored (List.replicate 600 7) := by
  have hlen : (List.replicate 600 (7 : UInt8)).length = 600 := List.length_replicate
  generalize List.replicate 600 (7 : UInt8) = file at hlen
  have hguard : guardInitialize binding.blockSize (object .bundle).maximumBytes = .ok fresh := rfl
  refine ⟨by decide, hguard, trivial, not_delivers_ignored hguard ?_ (by decide) (by omega)⟩
  rw [hlen]
  decide

end Bench

end Ribon.Tftp
