/-
The guard of a TFTP transfer, and the product binding that bounds it.

The guard takes one packet at a time.  It follows the block number, lends out the
payload of every new DATA packet, and calls the transfer complete at the first
payload shorter than its block size.  The block size is the one that was asked
for until an OACK lowers it.
-/
import Ribon.Native

namespace Ribon

open Wire

inductive TftpStatus where
  | ok
  | duplicate
  | complete
  | invalidArgument
  | malformed
  | outOfOrder
  | capacity
  | remoteError
  | unsupportedOption
  deriving DecidableEq, Repr

/-- The state of one transfer; its reserved bytes are never read. -/
structure TftpGuard where
  size : UInt32
  abiVersion : UInt32
  blockSize : UInt16
  expectedBlock : UInt16
  packetCount : UInt32
  maximumBytes : UInt64
  receivedBytes : UInt64
  optionsComplete : Bool
  complete : Bool
  deriving DecidableEq, Repr

namespace Tftp

def abiVersion : UInt32 := 1
def guardSizeOf : UInt32 := 40
def minimumBlockSize : UInt16 := 512
def maximumBlockSize : UInt16 := 1468

/-- A field in network order. -/
def loadBe16 (bytes : List UInt8) : UInt16 :=
  ((byteAt bytes 0).toUInt16 <<< 8) ||| (byteAt bytes 1).toUInt16

def lowered (value : UInt8) : UInt8 :=
  if 0x41 ≤ value && value ≤ 0x5a then value + 0x20 else value

def blksize : List UInt8 := [0x62, 0x6c, 0x6b, 0x73, 0x69, 0x7a, 0x65]

/-- The option name is `blksize`, in any case. -/
def isBlksize (bytes : List UInt8) : Bool := bytes.map lowered == blksize

/-- The loop of `parseBlockSize`: each digit must leave the value within 16 bits. -/
def parseDigits : List UInt8 → UInt32 → Option UInt32
  | [], result => some result
  | digit :: rest, result =>
      if digit < 0x30 || 0x39 < digit || (0xffff - (digit - 0x30).toUInt32) / 10 < result then none
      else parseDigits rest (result * 10 + (digit - 0x30).toUInt32)

def parseBlockSize (bytes : List UInt8) : Option UInt16 :=
  if bytes.length = 0 || 5 < bytes.length then none
  else
    match parseDigits bytes 0 with
    | none => none
    | some result => if result < 512 || 1468 < result then none else some result.toUInt16

def guardInitialize (requestedBlockSize : UInt16) (maximumBytes : UInt64) :
    Except TftpStatus TftpGuard := do
  refuse (decide (requestedBlockSize < minimumBlockSize) ||
    decide (maximumBlockSize < requestedBlockSize) || maximumBytes == 0) .invalidArgument
  return {
    size := guardSizeOf
    abiVersion := abiVersion
    blockSize := requestedBlockSize
    expectedBlock := 1
    packetCount := 0
    maximumBytes := maximumBytes
    receivedBytes := 0
    optionsComplete := false
    complete := false }

/-- What `accept` does: its status, the guard after it, and the payload it lends. -/
structure Accepted where
  status : TftpStatus
  after : TftpGuard
  payload : Option (List UInt8)

/-- The guard as it was, and no payload. -/
def Accepted.refused (guard : TftpGuard) (status : TftpStatus) : Accepted := ⟨status, guard, none⟩

/-- Exactly one option, `blksize`, with a value no larger than the one asked for. -/
def acceptOack (guard : TftpGuard) (packet : List UInt8) : Accepted :=
  let name := (packet.drop 2).takeWhile (· != 0)
  let nameEnd := 2 + name.length
  let value := (packet.drop (nameEnd + 1)).takeWhile (· != 0)
  let valueEnd := nameEnd + 1 + value.length
  if guard.optionsComplete || guard.expectedBlock != 1 || decide (packet.length < 6) then
    .refused guard .malformed
  else if nameEnd == 2 || nameEnd == packet.length || !isBlksize name then
    .refused guard .unsupportedOption
  else if valueEnd == nameEnd + 1 || valueEnd + 1 != packet.length then .refused guard .malformed
  else
    match parseBlockSize value with
    | none => .refused guard .malformed
    | some negotiated =>
        if guard.blockSize < negotiated then .refused guard .malformed
        else ⟨.ok, { guard with
          blockSize := negotiated
          optionsComplete := true
          packetCount := guard.packetCount + 1 }, none⟩

/-- A DATA packet of the expected block is new; one of the block before is a duplicate. -/
def acceptData (guard : TftpGuard) (packet : List UInt8) : Accepted :=
  let block := loadBe16 (packet.drop 2)
  let payload := packet.drop 4
  if guard.blockSize.toNat < payload.length then .refused guard .malformed
  else if 1 < guard.expectedBlock && block == guard.expectedBlock - 1 then
    .refused guard .duplicate
  else if block != guard.expectedBlock || guard.expectedBlock == 0xffff then
    .refused guard .outOfOrder
  else if guard.maximumBytes - guard.receivedBytes < UInt64.ofNat payload.length then
    .refused guard .capacity
  else
    let finished := decide (payload.length < guard.blockSize.toNat)
    ⟨if finished then .complete else .ok, { guard with
      optionsComplete := true
      receivedBytes := guard.receivedBytes + UInt64.ofNat payload.length
      expectedBlock := guard.expectedBlock + 1
      packetCount := guard.packetCount + 1
      complete := finished }, some payload⟩

/-- Check one packet and lend out the payload of a new DATA packet. -/
def accept (guard : TftpGuard) (packet : View) : Accepted :=
  let bytes := packet.data
  let opcode := loadBe16 bytes
  if packet.isNull || guard.size != guardSizeOf || guard.abiVersion != abiVersion ||
      guard.complete || decide (packet.size < 2) || decide (65535 ≤ guard.packetCount) then
    .refused guard .invalidArgument
  else if opcode == 6 then acceptOack guard bytes
  else if opcode == 5 then .refused guard (if 5 ≤ packet.size then .remoteError else .malformed)
  else if opcode != 3 || decide (packet.size < 4) then .refused guard .malformed
  else acceptData guard bytes

/-- The guard after a sequence of packets. -/
def after (guard : TftpGuard) : List View → TftpGuard
  | [] => guard
  | packet :: rest => after (accept guard packet).after rest

/-- What `accept` answers to each packet of a sequence. -/
def receive (guard : TftpGuard) : List View → List Accepted
  | [] => []
  | packet :: rest => accept guard packet :: receive (accept guard packet).after rest

/-- The payloads lent out along a sequence of packets, in order. -/
def spans (guard : TftpGuard) (packets : List View) : List (List UInt8) :=
  (receive guard packets).filterMap (·.payload)

theorem after_append (guard : TftpGuard) (packets rest : List View) :
    after guard (packets ++ rest) = after (after guard packets) rest := by
  induction packets generalizing guard with
  | nil => rfl
  | cons packet packets ih => simp [after, ih]

theorem receive_append (guard : TftpGuard) (packets rest : List View) :
    receive guard (packets ++ rest) =
      receive guard packets ++ receive (after guard packets) rest := by
  induction packets generalizing guard with
  | nil => rfl
  | cons packet packets ih => simp [receive, after, ih]

/-- One more packet adds what `accept` answers to it. -/
theorem spans_concat (guard : TftpGuard) (packets : List View) (packet : View) :
    spans guard (packets ++ [packet]) =
      spans guard packets ++ (accept (after guard packets) packet).payload.toList := by
  unfold spans
  rw [receive_append, List.filterMap_append]
  rfl

end Tftp

/-! ### The product binding -/

inductive RecoveryTransport where
  | invalid
  | uefiBoundedTftp
  | nativeTftp
  | reference
  deriving DecidableEq, Repr

inductive RecoveryObjectKind where
  | invalid
  | manifest
  | signatureEnvelope
  | bundle
  deriving DecidableEq, Repr

/-- One object that may be fetched; the path is a C string without its terminator. -/
structure RecoveryObject where
  kind : RecoveryObjectKind
  flags : UInt32
  path : Option (List UInt8)
  maximumBytes : UInt64
  deriving DecidableEq

structure RecoveryBinding where
  size : UInt32
  abiVersion : UInt32
  transport : RecoveryTransport
  flags : UInt32
  serviceId : Option (List UInt8)
  serverIpv4 : Vector UInt8 4
  stationIpv4 : Vector UInt8 4
  subnetMaskIpv4 : Vector UInt8 4
  blockSize : UInt16
  retryCount : UInt16
  absoluteDeadlineMs : UInt32
  objects : Vector RecoveryObject 3
  reserved : Reserved
  deriving DecidableEq

namespace Recovery

def abiVersion : UInt32 := 1
def bindingSizeOf : UInt32 := 152
def pathCapacity : Nat := 96
def maxObjectBytes : UInt64 := 64 * 1024 * 1024

def pathCharacter (character : UInt8) : Bool :=
  (0x61 ≤ character && character ≤ 0x7a) || (0x41 ≤ character && character ≤ 0x5a) ||
  (0x30 ≤ character && character ≤ 0x39) || character == 0x2e || character == 0x5f ||
  character == 0x2d || character == 0x2f

/-- The loop over a path: known characters, no two dots in a row. -/
def pathLoop : List UInt8 → Bool → Bool
  | [], _ => true
  | character :: rest, previousDot =>
      pathCharacter character && !(character == 0x2e && previousDot) &&
        pathLoop rest (character == 0x2e)

/-- A relative path within the capacity that does not end in a slash. -/
def pathIsCanonical (path : Option (List UInt8)) : Bool :=
  match path with
  | none => false
  | some path =>
      decide (path.length ≠ 0) && path.head? != some 0x2f && pathLoop path false &&
        decide (path.length ≤ pathCapacity) && path.getLast? != some 0x2f

def objectIsValid (blockSize : UInt16) (kind : RecoveryObjectKind) (object : RecoveryObject) : Bool :=
  object.kind == kind && object.flags == 0 && pathIsCanonical object.path &&
  object.maximumBytes != 0 && decide (object.maximumBytes ≤ maxObjectBytes) &&
  decide (object.maximumBytes < (0xffff - 1) * blockSize.toUInt64)

/-- The peers, the budget and the objects of a product. -/
def bindingValidate (binding : RecoveryBinding) : Bool :=
  binding.size == bindingSizeOf && binding.abiVersion == abiVersion &&
  binding.transport != .invalid && binding.flags == 0 &&
  (binding.serviceId.getD []).length != 0 &&
  binding.serverIpv4[0] != 0 && decide (binding.serverIpv4[0] < 224) &&
  binding.stationIpv4[0] != 0 && decide (binding.stationIpv4[0] < 224) &&
  binding.subnetMaskIpv4[0] != 0 &&
  decide (Tftp.minimumBlockSize ≤ binding.blockSize) &&
  decide (binding.blockSize ≤ Tftp.maximumBlockSize) && decide (binding.retryCount ≤ 3) &&
  decide (binding.retryCount.toUInt32 < binding.absoluteDeadlineMs) &&
  decide (binding.absoluteDeadlineMs ≤ 30000) && reservedZero binding.reserved &&
  objectIsValid binding.blockSize .manifest binding.objects[0] &&
  objectIsValid binding.blockSize .signatureEnvelope binding.objects[1] &&
  objectIsValid binding.blockSize .bundle binding.objects[2]

end Recovery

end Ribon
