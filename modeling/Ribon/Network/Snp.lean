/-
Fetching one object over a bare network device.

There is no network stack: the loader sends and receives Ethernet frames, resolves its one peer
with ARP and speaks TFTP to it.  Every call of the device gets one answer, whatever the network
does; a call that has to be made again costs a tick of the deadline.
-/
import Ribon.Network.Tftp
import Ribon.Poll.Budget
import Ribon.Uefi.PostExit

namespace Ribon.Snp

open Wire Poll

open Tftp (loadBe16)

def efiSuccess : UInt64 := 0
def efiUnsupported : UInt64 := 0x8000000000000003
def efiBadBufferSize : UInt64 := 0x8000000000000004
def efiBufferTooSmall : UInt64 := 0x8000000000000005
def efiNotReady : UInt64 := 0x8000000000000006
def efiNoResponse : UInt64 := 0x8000000000000010
def efiTimeout : UInt64 := 0x8000000000000012

def frameCapacity : Nat := 1536
def ethernetHeaderSize : Nat := 14
def ipv4HeaderSize : Nat := 20
def udpHeaderSize : Nat := 8

inductive FetchStatus where
  | invalidArgument
  | timeout
  | io
  | malformed
  | capacity
  | truncated
  | unsupported
  deriving DecidableEq, Repr

/-- The answer to a call of the device: its status, the frame that `Receive` puts into the buffer,
whether `GetStatus` gives the transmit buffer back, and the status of a `Stall` after it. -/
structure Answer where
  status : UInt64
  frame : List UInt8
  recycled : Bool
  stall : UInt64

abbrev Fetch (R : Type) := Run Answer FetchStatus R

def fetchStatus (status : UInt64) : FetchStatus :=
  if status == efiTimeout || status == efiNoResponse || status == efiNotReady then .timeout
  else if status == efiBufferTooSmall || status == efiBadBufferSize then .capacity
  else if status == efiUnsupported then .unsupported
  else .io

/-! ### The device -/

/-- Pay one tick and wait a millisecond. -/
def pollStall (answer : Answer) : Fetch Unit := do
  tick .timeout
  if Uefi.efiError answer.stall then fail .io else pure ()

/-- The status of a `Transmit`; the device may not be ready yet. -/
def onTransmit (answer : Answer) : Fetch (Turn Unit UInt64) :=
  if answer.status == efiNotReady then do
    orElse .timeout (pollStall answer)
    let _ ← ask
    pure (.again ())
  else pure (.result answer.status)

/-- The answer of a `GetStatus`, which may give the buffer back. -/
def onRecycle (answer : Answer) : Fetch (Turn Unit Unit) :=
  if Uefi.efiError answer.status then fail (fetchStatus answer.status)
  else if answer.recycled then pure (.result ())
  else do
    orElse .timeout (pollStall answer)
    let ticks ← remaining
    if ticks = 0 then fail .timeout else pure (.again ())

/-- The answer of a `Receive`, which may have a frame. -/
def onReceive (answer : Answer) : Fetch (Turn Unit (List UInt8)) :=
  if answer.status == efiSuccess then
    if answer.frame.length < ethernetHeaderSize || frameCapacity < answer.frame.length then
      fail .malformed
    else pure (.result answer.frame)
  else if answer.status != efiNotReady then fail (fetchStatus answer.status)
  else do
    orElse .timeout (pollStall answer)
    pure (.again ())

/-! A tick is worth two calls: the call that is made again, and the `GetStatus` before it. -/

section Device

variable {p n : Nat}

theorem pays_pollStall (answer : Answer) : Pays 2 p n (pollStall answer) fun _ => n + 2 :=
  pays_tick.bind fun _ => pays_ite pays_fail (pays_pure (Nat.le_refl _))

theorem pays_onTransmit (answer : Answer) :
    Pays 2 p n (onTransmit answer) (Turn.credits p (fun _ => n + 1) fun _ => n) := by
  refine pays_ite ?_ (pays_pure (Nat.le_refl _))
  refine ((pays_pollStall answer).orElse _).bind fun _ => ?_
  exact (pays_ask (n := n + 1)).bind fun _ => pays_pure (Nat.le_refl _)

theorem pays_onRecycle (answer : Answer) :
    Pays 2 p n (onRecycle answer) (Turn.credits p (fun _ => n + 1) fun _ => n) := by
  refine pays_ite pays_fail (pays_ite (pays_pure (Nat.le_refl _)) ?_)
  refine ((pays_pollStall answer).orElse _).bind fun _ => pays_remaining.bind fun ticks => ?_
  exact pays_ite pays_fail (pays_pure (Nat.le_succ _))

theorem pays_onReceive (answer : Answer) :
    Pays 2 p n (onReceive answer) (Turn.credits p (fun _ => n + 1) fun _ => n) := by
  refine pays_ite (pays_ite pays_fail (pays_pure (Nat.le_refl _))) (pays_ite pays_fail ?_)
  exact ((pays_pollStall answer).orElse _).bind fun _ => pays_pure (Nat.le_succ _)

end Device

/-- A loop that makes one call in each turn. -/
def callLoop {R : Type} (on : Answer → Fetch (Turn Unit R))
    (hon : ∀ answer, Pays 2 0 0 (on answer) (Turn.credits 0 (fun _ => 1) fun _ => 0)) : Fetch R :=
  turns (fun _ => ask >>= on) (fun _ => takes_ask.bind hon) ()

def snpTransmit (frame : List UInt8) : Fetch Unit :=
  if frame.length < ethernetHeaderSize || frameCapacity < frame.length then fail .invalidArgument
  else do
    let status ← callLoop onTransmit pays_onTransmit
    if Uefi.efiError status then fail (fetchStatus status)
    else callLoop onRecycle pays_onRecycle

def snpReceive : Fetch (List UInt8) := callLoop onReceive pays_onReceive

section Calls

variable {p n : Nat}

theorem pays_callLoop {R : Type} {on : Answer → Fetch (Turn Unit R)}
    {hon : ∀ answer, Pays 2 0 0 (on answer) (Turn.credits 0 (fun _ => 1) fun _ => 0)}
    (h : ∀ answer, Pays 2 p n (on answer) (Turn.credits p (fun _ => n + 1) fun _ => n)) :
    Pays 2 p (n + 1) (callLoop on hon) fun _ => n :=
  pays_turns (fun _ => n + 1) (fun _ => pays_ask.bind h) ()

theorem pays_snpTransmit (frame : List UInt8) : Pays 2 p (n + 2) (snpTransmit frame) fun _ => n := by
  refine pays_ite pays_fail ((pays_callLoop (n := n + 1) pays_onTransmit).bind fun status => ?_)
  exact pays_ite pays_fail (pays_callLoop pays_onRecycle)

theorem pays_snpReceive : Pays 2 p (n + 1) snpReceive fun _ => n := pays_callLoop pays_onReceive

theorem takes_snpReceive : Takes snpReceive := takes_turns ()

end Calls

/-! ### Frames -/

def storeBe16 (value : UInt16) : List UInt8 := [(value >>> 8).toUInt8, value.toUInt8]

/-- What the fetch knows of its peer. -/
structure NetworkContext where
  binding : RecoveryBinding
  currentAddress : Vector UInt8 6
  serverMac : Option (List UInt8)
  ipv4Identification : UInt16

/-- The parts of a request that the fetch reads; the path has no terminator. -/
structure FetchRequest where
  objectKind : UInt16
  path : List UInt8
  blockSize : UInt16
  deadlineMs : UInt32
  maximumBytes : UInt64
  bufferCapacity : Nat

def ethernetHeader (context : NetworkContext) (destination : List UInt8) (etherType : UInt16) :
    List UInt8 :=
  destination ++ context.currentAddress.toList ++ storeBe16 etherType

/-- The one question that is asked. -/
def arpRequest (context : NetworkContext) : List UInt8 :=
  ethernetHeader context (List.replicate 6 0xff) 0x0806 ++ storeBe16 1 ++ storeBe16 0x0800 ++
    [6, 4] ++ storeBe16 1 ++ context.currentAddress.toList ++ context.binding.stationIpv4.toList ++
    List.replicate 6 0 ++ context.binding.serverIpv4.toList

/-- An answer of the peer to this station. -/
def isArpReply (context : NetworkContext) (frame : List UInt8) : Bool :=
  let reply := frame.drop ethernetHeaderSize
  decide (42 ≤ frame.length) && loadBe16 (frame.drop 12) == 0x0806 && loadBe16 reply == 1 &&
  loadBe16 (reply.drop 2) == 0x0800 && byteAt reply 4 == 6 && byteAt reply 5 == 4 &&
  loadBe16 (reply.drop 6) == 2 &&
  (reply.drop 14).take 4 == context.binding.serverIpv4.toList &&
  (reply.drop 24).take 4 == context.binding.stationIpv4.toList &&
  (reply.drop 18).take 6 == context.currentAddress.toList

/-- The words of a header, with every carry added back at once; an odd byte is a high one. -/
def checksumWords : List UInt8 → Nat → Nat
  | [], sum => sum
  | [last], sum => sum + last.toNat * 256
  | high :: low :: rest, sum =>
      let sum := sum + (high.toNat * 256 + low.toNat)
      checksumWords rest (sum % 65536 + sum / 65536)

def foldCarry (sum : Nat) : Nat :=
  if sum / 65536 = 0 then sum else foldCarry (sum % 65536 + sum / 65536)
termination_by sum
decreasing_by omega

def ipv4Checksum (bytes : List UInt8) : UInt16 :=
  (65535 - foldCarry (checksumWords bytes 0)).toUInt16

/-- The header of a datagram, with or without its checksum. -/
def ipv4Header (context : NetworkContext) (payloadSize : Nat) (identification checksum : UInt16) :
    List UInt8 :=
  [0x45, 0] ++ storeBe16 (ipv4HeaderSize + udpHeaderSize + payloadSize).toUInt16 ++
    storeBe16 identification ++ [0, 0, 64, 17] ++ storeBe16 checksum ++
    context.binding.stationIpv4.toList ++ context.binding.serverIpv4.toList

def udpFrame (context : NetworkContext) (identification sourcePort destinationPort : UInt16)
    (payload : List UInt8) : List UInt8 :=
  let header := ipv4Header context payload.length identification
  ethernetHeader context (context.serverMac.getD (List.replicate 6 0)) 0x0800 ++
    header (ipv4Checksum (header 0)) ++ storeBe16 sourcePort ++ storeBe16 destinationPort ++
    storeBe16 (udpHeaderSize + payload.length).toUInt16 ++ [0, 0] ++ payload

/-- The payload of a datagram of the peer, and the port that it comes from. -/
def parseUdp (context : NetworkContext) (frame : List UInt8) (clientPort serverPort : UInt16) :
    Except FetchStatus (List UInt8 × UInt16) := do
  let ip := frame.drop ethernetHeaderSize
  let ipHeaderSize := (byteAt ip 0).toNat % 16 * 4
  refuse (decide (frame.length < ethernetHeaderSize + ipv4HeaderSize + udpHeaderSize) ||
    loadBe16 (frame.drop 12) != 0x0800 ||
    (frame.drop 6).take 6 != context.serverMac.getD (List.replicate 6 0)) .unsupported
  refuse ((byteAt ip 0).toNat / 16 != 4 || decide (ipHeaderSize < ipv4HeaderSize) ||
    decide (frame.length < ethernetHeaderSize + ipHeaderSize + udpHeaderSize) ||
    byteAt ip 9 != 17 || loadBe16 (ip.drop 6) &&& 0x3fff != 0 ||
    ipv4Checksum (ip.take ipHeaderSize) != 0 ||
    (ip.drop 12).take 4 != context.binding.serverIpv4.toList ||
    (ip.drop 16).take 4 != context.binding.stationIpv4.toList) .unsupported
  let ipSize := (loadBe16 (ip.drop 2)).toNat
  refuse (decide (ipSize < ipHeaderSize + udpHeaderSize) ||
    decide (frame.length - ethernetHeaderSize < ipSize)) .malformed
  let udp := ip.drop ipHeaderSize
  let udpSize := (loadBe16 (udp.drop 4)).toNat
  refuse (loadBe16 (udp.drop 2) != clientPort ||
    (serverPort != 0 && loadBe16 udp != serverPort) || decide (udpSize < udpHeaderSize) ||
    udpSize != ipSize - ipHeaderSize) .unsupported
  return ((udp.drop udpHeaderSize).take (udpSize - udpHeaderSize), loadBe16 udp)

def appendDecimal (value : UInt16) : List UInt8 :=
  (Nat.toDigits 10 value.toNat).map fun digit => digit.toNat.toUInt8

def modeOctet : List UInt8 := [0x6f, 0x63, 0x74, 0x65, 0x74, 0]

/-- The request for a path, with the block size as its one option. -/
def buildRrq (request : FetchRequest) : Except FetchStatus (List UInt8) := do
  refuse (request.path.isEmpty || decide (Recovery.pathCapacity < request.path.length) ||
    decide (128 < 2 + request.path.length + 1 + 6 + 8 + 6)) .invalidArgument
  return storeBe16 1 ++ request.path ++ [0] ++ modeOctet ++ (Tftp.blksize ++ [0]) ++
    appendDecimal request.blockSize ++ [0]

/-! ### The peer -/

/-- A frame that came after the question: the address in it, unless it is something else. -/
def onArpFrame (context : NetworkContext) (frame : List UInt8) :
    Fetch (Turn Unit (List UInt8)) :=
  if isArpReply context frame then pure (.result ((frame.drop 22).take 6)) else pure (.over ())

theorem pays_onArpFrame {n : Nat} (context : NetworkContext) (frame : List UInt8) :
    Pays 2 3 n (onArpFrame context frame) (Turn.credits 3 (fun _ => n + 1) fun _ => n) :=
  pays_ite (pays_pure (Nat.le_refl _)) (pays_pure (by change n + 1 - 3 ≤ n; omega))

def arpLoop (context : NetworkContext) : Fetch (List UInt8) :=
  turns (fun _ => snpReceive >>= onArpFrame context)
    (fun _ => takes_snpReceive.bind (pays_onArpFrame (n := 0) context)) ()

/-- Ask for the address of the peer, once. -/
def resolveServerMac (context : NetworkContext) : Fetch NetworkContext :=
  match context.serverMac with
  | some _ => pure context
  | none => do
      snpTransmit (arpRequest context)
      let serverMac ← arpLoop context
      pure { context with serverMac := some serverMac }

theorem pays_arpLoop {n : Nat} (context : NetworkContext) :
    Pays 2 3 (n + 1) (arpLoop context) fun _ => n :=
  pays_turns (fun _ => n + 1) (fun _ => pays_snpReceive.bind (pays_onArpFrame context)) ()

theorem pays_resolveServerMac {n : Nat} (context : NetworkContext) :
    Pays 2 3 (n + 3) (resolveServerMac context) fun _ => n := by
  unfold resolveServerMac
  cases context.serverMac with
  | some serverMac => exact pays_pure (by omega)
  | none =>
      refine (pays_snpTransmit (n := n + 1) _).bind fun _ => ?_
      exact (pays_arpLoop context).bind fun serverMac => pays_pure (Nat.le_refl _)

/-! ### The transfer -/

def transmitUdp (context : NetworkContext) (sourcePort destinationPort : UInt16)
    (payload : List UInt8) : Fetch NetworkContext :=
  let identification := context.ipv4Identification + 1
  if frameCapacity < ethernetHeaderSize + ipv4HeaderSize + udpHeaderSize + payload.length then
    fail .invalidArgument
  else do
    snpTransmit (udpFrame context identification sourcePort destinationPort payload)
    pure { context with ipv4Identification := identification }

def transmitTftpAck (context : NetworkContext) (clientPort serverPort block : UInt16) :
    Fetch NetworkContext :=
  transmitUdp context clientPort serverPort (storeBe16 4 ++ storeBe16 block)

theorem pays_transmitUdp {p n : Nat} (context : NetworkContext) (sourcePort destinationPort : UInt16)
    (payload : List UInt8) :
    Pays 2 p (n + 2) (transmitUdp context sourcePort destinationPort payload) fun _ => n :=
  pays_ite pays_fail ((pays_snpTransmit _).bind fun _ => pays_pure (Nat.le_refl _))

/-- Where a transfer stands. -/
structure FetchState where
  context : NetworkContext
  guard : TftpGuard
  serverPort : UInt16
  buffer : List UInt8

/-- What a fetch gives. -/
structure FetchResult where
  context : NetworkContext
  bytesReceived : UInt64
  buffer : List UInt8

/-- The end of a turn that took a packet. -/
def onAcked (state : FetchState) (complete : Bool) : Fetch (Turn FetchState FetchResult) :=
  if complete then
    if state.guard.receivedBytes == 0 then fail .truncated
    else pure (.result ⟨state.context, state.guard.receivedBytes, state.buffer⟩)
  else pure (.again state)

/-- A packet that the guard took: the options, or the next block. -/
def onAccepted (request : FetchRequest) (clientPort : UInt16) (before : FetchState)
    (state : FetchState) (packet payload : List UInt8) (complete : Bool) :
    Fetch (Turn FetchState FetchResult) :=
  let opcode := loadBe16 packet
  let block := if 4 ≤ packet.length then loadBe16 (packet.drop 2) else 0
  let offset := before.guard.receivedBytes.toNat
  if opcode == 6 then do
    let context ← transmitTftpAck state.context clientPort state.serverPort 0
    onAcked { state with context := context } complete
  else if opcode == 3 then
    if request.bufferCapacity < offset || request.bufferCapacity - offset < payload.length then
      fail .capacity
    else do
      let context ← transmitTftpAck state.context clientPort state.serverPort block
      onAcked { state with context := context, buffer := patch state.buffer offset payload } complete
  else fail .malformed

/-- A packet of the peer. -/
def onPacket (request : FetchRequest) (clientPort : UInt16) (state : FetchState)
    (packet : List UInt8) (actualServerPort : UInt16) : Fetch (Turn FetchState FetchResult) :=
  if packet.length < 2 then fail .malformed
  else if state.serverPort == 0 && (actualServerPort == 0 || actualServerPort == clientPort) then
    fail .malformed
  else
    let accepted := Tftp.accept state.guard (.mem packet)
    let next := { state with
      guard := accepted.after
      serverPort := if state.serverPort == 0 then actualServerPort else state.serverPort }
    match accepted.status with
    | .duplicate => do
        let block := if 4 ≤ packet.length then loadBe16 (packet.drop 2) else 0
        let context ← transmitTftpAck next.context clientPort next.serverPort block
        pure (.over { next with context := context })
    | .ok => onAccepted request clientPort state next packet (accepted.payload.getD []) false
    | .complete => onAccepted request clientPort state next packet (accepted.payload.getD []) true
    | .capacity => fail .capacity
    | _ => fail .malformed

/-- A frame, which may be from anyone. -/
def onFrame (request : FetchRequest) (clientPort : UInt16) (state : FetchState)
    (frame : List UInt8) : Fetch (Turn FetchState FetchResult) :=
  match parseUdp state.context frame clientPort state.serverPort with
  | .error .unsupported => pure (.over state)
  | .error status => fail status
  | .ok (packet, actualServerPort) => onPacket request clientPort state packet actualServerPort

/-! ### What a transfer costs

The guard counts the packets that it takes, and takes no more than 65535. -/

/-- A packet was refused, and the guard is as before; or it was taken, and is counted. -/
inductive Counted (guard : TftpGuard) : Tftp.Accepted → Prop
  | refused (status : TftpStatus) (hok : status ≠ .ok) (hcomplete : status ≠ .complete) :
      Counted guard (.refused guard status)
  | taken (status : TftpStatus) (after : TftpGuard) (payload : Option (List UInt8))
      (hstatus : status = .ok ∨ status = .complete)
      (hcount : after.packetCount = guard.packetCount + 1) : Counted guard ⟨status, after, payload⟩

theorem counted_acceptOack (guard : TftpGuard) (packet : List UInt8) :
    Counted guard (Tftp.acceptOack guard packet) := by
  unfold Tftp.acceptOack
  dsimp only
  split_ifs
  · exact .refused _ nofun nofun
  · exact .refused _ nofun nofun
  · exact .refused _ nofun nofun
  · cases Tftp.parseBlockSize _ with
    | none => exact .refused _ nofun nofun
    | some negotiated =>
        dsimp only
        split_ifs
        · exact .refused _ nofun nofun
        · exact .taken _ _ _ (Or.inl rfl) rfl

theorem counted_acceptData (guard : TftpGuard) (packet : List UInt8) :
    Counted guard (Tftp.acceptData guard packet) := by
  unfold Tftp.acceptData
  dsimp only
  split_ifs
  · exact .refused _ nofun nofun
  · exact .refused _ nofun nofun
  · exact .refused _ nofun nofun
  · exact .refused _ nofun nofun
  · exact .taken _ _ _ (Or.inr rfl) rfl
  · exact .taken _ _ _ (Or.inl rfl) rfl

theorem counted_accept (guard : TftpGuard) (packet : View) :
    Counted guard (Tftp.accept guard packet) ∧
      (65535 ≤ guard.packetCount → Tftp.accept guard packet = .refused guard .invalidArgument) := by
  unfold Tftp.accept
  dsimp only
  split_ifs with hbad
  · exact ⟨.refused _ nofun nofun, fun _ => rfl⟩
  all_goals
    refine ⟨?_, fun hfull => absurd ?_ hbad⟩
  · exact counted_acceptOack guard _
  · simp [hfull]
  · exact .refused _ nofun nofun
  · simp [hfull]
  · exact .refused _ nofun nofun
  · simp [hfull]
  · exact .refused _ nofun nofun
  · simp [hfull]
  · exact counted_acceptData guard _
  · simp [hfull]

/-- What a state of the transfer needs. -/
def rank (state : FetchState) : Nat := 3 * (65535 - state.guard.packetCount.toNat) + 3

section Transfer

variable {request : FetchRequest} {clientPort : UInt16} {before state : FetchState}

theorem pays_onAcked {complete : Bool} :
    Pays 2 3 (rank state) (onAcked state complete) (Turn.credits 3 rank fun _ => 0) :=
  pays_ite (pays_ite pays_fail (pays_pure (Nat.zero_le _))) (pays_pure (Nat.le_refl _))

theorem pays_onAccepted {packet payload : List UInt8} {complete : Bool} :
    Pays 2 3 (rank state + 2)
      (onAccepted request clientPort before state packet payload complete)
      (Turn.credits 3 rank fun _ => 0) := by
  refine pays_ite ((pays_transmitUdp _ _ _ _).bind fun context => pays_onAcked) ?_
  exact pays_ite (pays_ite pays_fail ((pays_transmitUdp _ _ _ _).bind fun context => pays_onAcked))
    pays_fail

theorem pays_onPacket {packet : List UInt8} {actualServerPort : UInt16} :
    Pays 2 3 (3 * (65535 - state.guard.packetCount.toNat) + 2)
      (onPacket request clientPort state packet actualServerPort)
      (Turn.credits 3 rank fun _ => 0) := by
  obtain ⟨hcounted, hfull⟩ := counted_accept state.guard (.mem packet)
  refine pays_ite pays_fail (pays_ite pays_fail ?_)
  generalize Tftp.accept state.guard (.mem packet) = accepted at hcounted hfull
  cases hcounted with
  | refused status hok hcomplete =>
      cases status with
      | duplicate =>
          refine (pays_transmitUdp _ _ _ _).bind fun context => pays_pure ?_
          change 3 * (65535 - state.guard.packetCount.toNat) + 3 - 3 ≤ _
          omega
      | ok => exact absurd rfl hok
      | complete => exact absurd rfl hcomplete
      | capacity | invalidArgument | malformed | outOfOrder | remoteError | unsupportedOption =>
          exact pays_fail
  | taken status after payload hstatus hcount =>
      -- the count goes up by one, so that the next state needs three less
      have hroom : state.guard.packetCount.toNat < 65535 := by
        by_contra hmany
        have hrefused := hfull (UInt32.le_iff_toNat_le.mpr (Nat.le_of_not_lt hmany))
        cases hrefused
        rcases hstatus with hstatus | hstatus
        · cases hstatus
        · cases hstatus
      have hnext : after.packetCount.toNat = state.guard.packetCount.toNat + 1 := by
        rw [hcount, UInt32.toNat_add]
        exact Nat.mod_eq_of_lt (by
          have hone : (1 : UInt32).toNat = 1 := rfl
          omega)
      have hpaid (complete : Bool) (next : FetchState) (hguard : next.guard = after) :
          Pays 2 3 (3 * (65535 - state.guard.packetCount.toNat) + 2)
            (onAccepted request clientPort state next packet (payload.getD []) complete)
            (Turn.credits 3 rank fun _ => 0) := by
        have hrank : rank next + 2 = 3 * (65535 - state.guard.packetCount.toNat) + 2 := by
          rw [rank, hguard, hnext]
          omega
        rw [← hrank]
        exact pays_onAccepted
      rcases hstatus with hstatus | hstatus
      · rw [hstatus]
        exact hpaid false _ rfl
      · rw [hstatus]
        exact hpaid true _ rfl

theorem pays_onFrame (frame : List UInt8) :
    Pays 2 3 (3 * (65535 - state.guard.packetCount.toNat) + 2)
      (onFrame request clientPort state frame) (Turn.credits 3 rank fun _ => 0) := by
  unfold onFrame
  cases parseUdp state.context frame clientPort state.serverPort with
  | error status =>
      cases status with
      | unsupported =>
          refine pays_pure ?_
          change 3 * (65535 - state.guard.packetCount.toNat) + 3 - 3 ≤ _
          omega
      | invalidArgument | timeout | io | malformed | capacity | truncated => exact pays_fail
  | ok parsed => exact pays_onPacket

end Transfer

def fetchLoop (request : FetchRequest) (clientPort : UInt16) (state : FetchState) :
    Fetch FetchResult :=
  turns (fun state => snpReceive >>= onFrame request clientPort state)
    (fun _ => takes_snpReceive.bind pays_onFrame) state

def snpFetchOnce (context : NetworkContext) (request : FetchRequest) (buffer : List UInt8) :
    Fetch FetchResult := do
  let clientPort := 40000 + request.objectKind
  let context ← resolveServerMac context
  match buildRrq request, Tftp.guardInitialize request.blockSize request.maximumBytes with
  | .error status, _ => fail status
  | .ok _, .error _ => fail .invalidArgument
  | .ok rrq, .ok guard => do
      let context ← transmitUdp context clientPort 69 rrq
      fetchLoop request clientPort ⟨context, guard, 0, buffer⟩

end Ribon.Snp
