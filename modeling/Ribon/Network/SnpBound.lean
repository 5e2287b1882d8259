/-
How long a fetch can take.

A tick of the deadline pays for the calls that had to be made again, and the guard of the
transfer bounds the packets that it takes.  A frame that is passed over is paid by nothing:
neither one that is not for this station nor a block that was sent again.  So the number of calls
is bounded where the number of such frames is, and nowhere else.
-/
import Ribon.Network.Snp
import Ribon.Network.Transfer

namespace Ribon.Snp

open Wire Poll

theorem rank_le (state : FetchState) : rank state ≤ 196608 := by
  unfold rank
  omega

theorem pays_fetchLoop {request : FetchRequest} {clientPort : UInt16} (state : FetchState) :
    Pays 2 3 196608 (fetchLoop request clientPort state) fun _ => 0 := by
  have hloop : Pays 2 3 (rank state) (fetchLoop request clientPort state) fun _ => 0 :=
    pays_turns rank (fun state => pays_snpReceive.bind pays_onFrame) state
  exact hloop.weaken (k := 0) (rank_le state) (fun _ => Nat.le_refl _)

/-- The whole fetch: five calls around the loop. -/
theorem pays_snpFetchOnce (context : NetworkContext) (request : FetchRequest)
    (buffer : List UInt8) :
    Pays 2 3 196613 (snpFetchOnce context request buffer) fun _ => 0 := by
  refine (pays_resolveServerMac (n := 196610) context).bind fun context => ?_
  cases buildRrq request with
  | error status => exact pays_fail
  | ok rrq =>
      cases Tftp.guardInitialize request.blockSize request.maximumBytes with
      | error status => exact pays_fail
      | ok guard => exact (pays_transmitUdp _ _ _ _).bind fun context => pays_fetchLoop _

/-! ### Settings -/

/-- A fetch, and everything that the device answers. -/
structure Setting where
  context : NetworkContext
  request : FetchRequest
  buffer : List UInt8
  answers : List Answer

namespace Setting

/-- The fetch, with its deadline as the ticks. -/
def outcome (setting : Setting) : Outcome Answer FetchStatus FetchResult :=
  snpFetchOnce setting.context setting.request setting.buffer
    ⟨setting.answers, setting.request.deadlineMs.toNat, 0⟩

/-- The calls of `Receive`, `Transmit` and `GetStatus` that were answered. -/
def calls (setting : Setting) : Nat :=
  setting.answers.length - setting.outcome.link.answers.length

/-- The frames that led to nothing new: for someone else, or a block that was there already. -/
def passedOver (setting : Setting) : Nat := setting.outcome.link.passed

/-- **What pays for the calls.** -/
theorem calls_le (setting : Setting) :
    setting.calls ≤ 2 * setting.request.deadlineMs.toNat + 3 * setting.passedOver + 196613 := by
  have hwithin := (pays_snpFetchOnce setting.context setting.request setting.buffer).within
    ⟨setting.answers, setting.request.deadlineMs.toNat, 0⟩
  have hcost := hwithin.cost
  unfold calls passedOver outcome
  dsimp only at hcost
  omega

theorem passedOver_le (setting : Setting) : setting.passedOver ≤ setting.calls := by
  have hwithin := (pays_snpFetchOnce setting.context setting.request setting.buffer).within
    ⟨setting.answers, setting.request.deadlineMs.toNat, 0⟩
  have htaken := hwithin.taken
  unfold calls passedOver outcome
  dsimp only at htaken
  omega

end Setting

/-- A number of a fetch is bounded by its deadline and its size, whatever else is given. -/
def BoundedOn (settings : Set Setting) (count : Setting → Nat) : Prop :=
  ∃ bound : UInt32 → UInt64 → Nat, ∀ setting ∈ settings,
    count setting ≤ bound setting.request.deadlineMs setting.request.maximumBytes

namespace Bench

def context : NetworkContext where
  binding := Tftp.Bench.binding
  currentAddress := #v[2, 0, 0, 0, 0, 2]
  serverMac := some [2, 0, 0, 0, 0, 1]
  ipv4Identification := 0

def request : FetchRequest := ⟨1, [0x61], 1024, 1000, 4096, 4096⟩

def sent : Answer := ⟨efiSuccess, [], false, efiSuccess⟩
def recycled : Answer := ⟨efiSuccess, [], true, efiSuccess⟩

/-- A frame of some other protocol. -/
def foreign : Answer := ⟨efiSuccess, List.replicate 60 0, false, efiSuccess⟩

/-- The request goes out, and then foreign frames come. -/
def flooded (n : Nat) : Setting :=
  ⟨context, request, List.replicate 4096 0, sent :: recycled :: List.replicate n foreign⟩

section Flood

variable {rest : List Answer} {ticks passed : Nat}

theorem ask_cons (answer : Answer) : (ask : Fetch Answer) ⟨answer :: rest, ticks, passed⟩ =
    .done (.ok answer) ⟨rest, ticks, passed⟩ := rfl

theorem snpReceive_foreign : snpReceive ⟨foreign :: rest, ticks, passed⟩ =
    .done (.ok foreign.frame) ⟨rest, ticks, passed⟩ :=
  turns_result (bind_ok (ask_cons foreign))

theorem snpReceive_nil : snpReceive ⟨[], ticks, passed⟩ = .waiting ⟨[], ticks, passed⟩ :=
  turns_waiting (bind_waiting rfl)

theorem onFrame_foreign (request : FetchRequest) (clientPort : UInt16) (state : FetchState)
    (link : Link Answer) :
    onFrame request clientPort state foreign.frame link = .done (.ok (.over state)) link := by
  have hparse : parseUdp state.context foreign.frame clientPort state.serverPort =
      .error .unsupported := by
    have htype : (Tftp.loadBe16 (foreign.frame.drop 12) != 0x0800) = true := by decide
    unfold parseUdp
    rw [htype, Bool.or_true, Bool.true_or]
    rfl
  unfold onFrame
  rw [hparse]
  rfl

/-- The loop takes every one of them. -/
theorem fetchLoop_foreign (request : FetchRequest) (clientPort : UInt16) (state : FetchState)
    (n : Nat) : fetchLoop request clientPort state ⟨List.replicate n foreign, ticks, passed⟩ =
      .waiting ⟨[], ticks, passed + n⟩ := by
  induction n generalizing passed with
  | zero => exact turns_waiting (bind_waiting snpReceive_nil)
  | succ n ih =>
      have hturn : (snpReceive >>= onFrame request clientPort state)
          ⟨List.replicate (n + 1) foreign, ticks, passed⟩ =
          .done (.ok (.over state)) ⟨List.replicate n foreign, ticks, passed⟩ := by
        rw [List.replicate_succ, bind_ok snpReceive_foreign, onFrame_foreign]
      have hrest := @ih (passed + 1)
      unfold fetchLoop at hrest ⊢
      rw [turns_over hturn, hrest, Nat.add_assoc, Nat.add_comm 1 n]

theorem snpTransmit_sent {frame : List UInt8}
    (h : (decide (frame.length < ethernetHeaderSize) ||
      decide (frameCapacity < frame.length)) = false) :
    snpTransmit frame ⟨sent :: recycled :: rest, ticks, passed⟩ =
      .done (.ok ()) ⟨rest, ticks, passed⟩ := by
  have hsent : callLoop onTransmit pays_onTransmit ⟨sent :: recycled :: rest, ticks, passed⟩ =
      .done (.ok efiSuccess) ⟨recycled :: rest, ticks, passed⟩ :=
    turns_result (bind_ok (ask_cons sent))
  have hback : callLoop onRecycle pays_onRecycle ⟨recycled :: rest, ticks, passed⟩ =
      .done (.ok ()) ⟨rest, ticks, passed⟩ :=
    turns_result (bind_ok (ask_cons recycled))
  unfold snpTransmit
  rw [h]
  exact (bind_ok hsent).trans hback

end Flood

/-- The bytes of the request. -/
def rrq : List UInt8 :=
  [0, 1, 0x61, 0] ++ modeOctet ++ (Tftp.blksize ++ [0]) ++ [0x31, 0x30, 0x32, 0x34, 0]

theorem outcome_flooded (n : Nat) : (flooded n).outcome = .waiting ⟨[], 1000, n⟩ := by
  have hrrq : buildRrq request = .ok rrq := rfl
  have hguard : Tftp.guardInitialize request.blockSize request.maximumBytes =
      .ok Tftp.Bench.fresh := rfl
  have hresolve (link : Link Answer) :
      resolveServerMac context link = .done (.ok context) link := rfl
  have hsize : (decide ((udpFrame context 1 40001 69 rrq).length < ethernetHeaderSize) ||
      decide (frameCapacity < (udpFrame context 1 40001 69 rrq).length)) = false := by
    decide +kernel
  have hsend : transmitUdp context 40001 69 rrq
      ⟨sent :: recycled :: List.replicate n foreign, 1000, 0⟩ =
      .done (.ok { context with ipv4Identification := 1 })
        ⟨List.replicate n foreign, 1000, 0⟩ := by
    unfold transmitUdp
    rw [if_neg (by decide +kernel)]
    exact bind_ok (snpTransmit_sent hsize)
  have hloop := @fetchLoop_foreign 1000 0 request 40001
    ⟨{ context with ipv4Identification := 1 }, Tftp.Bench.fresh, 0, List.replicate 4096 0⟩ n
  rw [Nat.zero_add] at hloop
  change snpFetchOnce context request (List.replicate 4096 0)
    ⟨sent :: recycled :: List.replicate n foreign, 1000, 0⟩ = _
  unfold snpFetchOnce
  rw [bind_ok (hresolve _), hrrq, hguard]
  exact (bind_ok hsend).trans hloop

end Bench

end Ribon.Snp
