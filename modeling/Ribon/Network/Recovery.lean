/-
Fetching one object for a recovery, with a bounded number of attempts.

The transport behind the gate is not trusted: it may answer any status, leave any
bytes in the part of the buffer that is lent to it, and fill in any receipt.  The
gate clears that part before every attempt and after the last one that failed.
So each attempt starts from the same cleared buffer, and what is left at the end
is either that buffer or the bytes of one attempt.
-/
import Mathlib.Algebra.Order.BigOperators.Group.List
import Ribon.Core.Services
import Ribon.Network.Tftp

namespace Ribon

inductive RecoveryStatus where
  | ok
  | invalidArgument
  | unsupported
  | capacity
  | timeout
  | io
  | malformed
  | ambiguous
  | truncated
  | other (code : Int)
  deriving DecidableEq, Repr

structure RecoveryRequest where
  size : UInt32
  abiVersion : UInt32
  objectKind : RecoveryObjectKind
  attemptIndex : Nat
  path : Option (List UInt8)
  maximumBytes : UInt64
  bufferCapacity : Nat
  serverIpv4 : Vector UInt8 4
  blockSize : UInt16
  deadlineMs : UInt32

structure RecoveryResult where
  size : UInt32
  abiVersion : UInt32
  objectKind : RecoveryObjectKind
  attemptsUsed : Nat
  bytesReceived : UInt64
  deriving DecidableEq

/-- What an attempt answers, and the bytes that it leaves in the part of the buffer lent to it. -/
structure RecoveryReply where
  status : RecoveryStatus
  result : RecoveryResult
  bytes : Nat → UInt8

/-- The operation table of a transport, with the state behind its context. -/
structure NetworkTransportOperations (S : Type) where
  size : UInt32
  abiVersion : UInt32
  fetch : Option (S → RecoveryRequest → List UInt8 → S × RecoveryReply)

namespace Recovery

def operationsSizeOf : UInt32 := 24
def requestSizeOf : UInt32 := 64
def resultSizeOf : UInt32 := 24
def zeroResult : RecoveryResult := ⟨0, 0, .invalid, 0, 0⟩

/-- `memset(buffer, 0, maximum)` -/
def clear (maximum : Nat) (buffer : List UInt8) : List UInt8 :=
  List.replicate maximum 0 ++ buffer.drop maximum

/-- The buffer after an attempt that was lent its first `maximum` bytes. -/
def written (maximum : Nat) (bytes : Nat → UInt8) (buffer : List UInt8) : List UInt8 :=
  (List.range maximum).map bytes ++ buffer.drop maximum

/-- One call of the transport: what it was asked, the buffer it saw, and its answer. -/
structure Attempt where
  request : RecoveryRequest
  seen : List UInt8
  reply : RecoveryReply

/-- What a fetch returns and leaves behind, with its calls of the transport. -/
structure Fetched where
  status : RecoveryStatus
  result : RecoveryResult
  buffer : List UInt8
  log : List Attempt

variable {S : Type}

def operationsAreValid (service : ServiceDescriptor) (operations : NetworkTransportOperations S) :
    Bool :=
  service.kind == .networkTransport && service.provides == Capability.networkTransport &&
  service.operationsSize == operationsSizeOf && service.operationsAbi == serviceAbiVersion &&
  operations.size == operationsSizeOf && operations.abiVersion == serviceAbiVersion &&
  operations.fetch.isSome

def findObject (binding : RecoveryBinding) (kind : RecoveryObjectKind) : Option RecoveryObject :=
  binding.objects.toList.find? (·.kind == kind)

def requestFor (binding : RecoveryBinding) (object : RecoveryObject) (kind : RecoveryObjectKind)
    (capacity attempt : Nat) : RecoveryRequest where
  size := requestSizeOf
  abiVersion := abiVersion
  objectKind := kind
  attemptIndex := attempt
  path := object.path
  maximumBytes := object.maximumBytes
  bufferCapacity := capacity
  serverIpv4 := binding.serverIpv4
  blockSize := binding.blockSize
  deadlineMs := binding.absoluteDeadlineMs / (binding.retryCount.toUInt32 + 1)

/-- Whether the receipt of an attempt that succeeded is what was asked for. -/
def resultIsValid (kind : RecoveryObjectKind) (maximum : UInt64) (capacity : Nat)
    (result : RecoveryResult) : Bool :=
  result.size == resultSizeOf && result.abiVersion == abiVersion && result.objectKind == kind &&
  result.bytesReceived != 0 && decide (result.bytesReceived ≤ maximum) &&
  decide (result.bytesReceived.toNat ≤ capacity)

section Loop

variable (fetch : S → RecoveryRequest → List UInt8 → S × RecoveryReply) (binding : RecoveryBinding)
  (object : RecoveryObject) (kind : RecoveryObjectKind)

/-- The attempts that are left, and the status of the one before. -/
def attemptLoop : Nat → Nat → RecoveryStatus → S → List UInt8 → Fetched
  | 0, _, status, _, buffer => ⟨status, zeroResult, clear object.maximumBytes.toNat buffer, []⟩
  | left + 1, attempt, _, s, buffer =>
      let maximum := object.maximumBytes.toNat
      let request := requestFor binding object kind buffer.length attempt
      let seen := clear maximum buffer
      let (s, reply) := fetch s request seen
      let buffer := written maximum reply.bytes seen
      if reply.status = .ok then
        if resultIsValid kind object.maximumBytes buffer.length reply.result then
          ⟨.ok, { reply.result with attemptsUsed := attempt + 1 }, buffer, [⟨request, seen, reply⟩]⟩
        else ⟨.malformed, zeroResult, clear maximum buffer, [⟨request, seen, reply⟩]⟩
      else if reply.status = .timeout ∨ reply.status = .io then
        let rest := attemptLoop left (attempt + 1) reply.status s buffer
        { rest with log := ⟨request, seen, reply⟩ :: rest.log }
      else ⟨reply.status, zeroResult, clear maximum buffer, [⟨request, seen, reply⟩]⟩

end Loop

def fetch (binding : RecoveryBinding) (service : ServiceDescriptor)
    (operations : NetworkTransportOperations S) (kind : RecoveryObjectKind) (s : S)
    (buffer : List UInt8) : Fetched :=
  if bindingValidate binding && !buffer.isEmpty && service.kind == .networkTransport &&
      some service.id == binding.serviceId && operationsAreValid service operations then
    match findObject binding kind, operations.fetch with
    | some object, some call =>
        if buffer.length < object.maximumBytes.toNat ∨ service.outputBudget < object.maximumBytes then
          ⟨.capacity, zeroResult, buffer, []⟩
        else attemptLoop call binding object kind (binding.retryCount.toNat + 1) 0 .ok s buffer
    | _, _ => ⟨.capacity, zeroResult, buffer, []⟩
  else ⟨.invalidArgument, zeroResult, buffer, []⟩

/-! ### What is left of a fetch -/

/-- At most `limit` calls, each on the cleared buffer and with the same deadline; a success is the
work of the last one alone, and a failure leaves no receipt and the cleared buffer. -/
@[mk_iff] structure Clean (limit used : Nat) (deadline : UInt32) (maximum : Nat) (buffer : List UInt8)
    (fetched : Fetched) : Prop where
  attempts : fetched.log.length ≤ limit
  asked : ∀ attempt ∈ fetched.log,
    attempt.request.deadlineMs = deadline ∧ attempt.seen = clear maximum buffer
  retried : ∀ attempt ∈ fetched.log.dropLast,
    attempt.reply.status = .timeout ∨ attempt.reply.status = .io
  delivered : fetched.status = .ok → ∃ attempt, fetched.log.getLast? = some attempt ∧
    attempt.reply.status = .ok ∧
    fetched.result = { attempt.reply.result with attemptsUsed := used + fetched.log.length } ∧
    1 ≤ fetched.result.bytesReceived.toNat ∧ fetched.result.bytesReceived.toNat ≤ maximum ∧
    fetched.buffer = written maximum attempt.reply.bytes (clear maximum buffer)
  failed : fetched.status ≠ .ok →
    fetched.result = zeroResult ∧ fetched.buffer = clear maximum buffer

/-- An attempt that may be repeated keeps the rest clean. -/
theorem Clean.retry {limit used maximum : Nat} {deadline : UInt32} {buffer : List UInt8}
    {rest : Fetched} {first : Attempt} (h : Clean limit (used + 1) deadline maximum buffer rest)
    (hasked : first.request.deadlineMs = deadline ∧ first.seen = clear maximum buffer)
    (hretry : first.reply.status = .timeout ∨ first.reply.status = .io) :
    Clean (limit + 1) used deadline maximum buffer { rest with log := first :: rest.log } where
  attempts := by simpa using h.attempts
  asked := List.forall_mem_cons.mpr ⟨hasked, h.asked⟩
  retried := by
    by_cases hempty : rest.log = []
    · simp [hempty]
    · rw [List.dropLast_cons_of_ne_nil hempty]
      exact List.forall_mem_cons.mpr ⟨hretry, h.retried⟩
  delivered hok := by
    obtain ⟨attempt, hlast, hdelivered⟩ := h.delivered hok
    refine ⟨attempt, by simp [List.getLast?_cons, hlast], ?_⟩
    rwa [List.length_cons, Nat.add_comm _ 1, ← Nat.add_assoc]
  failed := h.failed

/-- The deadlines add up to that of one attempt for each that is allowed. -/
theorem Clean.deadlines {limit used maximum total : Nat} {deadline : UInt32} {buffer : List UInt8}
    {fetched : Fetched} (h : Clean limit used deadline maximum buffer fetched)
    (htotal : limit * deadline.toNat ≤ total) :
    (fetched.log.map (·.request.deadlineMs.toNat)).sum ≤ total := by
  have heach : ∀ ms ∈ fetched.log.map (·.request.deadlineMs.toNat), ms ≤ deadline.toNat := by
    intro ms hms
    obtain ⟨attempt, hatt, rfl⟩ := List.mem_map.mp hms
    rw [(h.asked attempt hatt).1]
  have hsum := List.sum_le_card_nsmul _ _ heach
  rw [List.length_map] at hsum
  exact (hsum.trans (Nat.mul_le_mul_right _ h.attempts)).trans htotal

theorem toNat_attempts (retries : UInt16) : (retries.toUInt32 + 1).toNat = retries.toNat + 1 := by
  have hlt := retries.toNat_lt
  rw [UInt32.toNat_add, UInt16.toNat_toUInt32, UInt32.toNat_one]
  omega

section Runs

variable (call : S → RecoveryRequest → List UInt8 → S × RecoveryReply) (binding : RecoveryBinding)
  (object : RecoveryObject) (kind : RecoveryObjectKind) {buffer : List UInt8}

@[simp] theorem clear_written (maximum : Nat) (bytes : Nat → UInt8) :
    clear maximum (written maximum bytes (clear maximum buffer)) = clear maximum buffer := by
  simp [clear, written]

/-- **Every run of the loop is clean**, by induction on the attempts that are left. -/
theorem attemptLoop_clean (left : Nat) {used : Nat} {status : RecoveryStatus} {s : S}
    (hstatus : left = 0 → status ≠ .ok) :
    Clean left used (binding.absoluteDeadlineMs / (binding.retryCount.toUInt32 + 1))
      object.maximumBytes.toNat buffer
      (attemptLoop call binding object kind left used status s buffer) := by
  induction left generalizing used status s buffer with
  | zero =>
      refine ⟨Nat.le_refl 0, by simp [attemptLoop], by simp [attemptLoop], ?_, fun _ => ⟨rfl, rfl⟩⟩
      exact fun h => absurd h (hstatus rfl)
  | succ left ih =>
      simp only [attemptLoop, clear_written]
      generalize call s _ _ = answer
      obtain ⟨s', reply⟩ := answer
      by_cases hok : reply.status = .ok
      · simp only [if_pos hok]
        split
        · next hvalid =>
          simp only [resultIsValid, Bool.and_eq_true, decide_eq_true_eq, bne_iff_ne] at hvalid
          obtain ⟨⟨⟨-, hreceived⟩, hmax⟩, -⟩ := hvalid
          refine ⟨by simp, by simp [requestFor], by simp, fun _ => ?_, fun h => absurd rfl h⟩
          refine ⟨_, rfl, hok, rfl, ?_, UInt64.le_iff_toNat_le.mp hmax, rfl⟩
          exact Nat.pos_of_ne_zero fun hzero => hreceived (UInt64.toNat_inj.mp hzero)
        · exact ⟨by simp, by simp [requestFor], by simp, by simp, fun _ => ⟨rfl, rfl⟩⟩
      · simp only [if_neg hok]
        split
        · next hretry =>
          have hrest := @ih (written object.maximumBytes.toNat reply.bytes
            (clear object.maximumBytes.toNat buffer)) (used + 1) reply.status s' fun _ => hok
          refine Clean.retry (?_ : Clean _ _ _ _ buffer _) ⟨rfl, rfl⟩ hretry
          simpa only [clean_iff, clear_written] using hrest
        · exact ⟨by simp, by simp [requestFor], by simp, fun h => absurd h hok, fun _ => ⟨rfl, rfl⟩⟩

end Runs

/-- **A fetch leaves no partial object**, whatever the transport does.  It is refused without a call
and without touching the buffer, or it is clean, and the deadlines of its attempts fit into the
deadline of the product. -/
theorem fetch_clean (binding : RecoveryBinding) (service : ServiceDescriptor)
    (operations : NetworkTransportOperations S) (kind : RecoveryObjectKind) (s : S)
    (buffer : List UInt8) :
    let fetched := fetch binding service operations kind s buffer
    (fetched.log = [] ∧ fetched.status ≠ .ok ∧ fetched.result = zeroResult ∧
      fetched.buffer = buffer) ∨
    ∃ object, findObject binding kind = some object ∧
      Clean (binding.retryCount.toNat + 1) 0
        (binding.absoluteDeadlineMs / (binding.retryCount.toUInt32 + 1))
        object.maximumBytes.toNat buffer fetched ∧
      (fetched.log.map (·.request.deadlineMs.toNat)).sum ≤ binding.absoluteDeadlineMs.toNat := by
  simp only [fetch]
  split
  · split
    · next object call hobj _ =>
      split
      · exact .inl ⟨rfl, by simp, rfl, rfl⟩
      · have hclean : Clean _ 0 _ _ buffer (attemptLoop call binding object kind _ 0 .ok s buffer) :=
          attemptLoop_clean call binding object kind (binding.retryCount.toNat + 1) (by simp)
        refine .inr ⟨object, hobj, hclean, hclean.deadlines ?_⟩
        rw [UInt32.toNat_div, toNat_attempts]
        exact Nat.mul_div_le _ _
    · exact .inl ⟨rfl, by simp, rfl, rfl⟩
  · exact .inl ⟨rfl, by simp, rfl, rfl⟩

end Recovery

end Ribon
