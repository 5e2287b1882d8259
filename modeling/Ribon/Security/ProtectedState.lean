/-
The protected-state journal: the rollback floor of one domain, and the trial of
its successor.

A domain has two record objects and two selector objects of 160 bytes each.
Every operation opens the journal, computes the next record from the state it
found, and commits it: the record goes into the slot that is not selected, is
flushed and read back, then the selector of the same slot follows, and the
journal is opened again.
-/
import Ribon.Device

namespace Ribon

open Wire Crash

inductive ProtectedProviderClass where
  | invalid
  | hardware
  | reference
  | fixture
  deriving DecidableEq, Repr

inductive ProtectedKind where
  | confirmed
  | trial
  deriving DecidableEq, Repr

namespace ProtectedKind

def code : ProtectedKind → UInt32
  | .confirmed => 1
  | .trial => 2

def ofCode (value : UInt32) : Option ProtectedKind :=
  if value = 1 then some .confirmed else if value = 2 then some .trial else none

@[simp] theorem ofCode_code (kind : ProtectedKind) : ofCode kind.code = some kind := by
  cases kind <;> rfl

end ProtectedKind

inductive ProtectedStatus where
  | invalidArgument
  | invalidProvider
  | unavailable
  | ioError
  | uninitialized
  | corrupt
  | conflict
  | domainMismatch
  | rollback
  | sequenceGap
  | attemptsExhausted
  | overflow
  | readbackMismatch
  | alreadyInitialized
  | bindingMismatch
  deriving DecidableEq, Repr

/-- The object store provider.  Its callbacks act on the device that `context` names. -/
structure ProtectedProvider where
  magic : UInt32
  size : UInt32
  abiVersion : UInt32
  providerClass : ProtectedProviderClass
  flags : UInt32
  recordSlots : UInt32
  selectorSlots : UInt32
  reserved0 : UInt32
  recordBytes : Nat
  selectorBytes : Nat
  id : Option String
  context : Nat
  /-- All three callbacks are set. -/
  callbacks : Bool
  reserved : Reserved
  deriving DecidableEq

structure ProtectedJournal where
  size : UInt32
  abiVersion : UInt32
  provider : ProtectedProvider
  domainDigest : Digest
  reserved : Reserved
  deriving DecidableEq

structure ProtectedRecord where
  kind : ProtectedKind
  confirmedFloor : UInt64
  pendingSequence : UInt64
  attempts : UInt32
  generation : UInt64
  domain : Digest
  binding : Digest
  attemptSequence : UInt64
  deriving DecidableEq

structure ProtectedSelector where
  slot : UInt32
  generation : UInt64
  domain : Digest
  recordDigest : Digest
  deriving DecidableEq

structure ProtectedSnapshot where
  kind : ProtectedKind
  selectedSlot : UInt32
  confirmedFloor : UInt64
  pendingSequence : UInt64
  trialAttemptsRemaining : UInt32
  generation : UInt64
  domainDigest : Digest
  trialBindingDigest : Digest
  attemptSequence : UInt64
  deriving DecidableEq

inductive ProtectedAuthority where
  | confirmed
  | trial
  deriving DecidableEq, Repr

structure ProtectedDecision where
  authority : ProtectedAuthority
  trialAttemptsRemaining : UInt32
  sequence : UInt64
  generation : UInt64
  domainDigest : Digest
  deriving DecidableEq

namespace ProtectedState

def providerMagic : UInt32 := 0x52425053
def abiVersion : UInt32 := 1
def providerSizeOf : UInt32 := 120
def journalSizeOf : UInt32 := 80
def recordSlots : UInt32 := 2
def recordBytes : Nat := 160
def selectorBytes : Nat := 160
def maxTrialAttempts : UInt32 := 32
def checksumOffset : Nat := 144

def recordMagic : List UInt8 := "RIBON-PSTATE-R1".toUTF8.toList
def selectorMagic : List UInt8 := "RIBON-PSTATE-S1".toUTF8.toList

def providerValidate (provider : ProtectedProvider) : Except ProtectedStatus Unit :=
  refuse (provider.magic != providerMagic || provider.size != providerSizeOf ||
    provider.abiVersion != abiVersion || provider.providerClass == .invalid ||
    provider.flags != 0 || provider.recordSlots != recordSlots ||
    provider.selectorSlots != recordSlots || provider.reserved0 != 0 ||
    provider.recordBytes != recordBytes || provider.selectorBytes != selectorBytes ||
    !provider.id.any (· != "") || !provider.callbacks || !reservedZero provider.reserved)
    .invalidProvider

def journalValidate (journal : ProtectedJournal) : Except ProtectedStatus Unit := do
  refuse (journal.size != journalSizeOf || journal.abiVersion != abiVersion ||
    journal.domainDigest.isZero || !reservedZero journal.reserved) .invalidArgument
  providerValidate journal.provider

/-! ### Wire objects -/

/-- The sixteen bytes of magic, the format and the size, the same in both kinds of object. -/
def wireHeader (magic : List UInt8) : List UInt8 :=
  let bytes := List.replicate recordBytes 0
  let bytes := patch bytes 0 magic
  let bytes := patch bytes 16 [1]
  patch bytes 20 (storeU32 (UInt32.ofNat recordBytes))

def headerIsValid (magic bytes : List UInt8) : Bool :=
  bytesEqual bytes magic 15 && byteAt bytes 15 == 0 && byteAt bytes 16 == 1 &&
  byteAt bytes 17 == 0 && byteAt bytes 18 == 0 && byteAt bytes 19 == 0 &&
  loadU32 (bytes.drop 20) == UInt32.ofNat recordBytes

/-- The checksum at its place, over everything before it. -/
def sealChecksum (bytes : List UInt8) : List UInt8 :=
  patch bytes checksumOffset (storeU32 (crc32c bytes checksumOffset))

def checksumIsValid (bytes : List UInt8) : Bool :=
  loadU32 (bytes.drop checksumOffset) == crc32c bytes checksumOffset &&
  bytesZero (bytes.drop 148) 12

def recordEncode (record : ProtectedRecord) : List UInt8 :=
  let bytes := wireHeader recordMagic
  let bytes := patch bytes 24 (storeU32 1)
  let bytes := patch bytes 28 (storeU32 record.kind.code)
  let bytes := patch bytes 32 (storeU64 record.generation)
  let bytes := patch bytes 40 (storeU64 record.confirmedFloor)
  let bytes := patch bytes 48 (storeU64 record.pendingSequence)
  let bytes := patch bytes 56 (storeU32 record.attempts)
  let bytes := patch bytes 64 record.domain.1
  let bytes := patch bytes 96 record.binding.1
  let bytes := patch bytes 128 (storeU64 record.attemptSequence)
  sealChecksum bytes

/-- The logical state is one of the two shapes: nothing pending, or the exact successor of the
floor.  Either way binding and attempt are both there or both absent. -/
def recordIsConsistent (record : ProtectedRecord) : Bool :=
  !record.domain.isZero && record.generation != 0 &&
  (match record.kind with
    | .confirmed => record.pendingSequence == 0 && record.attempts == 0
    | .trial => record.confirmedFloor != u64Max &&
        record.pendingSequence == record.confirmedFloor + 1 &&
        decide (record.attempts ≤ maxTrialAttempts)) &&
  record.binding.isZero == (record.attemptSequence == 0)

def recordDecode (bytes : List UInt8) : Option ProtectedRecord :=
  if !(headerIsValid recordMagic bytes && loadU32 (bytes.drop 24) == 1 &&
      loadU32 (bytes.drop 60) == 0 && loadU64 (bytes.drop 136) == 0 && checksumIsValid bytes) then
    none
  else
    match ProtectedKind.ofCode (loadU32 (bytes.drop 28)) with
    | none => none
    | some kind =>
        let record : ProtectedRecord := {
          kind := kind
          confirmedFloor := loadU64 (bytes.drop 40)
          pendingSequence := loadU64 (bytes.drop 48)
          attempts := loadU32 (bytes.drop 56)
          generation := loadU64 (bytes.drop 32)
          domain := Digest.read (bytes.drop 64)
          binding := Digest.read (bytes.drop 96)
          attemptSequence := loadU64 (bytes.drop 128) }
        if recordIsConsistent record then some record else none

def selectorEncode (selector : ProtectedSelector) : List UInt8 :=
  let bytes := wireHeader selectorMagic
  let bytes := patch bytes 24 (storeU32 selector.slot)
  let bytes := patch bytes 32 (storeU64 selector.generation)
  let bytes := patch bytes 40 selector.domain.1
  let bytes := patch bytes 72 selector.recordDigest.1
  sealChecksum bytes

def selectorDecode (bytes : List UInt8) : Option ProtectedSelector :=
  let selector : ProtectedSelector := {
    slot := loadU32 (bytes.drop 24)
    generation := loadU64 (bytes.drop 32)
    domain := Digest.read (bytes.drop 40)
    recordDigest := Digest.read (bytes.drop 72) }
  if headerIsValid selectorMagic bytes && decide (selector.slot < recordSlots) &&
      loadU32 (bytes.drop 28) == 0 && selector.generation != 0 && !selector.domain.isZero &&
      !selector.recordDigest.isZero && bytesZero (bytes.drop 104) (checksumOffset - 104) &&
      checksumIsValid bytes then some selector
  else none

/-! ### Opening the journal -/

/-- A selector that is all zero was never written. -/
def selectorOpen (bytes : List UInt8) : Except ProtectedStatus ProtectedSelector :=
  if bytesZero bytes selectorBytes then .error .uninitialized
  else
    match selectorDecode bytes with
    | none => .error .corrupt
    | some selector => .ok selector

/-- Which selector counts: the only valid one, or the newer of two. -/
def selectNewest (bytes0 bytes1 : List UInt8) : Except ProtectedStatus ProtectedSelector :=
  match selectorOpen bytes0, selectorOpen bytes1 with
  | .error status0, .error status1 =>
      if status0 == .uninitialized && status1 == .uninitialized then .error .uninitialized
      else .error .corrupt
  | .ok selector0, .error _ => .ok selector0
  | .error _, .ok selector1 => .ok selector1
  | .ok selector0, .ok selector1 =>
      if selector0.generation == selector1.generation &&
          !bytesEqual bytes0 bytes1 selectorBytes then .error .conflict
      else if selector0.generation < selector1.generation then .ok selector1
      else .ok selector0

def snapshotFromRecord (record : ProtectedRecord) (slot : UInt32) : ProtectedSnapshot where
  kind := record.kind
  selectedSlot := slot
  confirmedFloor := record.confirmedFloor
  pendingSequence := record.pendingSequence
  trialAttemptsRemaining := record.attempts
  generation := record.generation
  domainDigest := record.domain
  trialBindingDigest := record.binding
  attemptSequence := record.attemptSequence

/-- The record a selector names, checked against it and against the other record. -/
def checkSelected (domain : Digest) (selector : ProtectedSelector) (bytes other : List UInt8) :
    Except ProtectedStatus ProtectedSnapshot :=
  match recordDecode bytes with
  | none => .error .corrupt
  | some record => do
      refuse (selector.generation != record.generation || !selector.domain.equal domain ||
        !record.domain.equal domain ||
        !selector.recordDigest.equal (sha256 bytes recordBytes)) .corrupt
      refuse ((recordDecode other).any fun rival =>
        rival.generation == record.generation && !bytesEqual other bytes recordBytes) .conflict
      return snapshotFromRecord record selector.slot

/-- The two selectors and the two records, judged together. -/
def openObjects (domain : Digest) (selector0 record0 selector1 record1 : List UInt8) :
    Except ProtectedStatus ProtectedSnapshot := do
  let selector ← selectNewest selector0 selector1
  if selector.slot = 0 then checkSelected domain selector record0 record1
  else checkSelected domain selector record1 record0

/-- The callback status, in the words of the engine. -/
def providerStatus (status : Int) : Except ProtectedStatus Unit :=
  if status = -1 then .error .unavailable else if status = 0 then .ok () else .error .ioError

def providerRead (journal : ProtectedJournal) (object : ProtectedObject) (slot : UInt32)
    (size : Nat) : Act ProtectedStatus (List UInt8) := do
  let transfer ← callProtectedRead journal.provider.context
    { domain := journal.domainDigest, object, slot } size
  Act.ofExcept (providerStatus transfer.status)
  return transfer.data

def providerWrite (journal : ProtectedJournal) (object : ProtectedObject) (slot : UInt32)
    (bytes : List UInt8) : Act ProtectedStatus Unit := do
  let status ← callProtectedWrite journal.provider.context
    { domain := journal.domainDigest, object, slot } bytes
  Act.ofExcept (providerStatus status)

def providerFlush (journal : ProtectedJournal) : Act ProtectedStatus Unit := do
  let status ← callProtectedFlush journal.provider.context journal.domainDigest
  Act.ofExcept (providerStatus status)

/-- The committed state of the domain. -/
def protectedOpen (journal : ProtectedJournal) : Act ProtectedStatus ProtectedSnapshot := do
  Act.ofExcept (journalValidate journal)
  let selector0 ← providerRead journal .selector 0 selectorBytes
  let record0 ← providerRead journal .record 0 recordBytes
  let selector1 ← providerRead journal .selector 1 selectorBytes
  let record1 ← providerRead journal .record 1 recordBytes
  Act.ofExcept (openObjects journal.domainDigest selector0 record0 selector1 record1)

/-! ### Commits -/

/-- The selector of a record that is written into a slot. -/
def selectorOf (slot : UInt32) (record : ProtectedRecord) : ProtectedSelector where
  slot := slot
  generation := record.generation
  domain := record.domain
  recordDigest := sha256 (recordEncode record) recordBytes

def commitRecord (journal : ProtectedJournal) (slot : UInt32) (record : ProtectedRecord) :
    Act ProtectedStatus ProtectedSnapshot := do
  let bytes := recordEncode record
  providerWrite journal .record slot bytes
  providerFlush journal
  let readback ← providerRead journal .record slot recordBytes
  Act.refuseIf (!bytesEqual bytes readback recordBytes) .readbackMismatch
  providerWrite journal .selector slot (selectorEncode (selectorOf slot record))
  providerFlush journal
  let opened ← protectedOpen journal
  Act.refuseIf (opened.generation != record.generation || opened.selectedSlot != slot)
    .readbackMismatch
  return opened

def transitionRecord (journal : ProtectedJournal) (current : ProtectedSnapshot)
    (next : ProtectedRecord) : Act ProtectedStatus ProtectedSnapshot := do
  Act.refuseIf (current.generation == u64Max) .overflow
  commitRecord journal (1 - current.selectedSlot)
    { next with generation := current.generation + 1, domain := current.domainDigest }

/-- Open the journal and commit the record that a rule makes of its state.  A rule that makes none
leaves the state as it is. -/
def perform (journal : ProtectedJournal)
    (rule : ProtectedSnapshot → Except ProtectedStatus (Option ProtectedRecord)) :
    Act ProtectedStatus ProtectedSnapshot := do
  let current ← protectedOpen journal
  match ← Act.ofExcept (rule current) with
  | none => return current
  | some next => transitionRecord journal current next

/-! ### Operations

Generation and domain of a record are filled in by `transitionRecord`; until then they are zero. -/

def initialRecord (journal : ProtectedJournal) (confirmedFloor : UInt64) : ProtectedRecord where
  kind := .confirmed
  confirmedFloor := confirmedFloor
  pendingSequence := 0
  attempts := 0
  generation := 1
  domain := journal.domainDigest
  binding := Digest.zero
  attemptSequence := 0

/-- Open the journal and keep the status instead of failing with it. -/
def protectedTryOpen (journal : ProtectedJournal) :
    Act ProtectedStatus (Except ProtectedStatus ProtectedSnapshot) :=
  tryCatch (protectedOpen journal >>= fun snapshot => pure (.ok snapshot))
    fun status => pure (.error status)

/-- Provision a blank journal with generation 1. -/
def protectedInitialize (journal : ProtectedJournal) (confirmedFloor : UInt64) :
    Act ProtectedStatus ProtectedSnapshot := do
  match ← protectedTryOpen journal with
  | .ok _ => throw .alreadyInitialized
  | .error .uninitialized => commitRecord journal 0 (initialRecord journal confirmedFloor)
  | .error status => throw status

def beginTrialRule (candidateSequence : UInt64) (attempts : UInt32) (binding : Option Digest)
    (attemptSequence : UInt64) (current : ProtectedSnapshot) :
    Except ProtectedStatus (Option ProtectedRecord) := do
  refuse (current.kind != .confirmed) .rollback
  refuse (current.confirmedFloor == u64Max) .overflow
  refuse (candidateSequence != current.confirmedFloor + 1)
    (if candidateSequence ≤ current.confirmedFloor then .rollback else .sequenceGap)
  refuse (attempts == 0 || decide (maxTrialAttempts < attempts)) .invalidArgument
  refuse (match binding with
    | none => attemptSequence != 0
    | some binding => binding.isZero || attemptSequence == 0) .invalidArgument
  return some {
    kind := .trial
    confirmedFloor := current.confirmedFloor
    pendingSequence := candidateSequence
    attempts := attempts
    generation := 0
    domain := Digest.zero
    binding := binding.getD Digest.zero
    attemptSequence := attemptSequence }

def beginTrial (journal : ProtectedJournal) (candidateSequence : UInt64) (attempts : UInt32) :
    Act ProtectedStatus ProtectedSnapshot :=
  perform journal (beginTrialRule candidateSequence attempts none 0)

def beginBoundTrial (journal : ProtectedJournal) (candidateSequence : UInt64) (attempts : UInt32)
    (binding : Digest) (attemptSequence : UInt64) : Act ProtectedStatus ProtectedSnapshot :=
  perform journal (beginTrialRule candidateSequence attempts (some binding) attemptSequence)

def rebindRule (pendingSequence : UInt64) (binding : Digest) (attemptSequence : UInt64)
    (current : ProtectedSnapshot) : Except ProtectedStatus (Option ProtectedRecord) := do
  refuse (current.kind != .trial || current.pendingSequence != pendingSequence) .rollback
  refuse (current.trialAttemptsRemaining == 0) .attemptsExhausted
  refuse (decide (attemptSequence ≤ current.attemptSequence)) .bindingMismatch
  return some {
    kind := .trial
    confirmedFloor := current.confirmedFloor
    pendingSequence := current.pendingSequence
    attempts := current.trialAttemptsRemaining
    generation := 0
    domain := Digest.zero
    binding := binding
    attemptSequence := attemptSequence }

def rebindTrialAttempt (journal : ProtectedJournal) (pendingSequence : UInt64) (binding : Digest)
    (attemptSequence : UInt64) : Act ProtectedStatus ProtectedSnapshot := do
  Act.refuseIf (binding.isZero || attemptSequence == 0) .invalidArgument
  perform journal (rebindRule pendingSequence binding attemptSequence)

/-- Whether the state gives a sequence the authority to run. -/
def authorizeRule (sequence : UInt64) (current : ProtectedSnapshot) :
    Except ProtectedStatus ProtectedAuthority :=
  if sequence == current.confirmedFloor then .ok .confirmed
  else if current.kind == .trial && sequence == current.pendingSequence then
    if current.trialAttemptsRemaining == 0 then .error .attemptsExhausted else .ok .trial
  else if sequence < current.confirmedFloor ||
      (current.kind == .confirmed && sequence ≤ current.confirmedFloor) then .error .rollback
  else .error .sequenceGap

def authorize (journal : ProtectedJournal) (sequence : UInt64) :
    Act ProtectedStatus ProtectedDecision := do
  let current ← protectedOpen journal
  let authority ← Act.ofExcept (authorizeRule sequence current)
  return {
    authority := authority
    trialAttemptsRemaining := current.trialAttemptsRemaining
    sequence := sequence
    generation := current.generation
    domainDigest := current.domainDigest }

def consumeRule (pendingSequence : UInt64) (current : ProtectedSnapshot) :
    Except ProtectedStatus (Option ProtectedRecord) := do
  refuse (current.kind != .trial || current.pendingSequence != pendingSequence) .rollback
  refuse (current.trialAttemptsRemaining == 0) .attemptsExhausted
  return some {
    kind := .trial
    confirmedFloor := current.confirmedFloor
    pendingSequence := current.pendingSequence
    attempts := current.trialAttemptsRemaining - 1
    generation := 0
    domain := Digest.zero
    binding := current.trialBindingDigest
    attemptSequence := current.attemptSequence }

def consumeTrialAttempt (journal : ProtectedJournal) (pendingSequence : UInt64) :
    Act ProtectedStatus ProtectedSnapshot :=
  perform journal (consumeRule pendingSequence)

/-- A confirmed record with nothing pending. -/
def confirmedRecord (floor : UInt64) (binding : Digest) (attemptSequence : UInt64) :
    ProtectedRecord where
  kind := .confirmed
  confirmedFloor := floor
  pendingSequence := 0
  attempts := 0
  generation := 0
  domain := Digest.zero
  binding := binding
  attemptSequence := attemptSequence

def confirmRule (pendingSequence : UInt64) (current : ProtectedSnapshot) :
    Except ProtectedStatus (Option ProtectedRecord) := do
  refuse (current.kind != .trial || current.pendingSequence != pendingSequence ||
    !current.trialBindingDigest.isZero || current.attemptSequence != 0) .rollback
  return some (confirmedRecord pendingSequence Digest.zero 0)

def confirm (journal : ProtectedJournal) (pendingSequence : UInt64) :
    Act ProtectedStatus ProtectedSnapshot :=
  perform journal (confirmRule pendingSequence)

def confirmBoundRule (pendingSequence : UInt64) (binding : Digest) (attemptSequence : UInt64)
    (current : ProtectedSnapshot) : Except ProtectedStatus (Option ProtectedRecord) :=
  -- the same receipt once more: nothing is written
  if current.kind == .confirmed && current.confirmedFloor == pendingSequence &&
      current.attemptSequence == attemptSequence && current.trialBindingDigest.equal binding then
    .ok none
  else do
    refuse (current.kind != .trial || current.pendingSequence != pendingSequence ||
      current.attemptSequence != attemptSequence || !current.trialBindingDigest.equal binding)
      .bindingMismatch
    return some (confirmedRecord pendingSequence binding attemptSequence)

def confirmBound (journal : ProtectedJournal) (pendingSequence : UInt64) (binding : Digest)
    (attemptSequence : UInt64) : Act ProtectedStatus ProtectedSnapshot := do
  Act.refuseIf (binding.isZero || attemptSequence == 0) .invalidArgument
  perform journal (confirmBoundRule pendingSequence binding attemptSequence)

def failTrialRule (current : ProtectedSnapshot) :
    Except ProtectedStatus (Option ProtectedRecord) := do
  refuse (current.kind != .trial) .rollback
  return some (confirmedRecord current.confirmedFloor current.trialBindingDigest
    current.attemptSequence)

def failTrial (journal : ProtectedJournal) : Act ProtectedStatus ProtectedSnapshot :=
  perform journal failTrialRule

end ProtectedState

end Ribon
