/-
What the update code talks to: media behind storage providers, the object store
behind protected-state providers, and the observer of a transaction.

Every callback is one command, and the code under `Ribon.Update` and
`Ribon.Security` is written as programs over these commands.  `machine` is the
hardware they run on: a provider that does what it is asked, with a write cache
in front of the media.  Power can fail at any command.  An erased range reads
as the device's own fill.

The observer is part of the caller's memory.  It counts its own events and may
ask for a stop at any of them; which ones is left open.
-/
import Ribon.Crash.Program
import Ribon.Crash.Store
import Ribon.Update.Storage

namespace Ribon

open Crash

inductive TransactionBoundary where
  | before
  | after
  deriving DecidableEq, Repr

inductive TransactionOperation where
  | journalRecordWrite
  | journalRecordFlush
  | journalRecordReadback
  | journalSelectorWrite
  | journalSelectorFlush
  | journalReopen
  | bundleRead
  | slotErase
  | slotWrite
  | slotReadback
  | payloadFlush
  deriving DecidableEq, Repr

/-- One boundary of one operation, as the observer sees it. -/
structure TransactionEvent where
  operation : TransactionOperation
  boundary : TransactionBoundary
  durableState : SlotState
  componentIndex : UInt32
  sequence : UInt32
  journalGeneration : UInt64
  deriving DecidableEq, Repr

/-- The durable update state that the newest complete selector approves. -/
structure TransactionSnapshot where
  selectedRecordSlot : UInt32
  selectedSelectorSlot : UInt32
  targetSlot : UInt32
  targetState : SlotState
  journalGeneration : UInt64
  predecessorGeneration : UInt64
  recordDigest : Digest
  predecessorDigest : Digest
  metadata : SlotMetadata
  deriving DecidableEq

/-- What a statement about a run may refer to: where a commit of the update journal began, with
what it was to write, and where it returned. -/
inductive JournalNote where
  | commitBegins (current : Option TransactionSnapshot) (metadata : SlotMetadata) (target : UInt32)
  | commitReturns (snapshot : TransactionSnapshot)
  | recovered (snapshot : TransactionSnapshot)
  deriving DecidableEq

inductive ProtectedObject where
  | record
  | selector
  deriving DecidableEq, Repr

/-- The name of one object of a protected-state provider. -/
structure ProtectedKey where
  domain : Digest
  object : ProtectedObject
  slot : UInt32
  deriving DecidableEq

inductive Cmd where
  | read (device : Nat) (offset size : UInt64)
  | write (device : Nat) (offset : UInt64) (data : List UInt8)
  | erase (device : Nat) (offset size : UInt64)
  | flush (device : Nat)
  | protectedRead (device : Nat) (key : ProtectedKey) (size : Nat)
  | protectedWrite (device : Nat) (key : ProtectedKey) (data : List UInt8)
  | protectedFlush (device : Nat) (domain : Digest)
  | observerSequence
  | observerAdvance
  | observe (event : TransactionEvent)
  | note (entry : JournalNote)
  deriving DecidableEq

/-- The status a callback returns, the buffer it filled and the count it reports. -/
structure Transfer where
  status : Int
  data : List UInt8
  transferred : UInt64
  deriving DecidableEq, Repr

/-- What a command answers. -/
@[reducible] def Answer : Cmd → Type
  | .read .. => Transfer
  | .write .. => Transfer
  | .erase .. => Int
  | .flush .. => Int
  | .protectedRead .. => Transfer
  | .protectedWrite .. => Int
  | .protectedFlush .. => Int
  | .observerSequence => UInt32
  | .observerAdvance => Unit
  | .observe .. => Int
  | .note _ => Unit

/-- A program of this repository: it may fail with a status of type `E`. -/
abbrev Act (E A : Type) := Crash.Act Cmd Answer E A

section Callbacks

variable {E : Type}

def callRead (device : Nat) (offset size : UInt64) : Act E Transfer :=
  Act.command (Cmd.read device offset size)

def callWrite (device : Nat) (offset : UInt64) (data : List UInt8) : Act E Transfer :=
  Act.command (Cmd.write device offset data)

def callErase (device : Nat) (offset size : UInt64) : Act E Int :=
  Act.command (Cmd.erase device offset size)

def callFlush (device : Nat) : Act E Int := Act.command (Cmd.flush device)

def callProtectedRead (device : Nat) (key : ProtectedKey) (size : Nat) : Act E Transfer :=
  Act.command (Cmd.protectedRead device key size)

def callProtectedWrite (device : Nat) (key : ProtectedKey) (data : List UInt8) : Act E Int :=
  Act.command (Cmd.protectedWrite device key data)

def callProtectedFlush (device : Nat) (domain : Digest) : Act E Int :=
  Act.command (Cmd.protectedFlush device domain)

def callObserverSequence : Act E UInt32 := Act.command Cmd.observerSequence

def callObserverAdvance : Act E Unit := Act.command Cmd.observerAdvance

def callObserve (event : TransactionEvent) : Act E Int := Act.command (Cmd.observe event)

/-- Ghost code: it leaves a mark in the run and touches nothing the hardware or the code sees. -/
def note (entry : JournalNote) : Act E Unit := Act.command (Cmd.note entry)

end Callbacks

/-- Media addressed by bytes. -/
abbrev Media := Store Nat UInt8

/-- The bytes of one protected object: records and selectors have the same size. -/
abbrev ProtectedBytes := { bytes : List UInt8 // bytes.length = 160 }

/-- Any bytes as the bytes of an object: cut off or filled up with zeros. -/
def ProtectedBytes.of (data : List UInt8) : ProtectedBytes :=
  ⟨(data ++ List.replicate 160 0).take 160, by
    rw [List.length_take, List.length_append, List.length_replicate]; omega⟩

/-- The objects of a protected-state provider. -/
abbrev ProtectedStore := Store ProtectedKey ProtectedBytes

/-- The observer's memory: its counter, and its answer to each event it has yet to see. -/
structure ObserverState where
  nextSequence : UInt32
  answers : Nat → TransactionEvent → Int
  seen : Nat

/-- The machine's state. -/
structure World where
  media : Nat → Media
  erased : Nat → UInt8
  protectedStore : Nat → ProtectedStore
  observer : ObserverState
  /-- The ghost notes, newest first. -/
  notes : List JournalNote

/-- The bytes of an image from an offset on. -/
def bytesAt (img : Nat → UInt8) (offset size : Nat) : List UInt8 :=
  (List.range size).map fun i => img (offset + i)

/-- The addresses of a range. -/
def InRange (offset size : Nat) (address : Nat) : Prop :=
  offset ≤ address ∧ address < offset + size

instance (offset size : Nat) : DecidablePred (InRange offset size) := fun address =>
  inferInstanceAs (Decidable (offset ≤ address ∧ address < offset + size))

/-- Write bytes to media at an offset. -/
def Media.writeBytes (m : Media) (offset : Nat) (data : List UInt8) : Media :=
  m.write (InRange offset data.length) fun address => Wire.byteAt data (address - offset)

/-- Erase a range of media. -/
def Media.eraseRange (m : Media) (offset size : Nat) (fill : Nat → UInt8) : Media :=
  m.write (InRange offset size) fill

/-- Replace the media of one device. -/
def World.setMedia (w : World) (device : Nat) (m : Media) : World :=
  { w with media := Function.update w.media device m }

def World.setProtected (w : World) (device : Nat) (p : ProtectedStore) : World :=
  { w with protectedStore := Function.update w.protectedStore device p }

/-- The hardware. -/
def machine : Machine Cmd Answer World where
  answer c w :=
    match c with
    | .read device offset size =>
        { status := 0, data := bytesAt (w.media device).cached offset.toNat size.toNat,
          transferred := size }
    | .write _ _ data => { status := 0, data := [], transferred := UInt64.ofNat data.length }
    | .erase .. => 0
    | .flush .. => 0
    | .protectedRead device key size =>
        { status := 0, data := ((w.protectedStore device).cached key).1
          transferred := UInt64.ofNat size }
    | .protectedWrite .. => 0
    | .protectedFlush .. => 0
    | .observerSequence => w.observer.nextSequence
    | .observerAdvance => ()
    | .observe event => w.observer.answers w.observer.seen event
    | .note _ => ()
  effect c w :=
    match c with
    | .read .. => w
    | .write device offset data =>
        w.setMedia device ((w.media device).writeBytes offset.toNat data)
    | .erase device offset size =>
        w.setMedia device ((w.media device).eraseRange offset.toNat size.toNat w.erased)
    | .flush device => w.setMedia device (w.media device).flush
    | .protectedRead .. => w
    | .protectedWrite device key data =>
        w.setProtected device ((w.protectedStore device).write (· = key) fun _ => .of data)
    | .protectedFlush device _ => w.setProtected device (w.protectedStore device).flush
    | .observerSequence => w
    | .observerAdvance =>
        { w with observer := { w.observer with nextSequence := w.observer.nextSequence + 1 } }
    | .observe _ => { w with observer := { w.observer with seen := w.observer.seen + 1 } }
    | .note entry => { w with notes := entry :: w.notes }

/-- The command reads media and changes nothing. -/
def Cmd.IsRead : Cmd → Prop
  | .read .. => True
  | _ => False

/-- Only a byte in the cache becomes durable. -/
theorem dirty_of_durable_ne {c : Cmd} {w : World} {device address : Nat}
    (h : ((machine.effect c w).media device).durable address ≠ (w.media device).durable address) :
    (w.media device).dirty address := by
  cases c with
  | write other offset data =>
      refine absurd ?_ h
      show (Function.update w.media other ((w.media other).writeBytes _ _) device).durable address = _
      by_cases hsame : device = other
      · subst hsame
        rw [Function.update_self]
        rfl
      · rw [Function.update_of_ne hsame]
  | erase other offset size =>
      refine absurd ?_ h
      show (Function.update w.media other ((w.media other).eraseRange _ _ _) device).durable
        address = _
      by_cases hsame : device = other
      · subst hsame
        rw [Function.update_self]
        rfl
      · rw [Function.update_of_ne hsame]
  | flush other =>
      change (Function.update w.media other (w.media other).flush device).durable address ≠ _ at h
      by_cases hsame : device = other
      · subst hsame
        rw [Function.update_self] at h
        by_contra hclean
        exact h ((w.media device).coherent address hclean)
      · rw [Function.update_of_ne hsame] at h
        exact absurd rfl h
  | _ => exact absurd rfl h

/-! ### Worlds that differ on one device -/

/-- `t` is `w` with other media on one device, other notes, and any observer. -/
def Moved (device : Nat) (w : World) (m : Media) (notes : List JournalNote)
    (t : World) : Prop :=
  ∃ observer, t = { w with
    media := Function.update w.media device m
    observer := observer
    notes := notes }

section Moved

variable {device : Nat} {w t : World} {m : Media} {notes : List JournalNote}

theorem Moved.refl (device : Nat) (w : World) :
    Moved device w (w.media device) w.notes w := by
  refine ⟨w.observer, ?_⟩
  rw [Function.update_eq_self]

variable (h : Moved device w m notes t)
include h

theorem Moved.media : t.media device = m := by
  obtain ⟨observer, rfl⟩ := h
  exact Function.update_self ..

theorem Moved.notes_eq : t.notes = notes := by
  obtain ⟨observer, rfl⟩ := h
  rfl

theorem Moved.protectedStore : t.protectedStore = w.protectedStore := by
  obtain ⟨observer, rfl⟩ := h
  rfl

theorem Moved.observed (observer : ObserverState) :
    Moved device w m notes { t with observer := observer } := by
  obtain ⟨_, rfl⟩ := h
  exact ⟨observer, rfl⟩

theorem Moved.noted (entry : JournalNote) :
    Moved device w m (entry :: notes) { t with notes := entry :: t.notes } := by
  obtain ⟨observer, rfl⟩ := h
  exact ⟨observer, rfl⟩

theorem Moved.setMedia (m' : Media) : Moved device w m' notes (t.setMedia device m') := by
  obtain ⟨observer, rfl⟩ := h
  refine ⟨observer, ?_⟩
  unfold World.setMedia
  rw [Function.update_idem]

theorem Moved.trans {t' : World} {m' : Media} {notes' : List JournalNote}
    (h' : Moved device t m' notes' t') :
    Moved device w m' notes' t' := by
  obtain ⟨observer, rfl⟩ := h
  obtain ⟨observer', rfl⟩ := h'
  refine ⟨observer', ?_⟩
  simp only [Function.update_idem]

end Moved

end Ribon
