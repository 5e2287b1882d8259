/-
The update journal is crash consistent.

Power may fail at any command of any call, any number of times.  Once the journal
has been initialized, every start finds it open.  What it finds is the last
snapshot that was committed, or, if a commit was under way, the exact successor
that this commit was writing.  So the generations that the starts find never go
down.
-/
import Ribon.Update.Completion

namespace Ribon.Transaction

open Wire Crash Crash.TwoSlot

/-- What a start may find behind a power cut, by the notes at the cut: the last committed snapshot,
or the exact successor of the commit that was under way. -/
inductive RecoversTo (notes : List JournalNote) (found : TransactionSnapshot) : Prop
  | last (h : lastCommitted notes = some found)
  | next {current : TransactionSnapshot} {metadata : SlotMetadata} {target : UInt32}
      {rest : List JournalNote} (begun : notes = .commitBegins (some current) metadata target :: rest)
      (last : lastCommitted rest = some current)
      (exact_successor : found = successor (some current) metadata target)
      (generation : found.journalGeneration.toNat = current.journalGeneration.toNat + 1)
      (predecessor : found.predecessorGeneration = current.journalGeneration ∧
        found.predecessorDigest = current.recordDigest)

/-- The journal is at rest with its last committed snapshot, and no start has found a later one. -/
structure Consistent (journal : TransactionJournal) (S : TransactionSnapshot) (t : World) : Prop where
  settled : Settled journal (t.media journal.provider.device) S
  last : lastCommitted t.notes = some S
  bounded : ∀ g ∈ recoveredGenerations t.notes, g ≤ S.journalGeneration
  sorted : (recoveredGenerations t.notes).Pairwise (· ≥ ·)

/-- Wherever power fails from here, the next start finds what it may find. -/
structure Recoverable (journal : TransactionJournal) (t : World) : Prop where
  opens : ∀ img, (journalView journal t).CrashTo scheme.Rejects img →
    ∃ S, openImage journal img = .ok S ∧ RecoversTo t.notes S
  bounded : ∀ S, RecoversTo t.notes S →
    ∀ g ∈ recoveredGenerations t.notes, g ≤ S.journalGeneration
  sorted : (recoveredGenerations t.notes).Pairwise (· ≥ ·)

/-! ### Small facts -/

section Facts

variable {S : TransactionSnapshot} {metadata : SlotMetadata} {target : UInt32}

/-- A journal that has never been open was not found by a start. -/
theorem recoveredGenerations_of_silent {notes : List JournalNote} (h : lastCommitted notes = none) :
    recoveredGenerations notes = [] := by
  induction notes with
  | nil => rfl
  | cons entry rest ih =>
      cases entry with
      | commitBegins current metadata target => exact ih h
      | commitReturns snapshot => cases h
      | recovered snapshot => cases h

theorem Committable.successor_generation (c : Committable (some S) metadata target) :
    (successor (some S) metadata target).journalGeneration.toNat =
      S.journalGeneration.toNat + 1 := by
  have hroom : S.journalGeneration ≠ u64Max := c.room S rfl
  have hne : S.journalGeneration.toNat ≠ 2 ^ 64 - 1 := fun h => hroom (UInt64.toNat_inj.mp h)
  have hlt := S.journalGeneration.toNat_lt
  show (S.journalGeneration + 1).toNat = _
  rw [UInt64.toNat_add]
  show (_ + 1) % 2 ^ 64 = _
  omega

theorem Committable.generation_le (c : Committable (some S) metadata target) :
    S.journalGeneration ≤ (successor (some S) metadata target).journalGeneration := by
  rw [UInt64.le_iff_toNat_le, c.successor_generation]
  omega

end Facts

/-! ### The moves -/

section Moves

variable {journal : TransactionJournal} {S : TransactionSnapshot} {w t t' : World}
  {metadata : SlotMetadata} {target : UInt32}

theorem Consistent.recoverable (h : Consistent journal S t) : Recoverable journal t where
  opens img hcrash := ⟨S, h.settled.crash hcrash, .last h.last⟩
  bounded := by
    intro S' hS' g hg
    cases hS' with
    | last hlast =>
        obtain rfl : S = S' := Option.some.inj (h.last.symm.trans hlast)
        exact h.bounded g hg
    | @next current metadata target rest hbegun hlast _ hgen _ =>
        -- a commit under way has not changed the last committed snapshot
        have hcur : S = current := by
          have hsame := h.last
          rw [hbegun] at hsame
          exact Option.some.inj (hsame.symm.trans hlast)
        subst hcur
        have hle := UInt64.le_iff_toNat_le.mp (h.bounded g hg)
        exact UInt64.le_iff_toNat_le.mpr (by omega)
  sorted := h.sorted

variable (h : Consistent journal S w) (c : Committable (some S) metadata target)
include h c

/-- The notes of a commit under way allow both outcomes, and no others. -/
theorem Consistent.committing (hnotes : t.notes = .commitBegins (some S) metadata target :: w.notes)
    (hcrash : ∀ img, (journalView journal t).CrashTo scheme.Rejects img →
      openImage journal img = .ok S ∨
        openImage journal img = .ok (successor (some S) metadata target)) :
    Recoverable journal t where
  opens := by
    intro img himg
    rcases hcrash img himg with hold | hnew
    · refine ⟨S, hold, .last ?_⟩
      rw [hnotes]
      exact h.last
    · exact ⟨_, hnew, .next hnotes h.last rfl c.successor_generation ⟨rfl, rfl⟩⟩
  bounded := by
    intro S' hS' g hg
    rw [hnotes] at hS' hg
    have hg' : g ≤ S.journalGeneration := h.bounded g hg
    cases hS' with
    | last hlast =>
        obtain rfl : S = S' := Option.some.inj (h.last.symm.trans hlast)
        exact hg'
    | @next current metadata' target' rest hbegun hlast _ hgen _ =>
        cases hbegun
        have hle := UInt64.le_iff_toNat_le.mp hg'
        exact UInt64.le_iff_toNat_le.mpr (by omega)
  sorted := by
    rw [hnotes]
    exact h.sorted

/-- A commit that returned is the last committed snapshot. -/
theorem Consistent.afterCommit
    (ht : Moved journal.provider.device w
      (committed journal (w.media journal.provider.device) (some S) metadata target)
      (.commitReturns (successor (some S) metadata target) ::
        .commitBegins (some S) metadata target :: w.notes) t) :
    Consistent journal (successor (some S) metadata target) t where
  settled := by
    rw [ht.media]
    exact h.settled.afterCommit c
  last := by
    rw [ht.notes_eq]
    rfl
  bounded := by
    intro g hg
    rw [ht.notes_eq] at hg
    exact UInt64.le_trans (h.bounded g hg) c.generation_le
  sorted := by
    rw [ht.notes_eq]
    exact h.sorted

/-- **Every stage of a commit can be recovered from.** -/
theorem Consistent.stage (hstage : CommitStage journal (some S) metadata target w t) :
    Recoverable journal t := by
  have hcrash : ∀ img, (journalView journal t).CrashTo scheme.Rejects img →
      openImage journal img = .ok S ∨
        openImage journal img = .ok (successor (some S) metadata target) :=
    fun img himg => CommitStage.crash h.settled c hstage himg
  cases hstage with
  | begun ht | recordWritten ht | recordFlushed ht | selectorWritten ht | committed ht =>
      exact h.committing c ht.notes_eq hcrash
  | returned ht _ => exact (h.afterCommit c ht).recoverable

omit h c

/-- What a start opens is what the power cut has left. -/
theorem openImage_left {img : Nat → UInt8}
    (hmedia : t'.media journal.provider.device = Store.fresh img)
    (hopen : openImage journal (journalView journal t').durable = .ok S) :
    openImage journal (Store.viewImage (journalOverlay journal) img) = .ok S := by
  rw [← hopen]
  show _ = openImage journal
    (Store.view (journalOverlay journal) (t'.media journal.provider.device)).durable
  rw [hmedia]
  rfl

/-- A start finds the journal at rest, with a snapshot no older than any before. -/
theorem Recoverable.recovered (h : Recoverable journal t ∨ lastCommitted t.notes = none)
    (hpower : PowerCut journal t t')
    (hopen : openImage journal (journalView journal t').durable = .ok S) :
    Consistent journal S { t' with notes := .recovered S :: t'.notes } := by
  obtain ⟨img, hbytes, hobjs, hmedia⟩ := hpower.media
  have hfound := openImage_left hmedia hopen
  have hbefore : (∀ g ∈ recoveredGenerations t.notes, g ≤ S.journalGeneration) ∧
      (recoveredGenerations t.notes).Pairwise (· ≥ ·) := by
    rcases h with hrecov | hsilent
    · obtain ⟨S', hS', hnotes⟩ := hrecov.opens _ hobjs
      obtain rfl : S' = S := Except.ok.inj (hS'.symm.trans hfound)
      exact ⟨hrecov.bounded _ hnotes, hrecov.sorted⟩
    · rw [recoveredGenerations_of_silent hsilent]
      exact ⟨fun g hg => by simp at hg, List.Pairwise.nil⟩
  rw [← hpower.notes] at hbefore
  refine ⟨⟨?_, hopen⟩, rfl, ?_, List.pairwise_cons.mpr hbefore⟩
  · intro o hdirty
    obtain ⟨a, -, ha⟩ := hdirty
    exact hpower.clean a ha
  · exact List.forall_mem_cons.mpr ⟨UInt64.le_refl _, hbefore.1⟩

end Moves

/-- **Consistency survives every history.** -/
theorem consistent_survives (journal : TransactionJournal) :
    Survives journal (Recoverable journal) (Consistent journal) where
  settled h := h.settled
  rest h := h.recoverable
  stage h _ c ht := h.stage c ht
  commit h _ c ht := h.afterCommit c ht
  payload := by
    intro S w t target h _ _ _ ht
    have hnotes : t.notes = w.notes := ht.moved.notes_eq
    refine ⟨h.settled.within ht.within, ?_, ?_, ?_⟩
    · rw [hnotes]
      exact h.last
    · rw [hnotes]
      exact h.bounded
    · rw [hnotes]
      exact h.sorted
  observed h o := ⟨h.settled, h.last, h.bounded, h.sorted⟩
  first := by
    intro w t metadata target hidle c hopened ht
    have hsilent : recoveredGenerations w.notes = [] := recoveredGenerations_of_silent hidle.silent
    have hgens : recoveredGenerations t.notes = [] := by
      rw [ht.notes_eq]
      exact hsilent
    refine ⟨⟨?_, ?_⟩, ?_, ?_, ?_⟩
    · rw [ht.media]
      exact committed_clean
    · rw [ht.media]
      exact hopened
    · rw [ht.notes_eq]
      rfl
    · rw [hgens]
      intro g hg
      simp at hg
    · rw [hgens]
      exact List.Pairwise.nil
  recovered := Recoverable.recovered
  opens := by
    intro t t' h hpower
    obtain ⟨img, -, hobjs, hmedia⟩ := hpower.media
    obtain ⟨S, hS, -⟩ := h.opens _ hobjs
    refine ⟨S, ?_⟩
    show openImage journal
      (Store.view (journalOverlay journal) (t'.media journal.provider.device)).durable = _
    rw [hmedia]
    exact hS

end Ribon.Transaction
