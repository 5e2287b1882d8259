/-
A store behind a write cache.

A write goes to the cache and is read back from there.  A flush makes everything
in the cache durable.  A power cut loses the cache, and then each cell that was
written since the last flush holds what was durable before, or what was cached,
or something torn in between.  Which torn values are possible is a parameter: a
cell that holds a whole object with a checksum tears only into what its decoder
rejects, a byte of plain payload tears into anything.

The same store is looked at in two ways.  The device has one cell for each
address.  A journal on it has one cell for each of its objects.  `view` takes
the first to the second, and writes, flushes and power cuts commute with it.
-/
import Mathlib.Tactic.Common

namespace Crash

/-- Cells `A` with values `V` behind a cache.  `dirty` are the cells not yet flushed. -/
structure Store (A V : Type) where
  /-- What survives a power cut. -/
  durable : A → V
  /-- What a read answers. -/
  cached : A → V
  /-- The cells written since the last flush. -/
  dirty : A → Prop
  /-- A cell that is not dirty is durable as it is read. -/
  coherent : ∀ a, ¬ dirty a → cached a = durable a

namespace Store

variable {A V O W : Type}

/-- The store that holds exactly `img`, with nothing to flush. -/
def fresh (img : A → V) : Store A V where
  durable := img
  cached := img
  dirty := fun _ => False
  coherent := fun _ _ => rfl

/-- Write `f` on the cells that `covers` names. -/
def write (s : Store A V) (covers : A → Prop) [DecidablePred covers] (f : A → V) : Store A V where
  durable := s.durable
  cached := fun a => if covers a then f a else s.cached a
  dirty := fun a => covers a ∨ s.dirty a
  coherent := by
    intro a h
    rw [if_neg fun hc => h (Or.inl hc)]
    exact s.coherent a fun hd => h (Or.inr hd)

/-- Everything cached becomes durable. -/
def flush (s : Store A V) : Store A V := fresh s.cached

@[simp] theorem write_cached (s : Store A V) (covers : A → Prop) [DecidablePred covers]
    (f : A → V) (a : A) : (s.write covers f).cached a = if covers a then f a else s.cached a := rfl

@[simp] theorem flush_durable (s : Store A V) : s.flush.durable = s.cached := rfl
@[simp] theorem flush_cached (s : Store A V) : s.flush.cached = s.cached := rfl
/-- A store with nothing to flush is fresh. -/
theorem eq_fresh_of_clean {s : Store A V} (h : ∀ a, ¬ s.dirty a) : s = fresh s.durable := by
  obtain ⟨durable, cached, dirty, coherent⟩ := s
  obtain rfl : cached = durable := funext fun a => coherent a (h a)
  obtain rfl : dirty = fun _ => False := funext fun a => eq_false (h a)
  rfl

/-- What a power cut may leave: `torn a v` says that cell `a` may tear into `v`. -/
def CrashTo (torn : A → V → Prop) (s : Store A V) (img : A → V) : Prop :=
  ∀ a, img a = s.durable a ∨ (s.dirty a ∧ (img a = s.cached a ∨ torn a (img a)))

theorem CrashTo.of_clean {torn : A → V → Prop} {s : Store A V} {img : A → V} {a : A}
    (h : s.CrashTo torn img) (hc : ¬ s.dirty a) : img a = s.durable a := by
  rcases h a with hd | ⟨hd, _⟩
  · exact hd
  · exact absurd hd hc

/-- Losing the whole cache is one way to lose power. -/
theorem crashTo_durable (torn : A → V → Prop) (s : Store A V) : s.CrashTo torn s.durable :=
  fun _ => Or.inl rfl

/-! ### Objects made of cells -/

/-- Objects `O` laid over the cells, each read from the cells it covers and from no other. -/
structure Overlay (A V O W : Type) where
  /-- The cells of an object. -/
  covers : O → A → Prop
  /-- The value of an object in an image. -/
  read : O → (A → V) → W
  /-- An object is read from its own cells. -/
  read_congr : ∀ o (f g : A → V), (∀ a, covers o a → f a = g a) → read o f = read o g
  /-- No cell belongs to two objects. -/
  disjoint : ∀ o o' a, covers o a → covers o' a → o = o'

variable (L : Overlay A V O W)

/-- The store as its objects show it. -/
def view (s : Store A V) : Store O W where
  durable := fun o => L.read o s.durable
  cached := fun o => L.read o s.cached
  dirty := fun o => ∃ a, L.covers o a ∧ s.dirty a
  coherent := by
    intro o h
    exact L.read_congr o _ _ fun a ha => s.coherent a fun hd => h ⟨a, ha, hd⟩

/-- The image as its objects show it. -/
def viewImage (img : A → V) : O → W := fun o => L.read o img

theorem view_cached (s : Store A V) : (s.view L).cached = viewImage L s.cached := rfl

/-- Where nothing is dirty the objects are durable as they are read. -/
theorem view_cached_of_clean {s : Store A V} (h : ∀ a, ¬ s.dirty a) :
    (s.view L).cached = (s.view L).durable :=
  funext fun o => (s.view L).coherent o fun ⟨a, _, ha⟩ => h a ha

@[simp] theorem view_flush (s : Store A V) : s.flush.view L = (s.view L).flush := by
  simp [flush, view, fresh]

section Write

variable {L} {s : Store A V} {covers : A → Prop} [DecidablePred covers] {f : A → V}

/-- A write outside an object does not touch it. -/
theorem view_write_cached_of_disjoint {o : O} (h : ∀ a, covers a → ¬ L.covers o a) :
    ((s.write covers f).view L).cached o = (s.view L).cached o := by
  refine L.read_congr o _ _ fun a ha => ?_
  rw [write_cached, if_neg fun hc => h a hc ha]

theorem view_write_dirty_of_disjoint {o : O} (h : ∀ a, covers a → ¬ L.covers o a) :
    ((s.write covers f).view L).dirty o ↔ (s.view L).dirty o := by
  constructor
  · rintro ⟨a, ha, hd | hd⟩
    · exact absurd ha (h a hd)
    · exact ⟨a, ha, hd⟩
  · rintro ⟨a, ha, hd⟩
    exact ⟨a, ha, Or.inr hd⟩

/-- A write of all of an object's cells and no others is a write of the object. -/
theorem view_write_cached_self {o : O} (h : ∀ a, L.covers o a → covers a) :
    ((s.write covers f).view L).cached o = L.read o f := by
  refine L.read_congr o _ _ fun a ha => ?_
  rw [write_cached, if_pos (h a ha)]

end Write

/-! ### Stores that differ on some cells only -/

/-- `s'` comes from `s` by writes to the cells of `P` and by flushes. -/
structure Within (P : A → Prop) (s s' : Store A V) : Prop where
  cached : ∀ a, ¬ P a → s'.cached a = s.cached a
  dirty : ∀ a, ¬ P a → s'.dirty a → s.dirty a
  durable : ∀ a, ¬ P a → ¬ s.dirty a → s'.durable a = s.durable a

namespace Within

variable {P P' : A → Prop} {s s' s'' : Store A V}

theorem refl (P : A → Prop) (s : Store A V) : Within P s s :=
  ⟨fun _ _ => rfl, fun _ _ h => h, fun _ _ _ => rfl⟩

theorem write (h : Within P s s') {covers : A → Prop} [DecidablePred covers] {f : A → V}
    (hcovers : ∀ a, covers a → P a) : Within P s (s'.write covers f) where
  cached a ha := by
    rw [write_cached, if_neg fun hc => ha (hcovers a hc)]
    exact h.cached a ha
  dirty a ha hd := by
    rcases hd with hc | hd
    · exact absurd (hcovers a hc) ha
    · exact h.dirty a ha hd
  durable a ha hc := h.durable a ha hc

theorem flush (h : Within P s s') : Within P s s'.flush where
  cached a ha := h.cached a ha
  dirty a ha hd := hd.elim
  durable a ha hc := by
    -- a clean cell is durable as it is read, before and after
    rw [flush_durable, h.cached a ha]
    exact s.coherent a hc

/-- Objects away from `P` keep their value and stay clean. -/
theorem view {L : Overlay A V O W} (h : Within P s s') {o : O} (ho : ∀ a, L.covers o a → ¬ P a)
    (hc : ¬ (s.view L).dirty o) :
    ¬ (s'.view L).dirty o ∧ (s'.view L).durable o = (s.view L).durable o := by
  constructor
  · rintro ⟨a, ha, hd⟩
    exact hc ⟨a, ha, h.dirty a (ho a ha) hd⟩
  · exact L.read_congr o _ _ fun a ha => h.durable a (ho a ha) fun hd => hc ⟨a, ha, hd⟩

end Within

end Store

end Crash
