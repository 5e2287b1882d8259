/-
A journal of two record slots and two selector slots.

A record carries a state.  A selector names a record by its slot, its generation
and its digest, and the newest selector that decodes says which record is the
state.  A commit writes the record slot that the current selector does not name,
flushes it, writes the selector slot that is not the current one, and flushes
that.  Nothing the current state is read from is overwritten, so a power cut in
the record half leaves the old state, and one in the selector half leaves the
old state or the new one.

What is proved here is about images and stores only.  The order in which a
program writes and flushes is the program's own, and its verification meets this
file in the two crash lemmas, one for each half of a commit.
-/
import Ribon.Crash.Store

namespace Crash.TwoSlot

/-- The four objects of the journal; the slots are numbered `false` and `true`. -/
inductive Obj where
  | record (slot : Bool)
  | selector (slot : Bool)
  deriving DecidableEq, Repr

/-- How the objects of a journal are decoded and compared. -/
structure Scheme (B Rec Sel : Type) where
  decodeRecord : B → Option Rec
  decodeSelector : B → Option Sel
  /-- The newest selector is the one with the largest generation. -/
  generation : Sel → Nat
  /-- The record slot a selector names. -/
  slot : Sel → Bool
  /-- A selector names exactly this record. -/
  names : Sel → Rec → Prop
  /-- The reader refuses to choose between two such records. -/
  rival : Rec → Rec → Prop

variable {B Rec Sel : Type} {S : Scheme B Rec Sel} {img img' : Obj → B} {k k' : Bool}
  {sel sel' : Sel} {rec rec' : Rec}

/-- What the decoder of an object rejects; an object torn by a power cut ends so. -/
def Scheme.Rejects (S : Scheme B Rec Sel) : Obj → B → Prop
  | .record _, b => S.decodeRecord b = none
  | .selector _, b => S.decodeSelector b = none

/-- In `img` the selector in slot `k` is the newest one and names `rec`. -/
structure Selected (S : Scheme B Rec Sel) (img : Obj → B) (k : Bool) (sel : Sel) (rec : Rec) :
    Prop where
  selector : S.decodeSelector (img (.selector k)) = some sel
  newest : ∀ other, S.decodeSelector (img (.selector (!k))) = some other →
    S.generation other < S.generation sel
  record : S.decodeRecord (img (.record (S.slot sel))) = some rec
  names : S.names sel rec
  unrivalled : ∀ other, S.decodeRecord (img (.record (!S.slot sel))) = some other →
    ¬ S.rival rec other

variable (h : Selected S img k sel rec)
include h

/-- **An image selects at most one state.** -/
theorem Selected.unique (h' : Selected S img k' sel' rec') : k = k' ∧ sel = sel' ∧ rec = rec' := by
  have hk : k = k' := by
    by_contra hne
    have hk' : k' = !k := by cases k <;> cases k' <;> simp_all
    subst hk'
    have h₁ := h.newest sel' h'.selector
    have h₂ := h'.newest sel (by simpa using h.selector)
    omega
  subst hk
  have hsel : sel = sel' := Option.some.inj (h.selector.symm.trans h'.selector)
  subst hsel
  exact ⟨rfl, rfl, Option.some.inj (h.record.symm.trans h'.record)⟩

/-! ### What a change of one object does -/

/-- The record slot that is not named may hold anything that does not rival the named one. -/
theorem Selected.of_spare_record (hsel : ∀ j, img' (.selector j) = img (.selector j))
    (hrec : img' (.record (S.slot sel)) = img (.record (S.slot sel)))
    (hother : ∀ other, S.decodeRecord (img' (.record (!S.slot sel))) = some other →
      ¬ S.rival rec other) :
    Selected S img' k sel rec where
  selector := by rw [hsel]; exact h.selector
  newest := by rw [hsel]; exact h.newest
  record := by rw [hrec]; exact h.record
  names := h.names
  unrivalled := hother

/-- The selector slot that is not current may hold anything older, or nothing. -/
theorem Selected.of_spare_selector (hsel : img' (.selector k) = img (.selector k))
    (hrec : ∀ j, img' (.record j) = img (.record j))
    (hother : ∀ other, S.decodeSelector (img' (.selector (!k))) = some other →
      S.generation other < S.generation sel) :
    Selected S img' k sel rec where
  selector := by rw [hsel]; exact h.selector
  newest := hother
  record := by rw [hrec]; exact h.record
  names := h.names
  unrivalled := by rw [hrec]; exact h.unrivalled

omit h

/-! ### Commits -/

/-- The bytes of the next record and selector, ready to be written over a selected state. -/
structure Successor (S : Scheme B Rec Sel) (sel : Sel) (rec : Rec) (recordBytes selectorBytes : B)
    (sel' : Sel) (rec' : Rec) : Prop where
  record : S.decodeRecord recordBytes = some rec'
  /-- The selector decodes as meant; where it cannot, the commit has no effect. -/
  selector : ∀ other, S.decodeSelector selectorBytes = some other → other = sel'
  slot : S.slot sel' = !S.slot sel
  newer : S.generation sel < S.generation sel'
  names : S.names sel' rec'
  apart : ¬ S.rival rec rec' ∧ ¬ S.rival rec' rec

variable {st : Store Obj B} {rb sb : B}

variable (c : Successor S sel rec rb sb sel' rec')
include c

/-- With the next record in its slot, the old state is still selected. -/
theorem Successor.selected_record (h : Selected S img k sel rec)
    (hsel : ∀ j, img' (.selector j) = img (.selector j))
    (hrec : img' (.record (S.slot sel)) = img (.record (S.slot sel)))
    (hnew : img' (.record (!S.slot sel)) = rb) : Selected S img' k sel rec := by
  refine h.of_spare_record hsel hrec fun other ho => ?_
  rw [hnew, c.record] at ho
  obtain rfl := Option.some.inj ho
  exact c.apart.1

/-- With the next selector in its slot too, the new state is selected. -/
theorem Successor.selected_selector (h : Selected S img k sel rec)
    (hrb : img (.record (!S.slot sel)) = rb) (hsel : img' (.selector k) = img (.selector k))
    (hrec : ∀ j, img' (.record j) = img (.record j))
    (hnew : S.decodeSelector (img' (.selector (!k))) = some sel') :
    Selected S img' (!k) sel' rec' where
  selector := hnew
  newest := by
    intro other ho
    rw [Bool.not_not, hsel, h.selector] at ho
    obtain rfl := Option.some.inj ho
    exact c.newer
  record := by rw [hrec, c.slot, hrb]; exact c.record
  names := c.names
  unrivalled := by
    intro other ho
    rw [hrec, c.slot, Bool.not_not, h.record] at ho
    obtain rfl := Option.some.inj ho
    exact c.apart.2

/-- **A power cut while the record is in the cache leaves the old state.** -/
theorem Successor.crash_record (h : Selected S st.durable k sel rec)
    (hdirty : ∀ o, st.dirty o → o = .record (!S.slot sel))
    (hcached : st.cached (.record (!S.slot sel)) = rb) (hcrash : st.CrashTo S.Rejects img) :
    Selected S img k sel rec := by
  refine h.of_spare_record (fun j => hcrash.of_clean fun hd => by simpa using hdirty _ hd)
    (hcrash.of_clean fun hd => by simpa using hdirty _ hd) fun other ho => ?_
  -- the one object that was in flight: as it was, as it was written, or torn
  rcases hcrash (.record (!S.slot sel)) with hold | ⟨_, hnew | htorn⟩
  · rw [hold] at ho
    exact h.unrivalled other ho
  · rw [hnew, hcached, c.record] at ho
    obtain rfl := Option.some.inj ho
    exact c.apart.1
  · rw [show S.decodeRecord _ = none from htorn] at ho
    simp at ho

/-- **A power cut while the selector is in the cache leaves the old state or the new one.** -/
theorem Successor.crash_selector (h : Selected S st.durable k sel rec)
    (hrb : st.durable (.record (!S.slot sel)) = rb) (hdirty : ∀ o, st.dirty o → o = .selector (!k))
    (hcached : st.cached (.selector (!k)) = sb) (hcrash : st.CrashTo S.Rejects img) :
    Selected S img k sel rec ∨ Selected S img (!k) sel' rec' := by
  have hsel : img (.selector k) = st.durable (.selector k) :=
    hcrash.of_clean fun hd => by simpa using hdirty _ hd
  have hrec : ∀ j, img (.record j) = st.durable (.record j) := fun j =>
    hcrash.of_clean fun hd => by simpa using hdirty _ hd
  by_cases hnew : S.decodeSelector (img (.selector (!k))) = some sel'
  · exact Or.inr (c.selected_selector h hrb hsel hrec hnew)
  refine Or.inl (h.of_spare_selector hsel hrec fun other ho => ?_)
  rcases hcrash (.selector (!k)) with hold | ⟨_, hwritten | htorn⟩
  · rw [hold] at ho
    exact h.newest other ho
  · rw [hwritten, hcached] at ho
    obtain rfl := c.selector other ho
    rw [hwritten, hcached] at hnew
    exact absurd ho hnew
  · rw [show S.decodeSelector _ = none from htorn] at ho
    simp at ho

end Crash.TwoSlot
