/-
Ranges of addresses with labels, and their normal form.

A list of pieces says for each address which label it has, if it has one.  Pieces that are
sorted, disjoint and as long as they can be are a normal form: a list like that is known from
what it says about the addresses.
-/
import Mathlib.Order.Interval.Set.Disjoint

namespace Intervals

variable {A L : Type}

/-- The addresses from `lo` on and before `hi`, under one label. -/
structure Piece (A L : Type) where
  lo : A
  hi : A
  label : L
  deriving DecidableEq

/-- One of the pieces has the address, under the label. -/
def Labels [LE A] [LT A] (pieces : List (Piece A L)) (a : A) (label : L) : Prop :=
  ∃ p ∈ pieces, p.lo ≤ a ∧ a < p.hi ∧ p.label = label

section Canonical

variable [LinearOrder A]

/-- A piece stands before another one, and the two could not be one piece. -/
def Piece.Before (p q : Piece A L) : Prop := p.hi < q.lo ∨ p.hi = q.lo ∧ p.label ≠ q.label

/-- The normal form. -/
structure Canonical (pieces : List (Piece A L)) : Prop where
  proper : ∀ p ∈ pieces, p.lo < p.hi
  apart : pieces.Pairwise Piece.Before

variable {p q : Piece A L} {ps qs : List (Piece A L)}

theorem Piece.Before.le (h : p.Before q) : p.hi ≤ q.lo := by
  rcases h with hlt | ⟨heq, _⟩
  · exact hlt.le
  · exact heq.le

variable (h : Canonical (p :: ps))
include h

theorem Canonical.tail : Canonical ps :=
  ⟨fun q hq => h.proper q (List.mem_cons_of_mem p hq), (List.pairwise_cons.mp h.apart).2⟩

/-- No label is found before the first piece. -/
theorem Canonical.lo_le {a : A} {l : L} (ha : Labels (p :: ps) a l) : p.lo ≤ a := by
  obtain ⟨q, hq, hlo, -, -⟩ := ha
  rcases List.mem_cons.mp hq with hhead | htail
  · rwa [hhead] at hlo
  · have hbefore := (List.pairwise_cons.mp h.apart).1 q htail
    exact ((h.proper p (by simp)).le.trans hbefore.le).trans hlo

/-- From the end of the first piece on, the others are what is left. -/
theorem Canonical.labels_tail {a : A} {l : L} :
    Labels ps a l ↔ Labels (p :: ps) a l ∧ p.hi ≤ a := by
  constructor
  · intro ha
    obtain ⟨q, hq, hlo, hhi, hl⟩ := ha
    exact ⟨⟨q, List.mem_cons_of_mem p hq, hlo, hhi, hl⟩,
      ((List.pairwise_cons.mp h.apart).1 q hq).le.trans hlo⟩
  · intro ha
    obtain ⟨⟨q, hq, hlo, hhi, hl⟩, hafter⟩ := ha
    rcases List.mem_cons.mp hq with hhead | htail
    · rw [hhead] at hhi
      exact absurd hhi (not_lt.mpr hafter)
    · exact ⟨q, htail, hlo, hhi, hl⟩

/-- The label of the first piece ends with it. -/
theorem Canonical.ends : ¬ Labels (p :: ps) p.hi p.label := by
  intro ha
  obtain ⟨q, hq, hlo, -, hl⟩ := h.labels_tail.mpr ⟨ha, le_rfl⟩
  rcases (List.pairwise_cons.mp h.apart).1 q hq with hgap | ⟨-, hother⟩
  · exact absurd hlo (not_le.mpr hgap)
  · exact hother hl.symm

omit h

theorem Canonical.head_le (hp : Canonical (p :: ps)) (hq : Canonical (q :: qs))
    (hsame : ∀ a l, Labels (p :: ps) a l ↔ Labels (q :: qs) a l) :
    q.lo ≤ p.lo ∧ (p.lo = q.lo → p.label = q.label ∧ p.hi ≤ q.hi) := by
  have hproper := hp.proper p (by simp)
  have hstart : Labels (p :: ps) p.lo p.label := ⟨p, by simp, le_rfl, hproper, rfl⟩
  refine ⟨hq.lo_le ((hsame _ _).mp hstart), fun hlo => ?_⟩
  have hlabel : p.label = q.label := by
    -- the first address is in the first piece of both lists
    obtain ⟨r, hr, hrlo, -, hrl⟩ := (hsame _ _).mp hstart
    rcases List.mem_cons.mp hr with hhead | htail
    · rw [← hrl, hhead]
    · have hbefore := ((List.pairwise_cons.mp hq.apart).1 r htail).le
      have hend := hq.proper q (by simp)
      exact absurd (hend.trans_le (hbefore.trans (hrlo.trans hlo.le))) (lt_irrefl _)
  refine ⟨hlabel, ?_⟩
  by_contra hlonger
  rw [not_le] at hlonger
  refine hq.ends ((hsame _ _).mp ⟨p, by simp, ?_, hlonger, hlabel⟩)
  exact hlo.le.trans (hq.proper q (by simp)).le

/-- **A normal form is known from the labels.** -/
theorem Canonical.unique (hp : Canonical ps) (hq : Canonical qs)
    (hsame : ∀ a l, Labels ps a l ↔ Labels qs a l) : ps = qs := by
  induction ps generalizing qs with
  | nil =>
      cases qs with
      | nil => rfl
      | cons q qs =>
          obtain ⟨r, hr, -⟩ := (hsame q.lo q.label).mpr
            ⟨q, by simp, le_rfl, hq.proper q (by simp), rfl⟩
          simp at hr
  | cons p ps ih =>
      cases qs with
      | nil =>
          obtain ⟨r, hr, -⟩ := (hsame p.lo p.label).mp
            ⟨p, by simp, le_rfl, hp.proper p (by simp), rfl⟩
          simp at hr
      | cons q qs =>
          obtain ⟨hle, hrest⟩ := hp.head_le hq hsame
          obtain ⟨hge, hrest'⟩ := hq.head_le hp fun a l => (hsame a l).symm
          have hlo := le_antisymm hge hle
          obtain ⟨hlabel, hhi⟩ := hrest hlo
          obtain ⟨-, hhi'⟩ := hrest' hlo.symm
          have hhead : p = q := by
            obtain ⟨plo, phi, pl⟩ := p
            obtain ⟨qlo, qhi, ql⟩ := q
            simp only [Piece.mk.injEq]
            exact ⟨hlo, le_antisymm hhi hhi', hlabel⟩
          subst hhead
          rw [ih hp.tail hq.tail fun a l => ?_]
          rw [hp.labels_tail, hq.labels_tail, hsame]

end Canonical

/-! ### Growing a normal form -/

section Grow

variable [LinearOrder A] {p q : Piece A L} {ps qs : List (Piece A L)}

theorem labels_append {a : A} {l : L} :
    Labels (ps ++ qs) a l ↔ Labels ps a l ∨ Labels qs a l := by
  simp only [Labels, List.mem_append, or_and_right, exists_or]

theorem labels_cons {a : A} {l : L} : Labels (p :: ps) a l ↔ Labels [p] a l ∨ Labels ps a l :=
  @labels_append _ _ _ [p] _ _ _

theorem labels_perm (h : ps.Perm qs) {a : A} {l : L} : Labels ps a l ↔ Labels qs a l := by
  simp only [Labels, h.mem_iff]

theorem Canonical.sublist (h : Canonical ps) (hsub : qs.Sublist ps) : Canonical qs :=
  ⟨fun p hp => h.proper p (hsub.subset hp), h.apart.sublist hsub⟩

/-- A piece between others. -/
theorem canonical_put : Canonical (ps ++ p :: qs) ↔
    Canonical (ps ++ qs) ∧ p.lo < p.hi ∧ (∀ r ∈ ps, r.Before p) ∧ ∀ r ∈ qs, p.Before r := by
  constructor
  · intro h
    obtain ⟨-, hrest, hbefore⟩ := List.pairwise_append.mp h.apart
    exact ⟨h.sublist ((List.sublist_cons_self _ _).append_left _), h.proper p (by simp),
      fun r hr => hbefore r hr p (by simp), (List.pairwise_cons.mp hrest).1⟩
  · rintro ⟨h, hp, hbefore, hafter⟩
    obtain ⟨hps, hqs, hacross⟩ := List.pairwise_append.mp h.apart
    refine ⟨?_, List.pairwise_append.mpr ⟨hps, List.pairwise_cons.mpr ⟨hafter, hqs⟩, ?_⟩⟩
    · intro r hr
      rcases List.mem_cons.mp (List.perm_middle.mem_iff.mp hr) with hnew | hold
      · rwa [hnew]
      · exact h.proper r hold
    · intro r hr
      exact List.forall_mem_cons.mpr ⟨hbefore r hr, hacross r hr⟩

theorem canonical_snoc :
    Canonical (ps ++ [p]) ↔ Canonical ps ∧ p.lo < p.hi ∧ ∀ r ∈ ps, r.Before p := by
  rw [canonical_put, List.append_nil]
  simp

/-- One piece more, behind the last one. -/
theorem Canonical.snoc (h : Canonical (ps ++ [p])) (hbefore : p.Before q) (hq : q.lo < q.hi) :
    Canonical (ps ++ [p] ++ [q]) := by
  refine canonical_snoc.mpr ⟨h, hq, fun r hr => ?_⟩
  obtain ⟨-, hp, hlast⟩ := canonical_snoc.mp h
  rcases List.mem_append.mp hr with hold | hnew
  · -- the last piece lies between the two
    exact Or.inl (((hlast r hold).le.trans_lt hp).trans_le hbefore.le)
  · rw [List.mem_singleton.mp hnew]
    exact hbefore

/-- The last piece made longer. -/
theorem Canonical.extend (h : Canonical (ps ++ [p])) {hi : A} (hhi : p.hi ≤ hi) :
    Canonical (ps ++ [⟨p.lo, hi, p.label⟩]) := by
  obtain ⟨hps, hp, hlast⟩ := canonical_snoc.mp h
  exact canonical_snoc.mpr ⟨hps, hp.trans_le hhi, hlast⟩

/-- What a piece becomes that reaches another one and takes it. -/
theorem labels_merge (hlo : p.lo ≤ q.lo) (hreach : q.lo ≤ p.hi) (hlabel : p.label = q.label)
    {a : A} {l : L} :
    Labels [⟨p.lo, max p.hi q.hi, p.label⟩] a l ↔ Labels [p, q] a l := by
  simp only [Labels, List.mem_cons, List.not_mem_nil, or_false, exists_eq_left, exists_eq_or_imp,
    lt_max_iff, ← hlabel]
  constructor
  · rintro ⟨hstart, hend, hl⟩
    rcases lt_or_ge a p.hi with hfirst | hsnd
    · exact Or.inl ⟨hstart, hfirst, hl⟩
    · exact Or.inr ⟨hreach.trans hsnd, hend.resolve_left (not_lt.mpr hsnd), hl⟩
  · rintro (⟨hstart, hend, hl⟩ | ⟨hstart, hend, hl⟩)
    · exact ⟨hstart, Or.inl hend, hl⟩
    · exact ⟨hlo.trans hstart, Or.inr hend, hl⟩

/-- What a piece and the one right behind it become. -/
theorem labels_joined (hp : p.lo ≤ p.hi) (hq : q.lo ≤ q.hi) (htouch : p.hi = q.lo)
    (hlabel : p.label = q.label) {a : A} {l : L} :
    Labels [⟨p.lo, q.hi, p.label⟩] a l ↔ Labels [p, q] a l := by
  rw [← labels_merge (hp.trans htouch.le) htouch.ge hlabel, max_eq_right (htouch.le.trans hq)]

/-- A piece that ends at `hi` takes the pieces that it reaches, one after the other, and all of
them have the label. -/
def Agrees (label : L) : A → List (Piece A L) → Prop
  | _, [] => True
  | hi, p :: ps => p.lo ≤ hi → p.label = label ∧ Agrees label (max hi p.hi) ps

end Grow

/-! ### Insertion -/

section Insertion

variable {V : Type} {R : V → V → Prop} {p : V → Bool} {v : V} {values : List V}

theorem perm_insert (p : V → Bool) (v : V) (values : List V) :
    (values.takeWhile p ++ v :: values.dropWhile p).Perm (v :: values) := by
  refine List.perm_middle.trans ?_
  rw [List.takeWhile_append_dropWhile]

/-- A value goes behind those that may stand before it. -/
theorem pairwise_insert (htrans : ∀ x y z, R x y → R y z → R x z) (hyes : ∀ x, p x = true → R x v)
    (hno : ∀ x, p x = false → R v x) (h : values.Pairwise R) :
    (values.takeWhile p ++ v :: values.dropWhile p).Pairwise R := by
  induction values with
  | nil => simp
  | cons x values ih =>
      obtain ⟨hfirst, hrest⟩ := List.pairwise_cons.mp h
      cases hp : p x with
      | true =>
          simp only [List.takeWhile_cons, List.dropWhile_cons, hp, if_true, List.cons_append]
          refine List.pairwise_cons.mpr ⟨fun y hy => ?_, ih hrest⟩
          rcases List.mem_cons.mp ((perm_insert p v values).mem_iff.mp hy) with hnew | hold
          · rw [hnew]
            exact hyes x hp
          · exact hfirst y hold
      | false =>
          simp only [List.takeWhile_cons, List.dropWhile_cons, hp, Bool.false_eq_true, if_false,
            List.nil_append]
          refine List.pairwise_cons.mpr ⟨fun y hy => ?_, h⟩
          rcases List.mem_cons.mp hy with hhead | htail
          · rw [hhead]
            exact hno x hp
          · exact htrans _ _ _ (hno x hp) (hfirst y htail)

/-- Values that are put at their places one after the other. -/
theorem foldl_insert {before : V → V → Bool} (htrans : ∀ x y z, R x y → R y z → R x z)
    (hyes : ∀ x v, before x v = true → R x v) (hno : ∀ x v, before x v = false → R v x)
    (source : List V) (h : values.Pairwise R) :
    (source.foldl (fun vs v => vs.takeWhile (before · v) ++ v :: vs.dropWhile (before · v))
        values).Perm (source ++ values) ∧
      (source.foldl (fun vs v => vs.takeWhile (before · v) ++ v :: vs.dropWhile (before · v))
        values).Pairwise R := by
  induction source generalizing values with
  | nil => exact ⟨.refl _, h⟩
  | cons v source ih =>
      obtain ⟨hperm, hsorted⟩ := ih (pairwise_insert htrans (hyes · v) (hno · v) h)
      exact ⟨hperm.trans (((perm_insert _ v values).append_left source).trans List.perm_middle),
        hsorted⟩

end Insertion

end Intervals
