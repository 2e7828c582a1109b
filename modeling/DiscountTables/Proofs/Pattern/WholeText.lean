import DiscountTables.Proofs.Pattern.Anchored
import DiscountTables.Proofs.Pattern.Counts
import DiscountTables.Proofs.Pattern.Enclosed

/-!
Cells as patterns for a whole text. A cell that does not reach out of the group that is put around it is a
pattern between its anchors if it is one on its own, and matches the texts that the pattern on its own matches
from the first character to the last.
-/

namespace DiscountTables.Pattern

def FitsWhole (p : Pattern) (text : String) : Prop := Spans text.toList p.node 0 text.toList.length

/-- A cell that means the same between a start and an end of text: it closes no group that it does not open,
ends in no comment, leaves room for the two levels around it, and is not about as large as a pattern can be. -/
structure SelfContained (cell : String) : Prop where
  unopened : ∀ f, Expr.read cell = .error f → f.kind ≠ .groupUnopened
  uncommented : ∀ e, Expr.read cell = .ok e → ∀ e', Expr.read (cell ++ ")") ≠ .ok e'
  shallow : ∀ e, Expr.read cell = .ok e → e.firstBeyond (nestingLimit - 2) false = none
  sized : ∀ n, Node.read cell = .ok n → n.size + 64 ≤ sizeLimit ∨ sizeLimit + 48 < n.size

lemma Node.fits_anchored {n : Node} (h : n.size + 64 ≤ sizeLimit ∨ sizeLimit + 48 < n.size) :
    n.anchored.fits = n.fits := by
  have hf := networkSize_anchored .forward n
  have hb := networkSize_anchored .backward n
  rw [Bool.eq_iff_iff, fits_iff, fits_iff]
  simp only [size] at h ⊢
  omega

namespace Expr

lemma resolve_enclosed (e : Expr) :
    e.enclosed.resolve {} = (e.resolve {}).map fun r => (r.1.anchored, {}) := by
  have hgroup : e.resolve (Flags.apply {} []) = e.resolve {} := rfl
  cases h : e.resolve {} <;> simp [enclosed, resolve, bind, Except.bind, hgroup, h] <;> rfl

lemma resolve_bare_eq_ok_iff {f : Flags} {e : Expr} {r : Node × Flags} :
    e.bare.resolve f = .ok r ↔ e.resolve f = .ok r := by
  rw [← toOption_eq_some_iff, toOption_resolve_bare, toOption_eq_some_iff]

end Expr

lemma Node.read_eq_ok_iff {text : String} {n : Node} :
    read text = .ok n ↔ ∃ e, Expr.read text = .ok e ∧ ∃ g, e.resolve {} = .ok (n, g) := by
  rw [read, bind_eq_ok]
  apply exists_congr
  intro e
  apply and_congr_right
  intro _
  rw [bind_eq_ok]
  constructor
  · rintro ⟨⟨n', g⟩, hr, hn⟩
    cases hn
    exact ⟨g, hr⟩
  · rintro ⟨g, hr⟩
    exact ⟨(n, g), hr, rfl⟩

section OfText

variable {text : String} {p : Pattern}

lemma ofText_eq_ok_iff : ofText text = .ok p ↔ p.source = text := by
  constructor
  · intro h
    rw [ofText] at h
    split at h
    · cases h
    · split at h
      · cases h
        rfl
      · cases h
  · rintro rfl
    rw [ofText]
    split
    · rename_i f hf
      cases hf.symm.trans p.read_source
    · rename_i n hn
      obtain rfl := Except.ok.inj (hn.symm.trans p.read_source)
      rw [dif_pos p.fits]

lemma exists_ofText_iff : (∃ p, ofText text = .ok p) ↔ ∃ n, Node.read text = .ok n ∧ n.fits = true := by
  constructor
  · rintro ⟨p, hp⟩
    obtain rfl := ofText_eq_ok_iff.mp hp
    exact ⟨p.node, p.read_source, p.fits⟩
  · rintro ⟨n, hn, hf⟩
    exact ⟨⟨text, n, hn, hf⟩, ofText_eq_ok_iff.mpr rfl⟩

lemma read_of_ofText (h : ofText text = .ok p) : Node.read text = .ok p.node := by
  obtain rfl := ofText_eq_ok_iff.mp h
  exact p.read_source

end OfText

namespace SelfContained

variable {cell : String}

lemma read_enclose_eq_ok_iff (h : SelfContained cell) {m : Node} :
    Node.read (enclose cell) = .ok m ↔ ∃ n, Node.read cell = .ok n ∧ m = n.anchored := by
  simp only [Node.read_eq_ok_iff]
  cases he : Expr.read cell with
  | error f =>
    have hne := Expr.read_enclose_ne_ok he (h.unopened f he)
    simp [hne]
  | ok e =>
    obtain ⟨e', he', hbare⟩ := Expr.exists_read_enclose he (h.uncommented e he) (h.shallow e he)
    have hresolve (r : Node × Flags) :
        e'.resolve {} = .ok r ↔ ∃ own, e.resolve {} = .ok own ∧ (own.1.anchored, {}) = r := by
      rw [← Expr.resolve_bare_eq_ok_iff, hbare, Expr.resolve_enclosed, map_eq_ok]
      simp only [Expr.resolve_bare_eq_ok_iff]
    constructor
    · rintro ⟨e'', he'', g, hr⟩
      obtain rfl := Except.ok.inj (he'.symm.trans he'')
      obtain ⟨⟨n, g'⟩, hn, hm⟩ := (hresolve _).mp hr
      cases hm
      exact ⟨n, ⟨e, rfl, g', hn⟩, rfl⟩
    · rintro ⟨n, ⟨e'', he'', g, hn⟩, rfl⟩
      cases he''
      exact ⟨e', he', {}, (hresolve _).mpr ⟨(n, g), hn, rfl⟩⟩

lemma exists_ofCell_iff (h : SelfContained cell) : (∃ q, ofCell cell = .ok q) ↔ ∃ p, ofText cell = .ok p := by
  have hcell : ofCell cell = ofText (enclose cell) := rfl
  rw [hcell, exists_ofText_iff, exists_ofText_iff]
  constructor
  · rintro ⟨m, hm, hf⟩
    obtain ⟨n, hn, rfl⟩ := h.read_enclose_eq_ok_iff.mp hm
    exact ⟨n, hn, by rwa [← Node.fits_anchored (h.sized n hn)]⟩
  · rintro ⟨n, hn, hf⟩
    exact ⟨n.anchored, h.read_enclose_eq_ok_iff.mpr ⟨n, hn, rfl⟩, by rwa [Node.fits_anchored (h.sized n hn)]⟩

lemma occursIn_ofCell_iff (h : SelfContained cell) {p q : Pattern} (hp : ofText cell = .ok p)
    (hq : ofCell cell = .ok q) (text : String) : q.occursIn text = true ↔ p.FitsWhole text := by
  obtain ⟨n, hn, hnode⟩ := h.read_enclose_eq_ok_iff.mp (read_of_ofText hq)
  obtain rfl := Except.ok.inj ((read_of_ofText hp).symm.trans hn)
  simp only [occursIn_iff_spans, hnode, spans_anchored_iff, FitsWhole]
  constructor
  · rintro ⟨i, j, rfl, rfl, hs⟩
    exact hs
  · intro hs
    exact ⟨0, _, rfl, rfl, hs⟩

end SelfContained

instance (cell : String) : Decidable (SelfContained cell) :=
  decidable_of_iff ((∀ f, Expr.read cell = .error f → f.kind ≠ .groupUnopened) ∧
      (∀ e, Expr.read cell = .ok e → ∀ e', Expr.read (cell ++ ")") = .ok e' → False) ∧
      (∀ e, Expr.read cell = .ok e → e.firstBeyond (nestingLimit - 2) false = none) ∧
      ∀ n, Node.read cell = .ok n → n.size + 64 ≤ sizeLimit ∨ sizeLimit + 48 < n.size)
    ⟨fun h => ⟨h.1, h.2.1, h.2.2.1, h.2.2.2⟩, fun h => ⟨h.unopened, h.uncommented, h.shallow, h.sized⟩⟩

-- A comment goes on behind the cell unless its line ends before.
example : ¬ SelfContained "(?x)NSW # note" ∧ SelfContained "(?x)NSW # note\n" := by decide +kernel

end DiscountTables.Pattern
