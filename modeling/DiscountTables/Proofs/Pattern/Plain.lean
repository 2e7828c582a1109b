import DiscountTables.Proofs.Pattern.WholeText

namespace DiscountTables.Pattern

def metacharacters : List Char := ['(', ')', '|', '[', '?', '*', '+', '\x7b', '.', '^', '$', '\\']

def IsPlain (s : List Char) : Prop := ∀ c ∈ s, c ∉ metacharacters

def Node.word : List Char → Node
  | [] => .empty
  | [c] => .set (.single c)
  | c :: d :: rest => .sequence (.set (.single c)) (word (d :: rest))

namespace Expr

def spelling (span : Span) (literals : List Literal) : Expr := ofParts span (literals.map Expr.literal).reverse

lemma spelling_cons (span : Span) (l l' : Literal) (rest : List Literal) :
    spelling span (l :: l' :: rest) = .sequence span (.literal l) (spelling span (l' :: rest)) := by
  simp only [spelling, List.map_cons, List.reverse_cons]
  generalize (rest.map Expr.literal).reverse = parts
  cases parts <;> simp [ofParts]

lemma resolve_spelling (span : Span) (literals : List Literal) :
    (spelling span literals).resolve {} = .ok (Node.word (literals.map Literal.char), {}) := by
  induction literals with
  | nil => rfl
  | cons l rest ih =>
    cases rest with
    | nil => rfl
    | cons l' rest =>
      have hl : resolve {} (.literal l) = .ok (.set (.single l.char), {}) := rfl
      simp only [spelling_cons, resolve.eq_9, hl, bind, Except.bind, ih]
      rfl

lemma firstBeyond_spelling (span : Span) (literals : List Literal) (room : ℕ) :
    (spelling span literals).firstBeyond room true = none := by
  induction literals with
  | nil => rfl
  | cons l rest ih =>
    cases rest with
    | nil => rfl
    | cons l' rest =>
      rw [spelling_cons, firstBeyond, ih]
      rfl

lemma firstBeyond_succ_spelling (span : Span) (literals : List Literal) (room : ℕ) :
    (spelling span literals).firstBeyond (room + 1) false = none := by
  match literals with
  | [] => rfl
  | [l] => rfl
  | l :: l' :: rest =>
    rw [spelling_cons, firstBeyond, firstBeyond_spelling]
    rfl

end Expr

namespace Progress

variable {p : Progress} {c : Char} {cs before rest : List Char}

structure Spelled (p : Progress) (cs : List Char) : Prop where
  outer : p.outer = []
  verbose : p.verbose = false
  branches : p.content.branches = []
  parts : ∃ literals : List Literal, p.content.parts = (literals.map Expr.literal).reverse ∧
    literals.map Literal.char = cs

lemma step_plain (hc : c ∉ metacharacters) (hrest : p.cursor.rest = c :: rest) :
    p.step c = .ok (p.push (.literal ⟨c, false, p.cursor.charSpan⟩) p.cursor.next) := by
  have hitem : plainItem p.verbose p.cursor = .ok (.literal ⟨c, false, p.cursor.charSpan⟩, p.cursor.next) := by
    rw [plainItem, hrest]
    split
    · simp_all [metacharacters]
    · simp_all
    · simp_all
  rw [step, hitem]
  · rfl
  all_goals
    rintro rfl
    simp [metacharacters] at hc

lemma Spelled.push (h : p.Spelled cs) (l : Literal) (after : Cursor) :
    (p.push (.literal l) after).Spelled (cs ++ [l.char]) := by
  obtain ⟨literals, hparts, hchars⟩ := h.parts
  refine ⟨h.outer, h.verbose, h.branches, literals ++ [l], ?_, by simp [hchars]⟩
  simp [Progress.push, Content.push, hparts]

lemma run_cons (hv : p.verbose = false) (hrest : p.cursor.rest = c :: rest) (n : ℕ) :
    run (n + 1) p = p.step c >>= run n := by
  obtain ⟨outer, content, verbose, names, cursor⟩ := p
  subst hv
  have hrest : cursor.rest = c :: rest := hrest
  simp only [run, Cursor.skip, Bool.false_eq_true, if_false]
  split
  · rename_i hnil
    cases hrest.symm.trans hnil
  · rename_i hcons
    cases hrest.symm.trans hcons
    rfl

lemma Spelled.run (h : p.Spelled before) (hs : IsPlain cs) (hrest : p.cursor.rest = cs ++ rest) (n : ℕ) :
    ∃ q : Progress, run (n + cs.length) p = run n q ∧ q.Spelled (before ++ cs) ∧ q.cursor.rest = rest := by
  induction cs generalizing p before with
  | nil => exact ⟨p, rfl, by simpa using h, hrest⟩
  | cons c cs ih =>
    -- A plain character is one step, and takes one unit of the bound.
    obtain ⟨hc, hs⟩ := List.forall_mem_cons.mp hs
    have hnext : p.cursor.next.rest = cs ++ rest := by rw [Cursor.rest_next, hrest, List.cons_append, List.tail_cons]
    obtain ⟨q, hq, hspelled, hqrest⟩ := ih (h.push ⟨c, false, p.cursor.charSpan⟩ p.cursor.next) hs hnext
    refine ⟨q, ?_, by simpa using hspelled, hqrest⟩
    rw [List.length_cons, ← Nat.add_assoc, run_cons h.verbose hrest, step_plain hc hrest]
    exact hq

lemma Spelled.finish (h : p.Spelled cs) : ∃ span literals, literals.map Literal.char = cs ∧
    p.finish = .ok (Expr.spelling span literals) := by
  obtain ⟨literals, hparts, hchars⟩ := h.parts
  refine ⟨⟨p.content.current, p.cursor.place⟩, literals, hchars, ?_⟩
  have he : p.content.toExpr p.cursor.place = Expr.spelling ⟨p.content.current, p.cursor.place⟩ literals := by
    rw [Content.toExpr, Content.branch, h.branches, hparts]
    rfl
  simp only [Progress.finish, h.outer, he]
  rw [show nestingLimit = 249 + 1 from rfl, Expr.firstBeyond_succ_spelling]

end Progress

open Progress

variable {text : String}

lemma spelled_start (c : Cursor) : (Progress.start c).Spelled [] := ⟨rfl, rfl, rfl, [], rfl, rfl⟩

lemma exists_read_plain (h : IsPlain text.toList) : ∃ span literals,
    literals.map Literal.char = text.toList ∧ Expr.read text = .ok (Expr.spelling span literals) := by
  obtain ⟨q, hq, hspelled, hrest⟩ := (spelled_start (.ofText text)).run h (List.append_nil _).symm 1
  obtain ⟨span, literals, hchars, hfinish⟩ := hspelled.finish
  refine ⟨span, literals, hchars, ?_⟩
  have hread : Expr.read text = Progress.run (1 + text.toList.length) (.start (.ofText text)) := by
    rw [Nat.add_comm]
    rfl
  rw [hread, hq, ← hfinish]
  simp only [Progress.run, hspelled.verbose, Cursor.skip, Bool.false_eq_true, if_false, hrest]
  obtain ⟨outer, content, verbose, names, cursor⟩ := q
  rfl

lemma read_plain_paren (h : IsPlain text.toList) (e : Expr) : Expr.read (text ++ ")") ≠ .ok e := by
  have htext : (text ++ ")").toList = text.toList ++ [')'] := String.toList_append
  obtain ⟨q, hq, hspelled, hrest⟩ := (spelled_start (.ofText (text ++ ")"))).run h htext 2
  have hread : Expr.read (text ++ ")") =
      Progress.run (2 + text.toList.length) (.start (.ofText (text ++ ")"))) := by
    rw [Expr.read]
    congr 1
    simp [Cursor.ofText]
    omega
  rw [hread, hq, run_cons hspelled.verbose hrest]
  -- There is no group to close.
  simp only [step, closeGroup, hspelled.outer]
  exact fun h => by cases h

lemma node_read_plain (h : IsPlain text.toList) : Node.read text = .ok (Node.word text.toList) := by
  obtain ⟨span, literals, hchars, hread⟩ := exists_read_plain h
  rw [← hchars]
  exact Node.read_eq_ok_iff.mpr ⟨_, hread, {}, Expr.resolve_spelling span literals⟩

namespace Node

lemma only?_single (c : Char) : (Unicode.CharSet.single c).only? = some c := by
  simp [Unicode.CharSet.only?, Unicode.CharSet.single]

lemma outlines_word_parts (c : Char) (cs : List Char) :
    (word (c :: cs)).outlines .parts = (c :: cs).map fun d => Outline.text [d] := by
  induction cs generalizing c with
  | nil => simp [word, outlines, Outline.ofSet, only?_single]
  | cons d cs ih => simp [word, outlines, Outline.ofSet, only?_single, ih]

lemma joinTexts_letters (c : Char) (cs : List Char) :
    Outline.joinTexts ((c :: cs).map fun d => Outline.text [d]) = [.text (c :: cs)] := by
  induction cs generalizing c with
  | nil => rfl
  | cons d cs ih =>
    rw [List.map_cons, Outline.joinTexts, ih]
    · rfl
    · simp

lemma outline_word (cs : List Char) : (word cs).outline = .text cs := by
  match cs with
  | [] => rfl
  | [c] => simp [word, outline, outlines, Outline.ofSet, only?_single]
  | c :: d :: rest =>
    have hrow : ((c :: d :: rest).map fun d => Outline.text [d]).flatMap Outline.row =
        (c :: d :: rest).map fun d => Outline.text [d] := by
      rw [List.flatMap_map]
      exact List.map_eq_flatMap.symm
    have hparts : Outline.ofParts ((c :: d :: rest).map fun d => Outline.text [d]) = .text (c :: d :: rest) := by
      rw [Outline.ofParts_eq, hrow, joinTexts_letters]
    simpa [word, outline, outlines, Outline.ofSet, only?_single, outlines_word_parts] using hparts

lemma size_word_le (cs : List Char) : (word cs).size ≤ 300 + 128 * cs.length := by
  have hlength : Text.utf8Length cs ≤ 4 * cs.length := by
    induction cs with
    | nil => simp
    | cons c cs ih =>
      have hc := c.utf8Size_le_four
      simp only [Text.utf8Length_cons, List.length_cons]
      omega
  simp only [size, outline_word, Outline.networkSize, Outline.requires, Outline.size, stateSize, forkSize, rangesSize,
    reduceCtorEq, if_false, if_true, ite_self, Bool.false_eq_true]
  omega

end Node

lemma spans_single_iff {t : List Char} {c : Char} {i j : ℕ} :
    Spans t (.set (.single c)) i j ↔ j = i + 1 ∧ t[i]? = some c := by
  constructor
  · intro h
    cases h with
    | set hc hs =>
      rw [Unicode.CharSet.contains_single, beq_iff_eq] at hs
      exact ⟨rfl, hs ▸ hc⟩
  · rintro ⟨rfl, hc⟩
    exact .set hc (by rw [Unicode.CharSet.contains_single, beq_self_eq_true])

lemma cons_prefix_drop_iff {t cs : List Char} {c : Char} {i : ℕ} :
    c :: cs <+: t.drop i ↔ t[i]? = some c ∧ cs <+: t.drop (i + 1) := by
  rcases Nat.lt_or_ge i t.length with hi | hi
  · rw [List.drop_eq_getElem_cons hi, List.cons_prefix_cons, List.getElem?_eq_getElem hi, Option.some.injEq, eq_comm]
  · simp [List.drop_of_length_le hi, List.getElem?_eq_none hi]

lemma spans_word_iff {t cs : List Char} {i j : ℕ} (hi : i ≤ t.length) :
    Spans t (Node.word cs) i j ↔ j = i + cs.length ∧ cs <+: t.drop i := by
  match cs with
  | [] =>
    simp only [Node.word, List.length_nil, Nat.add_zero, List.nil_prefix, and_true]
    constructor
    · intro h
      cases h
      rfl
    · rintro rfl
      exact .empty hi
  | [c] => simp [Node.word, spans_single_iff, cons_prefix_drop_iff]
  | c :: d :: rest =>
    rw [cons_prefix_drop_iff, Node.word]
    constructor
    · intro h
      cases h with
      | sequence hfirst hrest =>
        obtain ⟨rfl, hc⟩ := spans_single_iff.mp hfirst
        obtain ⟨hj, hrest⟩ := (spans_word_iff (List.getElem?_eq_some_iff.mp hc).1).mp hrest
        exact ⟨by simp only [List.length_cons] at hj ⊢; omega, hc, hrest⟩
    · rintro ⟨rfl, hc, hrest⟩
      refine .sequence (spans_single_iff.mpr ⟨rfl, hc⟩) ((spans_word_iff (List.getElem?_eq_some_iff.mp hc).1).mpr ?_)
      exact ⟨by simp only [List.length_cons]; omega, hrest⟩

lemma fitsWhole_word {p : Pattern} {cs : List Char} (hp : p.node = Node.word cs) (text : String) :
    p.FitsWhole text ↔ text.toList = cs := by
  rw [FitsWhole, hp, spans_word_iff (Nat.zero_le _), List.drop_zero, Nat.zero_add]
  constructor
  · rintro ⟨hlength, hbegins⟩
    exact (hbegins.eq_of_length hlength.symm).symm
  · rintro rfl
    exact ⟨rfl, List.prefix_refl _⟩

lemma selfContained_plain (h : IsPlain text.toList) (hl : text.toList.length ≤ 1000) : SelfContained text := by
  obtain ⟨span, literals, -, hread⟩ := exists_read_plain h
  refine ⟨?_, fun _ _ => read_plain_paren h, ?_, ?_⟩
  · intro f hf
    cases hread.symm.trans hf
  · intro e he
    cases hread.symm.trans he
    exact Expr.firstBeyond_succ_spelling span literals 247
  · intro n hn
    cases (node_read_plain h).symm.trans hn
    have hsize := Node.size_word_le text.toList
    rw [sizeLimit]
    omega

lemma exists_ofCell_plain (h : IsPlain text.toList) (hl : text.toList.length ≤ 1000) :
    ∃ q, ofCell text = .ok q ∧ ∀ s, q.occursIn s = (s == text) := by
  have hself := selfContained_plain h hl
  have hfits : (Node.word text.toList).fits = true := by
    have hsize := Node.size_word_le text.toList
    rw [Node.fits_iff, sizeLimit]
    omega
  obtain ⟨p, hp⟩ := exists_ofText_iff.mpr ⟨_, node_read_plain h, hfits⟩
  obtain ⟨q, hq⟩ := hself.exists_ofCell_iff.mpr ⟨p, hp⟩
  have hnode : p.node = Node.word text.toList :=
    Except.ok.inj ((read_of_ofText hp).symm.trans (node_read_plain h))
  refine ⟨q, hq, fun s => ?_⟩
  rw [Bool.eq_iff_iff, hself.occursIn_ofCell_iff hp hq, fitsWhole_word hnode, String.toList_inj, beq_iff_eq]

end DiscountTables.Pattern
