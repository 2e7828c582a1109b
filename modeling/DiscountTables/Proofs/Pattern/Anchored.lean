import DiscountTables.Pattern.Size
import Mathlib.Tactic

namespace DiscountTables.Pattern

def Node.anchored (n : Node) : Node :=
  .sequence (.look .start) (.sequence (.group false n) (.look .finish))

lemma spans_start_iff {t : List Char} {i j : ℕ} : Spans t (.look .start) i j ↔ i = 0 ∧ j = 0 := by
  constructor
  · intro h
    cases h with
    | look hi hl =>
      by_contra hn
      have hpos : 0 < i := by omega
      have hlt : i - 1 < t.length := by omega
      simp [Look.holds, charBefore, hpos.ne', hlt] at hl
  · rintro ⟨rfl, rfl⟩
    exact .look (Nat.zero_le _) rfl

lemma spans_finish_iff {t : List Char} {i j : ℕ} :
    Spans t (.look .finish) i j ↔ i = t.length ∧ j = t.length := by
  constructor
  · intro h
    cases h with
    | look hi hl =>
      simp only [Look.holds, Option.isNone_iff_eq_none, List.getElem?_eq_none_iff] at hl
      omega
  · rintro ⟨rfl, rfl⟩
    exact .look le_rfl (by simp [Look.holds])

lemma spans_between_iff {t : List Char} {n : Node} {i j : ℕ} :
    Spans t (.sequence (.look .start) (.sequence n (.look .finish))) i j ↔
      i = 0 ∧ j = t.length ∧ Spans t n 0 t.length := by
  constructor
  · intro h
    cases h with
    | sequence hstart h =>
      obtain ⟨rfl, rfl⟩ := spans_start_iff.mp hstart
      cases h with
      | sequence hn hfinish =>
        obtain ⟨rfl, rfl⟩ := spans_finish_iff.mp hfinish
        exact ⟨rfl, rfl, hn⟩
  · rintro ⟨rfl, rfl, hn⟩
    exact .sequence (spans_start_iff.mpr ⟨rfl, rfl⟩) (.sequence hn (spans_finish_iff.mpr ⟨rfl, rfl⟩))

lemma spans_group_iff {t : List Char} {captures : Bool} {n : Node} {i j : ℕ} :
    Spans t (.group captures n) i j ↔ Spans t n i j := by
  constructor
  · rintro ⟨⟩
    assumption
  · exact .group

lemma spans_anchored_iff {t : List Char} {n : Node} {i j : ℕ} :
    Spans t n.anchored i j ↔ i = 0 ∧ j = t.length ∧ Spans t n 0 t.length := by
  rw [Node.anchored, spans_between_iff, spans_group_iff]

namespace Outline

inductive Tidy : Outline → Prop
  | text (cs : List Char) : Tidy (.text cs)
  | set (s : Unicode.CharSet) : Tidy (.set s)
  | look (l : Look) : Tidy (.look l)
  | group (body : Outline) : Tidy (.group body)
  | repetition (count : Count) (body : Outline) : Tidy (.repetition count body)
  | sequence {parts : List Outline} (hp : ∀ p ∈ parts, Tidy p) (hn : nothing ∉ parts) :
      Tidy (.sequence parts)
  | choice {branches : List Outline} (hb : ∀ b ∈ branches, Tidy b) : Tidy (.choice branches)

def row : Outline → List Outline
  | .sequence parts => parts
  | o => [o]

def branches : Outline → List Outline
  | .choice branches => branches
  | o => [o]

lemma nothing_notMem_joinTexts (parts : List Outline) : nothing ∉ joinTexts parts := by
  fun_induction joinTexts parts with
  | case5 p rest hp _ ih => exact List.not_mem_cons_of_ne_of_not_mem (fun h => hp h.symm) ih
  | _ => simp_all [nothing]

lemma tidy_joinTexts {parts : List Outline} (h : ∀ p ∈ parts, p.Tidy) : ∀ p ∈ joinTexts parts, p.Tidy := by
  fun_induction joinTexts parts with
  | case1 => simp
  | case2 rest ih => exact ih (List.forall_mem_cons.mp h).2
  | case3 cs rest _ ds more hrest ih =>
    have hrest := hrest ▸ ih (List.forall_mem_cons.mp h).2
    exact List.forall_mem_cons.mpr ⟨.text _, (List.forall_mem_cons.mp hrest).2⟩
  | case4 cs rest _ _ ih => exact List.forall_mem_cons.mpr ⟨.text _, ih (List.forall_mem_cons.mp h).2⟩
  | case5 p rest _ _ ih =>
    obtain ⟨hp, hrest⟩ := List.forall_mem_cons.mp h
    exact List.forall_mem_cons.mpr ⟨hp, ih hrest⟩

lemma Tidy.row {o : Outline} (h : o.Tidy) : ∀ p ∈ o.row, p.Tidy := by
  cases h with
  | sequence hp _ => exact hp
  | choice hb => exact List.forall_mem_singleton.mpr (.choice hb)
  | _ => exact List.forall_mem_singleton.mpr (by constructor)

lemma Tidy.branches {o : Outline} (h : o.Tidy) : ∀ b ∈ o.branches, b.Tidy := by
  cases h with
  | choice hb => exact hb
  | sequence hp hn => exact List.forall_mem_singleton.mpr (.sequence hp hn)
  | _ => exact List.forall_mem_singleton.mpr (by constructor)

lemma ofParts_eq (parts : List Outline) : ofParts parts =
    match joinTexts (parts.flatMap row) with
    | [] => nothing
    | [p] => p
    | ps => .sequence ps := rfl

lemma tidy_ofParts {parts : List Outline} (h : ∀ p ∈ parts, p.Tidy) : (ofParts parts).Tidy := by
  have hrow : ∀ p ∈ parts.flatMap row, p.Tidy := by
    intro p hp
    obtain ⟨o, ho, hp⟩ := List.mem_flatMap.mp hp
    exact (h o ho).row p hp
  have hjoined := tidy_joinTexts hrow
  rw [ofParts_eq]
  split
  · exact .text []
  · rename_i p hp
    exact hjoined p (hp ▸ List.mem_singleton_self p)
  · exact .sequence hjoined (nothing_notMem_joinTexts _)

lemma tidy_ofSet (s : Unicode.CharSet) : (ofSet s).Tidy := by
  rw [ofSet]
  split
  · exact .text _
  · exact .set s

lemma tidy_repeated (count : Count) {body : Outline} (h : body.Tidy) : (repeated count body).Tidy := by
  have hall (c : Count) : (if c = ⟨0, some 0⟩ then nothing else if c = ⟨1, some 1⟩ then body
      else .repetition c body).Tidy := by
    split
    · exact .text []
    · split
      · exact h
      · exact .repetition c body
  exact hall _

lemma Tidy.parts {o : Outline} (h : o.Tidy) : ∀ p ∈ o.parts?.getD [], p.Tidy := by
  cases h with
  | sequence hp _ => exact hp
  | _ => simp [parts?]

lemma tidy_headD {os : List Outline} (h : ∀ o ∈ os, o.Tidy) : (os.headD nothing).Tidy := by
  cases os with
  | nil => exact .text []
  | cons o os => exact h o List.mem_cons_self

lemma ofBranches_succ (fuel : ℕ) (bs : List Outline) : ofBranches (fuel + 1) bs =
    match bs.flatMap branches with
    | [] => .set .empty
    | [b] => b
    | bs =>
      match bs.mapM toSet? with
      | some sets => ofSet (.unions sets)
      | none =>
        match sharedParts bs with
        | 0 => .choice bs
        | n =>
          ofParts (((bs.headD nothing).parts?.getD []).take n ++
            [ofBranches fuel (bs.map fun b => ofParts ((b.parts?.getD []).drop n))]) := rfl

lemma tidy_ofBranches (fuel : ℕ) {branches : List Outline} (h : ∀ b ∈ branches, b.Tidy) :
    (ofBranches fuel branches).Tidy := by
  induction fuel generalizing branches with
  | zero => exact .choice h
  | succ fuel ih =>
    have hflat : ∀ b ∈ branches.flatMap Outline.branches, b.Tidy := by
      intro b hb
      obtain ⟨o, ho, hb⟩ := List.mem_flatMap.mp hb
      exact (h o ho).branches b hb
    rw [ofBranches_succ]
    split
    · exact .set _
    · rename_i b hb
      exact hflat b (hb ▸ List.mem_singleton_self b)
    · split
      · exact tidy_ofSet _
      · split
        · exact .choice hflat
        · rename_i n _
          refine tidy_ofParts (List.forall_mem_append.mpr ⟨?_, ?_⟩)
          · intro p hp
            exact (tidy_headD hflat).parts p (List.mem_of_mem_take hp)
          · refine List.forall_mem_singleton.mpr (ih ?_)
            intro b hb
            obtain ⟨o, ho, rfl⟩ := List.mem_map.mp hb
            exact tidy_ofParts fun p hp => (hflat o ho).parts p (List.mem_of_mem_drop hp)

end Outline

open Outline

lemma Node.tidy_outlines (n : Node) (row : Row) : ∀ o ∈ n.outlines row, o.Tidy := by
  induction n generalizing row with
  | empty => exact List.forall_mem_singleton.mpr (.text [])
  | set s => exact List.forall_mem_singleton.mpr (tidy_ofSet s)
  | look l => exact List.forall_mem_singleton.mpr (.look l)
  | group captures body ih =>
    refine List.forall_mem_singleton.mpr ?_
    split
    · exact .group _
    · exact tidy_headD (ih .alone)
  | repetition count body ih =>
    exact List.forall_mem_singleton.mpr (tidy_repeated count (tidy_headD (ih .alone)))
  | sequence a b iha ihb =>
    have hparts := List.forall_mem_append.mpr ⟨iha .alone, ihb .parts⟩
    rw [outlines]
    split
    · exact hparts
    · exact List.forall_mem_singleton.mpr (tidy_ofParts hparts)
  | choice a b iha ihb =>
    have hbranches := List.forall_mem_append.mpr ⟨iha .alone, ihb .branches⟩
    rw [outlines]
    split
    · exact hbranches
    · exact List.forall_mem_singleton.mpr (tidy_ofBranches _ hbranches)

lemma Node.tidy_outline (n : Node) : n.outline.Tidy := tidy_headD (n.tidy_outlines .alone)

namespace Outline

variable (d : Direction)

lemma joinTexts_append_look (parts : List Outline) (l : Look) :
    joinTexts (parts ++ [.look l]) = joinTexts parts ++ [.look l] := by
  fun_induction joinTexts parts with
  | case1 => rfl
  | case2 rest ih => exact ih
  | case3 cs rest hcs ds more hrest ih => simp [joinTexts, ih, hrest]
  | case4 cs rest hcs hrest ih =>
    simp only [List.cons_append, joinTexts, ih]
    cases hj : joinTexts rest with
    | nil => rfl
    | cons p more =>
      cases p with
      | text ds => exact absurd hj (hrest ds more)
      | _ => rfl
  | case5 p rest hp hcs ih =>
    cases p with
    | text cs => exact absurd rfl (hcs cs)
    | _ => exact congrArg _ ih

lemma sizes_append (ps qs : List Outline) : sizes d (ps ++ qs) = sizes d ps + sizes d qs := by
  induction ps with
  | nil => simp [sizes]
  | cons p ps ih => simp [sizes, ih, Nat.add_assoc]

lemma size_text_append {cs ds : List Char} (hc : cs ≠ []) (hd : ds ≠ []) :
    size d (.text (cs ++ ds)) = size d (.text cs) + size d (.text ds) := by
  have hpos (s : List Char) (hs : s ≠ []) : 1 ≤ Text.utf8Length s := by
    obtain ⟨c, s, rfl⟩ := List.exists_cons_of_ne_nil hs
    exact (Char.utf8Size_pos c).trans_le (Nat.le_add_right _ _)
  have h1 := hpos cs hc
  have h2 := hpos ds hd
  simp only [size, Text.utf8Length_append, stateSize]
  omega

lemma sizes_joinTexts {parts : List Outline} (h : nothing ∉ parts) :
    sizes d (joinTexts parts) = sizes d parts := by
  fun_induction joinTexts parts with
  | case1 => rfl
  | case2 rest ih => exact absurd List.mem_cons_self h
  | case3 cs rest hcs ds more hrest ih =>
    have hds : ds ≠ [] := by
      rintro rfl
      exact nothing_notMem_joinTexts rest (hrest ▸ List.mem_cons_self)
    have ih := ih (List.not_mem_of_not_mem_cons h)
    rw [hrest] at ih
    simp only [sizes, size_text_append d hcs hds] at ih ⊢
    omega
  | case4 cs rest hcs hrest ih => simp only [sizes, ih (List.not_mem_of_not_mem_cons h)]
  | case5 p rest h1 h2 ih => simp only [sizes, ih (List.not_mem_of_not_mem_cons h)]

/-- An empty text takes a state alone, but none beside other parts. -/
lemma size_le_of_tidy {o : Outline} (h : o.Tidy) :
    sizes d (joinTexts o.row) ≤ o.size d ∧ o.size d ≤ sizes d (joinTexts o.row) + stateSize := by
  cases h with
  | sequence _ hn => simp [row, sizes_joinTexts d hn, size]
  | text cs =>
    cases cs with
    | nil => simp [row, joinTexts, sizes, size]
    | cons c cs => simp [row, joinTexts, sizes]
  | _ => simp [row, joinTexts, sizes]

lemma sequenceRequires_append_look (parts : List Outline) (l : Look) :
    sequenceRequires l true (parts ++ [.look l]) = true := by
  induction parts with
  | nil => simp [sequenceRequires, allMatchOnlyEmpty, requires]
  | cons p parts ih => simp [sequenceRequires, ih]

end Outline

namespace Node

lemma outline_anchored (n : Node) : n.anchored.outline =
    .sequence (.look .start :: (joinTexts n.outline.row ++ [.look .finish])) := by
  have hrow : ofParts [.look .start, n.outline, .look .finish] =
      match joinTexts (.look .start :: (n.outline.row ++ [.look .finish])) with
      | [] => nothing
      | [p] => p
      | ps => .sequence ps := rfl
  have houtline : n.anchored.outline = ofParts [.look .start, n.outline, .look .finish] := rfl
  have hjoined : joinTexts (.look .start :: (n.outline.row ++ [.look .finish])) =
      .look .start :: (joinTexts n.outline.row ++ [.look .finish]) :=
    congrArg _ (joinTexts_append_look _ _)
  rw [houtline, hrow, hjoined]
  cases joinTexts n.outline.row <;> rfl

lemma networkSize_anchored (d : Direction) (n : Node) :
    n.anchored.outline.networkSize d ≤ n.outline.networkSize d + 64 ∧
      n.outline.networkSize d ≤ n.anchored.outline.networkSize d + 48 := by
  obtain ⟨hle, hge⟩ := size_le_of_tidy d n.tidy_outline
  have hsize : n.anchored.outline.size d = sizes d (joinTexts n.outline.row) + 2 * stateSize := by
    simp only [outline_anchored, Outline.size, sizes, sizes_append]
    omega
  have hstart : n.anchored.outline.requires .start false = true := by
    simp [outline_anchored, requires, sequenceRequires]
  have hfinish : n.anchored.outline.requires .finish true = true := by
    rw [outline_anchored, requires, ← List.cons_append]
    exact sequenceRequires_append_look _ _
  simp only [networkSize, hsize, hstart, hfinish, ite_self, if_true, stateSize, forkSize, rangesSize] at hge ⊢
  split_ifs <;> omega

def size (n : Node) : ℕ := max (n.outline.networkSize .forward) (n.outline.networkSize .backward)

lemma fits_iff (n : Node) : n.fits = true ↔ n.size ≤ sizeLimit := by
  simp [fits, size]

end Node

end DiscountTables.Pattern
