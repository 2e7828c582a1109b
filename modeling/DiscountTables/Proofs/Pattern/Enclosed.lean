import DiscountTables.Proofs.Pattern.FollowSteps

/-!
Patterns between a start and an end of text. A pattern that is read to its end on its own is read in the same
way inside the group that is put around it, unless it ends in a comment; one that is refused on its own is
refused there too, unless it closes the group itself.
-/

namespace DiscountTables.Pattern

open Text

namespace Progress

variable {p q : Progress}

def skipped (p : Progress) : Progress := { p with cursor := p.cursor.skip p.verbose }

lemma run_succ (n : ℕ) (p : Progress) : run (n + 1) p =
    match p.skipped.cursor.rest with
    | [] => p.skipped.finish
    | d :: _ => p.skipped.step d >>= run n := rfl

lemma run_of_step {d : Char} {r : List Char} (hr : p.skipped.cursor.rest = d :: r)
    (hq : p.skipped.step d = .ok q) (n : ℕ) : run (n + 1) p = run n q := by
  rw [run_succ, hr]
  simp only [hq]
  rfl

lemma run_of_end (hr : p.skipped.cursor.rest = []) (n : ℕ) : run (n + 1) p = p.skipped.finish := by
  rw [run_succ, hr]

lemma finish_ne_ok (hp : p.outer ≠ []) (e : Expr) : p.finish ≠ .ok e := by
  obtain ⟨g, outer, hg⟩ := List.exists_cons_of_ne_nil hp
  simp [finish, hg, fault]

lemma run_ne_ok_of_spent (hp : p.outer ≠ []) (hs : Spent p.cursor.rest) (n : ℕ) (e : Expr) :
    run n p ≠ .ok e := by
  induction n generalizing p with
  | zero => exact finish_ne_ok hp e
  | succ n ih =>
    have hskip : p.skipped.cursor.rest = p.cursor.rest := Cursor.skip_of_spent hs
    rw [run_succ, hskip]
    rcases hs with hs | hs
    · simp only [hs]
      exact finish_ne_ok (p := p.skipped) hp e
    · have hnext : p.skipped.cursor.next.rest = [] := by rw [Cursor.rest_next, hskip, hs, List.tail_cons]
      simp only [hs]
      exact ih (p := p.skipped.push (.assertion .endLine p.skipped.cursor.charSpan) p.skipped.cursor.next)
        hp (Or.inl hnext)

lemma run_ne_ok_of_stuck {tail : List Char} (ht : Closing tail) (hp : p.outer ≠ []) (hq : Stuck tail p q)
    (n : ℕ) (e : Expr) : run n q ≠ .ok e := by
  obtain ⟨houter, hq | ⟨kind, span, parts, r, hparts, hrest, hadvance⟩⟩ := hq
  · exact run_ne_ok_of_spent (houter.symm ▸ hp) hq n e
  · cases n with
    | zero => exact finish_ne_ok (houter.symm ▸ hp) e
    | succ n =>
      obtain ⟨more, htail, -⟩ := ht.eq_cons
      have hskip : q.skipped = q := by
        rw [skipped, Cursor.skip_eq_self q.verbose hrest (by decide) (by decide)]
      obtain ⟨f, hf⟩ := decimal_at_paren_or_nil q.verbose (Or.inl (hadvance.trans htail))
      intro h
      simp [run_succ, hskip, hrest, step, counted, repeatable, hparts, countBounds, hadvance, htail, hf,
        bind_eq_ok, Except.map] at h

section Run

variable {ι : Type} {base : ι → List OpenGroup} {tail : ι → List Char} {p' : ι → Progress}

lemma Mirrors.skipped (ht : ∀ i, Closing (tail i)) (h : p.Mirrors base tail p') :
    p.skipped.Mirrors base tail fun i => (p' i).skipped where
  outer := h.outer
  content := h.content
  verbose := h.verbose
  names := h.names
  cursor := by
    simp only [Progress.skipped, h.verbose]
    exact h.cursor.skip ht p.verbose

lemma Mirrors.outer_ne_nil (h : p.Mirrors base tail p') {i : ι} (hb : base i ≠ []) : (p' i).outer ≠ [] := by
  obtain ⟨outer, hi, -⟩ := h.outer i
  simp [hi, hb]

/-- A pattern comes to its end, and the patterns with more behind it come to the same place, or it is refused
and so are those in which a group was open before it. -/
lemma run_mirrors (ht : ∀ i, Closing (tail i)) (h : p.Mirrors base tail p') {n : ℕ} {m : ι → ℕ}
    (hn : p.cursor.left < n) (hm : ∀ i, (p' i).cursor.left < m i)
    (hu : ∀ f, run n p = .error f → f.kind ≠ .groupUnopened) :
    (∃ (q : Progress) (q' : ι → Progress) (k : ι → ℕ), q.Mirrors base tail q' ∧
      q.skipped.cursor.rest = [] ∧ run n p = q.skipped.finish ∧
      ∀ i, run (m i) (p' i) = run (k i) (q' i) ∧ (q' i).cursor.left < k i) ∨
    (∃ f, run n p = .error f) ∧ ∀ i, base i ≠ [] → ∀ e, run (m i) (p' i) ≠ .ok e := by
  induction n generalizing p p' m with
  | zero => exact absurd hn (Nat.not_lt_zero _)
  | succ n ih =>
    have hs := h.skipped ht
    obtain ⟨k, hmk⟩ := Cursor.Follows.exists_eq_succ fun i => (Nat.zero_le _).trans_lt (hm i)
    cases hc : p.skipped.cursor.rest with
    | nil => exact Or.inl ⟨p, p', m, h, hc, by simp only [run_succ, hc], fun i => ⟨rfl, hm i⟩⟩
    | cons d r =>
      have hne : p.skipped.cursor.rest ≠ [] := by simp [hc]
      have hrun : run (n + 1) p = p.skipped.step d >>= run n := by simp only [run_succ, hc]
      have hrun' (i : ι) : run (m i) (p' i) = (p' i).skipped.step d >>= run (k i) := by
        simp only [hmk, run_succ, hs.cursor.cons hc]
      have hclose : d = ')' → p.skipped.outer ≠ [] := by
        rintro rfl hnil
        have hstep : p.skipped.step ')' = fault .groupUnopened p.skipped.cursor.charSpan := by
          simp only [step, closeGroup, hnil]
        exact hu _ (hrun.trans (by rw [hstep]; rfl)) rfl
      have hstep := extends_step ht hs hne hclose
      cases hx : p.skipped.step d with
      | error f =>
        rw [hx] at hstep
        refine Or.inr ⟨⟨f, by rw [hrun, hx]; rfl⟩, fun i hb e he => ?_⟩
        obtain ⟨q, hq, he⟩ := bind_eq_ok.mp ((hrun' i).symm.trans he)
        exact run_ne_ok_of_stuck (ht i) (hs.outer_ne_nil hb) (hstep i q hq) _ e he
      | ok q =>
        rw [hx] at hstep
        obtain ⟨q', (hq' : ∀ i, (p' i).skipped.step d = .ok (q' i)), hq⟩ := hstep
        have hpos : 0 < p.skipped.cursor.left := Cursor.left_pos_iff.mpr hne
        have hlt : q.cursor.left < p.skipped.cursor.left := left_step_lt hpos hx
        have hle : p.skipped.cursor.left ≤ p.cursor.left := Cursor.left_skip_le
        have hlt' (i : ι) : (q' i).cursor.left < k i := by
          have hi := hs.cursor.left_lt hq.cursor hlt i
          have hle' : (p' i).skipped.cursor.left ≤ (p' i).cursor.left := Cursor.left_skip_le
          have := hm i
          have := hmk i
          omega
        have hrunq : run (n + 1) p = run n q := by rw [hrun, hx]; rfl
        have hrunq' (i : ι) : run (m i) (p' i) = run (k i) (q' i) := by rw [hrun', hq' i]; rfl
        simp only [hrunq, hrunq'] at hu ⊢
        exact ih hq (by omega) hlt' hu

end Run

def opening : OpenGroup where
  around := (Content.start .start).push (.assertion .startLine ⟨⟨0, 1, 1⟩, ⟨1, 1, 2⟩⟩)
  changes := []
  captures := false
  span := ⟨⟨1, 1, 2⟩, ⟨2, 1, 3⟩⟩
  verbose := false

def enclosedStart (rest : List Char) : Progress :=
  ⟨[opening], .start ⟨4, 1, 5⟩, false, [], ⟨⟨4, 1, 5⟩, rest⟩⟩

lemma run_opening (n : ℕ) (rest : List Char) :
    run (n + 2) (.start ⟨.start, '^' :: '(' :: '?' :: ':' :: rest⟩) = run n (enclosedStart rest) := by
  rfl

def closed (g : OpenGroup) (q : Progress) : Content :=
  (g.around.push (.group g.changes g.captures ⟨g.span.first, q.cursor.next.place⟩
    (q.content.toExpr q.cursor.place))).push (.assertion .endLine q.cursor.next.charSpan)

lemma run_closing {g : OpenGroup} {outer : List OpenGroup} (hr : q.skipped.cursor.rest = [')', '$'])
    (ho : q.outer = g :: outer) (n : ℕ) :
    run (n + 3) q = finish ⟨outer, closed g q.skipped, g.verbose, q.names, q.skipped.cursor.next.next⟩ := by
  have hnext : q.skipped.cursor.next.rest = ['$'] := by rw [Cursor.rest_next, hr, List.tail_cons]
  have hlast : q.skipped.cursor.next.next.rest = [] := by rw [Cursor.rest_next, hnext, List.tail_cons]
  -- The state behind the parenthesis.
  obtain ⟨k, hk⟩ : ∃ k : Content, k = g.around.push (.group g.changes g.captures
    ⟨g.span.first, q.skipped.cursor.next.place⟩ (q.skipped.content.toExpr q.skipped.cursor.place)) := ⟨_, rfl⟩
  have hclose : q.skipped.step ')' = .ok ⟨outer, k, g.verbose, q.names, q.skipped.cursor.next⟩ := by
    simp only [step, closeGroup, show q.skipped.outer = g :: outer from ho, hk]
    rfl
  have hskip : skipped ⟨outer, k, g.verbose, q.names, q.skipped.cursor.next⟩ =
      ⟨outer, k, g.verbose, q.names, q.skipped.cursor.next⟩ := by
    rw [skipped, Cursor.skip_eq_self _ hnext (by decide) (by decide)]
  have hend : skipped ⟨outer, closed g q.skipped, g.verbose, q.names, q.skipped.cursor.next.next⟩ =
      ⟨outer, closed g q.skipped, g.verbose, q.names, q.skipped.cursor.next.next⟩ := by
    rw [skipped, Cursor.skip_of_rest_nil _ hlast]
  calc run (n + 3) q = run (n + 2) ⟨outer, k, g.verbose, q.names, q.skipped.cursor.next⟩ :=
        run_of_step hr hclose _
    _ = run (n + 1) ⟨outer, closed g q.skipped, g.verbose, q.names, q.skipped.cursor.next.next⟩ := by
        apply run_of_step (d := '$') (r := [])
        · rw [hskip, hnext]
        · rw [hskip, closed, ← hk]
          rfl
    _ = _ := by rw [run_of_end (by rw [hend, hlast]), hend]

end Progress

def enclose (cell : String) : String := "^(?:" ++ cell ++ ")$"

lemma ClassSyntax.firstBeyond_mono {c : ClassSyntax} {room more : ℕ} {inRow : Bool} (hr : room ≤ more)
    (h : c.firstBeyond room inRow = none) : c.firstBeyond more inRow = none := by
  induction c generalizing room more inRow with
  | bracketed _ _ body ih =>
    match room, more, hr with
    | 0, _, _ => cases h
    | room + 1, more + 1, hr => exact ih (Nat.le_of_succ_le_succ hr) h
  | union _ a b iha ihb =>
    match inRow, room, more, hr with
    | false, 0, _, _ => cases h
    | false, room + 1, more + 1, hr =>
      obtain ⟨ha, hb⟩ := Option.or_eq_none_iff.mp h
      have hle := Nat.le_of_succ_le_succ hr
      exact Option.or_eq_none_iff.mpr ⟨iha hle ha, ihb hle hb⟩
    | true, room, more, hr =>
      obtain ⟨ha, hb⟩ := Option.or_eq_none_iff.mp h
      exact Option.or_eq_none_iff.mpr ⟨iha hr ha, ihb hr hb⟩
  | operation _ a b iha ihb =>
    match room, more, hr with
    | 0, _, _ => cases h
    | room + 1, more + 1, hr =>
      obtain ⟨ha, hb⟩ := Option.or_eq_none_iff.mp h
      have hle := Nat.le_of_succ_le_succ hr
      exact Option.or_eq_none_iff.mpr ⟨iha hle ha, ihb hle hb⟩
  | _ => rfl

namespace Expr

def enclosed (e : Expr) : Expr :=
  .sequence nowhere (.assertion .startLine nowhere)
    (.sequence nowhere (.group [] false nowhere e) (.assertion .endLine nowhere))

lemma firstBeyond_mono {e : Expr} {room more : ℕ} {inRow : Bool} (hr : room ≤ more)
    (h : e.firstBeyond room inRow = none) : e.firstBeyond more inRow = none := by
  induction e generalizing room more inRow with
  | characters c => exact ClassSyntax.firstBeyond_mono hr h
  | group _ _ _ body ih | repetition _ _ body ih =>
    match room, more, hr with
    | 0, _, _ => cases h
    | room + 1, more + 1, hr => exact ih (Nat.le_of_succ_le_succ hr) h
  | sequence _ a b iha ihb | choice _ a b iha ihb =>
    match inRow, room, more, hr with
    | false, 0, _, _ => cases h
    | false, room + 1, more + 1, hr =>
      obtain ⟨ha, hb⟩ := Option.or_eq_none_iff.mp h
      have hle := Nat.le_of_succ_le_succ hr
      exact Option.or_eq_none_iff.mpr ⟨iha hle ha, ihb hle hb⟩
    | true, room, more, hr =>
      obtain ⟨ha, hb⟩ := Option.or_eq_none_iff.mp h
      exact Option.or_eq_none_iff.mpr ⟨iha hr ha, ihb hr hb⟩
  | _ => rfl

lemma firstBeyond_congr {e e' : Expr} (h : e'.bare = e.bare) (room : ℕ) (inRow : Bool) :
    e'.firstBeyond room inRow = none ↔ e.firstBeyond room inRow = none := by
  rw [← Option.not_isSome_iff_eq_none, ← isSome_firstBeyond_bare, h, isSome_firstBeyond_bare,
    Option.not_isSome_iff_eq_none]

lemma firstBeyond_enclosed {e e' : Expr} (h : e'.bare = e.bare.enclosed) :
    e'.firstBeyond nestingLimit false = none ↔ e.firstBeyond (nestingLimit - 2) false = none := by
  have hlevels : e.bare.enclosed.firstBeyond nestingLimit false = none ↔
      e.bare.firstBeyond (nestingLimit - 2) false = none := by
    simp [enclosed, firstBeyond, nestingLimit]
  rw [← Option.not_isSome_iff_eq_none, ← isSome_firstBeyond_bare, h, Option.not_isSome_iff_eq_none, hlevels,
    ← Option.not_isSome_iff_eq_none, isSome_firstBeyond_bare, Option.not_isSome_iff_eq_none]

lemma bare_closed {q q' : Progress} (h : q'.content.bare = q.content.bare) (p : Place) (last : Place) :
    ((Progress.closed Progress.opening q').toExpr last).bare = (q.content.toExpr p).bare.enclosed := by
  have hbody := Content.bare_toExpr h p q'.cursor.place
  simp only [Progress.closed, Progress.opening, Content.toExpr, Content.branch, Content.push, Content.start,
    ofBranches, ofParts, List.foldl, bare, enclosed] at hbody ⊢
  rw [hbody]

def behind (anchored : Bool) : List Char := if anchored then [')', '$'] else [')']

def before (anchored : Bool) : List OpenGroup := if anchored then [Progress.opening] else []

def startOf (cell : String) (anchored : Bool) : Progress :=
  if anchored then Progress.enclosedStart (cell.toList ++ behind true)
  else .start ⟨.start, cell.toList ++ behind false⟩

lemma closing_behind (anchored : Bool) : Closing (behind anchored) := by
  cases anchored
  · exact .alone
  · exact .anchored

lemma start_mirrors (cell : String) :
    (Progress.start (.ofText cell)).Mirrors before behind (startOf cell) where
  outer i := ⟨[], by cases i <;> rfl, rfl⟩
  content i := by cases i <;> rfl
  verbose i := by cases i <;> rfl
  names i := by cases i <;> rfl
  cursor := Or.inl fun i => by cases i <;> rfl

lemma read_enclose (cell : String) :
    read (enclose cell) = Progress.run (cell.toList.length + 5) (startOf cell true) := by
  have htext : (enclose cell).toList = '^' :: '(' :: '?' :: ':' :: (cell.toList ++ [')', '$']) := by
    simp [enclose]
  have hlength : ('^' :: '(' :: '?' :: ':' :: (cell.toList ++ [')', '$'])).length + 1 =
      cell.toList.length + 5 + 2 := by simp
  rw [read, Cursor.ofText, htext]
  simp only [hlength]
  exact Progress.run_opening _ _

lemma read_append_paren (cell : String) :
    read (cell ++ ")") = Progress.run (cell.toList.length + 2) (startOf cell false) := by
  have htext : (cell ++ ")").toList = cell.toList ++ [')'] := by simp
  rw [read, Cursor.ofText, htext, List.length_append]
  rfl

lemma read_mirrors {cell : String} (hu : ∀ f, read cell = .error f → f.kind ≠ .groupUnopened) :
    (∃ (q : Progress) (q' : Bool → Progress) (k : Bool → ℕ), q.Mirrors before behind q' ∧
      q.skipped.cursor.rest = [] ∧ read cell = q.skipped.finish ∧
      (read (enclose cell) = Progress.run (k true) (q' true) ∧ (q' true).cursor.left < k true) ∧
      (read (cell ++ ")") = Progress.run (k false) (q' false) ∧ (q' false).cursor.left < k false)) ∨
    (∃ f, read cell = .error f) ∧ ∀ e, read (enclose cell) ≠ .ok e := by
  have hown : read cell = Progress.run (cell.toList.length + 1) (.start (.ofText cell)) := rfl
  have hrun := Progress.run_mirrors closing_behind (start_mirrors cell)
    (m := fun anchored => if anchored then cell.toList.length + 5 else cell.toList.length + 2)
    (Nat.lt_succ_self _) (fun i => by cases i <;> simp [startOf, Progress.enclosedStart, Progress.start,
      behind, Cursor.left]) hu
  rcases hrun with ⟨q, q', k, hq, hend, hfinish, hk⟩ | ⟨hf, hne⟩
  · refine Or.inl ⟨q, q', k, hq, hend, hown.trans hfinish, ?_, ?_⟩
    · rw [read_enclose]
      exact hk true
    · rw [read_append_paren]
      exact hk false
  · refine Or.inr ⟨hf, fun e => ?_⟩
    rw [read_enclose]
    exact hne true (by simp [before]) e

lemma finish_of_outer_nil {q : Progress} (ho : q.outer = []) :
    q.finish = match (q.content.toExpr q.cursor.place).firstBeyond nestingLimit false with
      | some span => fault .nestingExceeded span
      | none => .ok (q.content.toExpr q.cursor.place) := by
  obtain ⟨outer, content, verbose, names, cursor⟩ := q
  obtain rfl : outer = [] := ho
  rfl

lemma finish_eq_ok_iff {q : Progress} {e : Expr} : q.finish = .ok e ↔
    q.outer = [] ∧ e = q.content.toExpr q.cursor.place ∧ e.firstBeyond nestingLimit false = none := by
  by_cases ho : q.outer = []
  · rw [finish_of_outer_nil ho]
    cases hb : (q.content.toExpr q.cursor.place).firstBeyond nestingLimit false with
    | some span =>
      simp only [fault, reduceCtorEq, false_iff, not_and]
      rintro - rfl hn
      exact absurd (hb.symm.trans hn) (by simp)
    | none =>
      constructor
      · rintro ⟨⟩
        exact ⟨ho, rfl, hb⟩
      · rintro ⟨-, rfl, -⟩
        rfl
  · exact ⟨fun h => absurd h (Progress.finish_ne_ok ho e), fun h => absurd h.1 ho⟩

lemma run_anchored {q' : Progress} {g : OpenGroup} {outer : List OpenGroup} (ho : q'.outer = g :: outer)
    (hr : q'.skipped.cursor.rest = [')', '$']) {k : ℕ} (hk : q'.cursor.left < k) :
    ∃ r : Progress, Progress.run k q' = r.finish ∧ r.outer = outer ∧
      r.content = Progress.closed g q'.skipped := by
  have hleft : q'.skipped.cursor.left ≤ q'.cursor.left := Cursor.left_skip_le
  have htwo : q'.skipped.cursor.left = 2 := by simp [Cursor.left, hr]
  obtain ⟨n, rfl⟩ : ∃ n, k = n + 3 := ⟨k - 3, by omega⟩
  exact ⟨_, Progress.run_closing hr ho n, rfl, rfl⟩

/-- A cell that can be read can be read between a start and an end of text, if no comment takes in what is
behind it and there is room for the two levels around it. -/
lemma exists_read_enclose {cell : String} {e : Expr} (he : read cell = .ok e)
    (hclosed : ∀ e', read (cell ++ ")") ≠ .ok e')
    (hroom : e.firstBeyond (nestingLimit - 2) false = none) :
    ∃ e', read (enclose cell) = .ok e' ∧ e'.bare = e.bare.enclosed := by
  have hu (f : Fault) (hf : read cell = .error f) : f.kind ≠ .groupUnopened := by simp [he] at hf
  rcases read_mirrors hu with ⟨q, q', k, hq, hend, hown, ⟨htrue, hkt⟩, hfalse, hkf⟩ | ⟨⟨f, hf⟩, -⟩
  · obtain ⟨ho, rfl, hbeyond⟩ := finish_eq_ok_iff.mp (hown.symm.trans he)
    have hs := hq.skipped closing_behind
    have houter (i : Bool) : (q' i).outer = before i := by
      obtain ⟨outer, hi, hbare⟩ := hq.outer i
      have hq : q.outer = [] := ho
      rw [hq] at hbare
      rw [hi, List.map_eq_nil_iff.mp hbare, List.nil_append]
    rcases hs.cursor with hrest | ⟨-, hrest⟩
    · have hr : (q' true).skipped.cursor.rest = [')', '$'] := by
        rw [hrest true, hend]
        rfl
      obtain ⟨r, hrun, hnil, hcontent⟩ := run_anchored (houter true) hr hkt
      have hbare : (r.content.toExpr r.cursor.place).bare =
          (q.skipped.content.toExpr q.skipped.cursor.place).bare.enclosed := by
        rw [hcontent]
        exact bare_closed (hs.content true) _ _
      refine ⟨_, ?_, hbare⟩
      rw [htrue, hrun, finish_eq_ok_iff]
      exact ⟨hnil, rfl, (firstBeyond_enclosed hbare).mpr hroom⟩
    · -- A comment took the tail, so it takes the parenthesis behind the cell alone.
      obtain ⟨n, hn⟩ : ∃ n, k false = n + 1 := ⟨k false - 1, by omega⟩
      have hbare := Content.bare_toExpr (hs.content false) q.skipped.cursor.place
        (q' false).skipped.cursor.place
      have hread : read (cell ++ ")") =
          .ok ((q' false).skipped.content.toExpr (q' false).skipped.cursor.place) := by
        rw [hfalse, hn, Progress.run_of_end (hrest false), finish_eq_ok_iff]
        exact ⟨houter false, rfl, (firstBeyond_congr hbare _ _).mpr hbeyond⟩
      exact absurd hread (hclosed _)
  · simp [he] at hf

/-- A cell that cannot be read cannot be read between a start and an end of text either, if it is not that it
closes a group that it does not open. -/
lemma read_enclose_ne_ok {cell : String} {f : Fault} (hf : read cell = .error f)
    (hu : f.kind ≠ .groupUnopened) (e : Expr) : read (enclose cell) ≠ .ok e := by
  have hu' (f' : Fault) (hf' : read cell = .error f') : f'.kind ≠ .groupUnopened := by
    rw [hf] at hf'
    cases hf'
    exact hu
  rcases read_mirrors hu' with ⟨q, q', k, hq, hend, hown, ⟨htrue, hkt⟩, -⟩ | ⟨-, hne⟩
  · have hs := hq.skipped closing_behind
    intro he
    rw [htrue] at he
    rcases hs.cursor with hrest | ⟨-, hrest⟩
    · have hr : (q' true).skipped.cursor.rest = [')', '$'] := by
        rw [hrest true, hend]
        rfl
      obtain ⟨outer, houter, hbare⟩ := hq.outer true
      cases outer with
      | nil =>
        obtain ⟨r, hrun, -, hcontent⟩ := run_anchored houter hr hkt
        obtain ⟨-, rfl, hbeyond⟩ := finish_eq_ok_iff.mp (hrun.symm.trans he)
        have hr : (r.content.toExpr r.cursor.place).bare =
            (q.skipped.content.toExpr q.skipped.cursor.place).bare.enclosed := by
          rw [hcontent]
          exact bare_closed (hs.content true) _ _
        have hroom := firstBeyond_mono (Nat.sub_le _ 2) ((firstBeyond_enclosed hr).mp hbeyond)
        have hnil : q.skipped.outer = [] := List.map_eq_nil_iff.mp hbare.symm
        have hok := finish_eq_ok_iff.mpr ⟨hnil, rfl, hroom⟩
        simp [hown, hok] at hf
      | cons g outer =>
        obtain ⟨r, hrun, hr, -⟩ := run_anchored houter hr hkt
        exact Progress.finish_ne_ok (by simp [hr, before]) e (hrun.symm.trans he)
    · obtain ⟨n, hn⟩ : ∃ n, k true = n + 1 := ⟨k true - 1, by omega⟩
      rw [hn, Progress.run_of_end (hrest true)] at he
      exact Progress.finish_ne_ok (hs.outer_ne_nil (by simp [before])) e he
  · exact hne e

end Expr

end DiscountTables.Pattern
