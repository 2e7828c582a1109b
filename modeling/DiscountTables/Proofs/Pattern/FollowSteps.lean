import DiscountTables.Proofs.Pattern.FollowGroups

namespace DiscountTables.Pattern

open Text

variable {ι : Type} {base : ι → List OpenGroup} {tail : ι → List Char}

namespace Content

def bare (k : Content) : Content := ⟨.start, k.branches.map Expr.bare, .start, k.parts.map Expr.bare⟩

variable {k k' : Content}

lemma bare_push (h : k'.bare = k.bare) {e e' : Expr} (he : e'.bare = e.bare) :
    (k'.push e').bare = (k.push e).bare := by
  obtain ⟨-, hbranches, -, hparts⟩ := Content.mk.inj h
  simp only [push, bare, List.map_cons, hbranches, hparts, he]

lemma bare_branch (h : k'.bare = k.bare) (p p' : Place) : (k'.branch p').bare = (k.branch p).bare := by
  obtain ⟨-, -, -, hparts⟩ := Content.mk.inj h
  rw [branch, branch, Expr.bare_ofParts, Expr.bare_ofParts, hparts]

lemma bare_toExpr (h : k'.bare = k.bare) (p p' : Place) : (k'.toExpr p').bare = (k.toExpr p).bare := by
  obtain ⟨-, hbranches, -, -⟩ := Content.mk.inj h
  rw [toExpr, toExpr, Expr.bare_ofBranches, Expr.bare_ofBranches, bare_branch h p p', hbranches]

end Content

def OpenGroup.bare (g : OpenGroup) : OpenGroup := { g with around := g.around.bare, span := nowhere }

namespace Progress

/-- The `p' i` have read what `p` has, inside the groups `base i`, and `tail i` stands behind the rest. -/
structure Mirrors (base : ι → List OpenGroup) (tail : ι → List Char) (p : Progress) (p' : ι → Progress) :
    Prop where
  outer : ∀ i, ∃ outer, (p' i).outer = outer ++ base i ∧ outer.map OpenGroup.bare = p.outer.map OpenGroup.bare
  content : ∀ i, (p' i).content.bare = p.content.bare
  verbose : ∀ i, (p' i).verbose = p.verbose
  names : ∀ i, (p' i).names.map Prod.fst = p.names.map Prod.fst
  cursor : p.cursor.Follows tail fun i => (p' i).cursor

/-- What cannot end well: no group is closed, and either the parenthesis of the tail is gone, or it stands
where a count of a word boundary should. -/
def Stuck (tail : List Char) (p q : Progress) : Prop :=
  q.outer = p.outer ∧ (Spent q.cursor.rest ∨ ∃ kind span parts r,
    q.content.parts = .assertion kind span :: parts ∧ q.cursor.rest = '\x7b' :: r ∧
      (q.cursor.advance q.verbose).rest = tail)

variable {p : Progress} {p' : ι → Progress}

namespace Mirrors

lemma push (h : p.Mirrors base tail p') {e : Expr} {e' : ι → Expr} (he : ∀ i, (e' i).bare = e.bare)
    {after : Cursor} {after' : ι → Cursor} (ha : after.Follows tail after') :
    (p.push e after).Mirrors base tail fun i => (p' i).push (e' i) (after' i) where
  outer := h.outer
  content i := Content.bare_push (h.content i) (he i)
  verbose := h.verbose
  names := h.names
  cursor := ha

lemma withVerbose (h : p.Mirrors base tail p') (v : Bool) :
    Mirrors base tail { p with verbose := v } fun i => { p' i with verbose := v } where
  outer := h.outer
  content := h.content
  verbose _ := rfl
  names := h.names
  cursor := h.cursor

lemma withName (h : p.Mirrors base tail p') {x : String × Span} {x' : ι → String × Span}
    (hx : ∀ i, (x' i).1 = x.1) :
    Mirrors base tail { p with names := x :: p.names } fun i => { p' i with names := x' i :: (p' i).names } where
  outer := h.outer
  content := h.content
  verbose := h.verbose
  names i := by simp only [List.map_cons, hx i, h.names i]
  cursor := h.cursor

lemma openGroup (h : p.Mirrors base tail p') (changes : FlagChanges) (captures : Bool)
    {after : Cursor} {after' : ι → Cursor} (ha : after.Follows tail after') :
    (p.openGroup changes captures after).Mirrors base tail
      fun i => (p' i).openGroup changes captures (after' i) where
  outer i := by
    obtain ⟨outer, hi, hbare⟩ := h.outer i
    refine ⟨⟨(p' i).content, changes, captures, (p' i).cursor.charSpan, (p' i).verbose⟩ :: outer, ?_, ?_⟩
    · simp only [Progress.openGroup, hi, List.cons_append]
    · simp only [Progress.openGroup, List.map_cons, hbare, OpenGroup.bare, h.content i, h.verbose i]
  content _ := rfl
  verbose i := by simp only [Progress.openGroup, h.verbose i]
  names := h.names
  cursor := ha

end Mirrors

lemma extends_closeGroup (h : p.Mirrors base tail p') (hc : p.cursor.rest ≠ []) (hp : p.outer ≠ []) :
    Extends (Mirrors base tail) never p.closeGroup fun i => (p' i).closeGroup := by
  obtain ⟨g, outer, hg⟩ := List.exists_cons_of_ne_nil hp
  have houter (i : ι) : ∃ g' outer', (p' i).outer = g' :: (outer' ++ base i) ∧ g'.bare = g.bare ∧
      outer'.map OpenGroup.bare = outer.map OpenGroup.bare := by
    obtain ⟨all, hi, hbare⟩ := h.outer i
    rw [hg, List.map_cons] at hbare
    obtain ⟨g', outer', rfl, hg', houter⟩ := List.map_eq_cons_iff.mp hbare
    exact ⟨g', outer', by rw [hi, List.cons_append], hg', houter⟩
  choose g' outer' hi hg' houter' using houter
  simp only [closeGroup, hg, hi]
  have hbare (i : ι) := OpenGroup.mk.inj (hg' i)
  refine .of_rel
    { outer := fun i => ⟨outer' i, rfl, houter' i⟩
      content := fun i => Content.bare_push (hbare i).1 ?_
      verbose := fun i => (hbare i).2.2.2.2
      names := h.names
      cursor := h.cursor.next hc }
  simp only [Expr.bare, Content.bare_toExpr (h.content i) p.cursor.place, (hbare i).2.1, (hbare i).2.2.1]

def repeatView (x : Expr × List Expr) : Expr × List Expr := (x.1.bare, x.2.map Expr.bare)

lemma repeatView_repeatable (p : Progress) : p.repeatable.toOption.map repeatView =
    match p.content.parts.map Expr.bare with
    | [] | .flags .. :: _ | .empty _ :: _ => none
    | e :: rest => some (e, rest) := by
  simp only [repeatable]
  rcases p.content.parts with - | ⟨e, rest⟩
  · rfl
  · cases e <;> rfl

lemma toOption_repeatable {p' : Progress} (h : p'.content.bare = p.content.bare) :
    p'.repeatable.toOption.map repeatView = p.repeatable.toOption.map repeatView := by
  obtain ⟨-, -, -, hparts⟩ := Content.mk.inj h
  rw [repeatView_repeatable, repeatView_repeatable, hparts]

lemma lazily_follows {c : Cursor} {c' : ι → Cursor} (ht : ∀ i, Closing (tail i)) (h : c.Follows tail c') :
    (lazily c).Follows tail fun i => lazily (c' i) := by
  have hmark (i : ι) : (c' i).startsWith "?" = c.startsWith "?" := h.startsWith ht (by decide) i
  simp only [lazily, hmark]
  by_cases hc : c.startsWith "?" = true
  · simp only [if_pos hc]
    apply h.next
    rintro hn
    simp [Cursor.startsWith, hn] at hc
  · simp only [if_neg hc]
    exact h

lemma Mirrors.putRepetition (h : p.Mirrors base tail p') (count : Count) {e : Expr} {before : List Expr}
    {x' : ι → Expr × List Expr} (hx : ∀ i, repeatView (x' i) = repeatView (e, before)) {after : Cursor}
    {after' : ι → Cursor} (ha : after.Follows tail after') :
    (p.putRepetition count e before after).Mirrors base tail
      fun i => (p' i).putRepetition count (x' i).1 (x' i).2 (after' i) where
  outer := h.outer
  content i := by
    obtain ⟨-, hbranches, -, -⟩ := Content.mk.inj (h.content i)
    obtain ⟨he, hbefore⟩ := Prod.mk.inj (hx i)
    simp only [Progress.putRepetition, Content.bare, List.map_cons, Expr.bare, hbranches, he, hbefore]
  verbose := h.verbose
  names := h.names
  cursor := ha

lemma extends_repeated (ht : ∀ i, Closing (tail i)) (h : p.Mirrors base tail p') (hc : p.cursor.rest ≠ [])
    (count : Count) : Extends (Mirrors base tail) never (p.repeated count) fun i => (p' i).repeated count := by
  refine (Extends.of_toOption fun i => toOption_repeatable (h.content i)).bind_of_never ?_
  rintro ⟨e, before⟩ x' - hx
  exact .of_rel (h.putRepetition count hx (lazily_follows ht (h.cursor.next hc)))

lemma extends_counted (ht : ∀ i, Closing (tail i)) (h : p.Mirrors base tail p') (hc : p.cursor.rest ≠ []) :
    Extends (Mirrors base tail) never p.counted fun i => (p' i).counted := by
  have ha := h.cursor.advance ht hc p.verbose
  simp only [counted, h.verbose]
  refine (Extends.of_toOption fun i => toOption_repeatable (h.content i)).bind_of_never ?_
  rintro ⟨e, before⟩ x' - hx
  refine (extends_countBounds ht ha _ _).bind ?_ ?_
  · rintro i ⟨count, c⟩ (hrest : c.rest = tail i) q hq
    obtain ⟨more, htail, -⟩ := (ht i).eq_cons
    simp [hrest.trans htail, fault] at hq
  · rintro ⟨count, c⟩ y' - ⟨hcount, hcursor⟩
    have hcount' (i : ι) : (y' i).1 = count := hcount i
    cases hr : c.rest with
    | nil =>
      refine .of_errors (fun i q => ?_) _ _
      rcases hcursor.paren_or_nil ht hr i with ⟨more, -, -, hi⟩ | hi <;> simp [hi, fault]
    | cons d r =>
      by_cases hd : d = '\x7d'
      · subst hd
        simp only [hcursor.cons hr, hcount']
        by_cases hvalid : count.Valid
        · simp only [if_pos hvalid]
          exact .of_rel (h.putRepetition count hx (lazily_follows ht (hcursor.advance ht (by simp [hr]) _)))
        · simp only [if_neg hvalid]
          exact .faults
      · simp only [hcursor.cons hr, List.cons.injEq, hd, false_and, imp_self, implies_true]
        exact .faults

lemma Mirrors.bar (h : p.Mirrors base tail p') (hc : p.cursor.rest ≠ []) :
    p.bar.Mirrors base tail fun i => (p' i).bar where
  outer := h.outer
  content i := by
    obtain ⟨-, hbranches, -, -⟩ := Content.mk.inj (h.content i)
    simp only [Progress.bar, Content.bare, List.map_cons, List.map_nil, hbranches,
      Content.bare_branch (h.content i) p.cursor.place]
  verbose := h.verbose
  names := h.names
  cursor := h.cursor.next hc

def flagGroup (p : Progress) (c : Cursor) : Except Fault Progress := do
  let (items, after) ← flagItems (c.next.rest.length + 1) [] c.next
  if after.startsWith ")" then
    if items.isEmpty then fault .repetitionMissing c.here
    else
      return { p.push (.flags (flagChanges items) ⟨p.cursor.place, after.next.place⟩) after.next with
        verbose := ((flagChanges items).get? .verbose).getD p.verbose }
  else return p.openGroup (flagChanges items) false after.next

lemma parenthesis_eq (p : Progress) : p.parenthesis =
    match lookAroundSigns.find? (p.cursor.advance p.verbose).startsWith with
    | some sign => fault .lookAround ⟨p.cursor.place, ((p.cursor.advance p.verbose).drop sign.length).place⟩
    | none =>
      if (p.cursor.advance p.verbose).startsWith "?P<" ∨ (p.cursor.advance p.verbose).startsWith "?<" then
        groupName p.names ((p.cursor.advance p.verbose).drop
          (if (p.cursor.advance p.verbose).startsWith "?P<" then 3 else 2)) >>= fun x =>
            .ok { p.openGroup [] true x.2 with names := x.1 :: p.names }
      else if (p.cursor.advance p.verbose).startsWith "?" then
        if (p.cursor.advance p.verbose).next.rest.isEmpty then fault .groupUnclosed p.cursor.charSpan
        else p.flagGroup (p.cursor.advance p.verbose)
      else .ok (p.openGroup [] true (p.cursor.advance p.verbose)) := rfl

lemma extends_flagGroup (ht : ∀ i, Closing (tail i)) (h : p.Mirrors base tail p') {c : Cursor} {c' : ι → Cursor}
    (hc : c.Follows tail c') (hne : c.rest ≠ []) :
    Extends (Mirrors base tail) (fun i => Stuck (tail i) (p' i)) (p.flagGroup c)
      fun i => (p' i).flagGroup (c' i) := by
  refine (extends_flagItems ht _ (hc.next hne) (Nat.lt_succ_self _) (fun _ => Nat.lt_succ_self _)
    fun _ => rfl).bind ?_ ?_
  · -- The parenthesis of the tail ends the flags.
    rintro i ⟨items, after⟩ (hafter : after.rest = tail i) q hq
    obtain ⟨more, htail, hmore⟩ := (ht i).eq_cons
    have hparen : after.startsWith ")" = true := by simp [Cursor.startsWith, hafter, htail, List.isPrefixOf]
    simp only [if_pos hparen] at hq
    split at hq
    · cases hq
    · cases hq
      refine ⟨rfl, Or.inl ?_⟩
      simp only [push, Cursor.rest_next, hafter, htail, List.tail_cons, hmore]
  · rintro ⟨items, after⟩ x' - ⟨⟨hitems, (hafter : after.Follows tail _)⟩, (hrest : after.rest ≠ [])⟩
    have hchanges (i : ι) : flagChanges (x' i).1 = flagChanges items := flagChanges_congr (hitems i)
    have hempty (i : ι) : (x' i).1.isEmpty = items.isEmpty := by
      have hi : (x' i).1.map Prod.fst = items.map Prod.fst := hitems i
      rw [← List.isEmpty_map, hi, List.isEmpty_map]
    have hparen (i : ι) : (x' i).2.startsWith ")" = after.startsWith ")" := by
      obtain ⟨d, r, hd⟩ := List.exists_cons_of_ne_nil hrest
      simp [Cursor.startsWith, hd, hafter.cons hd i, List.isPrefixOf]
    have hnext := hafter.next hrest
    simp only [hparen, hempty, hchanges, h.verbose]
    by_cases hp : after.startsWith ")" = true
    · simp only [if_pos hp]
      by_cases he : items.isEmpty = true
      · simp only [if_pos he]
        exact .faults
      · simp only [if_neg he]
        have hpush : (p.push (.flags (flagChanges items) ⟨p.cursor.place, after.next.place⟩) after.next).Mirrors
            base tail fun i => (p' i).push
              (.flags (flagChanges items) ⟨(p' i).cursor.place, (x' i).2.next.place⟩) (x' i).2.next := by
          refine h.push ?_ hnext
          exact fun _ => rfl
        exact .of_rel (hpush.withVerbose _)
    · simp only [if_neg hp]
      exact .of_rel (h.openGroup _ _ hnext)

lemma flagGroup_ne_ok {c : Cursor} {more : List Char} (hc : c.next.rest = ')' :: more) (q : Progress) :
    p.flagGroup c ≠ .ok q := by
  intro h
  obtain ⟨x, hx, h⟩ := bind_eq_ok.mp h
  simp [flagItems, hc] at hx
  subst hx
  simp [Cursor.startsWith, hc, List.isPrefixOf, fault] at h

lemma rest_ne_nil_of_startsWith {c : Cursor} {word : String} (hw : word.toList ≠ [])
    (hs : c.startsWith word = true) : c.rest ≠ [] := by
  intro hn
  have hle := Cursor.length_le_left hs
  simp [Cursor.left, hn, hw] at hle

lemma extends_namedGroup (ht : ∀ i, Closing (tail i)) (h : p.Mirrors base tail p') {c : Cursor} {c' : ι → Cursor}
    (hc : c.Follows tail c') (hname : c.startsWith "?P<" = true ∨ c.startsWith "?<" = true) :
    Extends (Mirrors base tail) (fun i => Stuck (tail i) (p' i))
      (groupName p.names (c.drop (if c.startsWith "?P<" then 3 else 2)) >>= fun x =>
        .ok { p.openGroup [] true x.2 with names := x.1 :: p.names })
      fun i => groupName (p' i).names ((c' i).drop (if c.startsWith "?P<" then 3 else 2)) >>= fun x =>
        .ok { (p' i).openGroup [] true x.2 with names := x.1 :: (p' i).names } := by
  have hdrop : (c.drop (if c.startsWith "?P<" then 3 else 2)).Follows tail
      fun i => (c' i).drop (if c.startsWith "?P<" then 3 else 2) := by
    by_cases hlong : c.startsWith "?P<" = true
    · simp only [if_pos hlong]
      exact hc.drop (Cursor.length_le_left hlong) (rest_ne_nil_of_startsWith (by decide) hlong)
    · have hshort := hname.resolve_left hlong
      simp only [if_neg hlong]
      exact hc.drop (Cursor.length_le_left hshort) (rest_ne_nil_of_startsWith (by decide) hshort)
  refine (extends_groupName ht hdrop h.names).bind_of_never ?_
  rintro ⟨named, after⟩ x' - ⟨hnamed, hafter⟩
  exact .of_rel ((h.openGroup [] true hafter).withName hnamed)

lemma extends_questionGroup (ht : ∀ i, Closing (tail i)) (h : p.Mirrors base tail p') {c : Cursor}
    {c' : ι → Cursor} (hc : c.Follows tail c') (hne : c.rest ≠ []) :
    Extends (Mirrors base tail) (fun i => Stuck (tail i) (p' i))
      (if c.next.rest.isEmpty then fault .groupUnclosed p.cursor.charSpan else p.flagGroup c)
      fun i => if (c' i).next.rest.isEmpty then fault .groupUnclosed (p' i).cursor.charSpan
        else (p' i).flagGroup (c' i) := by
  have hnext := hc.next hne
  by_cases hn : c.next.rest = []
  · rw [if_pos (by simp [hn])]
    refine .of_errors (fun i q => ?_) _ _
    rcases hnext.paren_or_nil ht hn i with ⟨more, -, -, hi⟩ | hi
    · simp only [hi, List.isEmpty_cons]
      exact flagGroup_ne_ok hi q
    · simp [hi, fault]
  · have hn' (i : ι) : (c' i).next.rest.isEmpty = false := by simp [hnext.append hn, hn]
    have hown : c.next.rest.isEmpty = false := by simpa using hn
    simp only [hown, hn']
    exact extends_flagGroup ht h hc hne

lemma extends_parenthesis (ht : ∀ i, Closing (tail i)) (h : p.Mirrors base tail p') (hc : p.cursor.rest ≠ []) :
    Extends (Mirrors base tail) (fun i => Stuck (tail i) (p' i)) p.parenthesis fun i => (p' i).parenthesis := by
  have ha := h.cursor.advance ht hc p.verbose
  have hword (word : String) (hw : ')' ∉ word.toList) (i : ι) :
      ((p' i).cursor.advance p.verbose).startsWith word = (p.cursor.advance p.verbose).startsWith word :=
    ha.startsWith ht hw i
  have hsigns (i : ι) : lookAroundSigns.find? ((p' i).cursor.advance p.verbose).startsWith =
      lookAroundSigns.find? (p.cursor.advance p.verbose).startsWith := by
    simp only [lookAroundSigns, List.find?, hword "?=" (by decide), hword "?!" (by decide),
      hword "?<=" (by decide), hword "?<!" (by decide)]
  simp only [parenthesis_eq, h.verbose, hsigns, hword "?P<" (by decide), hword "?<" (by decide),
    hword "?" (by decide)]
  cases lookAroundSigns.find? (p.cursor.advance p.verbose).startsWith with
  | some sign => exact .faults
  | none =>
    by_cases hname : (p.cursor.advance p.verbose).startsWith "?P<" = true ∨
        (p.cursor.advance p.verbose).startsWith "?<" = true
    · simp only [if_pos hname]
      exact extends_namedGroup ht h ha hname
    by_cases hq : (p.cursor.advance p.verbose).startsWith "?" = true
    · simp only [if_neg hname, if_pos hq]
      exact extends_questionGroup ht h ha (rest_ne_nil_of_startsWith (by decide) hq)
    · simp only [if_neg hname, if_neg hq]
      exact .of_rel (h.openGroup _ _ ha)

lemma Item.bare_toExpr {item item' : Item} (h : item'.bare = item.bare) :
    item'.toExpr.bare = item.toExpr.bare := by
  cases item <;> cases item' <;> simp_all [Item.bare, Item.toExpr, Expr.bare, ClassSyntax.bare]

lemma stuck_of_astray {i : ι} {x : Item × Cursor} (hx : Astray p.verbose tail i x) :
    Stuck (tail i) p (p.push x.1.toExpr x.2) := by
  refine ⟨rfl, hx.imp_right ?_⟩
  rintro ⟨kind, span, r, hitem, hrest, hadvance⟩
  exact ⟨kind, span, p.content.parts, r, by rw [hitem]; rfl, hrest, hadvance⟩

lemma extends_step (ht : ∀ i, Closing (tail i)) (h : p.Mirrors base tail p') {d : Char}
    (hc : p.cursor.rest ≠ []) (hd : d = ')' → p.outer ≠ []) :
    Extends (Mirrors base tail) (fun i => Stuck (tail i) (p' i)) (p.step d) fun i => (p' i).step d := by
  have hchar (e : Span → Expr) (he : ∀ s s', (e s').bare = (e s).bare) :
      Extends (Mirrors base tail) (fun i => Stuck (tail i) (p' i))
        (.ok (p.push (e p.cursor.charSpan) p.cursor.next))
        fun i => .ok ((p' i).push (e (p' i).cursor.charSpan) (p' i).cursor.next) :=
    .of_rel (h.push (fun i => he _ _) (h.cursor.next hc))
  by_cases hopen : d = '('
  · subst hopen
    exact extends_parenthesis ht h hc
  by_cases hclose : d = ')'
  · subst hclose
    exact (extends_closeGroup h hc (hd rfl)).of_never
  by_cases hbar : d = '|'
  · subst hbar
    exact .of_rel (h.bar hc)
  by_cases hclass : d = '['
  · subst hclass
    simp only [step, h.verbose]
    refine (extends_characterClass ht h.cursor).bind_of_never fun x x' _ hx => ?_
    refine .of_rel (h.push ?_ hx.2)
    exact fun i => congrArg Expr.characters (hx.1 i)
  by_cases hquestion : d = '?'
  · subst hquestion
    exact (extends_repeated ht h hc _).of_never
  by_cases hstar : d = '*'
  · subst hstar
    exact (extends_repeated ht h hc _).of_never
  by_cases hplus : d = '+'
  · subst hplus
    exact (extends_repeated ht h hc _).of_never
  by_cases hbrace : d = '\x7b'
  · subst hbrace
    exact (extends_counted ht h hc).of_never
  by_cases hdot : d = '.'
  · subst hdot
    exact hchar Expr.dot fun _ _ => rfl
  by_cases hcaret : d = '^'
  · subst hcaret
    exact hchar (Expr.assertion .startLine) fun _ _ => rfl
  by_cases hdollar : d = '$'
  · subst hdollar
    exact hchar (Expr.assertion .endLine) fun _ _ => rfl
  simp only [step, h.verbose]
  refine (extends_plainItem ht h.cursor hc).bind ?_ fun x x' _ hx => ?_
  · rintro i x hx q ⟨⟩
    exact stuck_of_astray ((h.verbose i).symm ▸ hx)
  · exact .of_rel (h.push (fun i => Item.bare_toExpr (hx.1 i)) hx.2)

end Progress

end DiscountTables.Pattern
