import DiscountTables.Proofs.Pattern.FollowItems

namespace DiscountTables.Pattern

open Text

def ClassFrame.bare : ClassFrame → ClassFrame
  | bracket before negated _ => bracket (before.map ClassSyntax.bare) negated nowhere
  | operand kind left => operand kind left.bare

def Behind (tail rest : List Char) : Prop := rest = tail ∨ Spent rest

section Behind

variable {tail : List Char} {verbose : Bool} {c d : Cursor}

lemma Cursor.length_le_left {word : String} (h : c.startsWith word = true) : word.toList.length ≤ c.left :=
  (List.isPrefixOf_iff_prefix.mp h).length_le

lemma Cursor.skip_eq_self (verbose : Bool) {e : Char} {r : List Char} (hc : c.rest = e :: r)
    (hb : isBlank e = false)
    (he : e ≠ '#') : c.skip verbose = c := by
  obtain ⟨p, rest⟩ := c
  subst hc
  cases verbose <;> simp [skip, skipFrom, hb, he]

lemma Cursor.skip_of_rest_nil (verbose : Bool) (hc : c.rest = []) : c.skip verbose = c := by
  obtain ⟨p, rest⟩ := c
  subst hc
  cases verbose <;> rfl

lemma Cursor.rest_skip_of_behind (ht : Closing tail) (hc : Behind tail c.rest) :
    (c.skip verbose).rest = c.rest := by
  obtain ⟨more, rfl, -⟩ := ht.eq_cons
  rcases hc with hc | hc | hc
  · rw [skip_eq_self verbose hc (by decide) (by decide)]
  · rw [skip_of_rest_nil verbose hc]
  · rw [skip_eq_self verbose hc (by decide) (by decide)]

lemma plainItem_of_ne (verbose : Bool) {e : Char} {r : List Char} (hc : c.rest = e :: r) (he : e ≠ '\\') :
    plainItem verbose c = .ok (.literal ⟨e, false, c.charSpan⟩, c.next) := by
  simp [plainItem, hc]

lemma classBody_ne_ok_of_last {e : Char} (he : e = ')' ∨ e = '$') (fuel : ℕ) (frames : List ClassFrame)
    (place : Span) (items : List ClassSyntax) (hc : (c.skip verbose).rest = [e]) (x : ClassSyntax × Cursor) :
    classBody verbose fuel frames place items c ≠ .ok x := by
  have hnext : ((c.skip verbose).next.skip verbose).rest = [] := by
    apply List.eq_nil_of_suffix_nil
    simpa [Cursor.rest_next, hc] using Cursor.skip_suffix verbose (c.skip verbose).next
  cases fuel with
  | zero => simp [classBody]
  | succ fuel =>
    have hitem := plainItem_of_ne verbose hc (by rcases he with rfl | rfl <;> decide)
    intro h
    rcases he with rfl | rfl <;> simp [classBody, hc, setOperator?, classRange, hitem, bind_eq_ok, hnext] at h

lemma classBody_ne_ok_of_behind (ht : Closing tail) (fuel : ℕ) (frames : List ClassFrame) (place : Span)
    (items : List ClassSyntax) (hc : Behind tail (c.skip verbose).rest) (x : ClassSyntax × Cursor) :
    classBody verbose fuel frames place items c ≠ .ok x := by
  rcases hc with hc | hc | hc
  · cases ht with
    | alone => exact classBody_ne_ok_of_last (Or.inl rfl) _ _ _ _ hc x
    | anchored =>
      cases fuel with
      | zero => simp [classBody]
      | succ fuel =>
        have hitem := plainItem_of_ne verbose hc (by decide)
        have hnext : (c.skip verbose).next.rest = ['$'] := by rw [Cursor.rest_next, hc, List.tail_cons]
        have hself := Cursor.skip_eq_self verbose hnext (by decide) (by decide)
        intro h
        simp [classBody, hc, setOperator?, classRange, hitem, bind_eq_ok, hself, hnext, Item.toClass] at h
        exact classBody_ne_ok_of_last (Or.inr rfl) _ _ _ _ (hself.symm ▸ hnext) x h
  · cases fuel <;> simp [classBody, hc]
  · exact classBody_ne_ok_of_last (Or.inr rfl) _ _ _ _ hc x

end Behind

variable {ι : Type} {tail : ι → List Char} {verbose : Bool} {c : Cursor} {c' : ι → Cursor}

lemma leadingHyphens_follows (verbose : Bool) (ht : ∀ i, Closing (tail i)) (h : c.Follows tail c') {n : ℕ}
    {m : ι → ℕ} (hn : c.left ≤ n) (hm : ∀ i, (c' i).left ≤ m i) (read : List ClassSyntax)
    (read' : ι → List ClassSyntax)
    (hread : ∀ i, (read' i).map ClassSyntax.bare = read.map ClassSyntax.bare) :
    (∀ i, (leadingHyphens verbose (m i) (read' i) (c' i)).1.map ClassSyntax.bare =
        (leadingHyphens verbose n read c).1.map ClassSyntax.bare) ∧
      (leadingHyphens verbose n read c).2.Follows tail
        fun i => (leadingHyphens verbose (m i) (read' i) (c' i)).2 := by
  have hstop {fuel : ℕ} {read : List ClassSyntax} {c : Cursor} (hc : c.rest.head? ≠ some '-') :
      leadingHyphens verbose fuel read c = (read, c) := by
    cases fuel with
    | zero => rfl
    | succ fuel =>
      simp only [leadingHyphens]
      split
      · rename_i hd
        simp [hd] at hc
      · rfl
  induction n generalizing m read read' c c' with
  | zero =>
    have hc : c.rest = [] := List.length_eq_zero_iff.mp (Nat.le_zero.mp hn)
    have hstop' (i : ι) : leadingHyphens verbose (m i) (read' i) (c' i) = (read' i, c' i) := by
      apply hstop
      rcases h.paren_or_nil ht hc i with ⟨more, -, -, hi⟩ | hi <;> simp [hi]
    simp only [hstop']
    exact ⟨hread, h⟩
  | succ n ih =>
    by_cases hd : c.rest.head? = some '-'
    · obtain ⟨r, hc⟩ := List.head?_eq_some_iff.mp hd
      have hc' := h.cons hc
      have hlt : (c.advance verbose).left < c.left := Cursor.left_advance_lt (by simp [Cursor.left, hc])
      have hpos (i : ι) : 0 < (c' i).left := by simp [Cursor.left, hc']
      have hlt' (i : ι) : ((c' i).advance verbose).left < (c' i).left := Cursor.left_advance_lt (hpos i)
      obtain ⟨k, hmk⟩ := Cursor.Follows.exists_eq_succ fun i => (hpos i).trans_le (hm i)
      have hle (i : ι) : ((c' i).advance verbose).left ≤ k i := by
        have := (hlt' i).trans_le ((hm i).trans_eq (hmk i))
        omega
      simp only [hmk, leadingHyphens, hc, hc']
      apply ih (h.advance ht (by simp [hc]) verbose) (by omega) hle _ _
      exact fun i => congrArg (_ :: ·) (hread i)
    · have hd' (i : ι) : (c' i).rest.head? ≠ some '-' := by
        cases hc : c.rest with
        | nil => rcases h.paren_or_nil ht hc i with ⟨more, -, -, hi⟩ | hi <;> simp [hi]
        | cons e r => simpa [hc, h.cons hc i] using hd
      simp only [hstop hd, hstop (hd' _)]
      exact ⟨hread, h⟩

def afterHyphens (verbose negated : Bool) (first : Place) (items : List ClassSyntax) :
    Reader (Bool × Span × List ClassSyntax) := fun c =>
  if c.rest.isEmpty then fault .classUnclosed ⟨first, first⟩
  else
    match items, c.rest with
    | [], ']' :: _ =>
      let after := c.advance verbose
      if after.rest.isEmpty then fault .classUnclosed ⟨first, after.place⟩
      else
        .ok ((negated, ⟨first, after.place⟩, [.literal ⟨']', false, c.charSpan⟩]), after)
    | items, _ => .ok ((negated, ⟨first, c.place⟩, items), c)

def classStart (verbose negated : Bool) (first : Place) : Reader (Bool × Span × List ClassSyntax) := fun c =>
  if c.rest.isEmpty then fault .classUnclosed ⟨first, c.place⟩
  else
    let (items, c) := leadingHyphens verbose c.rest.length [] c
    afterHyphens verbose negated first items c

lemma openClass_eq {d : Char} {r : List Char} (hd : (c.advance verbose).rest = d :: r) :
    openClass verbose c = classStart verbose (d == '^') c.place
      (if d == '^' then (c.advance verbose).advance verbose else c.advance verbose) := by
  simp only [openClass, hd]
  rfl

def startView (x : Bool × Span × List ClassSyntax) : Bool × List ClassSyntax :=
  (x.1, x.2.2.map ClassSyntax.bare)

lemma extends_afterHyphens (ht : ∀ i, Closing (tail i)) (h : c.Follows tail c') (negated : Bool) (first : Place)
    (first' : ι → Place) {items : List ClassSyntax} {items' : ι → List ClassSyntax}
    (hi : ∀ i, (items' i).map ClassSyntax.bare = items.map ClassSyntax.bare) :
    Extends (Kept tail startView) (fun i x => Behind (tail i) x.2.rest)
      (afterHyphens verbose negated first items c)
      fun i => afterHyphens verbose negated (first' i) (items' i) (c' i) := by
  cases hc : c.rest with
  | nil =>
    simp only [afterHyphens, hc]
    intro i x hx
    rcases h.paren_or_nil ht hc i with ⟨more, htail, -, hi⟩ | hi
    · simp [hi] at hx
      subst hx
      exact Or.inl (hi.trans htail.symm)
    · simp [hi, fault] at hx
  | cons d r =>
    simp only [afterHyphens, hc, h.cons hc, List.isEmpty_cons]
    cases items with
    | nil =>
      have hnil (i : ι) : items' i = [] := List.map_eq_nil_iff.mp (hi i)
      simp only [hnil]
      by_cases hd : d = ']'
      · subst hd
        have ha := h.advance ht (by simp [hc]) verbose
        cases hs : (c.advance verbose).rest with
        | nil =>
          intro i x hx
          rcases ha.paren_or_nil ht hs i with ⟨more, htail, -, hi⟩ | hi
          · simp [hi] at hx
            subst hx
            exact Or.inl (hi.trans htail.symm)
          · simp [hi, fault] at hx
        | cons e t =>
          simp only [ha.cons hs, List.isEmpty_cons]
          exact .of_rel ⟨fun _ => rfl, ha⟩
      · simp only [List.cons.injEq, hd, false_and, imp_self, implies_true]
        exact .of_rel ⟨fun _ => rfl, h⟩
    | cons a items =>
      have hcons (i : ι) : ∃ b t, items' i = b :: t := by
        apply List.exists_cons_of_ne_nil
        intro hn
        simpa [hn] using hi i
      choose b t hb using hcons
      simp only [hb]
      exact .of_rel ⟨fun i => by simp only [startView, ← hi i, hb i], h⟩

lemma extends_classStart (ht : ∀ i, Closing (tail i)) (h : c.Follows tail c') (negated : Bool) (first : Place)
    (first' : ι → Place) :
    Extends (Kept tail startView) (fun i x => Behind (tail i) x.2.rest) (classStart verbose negated first c)
      fun i => classStart verbose negated (first' i) (c' i) := by
  cases hc : c.rest with
  | nil =>
    simp only [classStart, hc]
    intro i x hx
    rcases h.paren_or_nil ht hc i with ⟨more, htail, -, hi⟩ | hi
    · simp [hi, leadingHyphens, afterHyphens] at hx
      subst hx
      exact Or.inl (hi.trans htail.symm)
    · simp [hi, fault] at hx
  | cons d r =>
    have hne : c.rest.isEmpty = false := by simp [hc]
    have hne' (i : ι) : (c' i).rest.isEmpty = false := by simp [h.cons hc]
    obtain ⟨hitems, hafter⟩ := leadingHyphens_follows verbose ht h (le_refl c.rest.length)
      (fun i => le_refl (c' i).rest.length) [] (fun _ => []) fun _ => rfl
    simp only [classStart, hne, hne']
    exact extends_afterHyphens ht hafter negated first first' hitems

lemma extends_openClass (ht : ∀ i, Closing (tail i)) (h : c.Follows tail c') (hc : c.rest ≠ []) :
    Extends (Kept tail startView) (fun i x => Behind (tail i) x.2.rest) (openClass verbose c)
      fun i => openClass verbose (c' i) := by
  have ha := h.advance ht hc verbose
  cases hd : (c.advance verbose).rest with
  | nil =>
    simp only [openClass, hd]
    intro i x hx
    rcases ha.paren_or_nil ht hd i with ⟨more, htail, -, hi⟩ | hi
    · simp [hi, leadingHyphens] at hx
      subst hx
      exact Or.inl (hi.trans htail.symm)
    · simp [hi, fault] at hx
  | cons d r =>
    simp only [openClass_eq hd, openClass_eq (ha.cons hd _)]
    by_cases hn : (d == '^') = true
    · simp only [if_pos hn]
      exact extends_classStart ht (ha.advance ht (by simp [hd]) verbose) _ _ _
    · simp only [if_neg hn]
      exact extends_classStart ht ha _ _ _

lemma namedClass?_follows (ht : ∀ i, Closing (tail i)) (h : c.Follows tail c') (hc : c.rest ≠ []) :
    (namedClass? c = none ∧ ∀ i, namedClass? (c' i) = none) ∨
      ∃ x x', namedClass? c = some x ∧ (∀ i, namedClass? (c' i) = some (x' i)) ∧
        Kept tail ClassSyntax.bare x x' := by
  by_cases hs : c.startsWith "[:" = true
  · have hs' (i : ι) : (c' i).startsWith "[:" = true := (h.startsWith ht (by decide) i).trans hs
    have hinside : (c.drop 2).Follows tail fun i => (c' i).drop 2 := h.drop (Cursor.length_le_left hs) hc
    have hsign (i : ι) : (((c' i).drop 2).rest.head? == some '^') = ((c.drop 2).rest.head? == some '^') := by
      cases hr : (c.drop 2).rest with
      | nil => rcases hinside.paren_or_nil ht hr i with ⟨more, -, -, hi⟩ | hi <;> simp [hi]
      | cons d r => simp [hinside.cons hr i]
    simp only [namedClass?, if_pos hs, if_pos (hs' _), hsign]
    generalize hg : (if ((c.drop 2).rest.head? == some '^') = true then (c.drop 2).next else c.drop 2) = d
    obtain ⟨d', hg'⟩ : ∃ w : ι → Cursor, ∀ i, (if ((c.drop 2).rest.head? == some '^') = true
      then ((c' i).drop 2).next else (c' i).drop 2) = w i := ⟨_, fun _ => rfl⟩
    have hd : d.Follows tail d' := by
      by_cases hn : ((c.drop 2).rest.head? == some '^') = true
      · simp only [if_pos hn] at hg hg'
        rw [← hg, ← funext hg']
        exact hinside.next (by rintro hr; simp [hr] at hn)
      · simp only [if_neg hn] at hg hg'
        rw [← hg, ← funext hg']
        exact hinside
    simp only [hg']
    obtain ⟨hnil, hcons⟩ := hd.takeWhile_through ht false (· != ':')
      (fun i => by rcases (ht i).eq_cons with ⟨_, hi, rfl | rfl⟩ <;> simp [hi])
    cases hr : (d.takeWhile false (· != ':')).2.rest with
    | nil =>
      refine Or.inl ⟨?_, fun i => ?_⟩
      · simp [Cursor.startsWith, hr]
      · simp [Cursor.startsWith, hnil hr i]
    | cons e r =>
      obtain ⟨hname, hafter⟩ := hcons (by simp [hr])
      by_cases he : (d.takeWhile false (· != ':')).2.startsWith ":]" = true
      · have he' (i : ι) := (hafter.startsWith ht (by decide) i).trans he
        simp only [if_pos he, if_pos (he' _), hname]
        cases asciiClass? (d.takeWhile false (· != ':')).1 with
        | none => exact Or.inl ⟨rfl, fun _ => rfl⟩
        | some kind =>
          refine Or.inr ⟨_, _, rfl, fun _ => rfl, fun _ => rfl, ?_⟩
          exact hafter.drop (Cursor.length_le_left he) (by simp [hr])
      · have he' (i : ι) : ¬ ((d' i).takeWhile false (· != ':')).2.startsWith ":]" = true := by
          rwa [hafter.startsWith ht (by decide) i]
        exact Or.inl ⟨if_neg he, fun i => if_neg (he' i)⟩
  · have hs' (i : ι) : ¬ (c' i).startsWith "[:" = true := by rwa [h.startsWith ht (by decide) i]
    exact Or.inl ⟨by simp only [namedClass?, if_neg hs], fun i => by simp only [namedClass?, if_neg (hs' i)]⟩

lemma Item.toOption_toClass {item item' : Item} (h : item'.bare = item.bare) :
    item'.toClass.toOption.map ClassSyntax.bare = item.toClass.toOption.map ClassSyntax.bare := by
  cases item <;> cases item' <;> simp_all [bare, toClass, ClassSyntax.bare, Except.toOption, fault]

lemma Item.toOption_toBoundary {item item' : Item} (h : item'.bare = item.bare) :
    item'.toBoundary.toOption.map Literal.bare = item.toBoundary.toOption.map Literal.bare := by
  cases item <;> cases item' <;> simp_all [bare, toBoundary, Except.toOption, fault]

lemma Cursor.skip_of_spent (hc : Spent c.rest) : (c.skip verbose).rest = c.rest :=
  rest_skip_of_behind .anchored (Or.inr hc)

lemma Astray.spent {i : ι} {x : Item × Cursor} (h : Astray verbose tail i x) {l : Literal}
    (hl : x.1.toBoundary = .ok l) : Spent x.2.rest := by
  rcases h with h | ⟨kind, span, r, hx, -⟩
  · exact h
  · simp [hx, Item.toBoundary, fault] at hl

def rangeLast (verbose : Bool) (item : Item) : Reader ClassSyntax := fun c => do
  let (other, c) ← plainItem verbose c
  let first ← item.toBoundary
  let last ← other.toBoundary
  if first.char ≤ last.char then return (.range first last, c)
  else fault .classRangeInvalid ⟨item.span.first, other.span.last⟩

def rangeRest (verbose : Bool) (frames : List ClassFrame) (item : Item) : Reader ClassSyntax := fun c => do
  let c := c.skip verbose
  match c.rest with
  | [] => .error (unclosedClass frames c)
  | d :: _ =>
    if d ≠ '-' ∨ c.peek? verbose = some ']' ∨ c.peek? verbose = some '-' then
      return (← item.toClass, c)
    else
      let c := c.advance verbose
      if c.rest.isEmpty then .error (unclosedClass frames c) else rangeLast verbose item c

lemma classRange_eq (frames : List ClassFrame) :
    classRange verbose frames c = plainItem verbose c >>= fun x => rangeRest verbose frames x.1 x.2 := rfl

lemma rangeLast_eq_ok {item : Item} {y : ClassSyntax × Cursor} (h : rangeLast verbose item c = .ok y) :
    ∃ other l, plainItem verbose c = .ok (other, y.2) ∧ other.toBoundary = .ok l := by
  obtain ⟨⟨other, d⟩, hother, h⟩ := bind_eq_ok.mp h
  obtain ⟨first, -, h⟩ := bind_eq_ok.mp h
  obtain ⟨last, hlast, h⟩ := bind_eq_ok.mp h
  split at h
  · cases h
    exact ⟨other, last, hother, hlast⟩
  · cases h

lemma rangeRest_of_ne {frames : List ClassFrame} {item : Item} {d : Char} {r : List Char}
    (hd : (c.skip verbose).rest = d :: r) (hne : d ≠ '-') :
    rangeRest verbose frames item c = item.toClass >>= fun x => pure (x, c.skip verbose) := by
  simp [rangeRest, hd, hne]

lemma rangeRest_of_astray {frames : List ClassFrame} {i : ι} {x : Item × Cursor} {y : ClassSyntax × Cursor}
    (hx : Astray verbose tail i x) (hy : rangeRest verbose frames x.1 x.2 = .ok y) :
    Behind (tail i) y.2.rest := by
  rcases hx with (hx | hx) | ⟨kind, span, r, hitem, hx, -⟩
  · have hskip : (x.2.skip verbose).rest = [] := (Cursor.skip_of_spent (Or.inl hx)).trans hx
    simp [rangeRest, hskip] at hy
  · have hskip : (x.2.skip verbose).rest = ['$'] := (Cursor.skip_of_spent (Or.inr hx)).trans hx
    rw [rangeRest_of_ne hskip (by decide)] at hy
    obtain ⟨_, _, hy⟩ := bind_eq_ok.mp hy
    cases hy
    exact Or.inr (Or.inr hskip)
  · have hskip : (x.2.skip verbose).rest = '\x7b' :: r := by
      rw [Cursor.skip_eq_self verbose hx (by decide) (by decide), hx]
    rw [rangeRest_of_ne hskip (by decide), hitem] at hy
    cases hy

lemma extends_rangeLast (ht : ∀ i, Closing (tail i)) (h : c.Follows tail c') (hc : c.rest ≠ []) {item : Item}
    {item' : ι → Item} (hitem : ∀ i, (item' i).bare = item.bare) :
    Extends (Kept tail ClassSyntax.bare) (fun _ x => Spent x.2.rest) (rangeLast verbose item c)
      fun i => rangeLast verbose (item' i) (c' i) := by
  have hfirst : Extends (fun a b => ∀ i, Literal.bare (b i) = a.bare) never item.toBoundary
      fun i => (item' i).toBoundary := .of_toOption fun i => Item.toOption_toBoundary (hitem i)
  apply (extends_plainItem ht h hc).bind
  · rintro i ⟨other, d⟩ hstray y hy
    obtain ⟨first, -, hy⟩ := bind_eq_ok.mp hy
    obtain ⟨last, hlast, hy⟩ := bind_eq_ok.mp hy
    split at hy
    · cases hy
      exact hstray.spent hlast
    · cases hy
  · rintro ⟨other, d⟩ x' - ⟨hother, hd⟩
    have hlast : Extends (fun a b => ∀ i, Literal.bare (b i) = a.bare) never other.toBoundary
        fun i => (x' i).1.toBoundary := .of_toOption fun i => Item.toOption_toBoundary (hother i)
    refine hfirst.bind_of_never fun first first' _ hf => hlast.bind_of_never fun last last' _ hl => ?_
    have hf' (i : ι) : (first' i).char = first.char := (Literal.mk.inj (hf i)).1
    have hl' (i : ι) : (last' i).char = last.char := (Literal.mk.inj (hl i)).1
    simp only [hf', hl']
    by_cases hle : first.char ≤ last.char
    · simp only [if_pos hle]
      exact .of_rel ⟨fun i => by simp [ClassSyntax.bare, hf i, hl i], hd⟩
    · simp only [if_neg hle]
      exact .faults

lemma extends_rangeRest (ht : ∀ i, Closing (tail i)) (h : c.Follows tail c') {item : Item} {item' : ι → Item}
    (hitem : ∀ i, (item' i).bare = item.bare) (frames : List ClassFrame) (frames' : ι → List ClassFrame) :
    Extends (Kept tail ClassSyntax.bare) (fun i x => Behind (tail i) x.2.rest)
      (rangeRest verbose frames item c) fun i => rangeRest verbose (frames' i) (item' i) (c' i) := by
  have hclass : Extends (fun a b => ∀ i, ClassSyntax.bare (b i) = a.bare) never item.toClass
      fun i => (item' i).toClass := .of_toOption fun i => Item.toOption_toClass (hitem i)
  have hskip := h.skip ht verbose
  cases hc : (c.skip verbose).rest with
  | nil =>
    have hown : rangeRest verbose frames item c = .error (unclosedClass frames (c.skip verbose)) := by
      simp [rangeRest, hc]
    rw [hown]
    intro i x (hx : rangeRest verbose (frames' i) (item' i) (c' i) = .ok x)
    rcases hskip.paren_or_nil ht hc i with ⟨more, htail, -, hi⟩ | hi
    · rw [rangeRest_of_ne hi (by decide)] at hx
      obtain ⟨_, _, hx⟩ := bind_eq_ok.mp hx
      cases hx
      exact Or.inl (hi.trans htail.symm)
    · simp [rangeRest, hi] at hx
  | cons d r =>
    have hne : (c.skip verbose).rest ≠ [] := by simp [hc]
    simp only [rangeRest, hc, hskip.cons hc, hskip.peek?_eq_some_iff ht hne (Or.inl rfl),
      hskip.peek?_eq_some_iff ht hne (Or.inr rfl)]
    by_cases hd : d ≠ '-' ∨ (c.skip verbose).peek? verbose = some ']' ∨
        (c.skip verbose).peek? verbose = some '-'
    · simp only [if_pos hd]
      exact hclass.bind_of_never fun x x' _ hx => .of_rel ⟨hx, hskip⟩
    · simp only [if_neg hd]
      have ha := hskip.advance ht hne verbose
      cases hr : ((c.skip verbose).advance verbose).rest with
      | nil =>
        intro i x hx
        rcases ha.paren_or_nil ht hr i with ⟨more, -, hm, hi⟩ | hi
        · simp only [hi, List.isEmpty_cons] at hx
          obtain ⟨other, _, hother, -⟩ := rangeLast_eq_ok hx
          rw [plainItem_of_ne verbose hi (by decide)] at hother
          have hx : ((c' i).skip verbose |>.advance verbose).next = x.2 :=
            (Prod.mk.inj (Except.ok.inj hother)).2
          refine Or.inr ?_
          rwa [← hx, Cursor.rest_next, hi]
        · simp [hi] at hx
      | cons e s =>
        simp only [ha.cons hr, List.isEmpty_cons]
        exact (extends_rangeLast ht ha (by simp [hr]) hitem).weaken fun _ _ hx => Or.inr hx

lemma extends_classRange (ht : ∀ i, Closing (tail i)) (h : c.Follows tail c') (hc : c.rest ≠ [])
    (frames : List ClassFrame) (frames' : ι → List ClassFrame) :
    Extends (Kept tail ClassSyntax.bare) (fun i x => Behind (tail i) x.2.rest) (classRange verbose frames c)
      fun i => classRange verbose (frames' i) (c' i) := by
  simp only [classRange_eq]
  apply (extends_plainItem ht h hc).bind
  · exact fun i x hx y hy => rangeRest_of_astray hx hy
  · exact fun x x' _ hx => extends_rangeRest ht hx.2 hx.1 frames frames'

lemma closeOperation_bare {right right' : ClassSyntax} (hr : right'.bare = right.bare)
    {frames frames' : List ClassFrame} (hf : frames'.map ClassFrame.bare = frames.map ClassFrame.bare) :
    (closeOperation right' frames').1.bare = (closeOperation right frames).1.bare ∧
      (closeOperation right' frames').2.map ClassFrame.bare =
        (closeOperation right frames).2.map ClassFrame.bare := by
  match frames, frames', hf with
  | [], [], _ => exact ⟨hr, rfl⟩
  | .bracket .. :: _, .bracket .. :: _, hf => exact ⟨hr, hf⟩
  | .operand kind left :: rest, .operand kind' left' :: rest', hf =>
    simp only [List.map_cons, List.cons.injEq, ClassFrame.bare, ClassFrame.operand.injEq] at hf
    obtain ⟨⟨rfl, hleft⟩, hrest⟩ := hf
    exact ⟨by simp [closeOperation, ClassSyntax.bare, hr, hleft], hrest⟩
  | .bracket .. :: _, .operand .. :: _, hf => simp [ClassFrame.bare] at hf
  | .operand .. :: _, .bracket .. :: _, hf => simp [ClassFrame.bare] at hf

lemma ClassFrame.exists_eq_bracket {f : ClassFrame} {before : List ClassSyntax} {negated : Bool} {span : Span}
    (h : f.bare = (bracket before negated span).bare) : ∃ before' span', f = bracket before' negated span' ∧
      before'.map ClassSyntax.bare = before.map ClassSyntax.bare := by
  cases f with
  | bracket before' negated' span' =>
    obtain ⟨hbefore, rfl, -⟩ := bracket.inj h
    exact ⟨before', span', rfl, hbefore⟩
  | operand kind left => cases h

lemma ClassFrame.exists_eq_operand {f : ClassFrame} {kind : SetOperator} {left : ClassSyntax}
    (h : f.bare = (operand kind left).bare) : ∃ left', f = operand kind left' := by
  cases f with
  | bracket before negated span => cases h
  | operand kind' left' =>
    obtain ⟨rfl, -⟩ := operand.inj h
    exact ⟨left', rfl⟩

lemma ofItems_bare_congr (place place' : Span) {items items' : List ClassSyntax}
    (h : items'.map ClassSyntax.bare = items.map ClassSyntax.bare) :
    (ClassSyntax.ofItems place' items').bare = (ClassSyntax.ofItems place items).bare := by
  rw [ClassSyntax.bare_ofItems, ClassSyntax.bare_ofItems, h]

lemma setOperator?_append {tail : List Char} (ht : Closing tail) (d : Char) (r : List Char) :
    setOperator? (d :: (r ++ tail)) = setOperator? (d :: r) := by
  obtain ⟨more, rfl, -⟩ := ht.eq_cons
  cases r with
  | nil =>
    simp only [setOperator?, List.nil_append]
    split <;> simp_all
  | cons e s =>
    simp only [setOperator?, List.cons_append]
    split <;> split <;> simp_all

lemma two_le_left_of_setOperator? {kind : SetOperator} (h : setOperator? c.rest = some kind) : 2 ≤ c.left := by
  simp only [setOperator?] at h
  split at h
  case h_4 => cases h
  all_goals rename_i hc; simp [Cursor.left, hc]

section Body

variable {frames : List ClassFrame} {frames' : ι → List ClassFrame} {items : List ClassSyntax}
  {items' : ι → List ClassSyntax}

structure ClassMirrors (tail : ι → List Char) (frames : List ClassFrame) (frames' : ι → List ClassFrame)
    (items : List ClassSyntax) (items' : ι → List ClassSyntax) (c : Cursor) (c' : ι → Cursor) : Prop where
  frames : ∀ i, (frames' i).map ClassFrame.bare = frames.map ClassFrame.bare
  items : ∀ i, (items' i).map ClassSyntax.bare = items.map ClassSyntax.bare
  cursor : c.Follows tail c'

lemma ClassMirrors.isEmpty (h : ClassMirrors tail frames frames' items items' c c') (i : ι) :
    (frames' i).isEmpty = frames.isEmpty := by
  rw [← List.isEmpty_map, h.frames i, List.isEmpty_map]

lemma ClassMirrors.closeOperation (h : ClassMirrors tail frames frames' items items' c c') (place : Span)
    (place' : ι → Span) (i : ι) :
    (closeOperation (.ofItems (place' i) (items' i)) (frames' i)).1.bare =
        (closeOperation (.ofItems place items) frames).1.bare ∧
      (closeOperation (.ofItems (place' i) (items' i)) (frames' i)).2.map ClassFrame.bare =
        (closeOperation (.ofItems place items) frames).2.map ClassFrame.bare :=
  closeOperation_bare (ofItems_bare_congr place (place' i) (h.items i)) (h.frames i)

def BodyExtends (tail : ι → List Char) (verbose : Bool) (n : ℕ) : Prop :=
  ∀ {c : Cursor} {c' : ι → Cursor} {m : ι → ℕ} {frames : List ClassFrame} {frames' : ι → List ClassFrame}
    {items : List ClassSyntax} {items' : ι → List ClassSyntax} (place : Span) (place' : ι → Span),
    ClassMirrors tail frames frames' items items' c c' → c.left < n → (∀ i, (c' i).left < m i) →
    Extends (Kept tail ClassSyntax.bare) never (classBody verbose n frames place items c)
      fun i => classBody verbose (m i) (frames' i) (place' i) (items' i) (c' i)

lemma namedClass?_follows_of_frames (ht : ∀ i, Closing (tail i))
    (h : ClassMirrors tail frames frames' items items' c c') (hc : c.rest ≠ []) :
    ((if frames.isEmpty then none else namedClass? c) = none ∧
      ∀ i, (if (frames' i).isEmpty then none else namedClass? (c' i)) = none) ∨
    ∃ x x', (if frames.isEmpty then none else namedClass? c) = some x ∧
      (∀ i, (if (frames' i).isEmpty then none else namedClass? (c' i)) = some (x' i)) ∧
      namedClass? c = some x ∧ Kept tail ClassSyntax.bare x x' := by
  simp only [h.isEmpty]
  by_cases he : frames.isEmpty = true
  · exact Or.inl ⟨if_pos he, fun i => if_pos he⟩
  · simp only [if_neg he]
    rcases namedClass?_follows ht h.cursor hc with hnone | ⟨x, x', hx, hx', hk⟩
    · exact Or.inl hnone
    · exact Or.inr ⟨x, x', hx, hx', hx, hk⟩

variable {n : ℕ} {k : ι → ℕ} {r : List Char}

lemma extends_classBody_open (ht : ∀ i, Closing (tail i)) (ih : BodyExtends tail verbose n) (place : Span)
    (place' : ι → Span) (hc : (c.skip verbose).rest = '[' :: r) (hle : (c.skip verbose).left ≤ n)
    (hle' : ∀ i, ((c' i).skip verbose).left ≤ k i)
    (h : ClassMirrors tail frames frames' items items' (c.skip verbose) fun i => (c' i).skip verbose) :
    Extends (Kept tail ClassSyntax.bare) never (classBody verbose (n + 1) frames place items c)
      fun i => classBody verbose (k i + 1) (frames' i) (place' i) (items' i) (c' i) := by
  have hne : (c.skip verbose).rest ≠ [] := by simp [hc]
  have hpos : 0 < (c.skip verbose).left := Cursor.left_pos_iff.mpr hne
  have hc' := h.cursor.cons hc
  rcases namedClass?_follows_of_frames ht h hne with ⟨hnone, hnone'⟩ | ⟨⟨x, d⟩, x', hif, hif', hx, hk⟩
  · simp only [classBody, hc, hc', hnone, hnone']
    apply (extends_openClass ht h.cursor hne).bind
    · rintro i ⟨⟨negated, span, inner⟩, d⟩ hbehind y hy
      refine classBody_ne_ok_of_behind (ht i) _ _ _ _ ?_ y hy
      rwa [Cursor.rest_skip_of_behind (ht i) hbehind]
    · rintro ⟨⟨negated, span, inner⟩, d⟩ x' hx ⟨hview, hd⟩
      have hlt := left_openClass_lt hpos hx
      apply ih _ _ ⟨?_, ?_, hd⟩ (hlt.trans_le hle) fun i => (h.cursor.left_lt hd hlt i).trans_le (hle' i)
      · exact fun i => by simp [ClassFrame.bare, h.items i, h.frames i, (Prod.mk.inj (hview i)).1]
      · exact fun i => (Prod.mk.inj (hview i)).2
  · have hlt := left_namedClass?_lt hpos hx
    simp only [classBody, hc, hc', hif, hif']
    apply ih _ _ ⟨h.frames, ?_, hk.2⟩ (hlt.trans_le hle)
      fun i => (h.cursor.left_lt hk.2 hlt i).trans_le (hle' i)
    exact fun i => by simp [h.items i, hk.1 i]

lemma extends_classBody_close (ih : BodyExtends tail verbose n) (place : Span)
    (place' : ι → Span) (hc : (c.skip verbose).rest = ']' :: r) (hle : (c.skip verbose).left ≤ n)
    (hle' : ∀ i, ((c' i).skip verbose).left ≤ k i)
    (h : ClassMirrors tail frames frames' items items' (c.skip verbose) fun i => (c' i).skip verbose) :
    Extends (Kept tail ClassSyntax.bare) never (classBody verbose (n + 1) frames place items c)
      fun i => classBody verbose (k i + 1) (frames' i) (place' i) (items' i) (c' i) := by
  have hne : (c.skip verbose).rest ≠ [] := by simp [hc]
  have hnext := h.cursor.next hne
  have hlt := Cursor.left_next_lt (Cursor.left_pos_iff.mpr hne)
  have hclosed := h.closeOperation place place'
  obtain ⟨w, hw⟩ : ∃ w : ι → ClassSyntax × List ClassFrame,
    ∀ i, closeOperation (.ofItems (place' i) (items' i)) (frames' i) = w i := ⟨_, fun _ => rfl⟩
  simp only [classBody, hc, h.cursor.cons hc, hw] at hclosed ⊢
  generalize closeOperation (.ofItems place items) frames = own at hclosed ⊢
  obtain ⟨body, - | ⟨⟨before, negated, span⟩ | ⟨kind, left⟩, rest⟩⟩ := own
  · intro i x hx
    have hnil := List.map_eq_nil_iff.mp (hclosed i).2
    have hwi : w i = ((w i).1, []) := Prod.ext rfl hnil
    beta_reduce at hx
    rw [hwi] at hx
    cases hx
  · have hbracket (i : ι) : ∃ body' before' span' rest',
        w i = (body', .bracket before' negated span' :: rest') ∧ body'.bare = body.bare ∧
          before'.map ClassSyntax.bare = before.map ClassSyntax.bare ∧
          rest'.map ClassFrame.bare = rest.map ClassFrame.bare := by
      obtain ⟨hbody, hframes⟩ := hclosed i
      obtain ⟨f, rest', hcons, hf, hrest⟩ := List.map_eq_cons_iff.mp hframes
      obtain ⟨before', span', rfl, hbefore⟩ := ClassFrame.exists_eq_bracket hf
      exact ⟨_, _, _, _, Prod.ext rfl hcons, hbody, hbefore, hrest⟩
    choose body' before' span' rest' hw' hbody hbefore hrest using hbracket
    have hlast (i : ι) : (rest' i).isEmpty = rest.isEmpty := by
      rw [← List.isEmpty_map, hrest i, List.isEmpty_map]
    simp only [hw', hlast]
    by_cases he : rest.isEmpty = true
    · simp only [if_pos he]
      exact .of_rel ⟨fun i => by simp [ClassSyntax.bare, hbody i], hnext⟩
    · simp only [if_neg he]
      apply ih _ _ ⟨hrest, ?_, hnext⟩ (hlt.trans_le hle)
        fun i => (h.cursor.left_lt hnext hlt i).trans_le (hle' i)
      exact fun i => by simp [ClassSyntax.bare, hbody i, hbefore i]
  · intro i x hx
    obtain ⟨f, rest', hcons, hf, -⟩ := List.map_eq_cons_iff.mp (hclosed i).2
    obtain ⟨left', rfl⟩ := ClassFrame.exists_eq_operand hf
    have hwi : w i = ((w i).1, .operand kind left' :: rest') := Prod.ext rfl hcons
    beta_reduce at hx
    rw [hwi] at hx
    cases hx

lemma extends_classBody_inside (ht : ∀ i, Closing (tail i)) (ih : BodyExtends tail verbose n) (place : Span)
    (place' : ι → Span) {d : Char} (hopen : d ≠ '[') (hclose : d ≠ ']')
    (hc : (c.skip verbose).rest = d :: r) (hle : (c.skip verbose).left ≤ n)
    (hle' : ∀ i, ((c' i).skip verbose).left ≤ k i)
    (h : ClassMirrors tail frames frames' items items' (c.skip verbose) fun i => (c' i).skip verbose) :
    Extends (Kept tail ClassSyntax.bare) never (classBody verbose (n + 1) frames place items c)
      fun i => classBody verbose (k i + 1) (frames' i) (place' i) (items' i) (c' i) := by
  have hne : (c.skip verbose).rest ≠ [] := by simp [hc]
  have hop (i : ι) : setOperator? (d :: (r ++ tail i)) = setOperator? (d :: r) := setOperator?_append (ht i) d r
  simp only [classBody, hc, h.cursor.cons hc, hop, List.cons.injEq, hopen, hclose, false_and, imp_self,
    implies_true]
  cases hkind : setOperator? (d :: r) with
  | some kind =>
    have htwo := two_le_left_of_setOperator? (hc ▸ hkind)
    have hdrop := h.cursor.drop htwo hne
    have hlt : ((c.skip verbose).drop 2).left < (c.skip verbose).left := by
      simp only [Cursor.left, Cursor.rest_drop, List.length_drop] at htwo ⊢
      omega
    have hclosed := h.closeOperation place place'
    apply ih _ _ ⟨?_, fun _ => rfl, hdrop⟩ (hlt.trans_le hle)
      fun i => (h.cursor.left_lt hdrop hlt i).trans_le (hle' i)
    intro i
    simp only [List.map_cons, ClassFrame.bare, (hclosed i).1, (hclosed i).2]
  | none =>
    apply (extends_classRange ht h.cursor hne frames frames').bind
    · rintro i ⟨x, d⟩ hbehind y hy
      refine classBody_ne_ok_of_behind (ht i) _ _ _ _ ?_ y hy
      rwa [Cursor.rest_skip_of_behind (ht i) hbehind]
    · rintro ⟨x, d⟩ x' hx ⟨hview, hd⟩
      have hlt := left_classRange_lt hx
      apply ih _ _ ⟨h.frames, ?_, hd⟩ (hlt.trans_le hle) fun i => (h.cursor.left_lt hd hlt i).trans_le (hle' i)
      exact fun i => by simp [h.items i, hview i]

lemma extends_classBody (ht : ∀ i, Closing (tail i)) (verbose : Bool) (n : ℕ) : BodyExtends tail verbose n := by
  induction n with
  | zero => exact fun _ _ _ hn => absurd hn (Nat.not_lt_zero _)
  | succ n ih =>
    intro c c' m frames frames' items items' place place' h hn hm
    obtain ⟨k, hmk⟩ := Cursor.Follows.exists_eq_succ fun i => (Nat.zero_le _).trans_lt (hm i)
    have hle : (c.skip verbose).left ≤ n := Cursor.left_skip_le.trans (Nat.lt_succ_iff.mp hn)
    have hle' (i : ι) : ((c' i).skip verbose).left ≤ k i := by
      have hi := hmk i ▸ hm i
      exact Cursor.left_skip_le.trans (Nat.lt_succ_iff.mp hi)
    have hs : ClassMirrors tail frames frames' items items' (c.skip verbose) fun i => (c' i).skip verbose :=
      ⟨h.frames, h.items, h.cursor.skip ht verbose⟩
    simp only [hmk]
    cases hc : (c.skip verbose).rest with
    | nil =>
      have hown : classBody verbose (n + 1) frames place items c =
          .error (unclosedClass frames (c.skip verbose)) := by
        simp [classBody, hc]
      rw [hown]
      intro i x hx
      refine classBody_ne_ok_of_behind (ht i) _ _ _ _ ?_ x hx
      exact (hs.cursor.atEnd hc i).imp_right Or.inl
    | cons d r =>
      by_cases hopen : d = '['
      · subst hopen
        exact extends_classBody_open ht ih place place' hc hle hle' hs
      by_cases hclose : d = ']'
      · subst hclose
        exact extends_classBody_close ih place place' hc hle hle' hs
      exact extends_classBody_inside ht ih place place' hopen hclose hc hle hle' hs

end Body

lemma extends_characterClass (ht : ∀ i, Closing (tail i)) (h : c.Follows tail c') :
    Extends (Kept tail ClassSyntax.bare) never (characterClass verbose c) fun i => characterClass verbose (c' i) :=
  extends_classBody ht verbose _ _ _ ⟨fun _ => rfl, fun _ => rfl, h⟩ (Nat.lt_succ_self _)
    fun _ => Nat.lt_succ_self _

end DiscountTables.Pattern
