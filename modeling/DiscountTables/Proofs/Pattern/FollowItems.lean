import DiscountTables.Proofs.Pattern.Follow

/-!
Reading the items of a pattern that more text is put behind. What can be read without that text is read in
the same way with it; what cannot is refused with it too, unless the text is taken into the item.
-/

namespace DiscountTables.Pattern

open Text

variable {ι α β γ δ : Type}

/-- What is read of a pattern and of its extensions: results of the pattern carry over by `R`. Where it is
refused and extension `i` is not, what is read satisfies `lost i`. -/
def Extends (R : α → (ι → β) → Prop) (lost : ι → β → Prop) :
    Except Fault α → (ι → Except Fault β) → Prop
  | .ok a, x' => ∃ b, (∀ i, x' i = .ok (b i)) ∧ R a b
  | .error _, x' => ∀ i b, x' i = .ok b → lost i b

def never : ι → β → Prop := fun _ _ => False

def Kept (tail : ι → List Char) (view : α → β) (x : α × Cursor) (x' : ι → α × Cursor) : Prop :=
  (∀ i, view (x' i).1 = view x.1) ∧ x.2.Follows tail fun i => (x' i).2

namespace Extends

variable {R : α → (ι → β) → Prop} {lost : ι → β → Prop} {S : γ → (ι → δ) → Prop} {gone : ι → δ → Prop}
  {x : Except Fault α} {x' : ι → Except Fault β}

lemma of_rel {a : α} {b : ι → β} (h : R a b) : Extends R lost (.ok a) fun i => .ok (b i) :=
  ⟨b, fun _ => rfl, h⟩

lemma of_errors (h : ∀ i b, x' i ≠ .ok b) (kind : FaultKind) (span : Span) :
    Extends R lost (fault kind span) x' := fun i b hb => absurd hb (h i b)

lemma faults {kind kind' : FaultKind} {span : Span} {span' : ι → Span} :
    Extends R lost (fault kind span) fun i => fault kind' (span' i) := fun _ _ hb => by cases hb

lemma of_toOption {x' : ι → Except Fault α} {view : α → γ}
    (h : ∀ i, (x' i).toOption.map view = x.toOption.map view) :
    Extends (fun a b => ∀ i, view (b i) = view a) never x x' := by
  cases x with
  | error e =>
    intro i b hb
    have hi := h i
    simp [hb, Except.toOption] at hi
  | ok a =>
    have hb (i : ι) : ∃ b, x' i = .ok b ∧ view b = view a := by
      have hi := h i
      cases hx : x' i with
      | error e => simp [hx, Except.toOption] at hi
      | ok b => exact ⟨b, rfl, by simpa [hx, Except.toOption] using hi⟩
    choose b hb using hb
    exact ⟨b, fun i => (hb i).1, fun i => (hb i).2⟩

lemma bind {f : α → Except Fault γ} {f' : ι → β → Except Fault δ} (hx : Extends R lost x x')
    (hlost : ∀ i b, lost i b → ∀ d, f' i b = .ok d → gone i d)
    (hf : ∀ a b, x = .ok a → R a b → Extends S gone (f a) fun i => f' i (b i)) :
    Extends S gone (x >>= f) fun i => x' i >>= f' i := by
  cases x with
  | error e =>
    intro i d hd
    obtain ⟨b, hb, hd⟩ := bind_eq_ok.mp hd
    exact hlost i b (hx i b hb) d hd
  | ok a =>
    obtain ⟨b, hb, hab⟩ := hx
    simp only [hb]
    exact hf a b rfl hab

lemma bind_of_never {f : α → Except Fault γ} {f' : ι → β → Except Fault δ} (hx : Extends R never x x')
    (hf : ∀ a b, x = .ok a → R a b → Extends S gone (f a) fun i => f' i (b i)) :
    Extends S gone (x >>= f) fun i => x' i >>= f' i := hx.bind (fun _ _ h => h.elim) hf

lemma map {f : α → γ} {f' : ι → β → δ} (hx : Extends R never x x')
    (hf : ∀ a b, R a b → S (f a) fun i => f' i (b i)) :
    Extends S gone (x.map f) fun i => (x' i).map (f' i) := by
  cases x with
  | error e =>
    intro i d hd
    obtain ⟨b, hb, -⟩ := map_eq_ok.mp hd
    exact (hx i b hb).elim
  | ok a =>
    obtain ⟨b, hb, hab⟩ := hx
    simp only [hb]
    exact .of_rel (hf a b hab)

lemma weaken {lost' : ι → β → Prop} (hx : Extends R lost x x') (hl : ∀ i b, lost i b → lost' i b) :
    Extends R lost' x x' := by
  cases x with
  | error e => exact fun i b hb => hl i b (hx i b hb)
  | ok a => exact hx

lemma of_never (hx : Extends R never x x') : Extends R lost x x' := hx.weaken fun _ _ h => h.elim

end Extends

def Item.bare : Item → Item
  | literal l => literal l.bare
  | assertion kind _ => assertion kind nowhere
  | perl kind negated _ => perl kind negated nowhere
  | property query negated _ => property query negated nowhere

variable {tail : ι → List Char} {verbose : Bool} {c : Cursor} {c' : ι → Cursor}

lemma decimal_follows (ht : ∀ i, Closing (tail i)) (h : c.Follows tail c') (verbose : Bool) :
    (∀ i, (decimal verbose (c' i)).1.toOption = (decimal verbose c).1.toOption) ∧
      (decimal verbose c).2.Follows tail fun i => (decimal verbose (c' i)).2 := by
  obtain ⟨-, hblanks⟩ := h.takeWhile ht false isBlank (by decide)
  obtain ⟨hdigits, hafter⟩ := hblanks.takeWhile ht verbose isAsciiDigit (by decide)
  obtain ⟨-, hrest⟩ := hafter.takeWhile ht verbose isBlank (by decide)
  refine ⟨fun i => ?_, hrest⟩
  simp only [decimal, hdigits]
  split
  · rfl
  split <;> rfl

lemma extends_fixedHex (ht : ∀ i, Closing (tail i)) (h : c.Follows tail c') (n : ℕ) (read : List ℕ) :
    Extends (Kept tail id) never (fixedHex verbose n read c) fun i => fixedHex verbose n read (c' i) := by
  induction n generalizing read c c' with
  | zero => exact .of_rel ⟨fun _ => rfl, h⟩
  | succ n ih =>
    cases hc : c.rest with
    | nil =>
      simp only [fixedHex, hc]
      refine .of_errors (fun i x => ?_) _ _
      have hp : hexDigit? ')' = none := by decide
      rcases h.paren_or_nil ht hc i with ⟨more, -, -, hi⟩ | hi <;> simp [hi, fault, hp]
    | cons d r =>
      simp only [fixedHex, hc, h.cons hc]
      cases hexDigit? d with
      | none => exact .faults
      | some v => exact ih (h.advance ht (by simp [hc]) verbose) _

lemma hexWidth_pos (letter : Char) : 0 < hexWidth letter := by
  simp only [hexWidth]
  split
  · decide
  split <;> decide

def bracedHex (verbose : Bool) (first : Place) (brace : Cursor) : Reader Item := fun c =>
  let (digits, after) := c.takeWhile verbose fun d => (hexDigit? d).isSome
  match after.rest with
  | [] => fault .escapeUnfinished ⟨brace.place, after.place⟩
  | '\x7d' :: _ =>
    let rest := after.advance verbose
    if digits.isEmpty then fault .hexEmpty ⟨brace.place, rest.place⟩
    else
      match scalar? (digitsValue 16 (digits.filterMap hexDigit?)) with
      | none => fault .hexInvalid ⟨brace.next.place, after.place⟩
      | some d => .ok (.literal ⟨d, false, ⟨first, rest.place⟩⟩, rest)
  | _ => fault .hexDigitInvalid after.charSpan

lemma hexEscape_of_brace {letter : Char} {first : Place} {r : List Char}
    (hc : (c.advance verbose).rest = '\x7b' :: r) : hexEscape verbose letter first c =
      bracedHex verbose first (c.advance verbose) ((c.advance verbose).advance verbose) := by
  simp only [hexEscape, hc]
  rfl

lemma extends_bracedHex (ht : ∀ i, Closing (tail i)) (h : c.Follows tail c') (first : Place)
    (first' : ι → Place) (brace : Cursor) (brace' : ι → Cursor) :
    Extends (Kept tail Item.bare) never (bracedHex verbose first brace c)
      fun i => bracedHex verbose (first' i) (brace' i) (c' i) := by
  obtain ⟨hdigits, hafter⟩ := h.takeWhile ht verbose (fun d => (hexDigit? d).isSome) (by decide)
  simp only [bracedHex, hdigits]
  generalize (c.takeWhile verbose _).1 = digits
  generalize (c.takeWhile verbose _).2 = after at hafter ⊢
  obtain ⟨after', hw⟩ : ∃ w : ι → Cursor,
    ∀ i, ((c' i).takeWhile verbose fun d => (hexDigit? d).isSome).2 = w i := ⟨_, fun _ => rfl⟩
  simp only [hw] at hafter ⊢
  cases hr : after.rest with
  | nil =>
    refine .of_errors (fun i x => ?_) _ _
    rcases hafter.paren_or_nil ht hr i with ⟨more, -, -, hi⟩ | hi <;> simp [hi, fault]
  | cons e r =>
    simp only [hafter.cons hr]
    by_cases he : e = '\x7d'
    · subst he
      by_cases hempty : digits.isEmpty = true
      · simp only [hempty, if_true]
        exact .faults
      · simp only [if_neg hempty]
        cases scalar? (digitsValue 16 (digits.filterMap hexDigit?)) with
        | none => exact .faults
        | some d => exact .of_rel ⟨fun _ => rfl, hafter.advance ht (by simp [hr]) verbose⟩
    · simp only [List.cons.injEq, he, false_and, imp_self, implies_true]
      exact .faults

lemma extends_hexEscape (ht : ∀ i, Closing (tail i)) (h : c.Follows tail c') (hc : c.rest ≠ [])
    (letter : Char) (first : Place) (first' : ι → Place) :
    Extends (Kept tail Item.bare) never (hexEscape verbose letter first c)
      fun i => hexEscape verbose letter (first' i) (c' i) := by
  have ha : (c.advance verbose).Follows tail fun i => (c' i).advance verbose := h.advance ht hc verbose
  cases hd : (c.advance verbose).rest with
  | nil =>
    simp only [hexEscape, hd]
    refine .of_errors (fun i x => ?_) _ _
    obtain ⟨n, hn⟩ := Nat.exists_eq_add_one.mpr (hexWidth_pos letter)
    have hp : hexDigit? ')' = none := by decide
    rcases ha.paren_or_nil ht hd i with ⟨more, -, -, hi⟩ | hi <;> simp [hi, hn, fixedHex, hp, fault]
    rintro ⟨⟩
  | cons d r =>
    by_cases hb : d = '\x7b'
    · subst hb
      simp only [hexEscape_of_brace hd, hexEscape_of_brace (ha.cons hd _)]
      exact extends_bracedHex ht (ha.advance ht (by simp [hd]) verbose) _ _ _ _
    · simp only [hexEscape, hd, ha.cons hd, List.cons.injEq, hb, false_and, imp_self, implies_true]
      refine (extends_fixedHex ht ha _ _).bind_of_never fun x x' _ hx => ?_
      simp only [show ∀ i, (x' i).1 = x.1 from hx.1]
      cases scalar? (digitsValue 16 x.1) with
      | none => exact .faults
      | some d => exact .of_rel ⟨fun _ => rfl, hx.2⟩

lemma spent_advance {d : Cursor} {more : List Char} (hd : d.rest = ')' :: more) (hm : Spent more) :
    Spent (d.advance verbose).rest := by
  have hn : d.next.rest = more := by rw [Cursor.rest_next, hd, List.tail_cons]
  cases verbose with
  | false => exact hn ▸ hm
  | true =>
    rcases hm with rfl | rfl
    · exact Or.inl (by simp [Cursor.advance, Cursor.skip, hn, Cursor.skipFrom])
    · exact Or.inr (by simp [Cursor.advance, Cursor.skip, hn, Cursor.skipFrom, isBlank])

lemma extends_propertyEscape (ht : ∀ i, Closing (tail i)) (h : c.Follows tail c') (hc : c.rest ≠ [])
    (negated : Bool) (first : Place) (first' : ι → Place) :
    Extends (Kept tail Item.bare) (fun _ x => Spent x.2.rest) (propertyEscape verbose negated first c)
      fun i => propertyEscape verbose negated (first' i) (c' i) := by
  have ha : (c.advance verbose).Follows tail fun i => (c' i).advance verbose := h.advance ht hc verbose
  cases hd : (c.advance verbose).rest with
  | nil =>
    simp only [propertyEscape, hd]
    intro i x hx
    rcases ha.paren_or_nil ht hd i with ⟨more, -, hm, hi⟩ | hi
    · simp only [hi] at hx
      cases hx
      exact spent_advance hi hm
    · simp [hi, fault] at hx
  | cons d r =>
    by_cases hb : d = '\x7b'
    · subst hb
      obtain ⟨hnil, hcons⟩ := (ha.advance ht (by simp [hd]) verbose).takeWhile_through ht verbose
        (· != '\x7d') (fun i => by rcases (ht i).eq_cons with ⟨_, hi, rfl | rfl⟩ <;> simp [hi])
      simp only [propertyEscape, hd, ha.cons hd]
      cases hr : (((c.advance verbose).advance verbose).takeWhile verbose (· != '\x7d')).2.rest with
      | nil =>
        simp only [hnil hr]
        exact .faults
      | cons e s =>
        obtain ⟨hname, hafter⟩ := hcons (by simp [hr])
        simp only [hafter.cons hr, hname]
        exact .of_rel ⟨fun _ => rfl, hafter.next (by simp [hr])⟩
    · simp only [propertyEscape, hd, ha.cons hd]
      by_cases hs : d = '\\'
      · simp only [hs, if_true]
        exact .faults
      · simp only [if_neg hs]
        exact .of_rel ⟨fun _ => rfl, ha.advance ht (by simp [hd]) verbose⟩

/-- What an item may take a tail for: the parenthesis for a part of an escape, or, behind the opening brace of
a word boundary, for what stands where a count should. -/
def Astray (verbose : Bool) (tail : ι → List Char) (i : ι) (x : Item × Cursor) : Prop :=
  Spent x.2.rest ∨ ∃ kind span r, x.1 = .assertion kind span ∧ x.2.rest = '\x7b' :: r ∧
    (x.2.advance verbose).rest = tail i

def bracedBoundary (verbose : Bool) (first brace : Place) : Reader Item := fun c =>
  let (name, after) := c.takeWhile verbose fun d => isAsciiLetter d || d == '-'
  match after.rest with
  | '\x7d' :: _ =>
    match namedBoundary? name with
    | some kind => .ok (.assertion kind ⟨first, after.next.place⟩, after.next)
    | none => fault .wordBoundaryUnrecognized ⟨c.place, after.place⟩
  | _ => fault .wordBoundaryUnclosed ⟨brace, after.place⟩

lemma wordBoundary_of_brace {first : Place} {r : List Char} (hc : c.rest = '\x7b' :: r) :
    wordBoundary verbose first c =
      match (c.advance verbose).rest with
      | [] => fault .wordBoundaryOrCountUnfinished ⟨first, (c.advance verbose).place⟩
      | d :: _ =>
        if (isAsciiLetter d || d == '-') = true then bracedBoundary verbose first c.place (c.advance verbose)
        else .ok (.assertion .wordBoundary ⟨first, c.place⟩, c) := by
  simp only [wordBoundary, hc]
  rfl

lemma extends_bracedBoundary (ht : ∀ i, Closing (tail i)) (h : c.Follows tail c') (first brace : Place)
    (first' brace' : ι → Place) :
    Extends (Kept tail Item.bare) never (bracedBoundary verbose first brace c)
      fun i => bracedBoundary verbose (first' i) (brace' i) (c' i) := by
  obtain ⟨hname, hafter⟩ := h.takeWhile ht verbose (fun d => isAsciiLetter d || d == '-') (by decide)
  simp only [bracedBoundary, hname]
  generalize (c.takeWhile verbose _).1 = name
  generalize (c.takeWhile verbose _).2 = after at hafter ⊢
  obtain ⟨after', hw⟩ : ∃ w : ι → Cursor,
    ∀ i, ((c' i).takeWhile verbose fun d => isAsciiLetter d || d == '-').2 = w i := ⟨_, fun _ => rfl⟩
  simp only [hw] at hafter ⊢
  cases hr : after.rest with
  | nil =>
    refine .of_errors (fun i x => ?_) _ _
    rcases hafter.paren_or_nil ht hr i with ⟨more, -, -, hi⟩ | hi <;> simp [hi, fault]
  | cons e s =>
    simp only [hafter.cons hr]
    by_cases he : e = '\x7d'
    · subst he
      cases namedBoundary? name with
      | none => exact .faults
      | some kind => exact .of_rel ⟨fun _ => rfl, hafter.next (by simp [hr])⟩
    · simp only [List.cons.injEq, he, false_and, imp_self, implies_true]
      exact .faults

lemma extends_wordBoundary (ht : ∀ i, Closing (tail i)) (h : c.Follows tail c') (first : Place)
    (first' : ι → Place) : Extends (Kept tail Item.bare) (Astray verbose tail) (wordBoundary verbose first c)
      fun i => wordBoundary verbose (first' i) (c' i) := by
  cases hc : c.rest with
  | nil =>
    have hplain (i : ι) : wordBoundary verbose (first' i) (c' i) =
        .ok (.assertion .wordBoundary ⟨first' i, (c' i).place⟩, c' i) := by
      rcases h.paren_or_nil ht hc i with ⟨more, -, -, hi⟩ | hi <;> simp [wordBoundary, hi]
    have hown : wordBoundary verbose first c = .ok (.assertion .wordBoundary ⟨first, c.place⟩, c) := by
      simp [wordBoundary, hc]
    simp only [hplain, hown]
    exact .of_rel ⟨fun _ => rfl, h⟩
  | cons d r =>
    by_cases hb : d = '\x7b'
    · subst hb
      have ha := h.advance ht (by simp [hc]) verbose
      simp only [wordBoundary_of_brace hc, wordBoundary_of_brace (h.cons hc _)]
      cases hd : (c.advance verbose).rest with
      | nil =>
        intro i x hx
        rcases ha.paren_or_nil ht hd i with ⟨more, htail, -, hi⟩ | hi
        · simp [hi, isAsciiLetter] at hx
          subst hx
          exact Or.inr ⟨_, _, _, rfl, h.cons hc i, hi.trans htail.symm⟩
        · simp [hi, fault] at hx
      | cons e s =>
        simp only [ha.cons hd]
        by_cases he : (isAsciiLetter e || e == '-') = true
        · simp only [if_pos he]
          exact (extends_bracedBoundary ht ha _ _ _ _).of_never
        · simp only [if_neg he]
          exact .of_rel ⟨fun _ => rfl, h⟩
    · simp only [wordBoundary, hc, h.cons hc, List.cons.injEq, hb, false_and, imp_self, implies_true]
      exact .of_rel ⟨fun _ => rfl, h⟩

lemma extends_escape (ht : ∀ i, Closing (tail i)) (h : c.Follows tail c') (hc : c.rest ≠ []) :
    Extends (Kept tail Item.bare) (Astray verbose tail) (escape verbose c) fun i => escape verbose (c' i) := by
  have hn := h.next hc
  cases hd : c.next.rest with
  | nil =>
    simp only [escape, hd]
    intro i x hx
    rcases hn.paren_or_nil ht hd i with ⟨more, -, hm, hi⟩ | hi
    · have hp : isAsciiDigit ')' = false ∧ isEscapable ')' = true := by decide
      simp [hi, hp] at hx
      subst hx
      refine Or.inl ?_
      rwa [Cursor.rest_next, hi]
    · simp [hi, fault] at hx
  | cons d r =>
    have hnn := hn.next (by simp [hd])
    simp only [escape, hd, hn.cons hd]
    by_cases hdigit : isAsciiDigit d = true
    · simp only [if_pos hdigit]
      exact .faults
    by_cases hhex : d = 'x' ∨ d = 'u' ∨ d = 'U'
    · simp only [if_neg hdigit, if_pos hhex]
      exact (extends_hexEscape ht hn (by simp [hd]) d _ _).of_never
    by_cases hproperty : d = 'p' ∨ d = 'P'
    · simp only [if_neg hdigit, if_neg hhex, if_pos hproperty]
      exact (extends_propertyEscape ht hn (by simp [hd]) _ _ _).weaken fun _ _ hx => Or.inl hx
    by_cases hboundary : d = 'b'
    · simp only [if_neg hdigit, if_neg hhex, if_neg hproperty, if_pos hboundary]
      exact extends_wordBoundary ht hnn _ _
    by_cases hescapable : isEscapable d = true
    · simp only [if_neg hdigit, if_neg hhex, if_neg hproperty, if_neg hboundary, if_pos hescapable]
      exact .of_rel ⟨fun _ => rfl, hnn⟩
    simp only [if_neg hdigit, if_neg hhex, if_neg hproperty, if_neg hboundary, if_neg hescapable]
    rcases perlEscape? d with - | ⟨kind, negated⟩
    · rcases controlEscape? d with - | e
      · rcases assertionEscape? d with - | kind
        · exact .faults
        · exact .of_rel ⟨fun _ => rfl, hnn⟩
      · exact .of_rel ⟨fun _ => rfl, hnn⟩
    · exact .of_rel ⟨fun _ => rfl, hnn⟩

lemma extends_plainItem (ht : ∀ i, Closing (tail i)) (h : c.Follows tail c') (hc : c.rest ≠ []) :
    Extends (Kept tail Item.bare) (Astray verbose tail) (plainItem verbose c)
      fun i => plainItem verbose (c' i) := by
  obtain ⟨d, r, hd⟩ := List.exists_cons_of_ne_nil hc
  by_cases hs : d = '\\'
  · subst hs
    simp only [plainItem, hd, h.cons hd]
    exact extends_escape ht h hc
  · simp only [plainItem, hd, h.cons hd]
    exact .of_rel ⟨fun _ => rfl, h.next hc⟩

end DiscountTables.Pattern
