import DiscountTables.Proofs.Template.Grammar
import Mathlib.Data.Set.Basic

/-!
Where the reading of a text stops that is not in a language: inside a text of the language or behind one. Each part of a
template that can stop it has a lemma, which asks only what may follow the text before that part.
-/

namespace DiscountTables.Template

open Text

variable {s t rest lead tail gap x : List Char} {p : Path} {stuck : Stuck} {language : Set (List Char)}
  {k : List Char → Except Stuck Unit}

lemma mem_head?_mono (h : t <+: s) : ∀ c ∈ t.head?, c ∈ s.head? := by
  obtain ⟨more, rfl⟩ := h
  intro c hc
  rw [List.head?_append, hc]
  rfl

section Open

/-- A text that ends in a point, which no name follows, or has a parenthesis that is not closed. An operator without its
placeholder is told by what is expected behind it. -/
def IsOpen (s : List Char) : Prop := s.getLast? = some '.' ∨ '(' ∈ s ∧ ')' ∉ s

lemma not_isOpen_append (hs : ¬ IsOpen s) (ht : ¬ IsOpen t) : ¬ IsOpen (s ++ t) := by
  simp only [IsOpen, not_or, not_and_not_right] at hs ht ⊢
  obtain ⟨hlast_s, hclose_s⟩ := hs
  obtain ⟨hlast_t, hclose_t⟩ := ht
  constructor
  · rw [List.getLast?_append]
    cases h : t.getLast? with
    | none => simpa using hlast_s
    | some c => simpa [h] using hlast_t
  · rw [List.mem_append, List.mem_append]
    exact Or.imp hclose_s hclose_t

lemma not_isOpen_of_forall {P : Char → Prop} (h : ∀ c ∈ s, P c) (hpoint : ¬ P '.') (hparenthesis : ¬ P '(') :
    ¬ IsOpen s := by
  rintro (hlast | ⟨hmem, -⟩)
  · exact hpoint (h '.' (List.mem_of_getLast? hlast))
  · exact hparenthesis (h '(' hmem)

lemma not_isOpen_of_allBlank (h : AllBlank s) : ¬ IsOpen s := not_isOpen_of_forall h (by decide) (by decide)

lemma IsIdentifier.not_isOpen (h : IsIdentifier x) : ¬ IsOpen x :=
  not_isOpen_of_forall h.mem (by decide) (by decide)

lemma IsPath.not_isOpen (h : IsPath x p) : ¬ IsOpen x := by
  cases h with
  | plain hname => exact hname.not_isOpen
  | @owned owner name howner hname =>
    apply not_isOpen_append howner.not_isOpen
    have hopen := hname.not_isOpen
    obtain ⟨c, more, rfl, -⟩ := hname
    simpa [IsOpen] using hopen

lemma IsPlaceholder.not_isOpen (h : IsPlaceholder x) : ¬ IsOpen x := by
  rcases h with rfl | rfl <;> simp [IsOpen, quotedParam, bareParam]

lemma IsTrailer.not_isOpen (h : IsTrailer tail) : ¬ IsOpen tail :=
  not_isOpen_of_forall h.mem (by decide) (by decide)

end Open

section Farthest

inductive IsToken : List Char → Prop
  | operator (op : Operator) : IsToken op.symbol.toList
  | placeholder {x : List Char} (hx : IsPlaceholder x) : IsToken x

def IsCut (w : List Char) : Prop := ∃ token, IsToken token ∧ w <+: token ∧ w ≠ token

/-- No text of the language goes on from `before` as `rest` does, unless by a token that is cut. -/
def Farthest (language : Set (List Char)) (before rest : List Char) : Prop :=
  ∀ w more, w ≠ [] → w <+: rest → before ++ (w ++ more) ∈ language → IsCut w

lemma farthest_of_head (h : ∀ c ∈ rest.head?, ∀ more, lead ++ c :: more ∉ language) :
    Farthest language lead rest := by
  intro w more hne hw hin
  obtain ⟨c, w, rfl⟩ := List.exists_cons_of_ne_nil hne
  obtain ⟨behind, rfl⟩ := hw
  exact absurd hin (h c rfl (w ++ more))

lemma isCut_of_append_eq {token w more : List Char} (htoken : IsToken token) (hrest : ¬ token <+: rest)
    (hw : w <+: rest) (h : w ++ more = token ++ t) : IsCut w := by
  have hnot : ¬ token <+: w := fun hlong => hrest (hlong.trans hw)
  have hbegins : token <+: w ++ more := ⟨t, h.symm⟩
  refine ⟨token, htoken, ?_, ?_⟩
  · exact (List.prefix_or_prefix_of_prefix (List.prefix_append w more) hbegins).resolve_right hnot
  · rintro rfl
    exact hnot List.prefix_rfl

end Farthest

/-- Where the reading of a text that is not in a language stops: inside a text of the language, or behind one. No part of
the rest could stand there, unless a token that is cut. -/
inductive Stops (language : Set (List Char)) : List Char → Stuck → Prop
  | inside {before rest more : List Char} {expected : Option Expectation} (hmore : before ++ more ∈ language)
    (hbefore : before ∉ language) (hopen : expected = none → IsOpen before) (hfar : Farthest language before rest) :
    Stops language (before ++ rest) ⟨rest, expected⟩
  | behind {before rest : List Char} {c : Char} (hbefore : before ∈ language) (hnext : before ++ [c] ∉ language)
    (hfar : Farthest language before (c :: rest)) : Stops language (before ++ c :: rest) ⟨c :: rest, none⟩

section Parts

lemma isIdentifier_letter : IsIdentifier ['a'] := ⟨'a', [], rfl, by decide, by simp⟩

def Nameless (s : List Char) : Prop := ∀ c ∈ s.head?, isNameStart c = false

lemma identifier?_eq_none_iff : identifier? s = none ↔ Nameless s := by
  cases s with
  | nil => simp [identifier?, Nameless]
  | cons c s => simp [identifier?, Nameless]

lemma path_nameless (h : Nameless s) : path s = .error ⟨s, some .fieldName⟩ := by
  rw [path, identifier?_eq_none_iff.mpr h]

lemma path_point {owner : List Char} (howner : IsIdentifier owner) (h : Nameless rest) :
    path (owner ++ '.' :: rest) = .error ⟨rest, none⟩ := by
  rw [path, identifier?_eq_some_iff.mpr ⟨rfl, howner, endsName_dot rest⟩]
  simp only [identifier?_eq_none_iff.mpr h]

lemma path_eq_error (h : path s = .error stuck) : Nameless s ∧ stuck = ⟨s, some .fieldName⟩ ∨
    ∃ owner rest, IsIdentifier owner ∧ Nameless rest ∧ s = owner ++ '.' :: rest ∧ stuck = ⟨rest, none⟩ := by
  rw [path] at h
  split at h
  · rename_i hnone
    cases h
    exact Or.inl ⟨identifier?_eq_none_iff.mp hnone, rfl⟩
  · rename_i owner rest howner
    obtain ⟨rfl, hidentifier, -⟩ := identifier?_eq_some_iff.mp howner
    split at h <;> cases h
    rename_i hnone
    exact Or.inr ⟨owner, rest, hidentifier, identifier?_eq_none_iff.mp hnone, rfl, rfl⟩
  · cases h

lemma placeholder_eq_error (h : placeholder s = .error stuck) : stuck = ⟨s, some .placeholder⟩ := by
  rw [placeholder] at h
  split at h
  · cases h
  · split at h <;> cases h
    rfl

lemma filled_blanks (hgap : AllBlank gap) : filled k gap = .error ⟨[], some .placeholder⟩ := by
  rw [filled, skipBlanks_of_allBlank hgap]
  rfl

def Stray (tail : List Char) (c : Char) : Prop :=
  isBlank c = false ∧ ∀ rest, trailer (tail ++ c :: rest) = .error ⟨c :: rest, none⟩

lemma stray_of_blanks {c : Char} (hgap : AllBlank gap) (hc : isBlank c = false) (hsemicolon : c ≠ ';') :
    Stray gap c := by
  refine ⟨hc, fun rest => ?_⟩
  rw [trailer, skipBlanks_cons hgap hc]
  simp [hsemicolon]

lemma stray_of_semicolon {c : Char} (hgap : AllBlank gap) (htail : AllBlank tail) (hc : isBlank c = false) :
    Stray (gap ++ ';' :: tail) c := by
  refine ⟨hc, fun rest => ?_⟩
  rw [List.append_assoc, List.cons_append, trailer, skipBlanks_cons hgap (by decide)]
  simp only [skipBlanks_cons htail hc]

lemma exists_stray (h : trailer s = .error stuck) : ∃ tail c rest, s = tail ++ c :: rest ∧ stuck = ⟨c :: rest, none⟩ ∧
    IsTrailer tail ∧ Stray tail c := by
  have hnot : ¬ IsTrailer s := by
    rw [← trailer_eq_ok_iff, h]
    nofun
  suffices hsplit : ∃ tail c rest, s = tail ++ c :: rest ∧ IsTrailer tail ∧ Stray tail c by
    obtain ⟨tail, c, rest, rfl, htail, hstray⟩ := hsplit
    rw [hstray.2] at h
    exact ⟨tail, c, rest, rfl, (Except.error.inj h).symm, htail, hstray⟩
  obtain ⟨gap, hgap, hs, hhead⟩ := exists_skipBlanks s
  cases hrest : skipBlanks s with
  | nil =>
    rw [hrest, List.append_nil] at hs
    exact absurd (hs ▸ .blanks hgap) hnot
  | cons d rest =>
    rw [hrest] at hs hhead
    by_cases hsemicolon : d = ';'
    · subst hsemicolon
      obtain ⟨tail, htail, hrest, hhead⟩ := exists_skipBlanks rest
      cases hmore : skipBlanks rest with
      | nil =>
        rw [hmore, List.append_nil] at hrest
        exact absurd (hs ▸ hrest ▸ .semicolon hgap htail) hnot
      | cons c more =>
        rw [hmore] at hrest hhead
        refine ⟨gap ++ ';' :: tail, c, more, ?_, .semicolon hgap htail, stray_of_semicolon hgap htail (hhead c rfl)⟩
        rw [hs, hrest, List.append_assoc, List.cons_append]
    · exact ⟨gap, d, rest, hs, .blanks hgap, stray_of_blanks hgap (hhead d rfl) hsemicolon⟩

end Parts

section Stages

lemma stops_of_path (hmem : ∀ {gap x p}, AllBlank gap → IsPath x p → gap ++ x ∈ language)
    (hnot : ∀ {t e}, path (skipBlanks t) = .error e → t ∉ language) (h : path (skipBlanks s) = .error stuck) :
    Stops language s stuck := by
  obtain ⟨gap, hgap, hs, hhead⟩ := exists_skipBlanks s
  rcases path_eq_error h with ⟨hnameless, rfl⟩ | ⟨owner, rest, howner, hnameless, hpath, rfl⟩
  · have hbefore {t : List Char} (ht : ∀ c ∈ t.head?, c ∈ (skipBlanks s).head?) : gap ++ t ∉ language := by
      apply hnot
      rw [skipBlanks_append hgap fun c hc => hhead c (ht c hc), path_nameless fun c hc => hnameless c (ht c hc)]
    have hstop : Stops language (gap ++ skipBlanks s) ⟨skipBlanks s, some .fieldName⟩ := by
      refine .inside (hmem hgap (.plain isIdentifier_letter)) ?_ nofun (farthest_of_head fun c hc more => ?_)
      · rw [← List.append_nil gap]
        exact hbefore nofun
      · exact hbefore (by rintro d ⟨⟩; exact hc)
    rwa [← hs] at hstop
  · have hbefore {t : List Char} (ht : Nameless t) : gap ++ (owner ++ ['.']) ++ t ∉ language := by
      apply hnot
      rw [List.append_assoc, List.append_assoc, skipBlanks_append hgap (IsPath.plain howner).isBlank_head?,
        List.singleton_append, path_point howner ht]
    have hmore : gap ++ (owner ++ ['.']) ++ ['a'] ∈ language := by
      simpa using hmem hgap (.owned howner isIdentifier_letter)
    have hstop : Stops language (gap ++ (owner ++ ['.']) ++ rest) ⟨rest, none⟩ := by
      refine .inside hmore ?_ (fun _ => Or.inl (by simp)) (farthest_of_head fun c hc more => ?_)
      · rw [← List.append_nil (gap ++ (owner ++ ['.']))]
        exact hbefore nofun
      · exact hbefore (by rintro d ⟨⟩; exact hnameless c hc)
    rw [hs, hpath]
    simpa using hstop

lemma stops_of_trailer (hmem : ∀ t, t <+: rest → (lead ++ t ∈ language ↔ trailer t = .ok ()))
    (hfar : ∀ {tail c t}, rest = tail ++ c :: t → IsTrailer tail → Stray tail c →
      Farthest language (lead ++ tail) (c :: t))
    (h : trailer rest = .error stuck) : Stops language (lead ++ rest) stuck := by
  obtain ⟨tail, c, t, rfl, rfl, htail, hstray⟩ := exists_stray h
  rw [← List.append_assoc]
  refine .behind ((hmem tail (List.prefix_append _ _)).mpr (trailer_eq_ok_iff.mpr htail)) ?_ (hfar rfl htail hstray)
  rw [List.append_assoc, hmem (tail ++ [c]) ⟨t, by simp⟩, hstray.2]
  nofun

def Awaits (language : Set (List Char)) (lead : List Char) (k : List Char → Except Stuck Unit) : Prop :=
  ∀ t, lead ++ t ∈ language ↔ k t = .ok ()

lemma Awaits.stops_trailer (h : Awaits language lead trailer) (hrest : trailer rest = .error stuck) :
    Stops language (lead ++ rest) stuck := by
  refine stops_of_trailer (fun t _ => h t) (fun {tail c t} _ _ hstray => farthest_of_head ?_) hrest
  rintro d ⟨⟩ more
  rw [List.append_assoc, h, hstray.2]
  nofun

lemma Awaits.append_placeholder (h : Awaits language lead (filled k)) (hgap : AllBlank gap) (hx : IsPlaceholder x) :
    Awaits language (lead ++ gap ++ x) k := by
  intro t
  rw [List.append_assoc, List.append_assoc, h, filled_eq hgap hx]

lemma Awaits.stops_placeholder (h : Awaits language lead (filled k)) (hk : ∃ tail, k tail = .ok ())
    (hrest : placeholder (skipBlanks rest) = .error stuck) : Stops language (lead ++ rest) stuck := by
  obtain ⟨gap, hgap, hsplit, hhead⟩ := exists_skipBlanks rest
  obtain ⟨tail, htail⟩ := hk
  have hmore : lead ++ gap ++ (bareParam ++ tail) ∈ language := by
    rw [List.append_assoc, h, filled_eq hgap (Or.inr rfl), htail]
  have hbefore : lead ++ gap ∉ language := by
    rw [h, filled_blanks hgap]
    nofun
  have hstop : Stops language (lead ++ gap ++ skipBlanks rest) stuck := by
    rw [placeholder_eq_error hrest]
    refine .inside hmore hbefore nofun fun w more hne hw hin => ?_
    rw [List.append_assoc, h] at hin
    obtain ⟨⟨⟨⟩, u⟩, hread, -⟩ := bind_eq_ok.mp hin
    have hw_head : ∀ c ∈ (w ++ more).head?, isBlank c = false := by
      rw [List.head?_append_of_ne_nil w hne]
      exact fun c hc => hhead c (mem_head?_mono hw c hc)
    rw [skipBlanks_append hgap hw_head] at hread
    obtain ⟨x, hx, hx_eq⟩ := placeholder_eq_ok_iff.mp hread
    refine isCut_of_append_eq (.placeholder hx) ?_ hw hx_eq
    rintro ⟨behind, hbehind⟩
    rw [placeholder_eq_ok_iff.mpr ⟨x, hx, hbehind.symm⟩] at hrest
    cases hrest
  rwa [List.append_assoc, ← hsplit] at hstop

lemma Awaits.stops_filled (h : Awaits language lead (filled k)) (hk : ∃ tail, k tail = .ok ())
    (hstops : ∀ {gap x t}, AllBlank gap → IsPlaceholder x → Awaits language (lead ++ gap ++ x) k →
      k t = .error stuck → Stops language (lead ++ gap ++ x ++ t) stuck)
    (hrest : filled k rest = .error stuck) : Stops language (lead ++ rest) stuck := by
  rcases bind_eq_error.mp hrest with hplaceholder | ⟨⟨⟨⟩, t⟩, hplaceholder, ht⟩
  · exact h.stops_placeholder hk hplaceholder
  · obtain ⟨gap, x, hgap, hx, rfl⟩ := placeholder_skipBlanks_eq_ok_iff.mp hplaceholder
    have hstop := hstops hgap hx (h.append_placeholder hgap hx) ht
    rwa [List.append_assoc, List.append_assoc] at hstop

lemma Awaits.stops_filled_trailer (h : Awaits language lead (filled trailer))
    (hrest : filled trailer rest = .error stuck) : Stops language (lead ++ rest) stuck :=
  h.stops_filled ⟨[], rfl⟩ (fun _ _ hbehind ht => hbehind.stops_trailer ht) hrest

/-- A path behind blanks, which is read in the same way before all texts that begin as `rest` does. -/
def Leads (lead : List Char) (p : Path) (rest : List Char) : Prop :=
  ∀ t, (∀ c ∈ t.head?, c ∈ rest.head?) → path (skipBlanks (lead ++ t)) = .ok (p, t)

lemma exists_leads (h : path (skipBlanks s) = .ok (p, rest)) :
    ∃ lead, s = lead ++ rest ∧ Leads lead p rest ∧ ')' ∉ lead := by
  obtain ⟨before, x, hbefore, hpath, rfl, hends, hdot⟩ := path_skipBlanks_eq_ok_iff.mp h
  refine ⟨before ++ x, (List.append_assoc _ _ _).symm, ?_, ?_⟩
  · intro t ht
    exact path_skipBlanks_eq_ok_iff.mpr ⟨before, x, hbefore, hpath, List.append_assoc _ _ _,
      fun c hc => hends c (ht c hc), fun howner hhead => hdot howner (ht '.' hhead)⟩
  · rw [List.mem_append, not_or]
    exact ⟨hbefore.notMem (by decide), fun hmem => absurd (hpath.mem _ hmem) (by decide)⟩

lemma Leads.read_initial (h : Leads lead p rest) (ht : t <+: rest) : path (skipBlanks (lead ++ t)) = .ok (p, t) :=
  h t (mem_head?_mono ht)

lemma Leads.read_append (h : Leads lead p (s ++ rest)) (hne : s ≠ []) (t : List Char) :
    path (skipBlanks (lead ++ (s ++ t))) = .ok (p, s ++ t) := by
  apply h
  rw [List.head?_append_of_ne_nil s hne, List.head?_append_of_ne_nil s hne]
  exact fun c hc => hc

lemma Leads.read_next {c : Char} (h : Leads lead p (tail ++ c :: rest)) (more : List Char) :
    path (skipBlanks (lead ++ (tail ++ c :: more))) = .ok (p, tail ++ c :: more) := by
  apply h
  rw [List.head?_append, List.head?_append]
  exact fun d hd => hd

end Stages

end DiscountTables.Template
