import DiscountTables.Proofs.Results
import DiscountTables.Proofs.Text.Blank
import DiscountTables.Template.Grammar

/-!
The parts of a column template as sets of texts, and that each is read exactly. A name ends where no character can
continue it; the other parts are told by how they begin.
-/

namespace DiscountTables.Template

open Text

variable {s x rest word before gap tail : List Char} {p : Path} {op : Operator}

def IsIdentifier (x : List Char) : Prop :=
  ∃ c more, x = c :: more ∧ isNameStart c = true ∧ ∀ d ∈ more, isNamePart d = true

inductive IsPath : List Char → Path → Prop
  | plain {name : List Char} (hname : IsIdentifier name) : IsPath name ⟨none, String.ofList name⟩
  | owned {owner name : List Char} (howner : IsIdentifier owner) (hname : IsIdentifier name) :
    IsPath (owner ++ '.' :: name) ⟨some (String.ofList owner), String.ofList name⟩

def IsPlaceholder (x : List Char) : Prop := x = quotedParam ∨ x = bareParam

inductive IsTrailer : List Char → Prop
  | blanks {gap : List Char} (hgap : AllBlank gap) : IsTrailer gap
  | semicolon {gap tail : List Char} (hgap : AllBlank gap) (htail : AllBlank tail) : IsTrailer (gap ++ ';' :: tail)

lemma isBlank_of_isNamePart {c : Char} (h : isNamePart c = true) : isBlank c = false := by
  have hrange : 48 ≤ c.toNat ∧ c.toNat ≤ 122 := by
    simp only [isNamePart, isNameStart, isAsciiLetter, isAsciiDigit, Bool.or_eq_true, Bool.and_eq_true,
      decide_eq_true_eq, beq_iff_eq, Char.le_def, UInt32.le_iff_toNat_le] at h
    rcases h with ((⟨hleast, hmost⟩ | ⟨hleast, hmost⟩) | rfl) | ⟨hleast, hmost⟩
    · have hzero : '0'.toNat ≤ 'a'.toNat := by decide
      exact ⟨hzero.trans hleast, hmost⟩
    · have hzero : '0'.toNat ≤ 'A'.toNat := by decide
      have hupper : 'Z'.toNat ≤ 'z'.toNat := by decide
      exact ⟨hzero.trans hleast, hmost.trans hupper⟩
    · decide
    · have hnine : '9'.toNat ≤ 'z'.toNat := by decide
      exact ⟨hleast, hmost.trans hnine⟩
  by_contra hblank
  simp only [isBlank, Bool.not_eq_false, Bool.or_eq_true, Bool.and_eq_true, decide_eq_true_eq, beq_iff_eq] at hblank
  omega

lemma IsIdentifier.mem (h : IsIdentifier x) : ∀ c ∈ x, isNamePart c = true := by
  obtain ⟨d, more, rfl, hd, hmore⟩ := h
  intro c hc
  rcases List.mem_cons.mp hc with rfl | hc
  · simp [isNamePart, hd]
  · exact hmore c hc

def EndsName (rest : List Char) : Prop := ∀ c ∈ rest.head?, isNamePart c = false

lemma identifier?_eq_some_iff : identifier? s = some (x, rest) ↔ s = x ++ rest ∧ IsIdentifier x ∧ EndsName rest := by
  constructor
  · intro h
    cases s with
    | nil => cases h
    | cons c s =>
      rw [identifier?] at h
      split at h
      · rename_i hc
        cases h
        refine ⟨?_, ⟨c, _, rfl, hc, fun d hd => List.mem_takeWhile_imp hd⟩, ?_⟩
        · rw [List.cons_append, List.takeWhile_append_dropWhile]
        · intro d hd
          have h := List.head?_dropWhile_not isNamePart s
          rw [hd] at h
          simpa using h
      · cases h
  · rintro ⟨rfl, ⟨c, more, rfl, hc, hmore⟩, hrest⟩
    rw [List.cons_append, identifier?, if_pos hc, List.takeWhile_append_of_pos hmore,
      List.dropWhile_append_of_pos hmore]
    cases rest with
    | nil => simp
    | cons d rest => simp [hrest d rfl]

lemma endsName_dot (rest : List Char) : EndsName ('.' :: rest) := by
  rintro c hc
  cases hc
  decide

lemma IsPath.isBlank_head? (h : IsPath x p) : ∀ c ∈ (x ++ rest).head?, isBlank c = false := by
  intro c hc
  cases h with
  | plain hname =>
    obtain ⟨d, more, rfl, hd, -⟩ := hname
    cases hc
    exact isBlank_of_isNamePart (by simp [isNamePart, hd])
  | owned howner hname =>
    obtain ⟨d, more, rfl, hd, -⟩ := howner
    cases hc
    exact isBlank_of_isNamePart (by simp [isNamePart, hd])

lemma IsPath.mem (h : IsPath x p) : ∀ c ∈ x, isNamePart c = true ∨ c = '.' := by
  intro c hc
  cases h with
  | plain hname => exact Or.inl (hname.mem c hc)
  | owned howner hname =>
    rcases List.mem_append.mp hc with hc | hc
    · exact Or.inl (howner.mem c hc)
    · rcases List.mem_cons.mp hc with rfl | hc
      · exact Or.inr rfl
      · exact Or.inl (hname.mem c hc)

lemma path_eq_ok_iff : path s = .ok (p, rest) ↔
    ∃ x, s = x ++ rest ∧ IsPath x p ∧ EndsName rest ∧ (p.owner = none → rest.head? ≠ some '.') := by
  constructor
  · intro h
    rw [path] at h
    split at h
    · cases h
    · rename_i owner tail howner
      obtain ⟨rfl, hfirst, -⟩ := identifier?_eq_some_iff.mp howner
      split at h
      · cases h
      · rename_i name rest hname
        cases h
        obtain ⟨rfl, hsecond, hends⟩ := identifier?_eq_some_iff.mp hname
        exact ⟨owner ++ '.' :: name, by simp, .owned hfirst hsecond, hends, by simp⟩
    · rename_i name rest hdot hname
      cases h
      obtain ⟨rfl, hname, hends⟩ := identifier?_eq_some_iff.mp hname
      refine ⟨name, rfl, .plain hname, hends, fun _ hhead => ?_⟩
      obtain ⟨tail, rfl⟩ := List.head?_eq_some_iff.mp hhead
      exact hdot tail rfl
  · rintro ⟨x, rfl, hpath, hends, hdot⟩
    cases hpath with
    | plain hname =>
      rw [path, identifier?_eq_some_iff.mpr ⟨rfl, hname, hends⟩]
      split
      · rename_i hn
        cases hn
      · rename_i heq
        cases heq
        exact absurd rfl (hdot rfl)
      · rename_i heq
        cases heq
        rfl
    | @owned owner name howner hname =>
      have hfirst : identifier? (owner ++ '.' :: name ++ rest) = some (owner, '.' :: (name ++ rest)) :=
        identifier?_eq_some_iff.mpr ⟨by simp, howner, endsName_dot _⟩
      rw [path, hfirst]
      simp only [identifier?_eq_some_iff.mpr ⟨rfl, hname, hends⟩]

def EndsPath (rest : List Char) : Prop := ∀ c ∈ rest.head?, isNamePart c = false ∧ c ≠ '.'

lemma endsPath_cons {c : Char} (hname : isNamePart c = false) (hdot : c ≠ '.') : EndsPath (c :: rest) := by
  rintro d hd
  cases hd
  exact ⟨hname, hdot⟩

lemma endsPath_of_blank {c : Char} (h : isBlank c = true) : EndsPath (c :: rest) := by
  refine endsPath_cons ?_ ?_
  · by_contra hname
    rw [isBlank_of_isNamePart (by simpa using hname)] at h
    cases h
  · rintro rfl
    exact absurd h (by decide)

lemma EndsPath.blanks_append (h : EndsPath rest) (hgap : AllBlank gap) : EndsPath (gap ++ rest) := by
  cases gap with
  | nil => exact h
  | cons c gap => exact endsPath_of_blank (hgap c List.mem_cons_self)

lemma path_skipBlanks_eq_ok_iff : path (skipBlanks s) = .ok (p, rest) ↔
    ∃ before x, AllBlank before ∧ IsPath x p ∧ s = before ++ (x ++ rest) ∧ EndsName rest ∧
      (p.owner = none → rest.head? ≠ some '.') := by
  rw [path_eq_ok_iff]
  constructor
  · rintro ⟨x, hx, hpath, hends⟩
    obtain ⟨before, hbefore, hs, -⟩ := exists_skipBlanks s
    exact ⟨before, x, hbefore, hpath, hx ▸ hs, hends⟩
  · rintro ⟨before, x, hbefore, hpath, rfl, hends⟩
    exact ⟨x, skipBlanks_append hbefore hpath.isBlank_head?, hpath, hends⟩

lemma path_skipBlanks (hbefore : AllBlank before) (hpath : IsPath x p) (hends : EndsPath rest) :
    path (skipBlanks (before ++ (x ++ rest))) = .ok (p, rest) :=
  path_skipBlanks_eq_ok_iff.mpr
    ⟨before, x, hbefore, hpath, rfl, fun c hc => (hends c hc).1, fun _ hdot => (hends '.' hdot).2 rfl⟩

lemma after?_eq_some_iff : after? word s = some rest ↔ s = word ++ rest := by
  rw [after?]
  constructor
  · intro h
    split at h
    · rename_i hp
      obtain ⟨more, rfl⟩ := List.isPrefixOf_iff_prefix.mp hp
      rw [List.drop_left] at h
      rw [Option.some.inj h]
    · cases h
  · rintro rfl
    simp [List.isPrefixOf_iff_prefix]

lemma placeholder_eq_ok_iff : placeholder s = .ok ((), rest) ↔ ∃ x, IsPlaceholder x ∧ s = x ++ rest := by
  constructor
  · intro h
    rw [placeholder] at h
    split at h
    · rename_i hquoted
      cases h
      exact ⟨quotedParam, Or.inl rfl, after?_eq_some_iff.mp hquoted⟩
    · split at h
      · rename_i hbare
        cases h
        exact ⟨bareParam, Or.inr rfl, after?_eq_some_iff.mp hbare⟩
      · cases h
  · rintro ⟨x, rfl | rfl, rfl⟩
    · rw [placeholder, after?_eq_some_iff.mpr rfl]
    · have hquoted : after? quotedParam (bareParam ++ rest) = none := rfl
      rw [placeholder, hquoted]
      simp only [after?_eq_some_iff.mpr rfl]

lemma placeholder_skipBlanks_eq_ok_iff : placeholder (skipBlanks s) = .ok ((), rest) ↔
    ∃ gap param, AllBlank gap ∧ IsPlaceholder param ∧ s = gap ++ (param ++ rest) := by
  rw [placeholder_eq_ok_iff]
  constructor
  · rintro ⟨param, hparam, hskip⟩
    obtain ⟨gap, hgap, hs, -⟩ := exists_skipBlanks s
    exact ⟨gap, param, hgap, hparam, hskip ▸ hs⟩
  · rintro ⟨gap, param, hgap, hparam, rfl⟩
    refine ⟨param, hparam, skipBlanks_append hgap ?_⟩
    intro c hc
    rcases hparam with rfl | rfl <;> cases hc <;> decide

lemma operator?_eq_some_iff : operator? s = some (op, rest) ↔ s = op.symbol.toList ++ rest := by
  constructor
  · intro h
    rw [operator?] at h
    split at h
    · rename_i hequal
      cases h
      exact after?_eq_some_iff.mp hequal
    · split at h
      · rename_i hne
        cases h
        exact after?_eq_some_iff.mp hne
      · obtain ⟨rest', hfits, heq⟩ := Option.map_eq_some_iff.mp h
        cases heq
        exact after?_eq_some_iff.mp hfits
  · rintro rfl
    cases op <;> rfl

lemma trailer_eq_ok_iff : trailer s = .ok () ↔ IsTrailer s := by
  constructor
  · intro h
    obtain ⟨gap, hgap, hs, -⟩ := exists_skipBlanks s
    rw [trailer] at h
    cases hrest : skipBlanks s with
    | nil =>
      rw [hrest, List.append_nil] at hs
      exact hs ▸ .blanks hgap
    | cons d rest =>
      rw [hrest] at h hs
      by_cases hd : d = ';'
      · subst hd
        obtain ⟨tail, htail, hs', -⟩ := exists_skipBlanks rest
        cases hrest' : skipBlanks rest with
        | nil =>
          rw [hrest', List.append_nil] at hs'
          rw [hs, hs']
          exact .semicolon hgap htail
        | cons e more => simp [hrest'] at h
      · simp [hd] at h
  · intro h
    cases h with
    | blanks hgap => rw [trailer, skipBlanks_of_allBlank hgap]
    | semicolon hgap htail =>
      rw [trailer, skipBlanks_cons hgap (by decide)]
      simp only [skipBlanks_of_allBlank htail]

lemma trailer_skipBlanks : trailer (skipBlanks s) = trailer s := by
  obtain ⟨gap, hgap, -, hhead⟩ := exists_skipBlanks s
  have hidem : skipBlanks (skipBlanks s) = skipBlanks s := by simpa using skipBlanks_append allBlank_nil hhead
  rw [trailer, trailer, hidem]

def filled (k : List Char → Except Stuck Unit) (s : List Char) : Except Stuck Unit := do
  let ((), tail) ← placeholder (skipBlanks s)
  k tail

lemma filled_eq {k : List Char → Except Stuck Unit} (hgap : AllBlank gap) (hx : IsPlaceholder x) :
    filled k (gap ++ (x ++ rest)) = k rest := by
  rw [filled, placeholder_skipBlanks_eq_ok_iff.mpr ⟨gap, x, hgap, hx, rfl⟩]
  rfl

lemma filled_eq_ok_iff {k : List Char → Except Stuck Unit} : filled k s = .ok () ↔
    ∃ gap x rest, AllBlank gap ∧ IsPlaceholder x ∧ s = gap ++ (x ++ rest) ∧ k rest = .ok () := by
  constructor
  · intro h
    obtain ⟨⟨⟨⟩, rest⟩, hplaceholder, hrest⟩ := bind_eq_ok.mp h
    obtain ⟨gap, x, hgap, hx, rfl⟩ := placeholder_skipBlanks_eq_ok_iff.mp hplaceholder
    exact ⟨gap, x, rest, hgap, hx, rfl, hrest⟩
  · rintro ⟨gap, x, rest, hgap, hx, rfl, hrest⟩
    rw [filled_eq hgap hx, hrest]

lemma IsTrailer.mem (h : IsTrailer tail) : ∀ c ∈ tail, isBlank c = true ∨ c = ';' := by
  intro c hc
  cases h with
  | blanks hgap => exact Or.inl (hgap c hc)
  | semicolon hgap htail =>
    rcases List.mem_append.mp hc with hc | hc
    · exact Or.inl (hgap c hc)
    · rcases List.mem_cons.mp hc with rfl | hc
      · exact Or.inr rfl
      · exact Or.inl (htail c hc)

lemma IsTrailer.blanks_append (h : IsTrailer tail) (hgap : AllBlank gap) : IsTrailer (gap ++ tail) := by
  cases h with
  | blanks hgap' => exact .blanks (hgap.append hgap')
  | semicolon hgap' htail =>
    rw [← List.append_assoc]
    exact .semicolon (hgap.append hgap') htail

lemma IsTrailer.skipBlanks_eq (h : IsTrailer tail) :
    skipBlanks tail = [] ∨ ∃ rest, AllBlank rest ∧ skipBlanks tail = ';' :: rest := by
  cases h with
  | blanks hgap => exact Or.inl (skipBlanks_of_allBlank hgap)
  | @semicolon gap rest hgap hrest => exact Or.inr ⟨rest, hrest, skipBlanks_cons hgap (by decide)⟩

lemma IsTrailer.endsPath (h : IsTrailer tail) : EndsPath tail := by
  cases h with
  | blanks hgap =>
    rw [← List.append_nil tail]
    exact EndsPath.blanks_append (by simp [EndsPath]) hgap
  | semicolon hgap htail => exact (endsPath_cons (by decide) (by decide)).blanks_append hgap

end DiscountTables.Template
