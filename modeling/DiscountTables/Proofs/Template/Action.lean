import DiscountTables.Proofs.Request
import DiscountTables.Proofs.Template.Grammar
import DiscountTables.Template.Basic

namespace DiscountTables

namespace Template

open Text

variable {s rest behind before x gap tail : List Char} {p : Path} {form : ActionForm}
  {stuck : Stuck}

inductive IsForm : ActionForm → List Char → Prop
  | bare : IsForm .bare []
  | assignment {gap param : List Char} (hgap : AllBlank gap) (hparam : IsPlaceholder param) :
    IsForm .assignment ('=' :: gap ++ param)
  | setter {gap param gap' : List Char} (hgap : AllBlank gap) (hparam : IsPlaceholder param) (hgap' : AllBlank gap') :
    IsForm .setter ('(' :: gap ++ param ++ gap' ++ [')'])

inductive IsAction (p : Path) (form : ActionForm) : List Char → Prop
  | of_parts {before x gap body tail : List Char} (hbefore : AllBlank before) (hpath : IsPath x p)
    (hgap : AllBlank gap) (hform : IsForm form body) (htail : IsTrailer tail) :
    IsAction p form (before ++ x ++ gap ++ body ++ tail)

lemma closing_eq_ok_iff : closing s = .ok rest ↔ s = ')' :: rest := by
  constructor
  · intro h
    unfold closing at h
    split at h <;> cases h
    rfl
  · rintro rfl
    rfl

lemma closing_skipBlanks_eq_ok_iff :
    closing (skipBlanks s) = .ok rest ↔ ∃ gap, AllBlank gap ∧ s = gap ++ ')' :: rest := by
  rw [closing_eq_ok_iff]
  constructor
  · intro hskip
    obtain ⟨gap, hgap, hs, -⟩ := exists_skipBlanks s
    exact ⟨gap, hgap, hskip ▸ hs⟩
  · rintro ⟨gap, hgap, rfl⟩
    exact skipBlanks_cons hgap (by decide)

def closed (s : List Char) : Except Stuck Unit := do
  let tail ← closing (skipBlanks s)
  trailer tail

lemma closed_eq (hgap : AllBlank gap) : closed (gap ++ ')' :: rest) = trailer rest := by
  rw [closed, closing_skipBlanks_eq_ok_iff.mpr ⟨gap, hgap, rfl⟩]
  rfl

lemma closed_eq_ok_iff : closed s = .ok () ↔ ∃ gap tail, AllBlank gap ∧ IsTrailer tail ∧ s = gap ++ ')' :: tail := by
  constructor
  · intro h
    obtain ⟨tail, hclosing, htail⟩ := bind_eq_ok.mp h
    obtain ⟨gap, hgap, rfl⟩ := closing_skipBlanks_eq_ok_iff.mp hclosing
    exact ⟨gap, tail, hgap, trailer_eq_ok_iff.mp htail, rfl⟩
  · rintro ⟨gap, tail, hgap, htail, rfl⟩
    rw [closed_eq hgap, trailer_eq_ok_iff.mpr htail]

lemma action_eq_of_error (hread : path (skipBlanks s) = .error stuck) : action s = .error stuck := by
  rw [action, hread]
  rfl

lemma action_eq_of_parenthesis (hread : path (skipBlanks s) = .ok (p, rest)) (hskip : skipBlanks rest = '(' :: behind) :
    action s = (do filled closed behind; return ⟨p, .setter⟩) := by
  rw [action, hread, filled]
  simp only [closed, bind_assoc]
  simp only [bind, Except.bind, hskip]

lemma action_eq_of_equals (hread : path (skipBlanks s) = .ok (p, rest)) (hskip : skipBlanks rest = '=' :: behind) :
    action s = (do filled trailer behind; return ⟨p, .assignment⟩) := by
  rw [action, hread, filled, bind_assoc]
  simp only [bind, Except.bind, hskip]

lemma action_eq_of_neither (hread : path (skipBlanks s) = .ok (p, rest))
    (hparenthesis : (skipBlanks rest).head? ≠ some '(') (hequals : (skipBlanks rest).head? ≠ some '=') :
    action s = (do trailer rest; return ⟨p, .bare⟩) := by
  rw [action, hread, ← trailer_skipBlanks]
  simp only [bind, Except.bind]
  split
  · rename_i behind hskip
    exact absurd (by rw [hskip]; rfl) hparenthesis
  · rename_i behind hskip
    exact absurd (by rw [hskip]; rfl) hequals
  · rfl

lemma opening_cases (s : List Char) :
    (∃ rest, s = '(' :: rest) ∨ (∃ rest, s = '=' :: rest) ∨ (s.head? ≠ some '(' ∧ s.head? ≠ some '=') := by
  rw [← List.head?_eq_some_iff, ← List.head?_eq_some_iff]
  tauto

section Reading

variable (hbefore : AllBlank before) (hpath : IsPath x p) (hgap : AllBlank gap)

include hbefore hpath hgap

lemma action_bare (htail : IsTrailer tail) : action (before ++ (x ++ (gap ++ tail))) = .ok ⟨p, .bare⟩ := by
  have hrest : IsTrailer (gap ++ tail) := htail.blanks_append hgap
  have hread := path_skipBlanks hbefore hpath hrest.endsPath
  obtain heq | ⟨more, -, heq⟩ := hrest.skipBlanks_eq
  all_goals
    rw [action_eq_of_neither hread (by simp [heq]) (by simp [heq]), trailer_eq_ok_iff.mpr hrest]
    rfl

lemma action_assignment (hbehind : filled trailer behind = .ok ()) :
    action (before ++ (x ++ (gap ++ '=' :: behind))) = .ok ⟨p, .assignment⟩ := by
  have hends : EndsPath (gap ++ '=' :: behind) := (endsPath_cons (by decide) (by decide)).blanks_append hgap
  rw [action_eq_of_equals (path_skipBlanks hbefore hpath hends) (skipBlanks_cons hgap (by decide)), hbehind]
  rfl

lemma action_setter (hbehind : filled closed behind = .ok ()) :
    action (before ++ (x ++ (gap ++ '(' :: behind))) = .ok ⟨p, .setter⟩ := by
  have hends : EndsPath (gap ++ '(' :: behind) := (endsPath_cons (by decide) (by decide)).blanks_append hgap
  rw [action_eq_of_parenthesis (path_skipBlanks hbefore hpath hends) (skipBlanks_cons hgap (by decide)), hbehind]
  rfl

end Reading

lemma IsAction.action_eq (h : IsAction p form s) : action s = .ok ⟨p, form⟩ := by
  obtain @⟨before, x, gap, body, tail, hbefore, hpath, hgap, hform, htail⟩ := h
  cases hform with
  | bare =>
    simp only [List.append_assoc, List.nil_append]
    exact action_bare hbefore hpath hgap htail
  | @assignment gap' param hgap' hparam =>
    simp only [List.append_assoc, List.cons_append]
    apply action_assignment hbefore hpath hgap
    rw [filled_eq hgap' hparam, trailer_eq_ok_iff.mpr htail]
  | @setter gap' param gap'' hgap' hparam hgap'' =>
    simp only [List.append_assoc, List.cons_append, List.nil_append]
    apply action_setter hbefore hpath hgap
    rw [filled_eq hgap' hparam, closed_eq hgap'', trailer_eq_ok_iff.mpr htail]

lemma exists_isAction {a : Action} (h : action s = .ok a) : IsAction a.path a.form s := by
  cases hread : path (skipBlanks s) with
  | error stuck =>
    rw [action_eq_of_error hread] at h
    cases h
  | ok found =>
    obtain ⟨p, rest⟩ := found
    obtain ⟨before, x, hbefore, hpath, rfl, -⟩ := path_skipBlanks_eq_ok_iff.mp hread
    obtain ⟨gap, hgap, hrest, -⟩ := exists_skipBlanks rest
    rcases opening_cases (skipBlanks rest) with ⟨behind, hskip⟩ | ⟨behind, hskip⟩ | ⟨hparenthesis, hequals⟩
    · rw [action_eq_of_parenthesis hread hskip, bind_eq_ok] at h
      obtain ⟨⟨⟩, hbehind, h⟩ := h
      cases h
      obtain ⟨gap', param, inner, hgap', hparam, rfl, hinner⟩ := filled_eq_ok_iff.mp hbehind
      obtain ⟨gap'', tail, hgap'', htail, rfl⟩ := closed_eq_ok_iff.mp hinner
      have haction := IsAction.of_parts hbefore hpath hgap (.setter hgap' hparam hgap'') htail
      rw [hskip] at hrest
      simpa only [List.append_assoc, List.cons_append, List.nil_append, ← hrest] using haction
    · rw [action_eq_of_equals hread hskip, bind_eq_ok] at h
      obtain ⟨⟨⟩, hbehind, h⟩ := h
      cases h
      obtain ⟨gap', param, tail, hgap', hparam, rfl, htail⟩ := filled_eq_ok_iff.mp hbehind
      have haction := IsAction.of_parts hbefore hpath hgap (.assignment hgap' hparam) (trailer_eq_ok_iff.mp htail)
      rw [hskip] at hrest
      simpa only [List.append_assoc, List.cons_append, ← hrest] using haction
    · rw [action_eq_of_neither hread hparenthesis hequals, bind_eq_ok] at h
      obtain ⟨⟨⟩, htail, h⟩ := h
      cases h
      have haction := IsAction.of_parts hbefore hpath allBlank_nil .bare (trailer_eq_ok_iff.mp htail)
      simpa only [List.append_assoc, List.nil_append] using haction

lemma action_eq_ok_iff {a : Action} : action s = .ok a ↔ IsAction a.path a.form s :=
  ⟨exists_isAction, fun h => h.action_eq⟩

lemma exists_action_error_iff : (∃ stuck, action s = .error stuck) ↔ ∀ p form, ¬ IsAction p form s := by
  simp only [exists_error_iff, action_eq_ok_iff]
  constructor
  · exact fun h p form hs => h ⟨⟨p, form⟩, hs⟩
  · rintro h ⟨a, hs⟩
    exact h a.path a.form hs

def ActionForm.nameFor (form : ActionForm) (field : String) : String :=
  match form with
  | .setter => "set" ++ field
  | .bare | .assignment => field

namespace Action

variable {a : Action} {field : String} {e : TemplateError}

lemma after?_set_eq_some_iff {name : String} {rest : List Char} :
    after? ['s', 'e', 't'] name.toList = some rest ↔ name = "set" ++ String.ofList rest := by
  rw [after?_eq_some_iff, ← String.toList_inj, String.toList_append, String.toList_ofList, String.toList_ofList]

lemma fieldName_eq_ok_iff : a.fieldName = .ok field ↔ a.path.name = a.form.nameFor field := by
  obtain ⟨path, form⟩ := a
  cases form with
  | bare => simp [fieldName, ActionForm.nameFor]
  | assignment => simp [fieldName, ActionForm.nameFor]
  | setter =>
    simp only [fieldName, ActionForm.nameFor]
    constructor
    · intro h
      split at h
      · cases h
      · rename_i rest hrest
        cases h
        exact after?_set_eq_some_iff.mp hrest
    · intro h
      have hrest : after? ['s', 'e', 't'] path.name.toList = some field.toList := by
        rw [after?_set_eq_some_iff, String.ofList_toList, h]
      rw [hrest]
      simp only [String.ofList_toList]

lemma fieldName_nameFor (owner : Option String) (form : ActionForm) (field : String) :
    (⟨⟨owner, form.nameFor field⟩, form⟩ : Action).fieldName = .ok field := fieldName_eq_ok_iff.mpr rfl

lemma fieldName_eq_error_iff : a.fieldName = .error e ↔
    a.form = .setter ∧ (¬ "set".toList <+: a.path.name.toList) ∧ e = .notASetter a.path.name := by
  obtain ⟨path, form⟩ := a
  cases form with
  | bare => simp [fieldName]
  | assignment => simp [fieldName]
  | setter =>
    have hset : "set".toList = ['s', 'e', 't'] := by decide
    simp only [fieldName, hset, true_and]
    cases hrest : after? ['s', 'e', 't'] path.name.toList with
    | none =>
      have hbelow : ¬ ['s', 'e', 't'] <+: path.name.toList := by
        rintro ⟨rest, hname⟩
        rw [after?_eq_some_iff.mpr hname.symm] at hrest
        cases hrest
      simp [hbelow, eq_comm]
    | some rest =>
      have hbelow : ['s', 'e', 't'] <+: path.name.toList := ⟨rest, (after?_eq_some_iff.mp hrest).symm⟩
      simp [hbelow]

end Action

end Template

namespace TemplateError

lemma message_notASetter (name : String) :
    (notASetter name).message = "invalid template: setter '" ++ name ++ "' must be named set<Field>" := by
  have hjoined : "invalid template: setter '" = "invalid template: " ++ "setter '" := by decide
  rw [hjoined, String.append_assoc, String.append_assoc]
  rfl

lemma message_unknownResponseField (name : String) :
    (unknownResponseField name).message = "invalid template: unknown response field '" ++ name ++ "'" := by
  have hjoined : "invalid template: unknown response field '" = "invalid template: " ++ "unknown response field '" := by
    decide
  rw [hjoined, String.append_assoc, String.append_assoc]
  rfl

end TemplateError

namespace ActionTemplate

open Text Template

variable {text name : String} {owner : Option String} {field : ResponseField}

inductive Outcome (text : String) : Except TemplateError ActionTemplate → Prop
  | malformed {stuck : Stuck} (hs : ∀ p form, ¬ IsAction p form text.toList) :
    Outcome text (.error (.malformed text stuck))
  | notASetter {p : Path} (hs : IsAction p .setter text.toList) (hname : ¬ "set".toList <+: p.name.toList) :
    Outcome text (.error (.notASetter p.name))
  | unknown {owner : Option String} {form : ActionForm} {name : String}
    (hs : IsAction ⟨owner, form.nameFor name⟩ form text.toList)
    (hname : ∀ f : ResponseField, eqIgnoringCase f.name name = false) :
    Outcome text (.error (.unknownResponseField name))
  | known {owner : Option String} {form : ActionForm} {name : String} {field : ResponseField}
    (hs : IsAction ⟨owner, form.nameFor name⟩ form text.toList) (hname : eqIgnoringCase field.name name = true) :
    Outcome text (.ok ⟨field, owner⟩)

lemma outcome (text : String) : Outcome text (read text) := by
  rw [read]
  split
  · rename_i stuck ha
    exact .malformed (exists_action_error_iff.mp ⟨stuck, ha⟩)
  · rename_i a ha
    have hs := exists_isAction ha
    split
    · rename_i e he
      obtain ⟨hform, hname, rfl⟩ := Action.fieldName_eq_error_iff.mp he
      exact .notASetter (hform ▸ hs) hname
    · rename_i name hname
      obtain ⟨⟨owner, written⟩, form⟩ := a
      obtain rfl : written = form.nameFor name := Action.fieldName_eq_ok_iff.mp hname
      split
      · rename_i hnone
        exact .unknown hs (ResponseField.ofName?_eq_none_iff.mp hnone)
      · rename_i field hfield
        exact .known hs (ResponseField.ofName?_eq_some_iff.mp hfield)

lemma read_eq_ok_iff : read text = .ok ⟨field, owner⟩ ↔
    ∃ form name, IsAction ⟨owner, form.nameFor name⟩ form text.toList ∧ eqIgnoringCase field.name name = true := by
  constructor
  · intro h
    have hout := h ▸ outcome text
    cases hout with
    | known hs hname => exact ⟨_, _, hs, hname⟩
  · rintro ⟨form, name, hs, hname⟩
    rw [read, hs.action_eq]
    simp only [Action.fieldName_nameFor, ResponseField.ofName?_eq_some_iff.mpr hname]

lemma read_eq_unknown_iff : read text = .error (.unknownResponseField name) ↔
    (∃ owner form, IsAction ⟨owner, form.nameFor name⟩ form text.toList) ∧
      ∀ f : ResponseField, eqIgnoringCase f.name name = false := by
  constructor
  · intro h
    have hout := h ▸ outcome text
    cases hout with
    | unknown hs hname => exact ⟨⟨_, _, hs⟩, hname⟩
  · rintro ⟨⟨owner, form, hs⟩, hname⟩
    rw [read, hs.action_eq]
    simp only [Action.fieldName_nameFor, ResponseField.ofName?_eq_none_iff.mpr hname]

lemma read_eq_notASetter_iff : read text = .error (.notASetter name) ↔
    (∃ owner, IsAction ⟨owner, name⟩ .setter text.toList) ∧ ¬ "set".toList <+: name.toList := by
  constructor
  · intro h
    have hout := h ▸ outcome text
    cases hout with
    | @notASetter p hs hname => exact ⟨⟨p.owner, hs⟩, hname⟩
  · rintro ⟨⟨owner, hs⟩, hname⟩
    have hfield : (⟨⟨owner, name⟩, .setter⟩ : Action).fieldName = .error (.notASetter name) :=
      Action.fieldName_eq_error_iff.mpr ⟨rfl, hname, rfl⟩
    rw [read, hs.action_eq]
    simp only [hfield]

lemma read_eq_malformed_iff :
    (∃ stuck, read text = .error (.malformed text stuck)) ↔ ∀ p form, ¬ IsAction p form text.toList := by
  constructor
  · rintro ⟨stuck, h⟩
    have hout := h ▸ outcome text
    cases hout with
    | malformed hs => exact hs
  · intro hs
    obtain ⟨stuck, ha⟩ := exists_action_error_iff.mpr hs
    refine ⟨stuck, ?_⟩
    rw [read, ha]

theorem action_language (text : String) :
    (∀ field owner, read text = .ok ⟨field, owner⟩ ↔
      ∃ form name, IsAction ⟨owner, form.nameFor name⟩ form text.toList ∧ eqIgnoringCase field.name name = true) ∧
    ((∃ stuck, read text = .error (.malformed text stuck)) ↔ ∀ p form, ¬ IsAction p form text.toList) ∧
    (∀ name, read text = .error (.notASetter name) ↔
      (∃ owner, IsAction ⟨owner, name⟩ .setter text.toList) ∧ ¬ "set".toList <+: name.toList) ∧
    (∀ name, read text = .error (.unknownResponseField name) ↔
      (∃ owner form, IsAction ⟨owner, form.nameFor name⟩ form text.toList) ∧
        ∀ f : ResponseField, eqIgnoringCase f.name name = false) ∧
    ∀ e, read text = .error e → (∃ stuck, e = .malformed text stuck) ∨
      (∃ name, e = .notASetter name ∧ e.message = "invalid template: setter '" ++ name ++ "' must be named set<Field>") ∨
      ∃ name, e = .unknownResponseField name ∧
        e.message = "invalid template: unknown response field '" ++ name ++ "'" := by
  refine ⟨fun field owner => read_eq_ok_iff, read_eq_malformed_iff, fun name => read_eq_notASetter_iff,
    fun name => read_eq_unknown_iff, ?_⟩
  intro e h
  have hout := h ▸ outcome text
  cases hout with
  | malformed hs => exact Or.inl ⟨_, rfl⟩
  | notASetter hs hname => exact Or.inr (Or.inl ⟨_, rfl, TemplateError.message_notASetter _⟩)
  | unknown hs hname => exact Or.inr (Or.inr ⟨_, rfl, TemplateError.message_unknownResponseField _⟩)

example : (read "response.setConversionRateUSD ( $param );").toOption = some ⟨.conversionRate, some "response"⟩ := by
  decide +kernel

end ActionTemplate

end DiscountTables
