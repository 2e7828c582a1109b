import DiscountTables.Proofs.Request
import DiscountTables.Proofs.Template.Grammar
import DiscountTables.Template.Basic

namespace DiscountTables

namespace Template

open Text

variable {s rest behind before x gap test tail : List Char} {p : Path} {op : Operator} {op? : Option Operator}
  {stuck : Stuck}

inductive IsTest : Option Operator → List Char → Prop
  | absent : IsTest none []
  | present {op : Operator} {gap param : List Char} (hgap : AllBlank gap) (hparam : IsPlaceholder param) :
    IsTest (some op) (op.symbol.toList ++ gap ++ param)

inductive IsCondition (p : Path) (op? : Option Operator) : List Char → Prop
  -- Right behind a name the word `matches` would be the rest of the name.
  | of_parts {before x gap test tail : List Char} (hbefore : AllBlank before) (hpath : IsPath x p)
    (hgap : AllBlank gap) (hword : op? = some .fits → gap ≠ []) (htest : IsTest op? test) (htail : IsTrailer tail) :
    IsCondition p op? (before ++ x ++ gap ++ test ++ tail)

lemma symbol_head? (op : Operator) :
    ∃ c symbol, op.symbol.toList = c :: symbol ∧ isBlank c = false ∧ c ≠ '.' ∧ (isNamePart c = true ↔ op = .fits) := by
  cases op with
  | equal => exact ⟨'=', ['='], by decide⟩
  | notEqual => exact ⟨'!', ['='], by decide⟩
  | fits => exact ⟨'m', ['a', 't', 'c', 'h', 'e', 's'], by decide⟩

lemma skipBlanks_symbol (hgap : AllBlank gap) :
    skipBlanks (gap ++ (op.symbol.toList ++ behind)) = op.symbol.toList ++ behind := by
  obtain ⟨c, symbol, hsymbol, hblank, -⟩ := symbol_head? op
  rw [hsymbol, List.cons_append, skipBlanks_cons hgap hblank]

lemma endsPath_symbol (hgap : AllBlank gap) (hword : op = .fits → gap ≠ []) :
    EndsPath (gap ++ (op.symbol.toList ++ behind)) := by
  cases gap with
  | nil =>
    obtain ⟨c, symbol, hsymbol, -, hdot, hname⟩ := symbol_head? op
    rw [List.nil_append, hsymbol]
    exact endsPath_cons (by simpa using mt hname.mp fun hop => hword hop rfl) hdot
  | cons c gap => exact endsPath_of_blank (hgap c List.mem_cons_self)

lemma gap_ne_nil_of_endsName (h : EndsName (gap ++ (op.symbol.toList ++ behind))) (hop : op = .fits) : gap ≠ [] := by
  rintro rfl
  obtain ⟨c, symbol, hsymbol, -, -, hname⟩ := symbol_head? op
  have hends := h c (by rw [hsymbol]; rfl)
  rw [hname.mpr hop] at hends
  cases hends

lemma operator?_trailer (h : IsTrailer tail) : operator? (skipBlanks tail) = none := by
  obtain heq | ⟨rest, -, heq⟩ := h.skipBlanks_eq <;> rw [heq] <;> rfl

lemma operator?_symbol (hgap : AllBlank gap) :
    operator? (skipBlanks (gap ++ (op.symbol.toList ++ behind))) = some (op, behind) := by
  rw [skipBlanks_symbol hgap, operator?_eq_some_iff]

lemma condition_eq_of_error (hread : path (skipBlanks s) = .error stuck) : condition s = .error stuck := by
  rw [condition, hread]
  rfl

lemma condition_eq_of_none (hread : path (skipBlanks s) = .ok (p, rest)) (hop : operator? (skipBlanks rest) = none) :
    condition s = (do trailer rest; return ⟨p, .equal⟩) := by
  rw [condition, hread]
  simp only [bind, Except.bind, hop, trailer_skipBlanks]

lemma condition_eq_of_some (hread : path (skipBlanks s) = .ok (p, rest))
    (hop : operator? (skipBlanks rest) = some (op, behind)) :
    condition s = (do filled trailer behind; return ⟨p, op⟩) := by
  rw [condition, hread, filled, bind_assoc]
  simp only [bind, Except.bind, hop]

lemma condition_plain (hbefore : AllBlank before) (hpath : IsPath x p) (hgap : AllBlank gap) (htail : IsTrailer tail) :
    condition (before ++ (x ++ (gap ++ tail))) = .ok ⟨p, .equal⟩ := by
  have hrest : IsTrailer (gap ++ tail) := htail.blanks_append hgap
  rw [condition_eq_of_none (path_skipBlanks hbefore hpath hrest.endsPath) (operator?_trailer hrest),
    trailer_eq_ok_iff.mpr hrest]
  rfl

lemma condition_tested (hbefore : AllBlank before) (hpath : IsPath x p) (hgap : AllBlank gap)
    (hword : op = .fits → gap ≠ []) (hbehind : filled trailer behind = .ok ()) :
    condition (before ++ (x ++ (gap ++ (op.symbol.toList ++ behind)))) = .ok ⟨p, op⟩ := by
  have hends : EndsPath (gap ++ (op.symbol.toList ++ behind)) := endsPath_symbol hgap hword
  rw [condition_eq_of_some (path_skipBlanks hbefore hpath hends) (operator?_symbol hgap), hbehind]
  rfl

lemma IsCondition.condition_eq (h : IsCondition p op? s) : condition s = .ok ⟨p, op?.getD .equal⟩ := by
  obtain @⟨before, x, gap, test, tail, hbefore, hpath, hgap, hword, htest, htail⟩ := h
  cases htest with
  | absent =>
    simp only [List.append_assoc, List.nil_append]
    exact condition_plain hbefore hpath hgap htail
  | @present op gap' param hgap' hparam =>
    simp only [List.append_assoc]
    refine condition_tested hbefore hpath hgap (fun hop => hword (congrArg some hop)) ?_
    rw [filled_eq hgap' hparam, trailer_eq_ok_iff.mpr htail]

lemma exists_isCondition {c : Condition} (h : condition s = .ok c) :
    ∃ op?, IsCondition c.path op? s ∧ c.operator = op?.getD .equal := by
  cases hread : path (skipBlanks s) with
  | error stuck =>
    rw [condition_eq_of_error hread] at h
    cases h
  | ok found =>
    obtain ⟨p, rest⟩ := found
    obtain ⟨before, x, hbefore, hpath, rfl, hends, -⟩ := path_skipBlanks_eq_ok_iff.mp hread
    cases hop : operator? (skipBlanks rest) with
    | none =>
      rw [condition_eq_of_none hread hop, bind_eq_ok] at h
      obtain ⟨⟨⟩, htail, h⟩ := h
      cases h
      have hcondition := IsCondition.of_parts hbefore hpath allBlank_nil (by simp) .absent (trailer_eq_ok_iff.mp htail)
      simp only [List.append_assoc, List.nil_append] at hcondition
      exact ⟨none, hcondition, rfl⟩
    | some found =>
      obtain ⟨op, behind⟩ := found
      rw [condition_eq_of_some hread hop, bind_eq_ok] at h
      obtain ⟨⟨⟩, hbehind, h⟩ := h
      cases h
      obtain ⟨gap, hgap, hrest, -⟩ := exists_skipBlanks rest
      obtain ⟨gap', param, tail, hgap', hparam, rfl, htail⟩ := filled_eq_ok_iff.mp hbehind
      rw [operator?_eq_some_iff.mp hop] at hrest
      have hword : some op = some .fits → gap ≠ [] :=
        fun heq => gap_ne_nil_of_endsName (hrest ▸ hends) (Option.some.inj heq)
      have hcondition := IsCondition.of_parts hbefore hpath hgap hword (.present hgap' hparam)
        (trailer_eq_ok_iff.mp htail)
      simp only [List.append_assoc, ← hrest] at hcondition
      exact ⟨some op, hcondition, rfl⟩

lemma condition_eq_ok_iff {c : Condition} :
    condition s = .ok c ↔ ∃ op?, IsCondition c.path op? s ∧ c.operator = op?.getD .equal := by
  refine ⟨exists_isCondition, ?_⟩
  rintro ⟨op?, h, hop⟩
  rw [h.condition_eq, ← hop]

lemma exists_condition_error_iff : (∃ stuck, condition s = .error stuck) ↔ ∀ p op?, ¬ IsCondition p op? s := by
  simp only [exists_error_iff, condition_eq_ok_iff]
  constructor
  · exact fun h p op? hs => h ⟨⟨p, op?.getD .equal⟩, op?, hs, rfl⟩
  · rintro h ⟨c, op?, hs, -⟩
    exact h c.path op? hs

end Template

lemma TemplateError.message_unknownRequestField (name : String) :
    (unknownRequestField name).message = "invalid template: unknown request field '" ++ name ++ "'" := by
  have hjoined : "invalid template: unknown request field '" = "invalid template: " ++ "unknown request field '" := by
    decide
  rw [hjoined, String.append_assoc, String.append_assoc]
  rfl

namespace ConditionTemplate

open Text Template

variable {text name : String} {field : RequestField} {operator : Operator} {owner : Option String}

inductive Outcome (text : String) : Except TemplateError ConditionTemplate → Prop
  | malformed {stuck : Stuck} (hs : ∀ p op?, ¬ IsCondition p op? text.toList) :
    Outcome text (.error (.malformed text stuck))
  | unknown {p : Path} {op? : Option Operator} (hs : IsCondition p op? text.toList)
    (hname : ∀ f : RequestField, eqIgnoringCase f.name p.name = false) :
    Outcome text (.error (.unknownRequestField p.name))
  | known {p : Path} {op? : Option Operator} {field : RequestField} (hs : IsCondition p op? text.toList)
    (hname : eqIgnoringCase field.name p.name = true) : Outcome text (.ok ⟨field, op?.getD .equal, p.owner⟩)

lemma outcome (text : String) : Outcome text (read text) := by
  rw [read]
  split
  · rename_i stuck hc
    exact .malformed (exists_condition_error_iff.mp ⟨stuck, hc⟩)
  · rename_i c hc
    obtain ⟨op?, hs, hop⟩ := exists_isCondition hc
    split
    · rename_i hnone
      exact .unknown hs (RequestField.ofName?_eq_none_iff.mp hnone)
    · rename_i field hfield
      rw [hop]
      exact .known hs (RequestField.ofName?_eq_some_iff.mp hfield)

lemma read_eq_ok_iff : read text = .ok ⟨field, operator, owner⟩ ↔
    ∃ name op?, IsCondition ⟨owner, name⟩ op? text.toList ∧ eqIgnoringCase field.name name = true ∧
      operator = op?.getD .equal := by
  constructor
  · intro h
    have hout := h ▸ outcome text
    cases hout with
    | @known p op? _ hs hname => exact ⟨p.name, op?, hs, hname, rfl⟩
  · rintro ⟨name, op?, hs, hname, rfl⟩
    rw [read, hs.condition_eq]
    simp only [RequestField.ofName?_eq_some_iff.mpr hname]

lemma read_eq_malformed_iff :
    (∃ stuck, read text = .error (.malformed text stuck)) ↔ ∀ p op?, ¬ IsCondition p op? text.toList := by
  constructor
  · rintro ⟨stuck, h⟩
    have hout := h ▸ outcome text
    cases hout with
    | malformed hs => exact hs
  · intro hs
    obtain ⟨stuck, hc⟩ := exists_condition_error_iff.mpr hs
    refine ⟨stuck, ?_⟩
    rw [read, hc]

lemma read_eq_unknown_iff : read text = .error (.unknownRequestField name) ↔
    (∃ owner op?, IsCondition ⟨owner, name⟩ op? text.toList) ∧
      ∀ f : RequestField, eqIgnoringCase f.name name = false := by
  constructor
  · intro h
    have hout := h ▸ outcome text
    cases hout with
    | @unknown p op? hs hname => exact ⟨⟨p.owner, op?, hs⟩, hname⟩
  · rintro ⟨⟨owner, op?, hs⟩, hname⟩
    rw [read, hs.condition_eq]
    simp only [RequestField.ofName?_eq_none_iff.mpr hname]

theorem condition_language (text : String) :
    (∀ field operator owner, read text = .ok ⟨field, operator, owner⟩ ↔
      ∃ name op?, IsCondition ⟨owner, name⟩ op? text.toList ∧ eqIgnoringCase field.name name = true ∧
        operator = op?.getD .equal) ∧
    ((∃ stuck, read text = .error (.malformed text stuck)) ↔ ∀ p op?, ¬ IsCondition p op? text.toList) ∧
    (∀ name, read text = .error (.unknownRequestField name) ↔
      (∃ owner op?, IsCondition ⟨owner, name⟩ op? text.toList) ∧
        ∀ f : RequestField, eqIgnoringCase f.name name = false) ∧
    ∀ e, read text = .error e → (∃ stuck, e = .malformed text stuck) ∨
      ∃ name, e = .unknownRequestField name ∧
        e.message = "invalid template: unknown request field '" ++ name ++ "'" := by
  refine ⟨fun field operator owner => read_eq_ok_iff, read_eq_malformed_iff, fun name => read_eq_unknown_iff, ?_⟩
  intro e h
  have hout := h ▸ outcome text
  cases hout with
  | malformed hs => exact Or.inl ⟨_, rfl⟩
  | unknown hs hname => exact Or.inr ⟨_, rfl, TemplateError.message_unknownRequestField _⟩

example : (read " request.State matches\"$param\"; ").toOption = some ⟨.state, .fits, some "request"⟩ := by
  decide +kernel

end ConditionTemplate

end DiscountTables
