import DiscountTables.Proofs.Template.Action
import DiscountTables.Proofs.Template.Condition
import DiscountTables.Proofs.Template.Stopping
import Mathlib.Data.String.Basic

/-!
Where a text that is refused as a template is marked: at the end of what could go on to a template, or at the first
character behind a template.
-/

namespace DiscountTables.Template

open Text

variable {s t rest lead gap x : List Char} {p : Path} {op : Operator} {stuck : Stuck} {language : Set (List Char)}

section Conditions

def conditions : Set (List Char) := {s | ∃ p op?, IsCondition p op? s}

lemma mem_conditions_iff : s ∈ conditions ↔ ∃ c, condition s = .ok c := by
  constructor
  · rintro ⟨p, op?, hs⟩
    exact ⟨_, hs.condition_eq⟩
  · rintro ⟨c, hc⟩
    obtain ⟨op?, hs, -⟩ := exists_isCondition hc
    exact ⟨c.path, op?, hs⟩

lemma IsTest.not_isOpen {op? : Option Operator} (h : IsTest op? s) : ¬ IsOpen s := by
  cases h with
  | absent => simp [IsOpen]
  | @present op gap param hgap hparam =>
    have hop : ¬ IsOpen op.symbol.toList := by cases op <;> simp [IsOpen, Operator.symbol]
    exact not_isOpen_append (not_isOpen_append hop (not_isOpen_of_allBlank hgap)) hparam.not_isOpen

lemma not_isOpen_of_mem_conditions (h : s ∈ conditions) : ¬ IsOpen s := by
  obtain ⟨p, op?, hbefore, hpath, hgap, -, htest, htail⟩ := h
  have hlead := not_isOpen_append (not_isOpen_of_allBlank hbefore) hpath.not_isOpen
  have hgap := not_isOpen_append hlead (not_isOpen_of_allBlank hgap)
  exact not_isOpen_append (not_isOpen_append hgap htest.not_isOpen) htail.not_isOpen

lemma append_mem_conditions (hgap : AllBlank gap) (hpath : IsPath x p) : gap ++ x ∈ conditions := by
  have h : IsCondition p none (gap ++ x ++ [] ++ [] ++ []) :=
    .of_parts hgap hpath allBlank_nil (by simp) .absent (.blanks allBlank_nil)
  exact ⟨p, none, by simpa using h⟩

lemma notMem_conditions_of_error (hpath : path (skipBlanks s) = .error stuck) : s ∉ conditions := by
  rw [mem_conditions_iff, condition_eq_of_error hpath]
  nofun

lemma operator?_eq_none_mono (h : t <+: s) (hop : operator? s = none) : operator? t = none := by
  by_contra hsome
  obtain ⟨⟨op, rest⟩, ht⟩ := Option.ne_none_iff_exists'.mp hsome
  obtain ⟨more, rfl⟩ := h
  rw [operator?_eq_some_iff.mp ht, List.append_assoc, operator?_eq_some_iff.mpr rfl] at hop
  cases hop

lemma Leads.ends_condition (h : Leads lead p rest) (hop : operator? (skipBlanks rest) = none) (ht : t <+: rest) :
    lead ++ t ∈ conditions ↔ trailer t = .ok () := by
  have hop : operator? (skipBlanks t) = none := operator?_eq_none_mono (skipBlanks_mono ht) hop
  rw [mem_conditions_iff, condition_eq_of_none (h.read_initial ht) hop, exists_seq_pure_eq_ok_iff]

lemma Leads.farthest_condition {tail : List Char} {c : Char} (h : Leads lead p (tail ++ c :: t))
    (hop : operator? (skipBlanks (tail ++ c :: t)) = none) (htail : IsTrailer tail) (hstray : Stray tail c) :
    Farthest conditions (lead ++ tail) (c :: t) := by
  intro w more hne hw hin
  obtain ⟨d, w, rfl⟩ := List.exists_cons_of_ne_nil hne
  obtain rfl : c = d := (List.cons_prefix_cons.mp hw).1.symm
  rw [List.append_assoc, List.cons_append, mem_conditions_iff] at hin
  cases hother : operator? (skipBlanks (tail ++ c :: (w ++ more))) with
  | none =>
    rw [condition_eq_of_none (h.read_next _) hother, exists_seq_pure_eq_ok_iff, hstray.2] at hin
    cases hin
  | some found =>
    -- An operator there that was not there before is longer than `w`: a trailer alone begins none.
    obtain ⟨op, behind⟩ := found
    have hsymbol := operator?_eq_some_iff.mp hother
    rw [skipBlanks_append_cons hstray.1] at hsymbol hop
    obtain heq | ⟨rest, -, heq⟩ := htail.skipBlanks_eq <;> rw [heq] at hsymbol hop
    · refine isCut_of_append_eq (.operator op) ?_ hw hsymbol
      rintro ⟨behind, hbehind⟩
      rw [List.nil_append, ← hbehind, operator?_eq_some_iff.mpr rfl] at hop
      cases hop
    · cases op <;> simp [Operator.symbol] at hsymbol

lemma Leads.awaits_operator (h : Leads lead p (gap ++ op.symbol.toList ++ rest)) (hgap : AllBlank gap) :
    Awaits conditions (lead ++ (gap ++ op.symbol.toList)) (filled trailer) := by
  intro t
  have hne : gap ++ op.symbol.toList ≠ [] := by cases op <;> simp [Operator.symbol]
  have hop : operator? (skipBlanks (gap ++ op.symbol.toList ++ t)) = some (op, t) := by
    rw [List.append_assoc, operator?_symbol hgap]
  rw [List.append_assoc, mem_conditions_iff, condition_eq_of_some (h.read_append hne t) hop, exists_seq_pure_eq_ok_iff]

lemma stops_condition (h : condition s = .error stuck) : Stops conditions s stuck := by
  cases hread : path (skipBlanks s) with
  | error e =>
    rw [condition_eq_of_error hread] at h
    cases h
    exact stops_of_path append_mem_conditions notMem_conditions_of_error hread
  | ok found =>
    obtain ⟨p, rest⟩ := found
    obtain ⟨lead, rfl, hlead, -⟩ := exists_leads hread
    cases hop : operator? (skipBlanks rest) with
    | none =>
      rw [condition_eq_of_none hread hop, seq_pure_eq_error_iff] at h
      refine stops_of_trailer (fun t ht => hlead.ends_condition hop ht) ?_ h
      rintro tail c t rfl htail hstray
      exact hlead.farthest_condition hop htail hstray
    | some found =>
      obtain ⟨op, behind⟩ := found
      rw [condition_eq_of_some hread hop, seq_pure_eq_error_iff] at h
      obtain ⟨gap, hgap, hrest, -⟩ := exists_skipBlanks rest
      rw [operator?_eq_some_iff.mp hop, ← List.append_assoc] at hrest
      subst hrest
      rw [← List.append_assoc]
      exact (hlead.awaits_operator hgap).stops_filled_trailer h

end Conditions

section Actions

def actions : Set (List Char) := {s | ∃ p form, IsAction p form s}

lemma mem_actions_iff : s ∈ actions ↔ ∃ a, action s = .ok a := by
  constructor
  · rintro ⟨p, form, hs⟩
    exact ⟨_, hs.action_eq⟩
  · rintro ⟨a, ha⟩
    exact ⟨a.path, a.form, exists_isAction ha⟩

lemma IsForm.not_isOpen {form : ActionForm} (h : IsForm form s) : ¬ IsOpen s := by
  cases h with
  | bare => simp [IsOpen]
  | assignment hgap hparam =>
    have hequal : ¬ IsOpen ['='] := by simp [IsOpen]
    exact not_isOpen_append (not_isOpen_append hequal (not_isOpen_of_allBlank hgap)) hparam.not_isOpen
  | setter hgap hparam hgap' =>
    rw [IsOpen, List.getLast?_concat]
    simp

lemma not_isOpen_of_mem_actions (h : s ∈ actions) : ¬ IsOpen s := by
  obtain ⟨p, form, hbefore, hpath, hgap, hform, htail⟩ := h
  have hlead := not_isOpen_append (not_isOpen_of_allBlank hbefore) hpath.not_isOpen
  have hgap := not_isOpen_append hlead (not_isOpen_of_allBlank hgap)
  exact not_isOpen_append (not_isOpen_append hgap hform.not_isOpen) htail.not_isOpen

lemma append_mem_actions (hgap : AllBlank gap) (hpath : IsPath x p) : gap ++ x ∈ actions := by
  have h : IsAction p .bare (gap ++ x ++ [] ++ [] ++ []) :=
    .of_parts hgap hpath allBlank_nil .bare (.blanks allBlank_nil)
  exact ⟨p, .bare, by simpa using h⟩

lemma notMem_actions_of_error (hpath : path (skipBlanks s) = .error stuck) : s ∉ actions := by
  rw [mem_actions_iff, action_eq_of_error hpath]
  nofun

lemma closing_eq_error (h : closing s = .error stuck) : stuck = ⟨s, none⟩ := by
  rw [closing.eq_def] at h
  split at h <;> cases h
  rfl

lemma ne_of_closing_eq_error {c : Char} (h : closing s = .error stuck) (hc : c ∈ s.head?) : c ≠ ')' := by
  rintro rfl
  obtain ⟨behind, rfl⟩ := List.head?_eq_some_iff.mp hc
  cases h

lemma closed_of_head {c : Char} (hgap : AllBlank gap) (hblank : isBlank c = false) (hc : c ≠ ')') :
    closed (gap ++ c :: s) = .error ⟨c :: s, none⟩ := by
  rw [closed, skipBlanks_cons hgap hblank, closing]
  · rfl
  · rintro rest ⟨⟩
    exact hc rfl

lemma closed_blanks (hgap : AllBlank gap) : closed gap = .error ⟨[], none⟩ := by
  rw [closed, skipBlanks_of_allBlank hgap]
  rfl

lemma Awaits.append_parenthesis (h : Awaits language lead closed) (hgap : AllBlank gap) :
    Awaits language (lead ++ gap ++ [')']) trailer := by
  intro t
  rw [List.append_assoc, List.append_assoc, h, List.singleton_append, closed_eq hgap]

lemma Awaits.stops_closed (h : Awaits language lead closed) (hopen : '(' ∈ lead) (hunclosed : ')' ∉ lead)
    (hrest : closed rest = .error stuck) : Stops language (lead ++ rest) stuck := by
  rcases bind_eq_error.mp hrest with hclosing | ⟨tail, hclosing, htrailer⟩
  · obtain ⟨gap, hgap, hsplit, hhead⟩ := exists_skipBlanks rest
    have hmore : lead ++ gap ++ [')'] ∈ language := by
      rw [List.append_assoc, h, closed_eq hgap]
      rfl
    have hstop : Stops language (lead ++ gap ++ skipBlanks rest) stuck := by
      rw [closing_eq_error hclosing]
      refine .inside hmore ?_ (fun _ => Or.inr ⟨List.mem_append_left _ hopen, ?_⟩) (farthest_of_head ?_)
      · rw [h, closed_blanks hgap]
        nofun
      · rw [List.mem_append, not_or]
        exact ⟨hunclosed, hgap.notMem (by decide)⟩
      · intro c hc more
        rw [List.append_assoc, h, closed_of_head hgap (hhead c hc) (ne_of_closing_eq_error hclosing hc)]
        nofun
    rwa [List.append_assoc, ← hsplit] at hstop
  · obtain ⟨gap, hgap, rfl⟩ := closing_skipBlanks_eq_ok_iff.mp hclosing
    have hstop := (h.append_parenthesis hgap).stops_trailer htrailer
    rwa [List.append_assoc, List.append_assoc] at hstop

lemma Awaits.stops_filled_closed (h : Awaits language lead (filled closed)) (hopen : '(' ∈ lead)
    (hunclosed : ')' ∉ lead) (hrest : filled closed rest = .error stuck) : Stops language (lead ++ rest) stuck := by
  refine h.stops_filled ⟨[')'], rfl⟩ ?_ hrest
  intro gap x t hgap hx hbehind ht
  refine hbehind.stops_closed (by simp [hopen]) ?_ ht
  have hgap_unclosed : ')' ∉ gap := hgap.notMem (by decide)
  have hx_unclosed : ')' ∉ x := by rcases hx with rfl | rfl <;> decide
  simp [hunclosed, hgap_unclosed, hx_unclosed]

lemma Leads.ends_action (h : Leads lead p rest) (hparenthesis : (skipBlanks rest).head? ≠ some '(')
    (hequals : (skipBlanks rest).head? ≠ some '=') (ht : t <+: rest) :
    lead ++ t ∈ actions ↔ trailer t = .ok () := by
  have hhead := mem_head?_mono (skipBlanks_mono ht)
  rw [mem_actions_iff, action_eq_of_neither (h.read_initial ht) (mt (hhead '(') hparenthesis) (mt (hhead '=') hequals),
    exists_seq_pure_eq_ok_iff]

lemma Leads.farthest_action {tail : List Char} {c : Char} (h : Leads lead p (tail ++ c :: t))
    (hparenthesis : (skipBlanks (tail ++ c :: t)).head? ≠ some '(')
    (hequals : (skipBlanks (tail ++ c :: t)).head? ≠ some '=') (hstray : Stray tail c) :
    Farthest actions (lead ++ tail) (c :: t) := by
  apply farthest_of_head
  rintro d ⟨⟩ more
  have hhead : (skipBlanks (tail ++ c :: more)).head? = (skipBlanks (tail ++ c :: t)).head? := by
    rw [skipBlanks_append_cons hstray.1, skipBlanks_append_cons hstray.1, List.head?_append, List.head?_append]
    rfl
  rw [← hhead] at hparenthesis hequals
  rw [List.append_assoc, mem_actions_iff, action_eq_of_neither (h.read_next more) hparenthesis hequals,
    exists_seq_pure_eq_ok_iff, hstray.2]
  nofun

lemma Leads.awaits_equals (h : Leads lead p (gap ++ ['='] ++ rest)) (hgap : AllBlank gap) :
    Awaits actions (lead ++ (gap ++ ['='])) (filled trailer) := by
  intro t
  have hskip : skipBlanks (gap ++ ['='] ++ t) = '=' :: t := by
    rw [List.append_assoc]
    exact skipBlanks_cons hgap (by decide)
  rw [List.append_assoc, mem_actions_iff, action_eq_of_equals (h.read_append (by simp) t) hskip,
    exists_seq_pure_eq_ok_iff]

lemma Leads.awaits_parenthesis (h : Leads lead p (gap ++ ['('] ++ rest)) (hgap : AllBlank gap) :
    Awaits actions (lead ++ (gap ++ ['('])) (filled closed) := by
  intro t
  have hskip : skipBlanks (gap ++ ['('] ++ t) = '(' :: t := by
    rw [List.append_assoc]
    exact skipBlanks_cons hgap (by decide)
  rw [List.append_assoc, mem_actions_iff, action_eq_of_parenthesis (h.read_append (by simp) t) hskip,
    exists_seq_pure_eq_ok_iff]

lemma stops_action (h : action s = .error stuck) : Stops actions s stuck := by
  cases hread : path (skipBlanks s) with
  | error e =>
    rw [action_eq_of_error hread] at h
    cases h
    exact stops_of_path append_mem_actions notMem_actions_of_error hread
  | ok found =>
    obtain ⟨p, rest⟩ := found
    obtain ⟨lead, rfl, hlead, hunclosed⟩ := exists_leads hread
    obtain ⟨gap, hgap, hrest, -⟩ := exists_skipBlanks rest
    rcases opening_cases (skipBlanks rest) with ⟨behind, hskip⟩ | ⟨behind, hskip⟩ | ⟨hparenthesis, hequals⟩
    · rw [action_eq_of_parenthesis hread hskip, seq_pure_eq_error_iff] at h
      rw [hskip, ← List.singleton_append, ← List.append_assoc] at hrest
      subst hrest
      have hgap_unclosed : ')' ∉ gap := hgap.notMem (by decide)
      rw [← List.append_assoc]
      exact (hlead.awaits_parenthesis hgap).stops_filled_closed (by simp) (by simp [hunclosed, hgap_unclosed]) h
    · rw [action_eq_of_equals hread hskip, seq_pure_eq_error_iff] at h
      rw [hskip, ← List.singleton_append, ← List.append_assoc] at hrest
      subst hrest
      rw [← List.append_assoc]
      exact (hlead.awaits_equals hgap).stops_filled_trailer h
    · rw [action_eq_of_neither hread hparenthesis hequals, seq_pure_eq_error_iff] at h
      refine stops_of_trailer (fun t ht => hlead.ends_action hparenthesis hequals ht) ?_ h
      rintro tail c t rfl - hstray
      exact hlead.farthest_action hparenthesis hequals hstray

end Actions

/-- The place of an error in a text that is split there. What is before it goes on to a text of the language, and is one
itself just if nothing is expected behind it and nothing in it is open; then it is none any more with the next character
added. No part of what is behind it could stand there, unless a token that is cut. -/
structure Marks (language : Set (List Char)) (text : String) (stuck : Stuck) (before after : String) : Prop where
  text_eq : text = before ++ after
  offset_eq : stuck.offset text.toList = before.utf8ByteSize
  offset_le : stuck.offset text.toList ≤ text.utf8ByteSize
  isValid : (⟨stuck.offset text.toList⟩ : String.Pos.Raw).IsValid text
  goesOn : ∃ more, before.toList ++ more ∈ language
  mem_iff : before.toList ∈ language ↔ stuck.expected = none ∧ ¬ IsOpen before.toList
  next_notMem : before.toList ∈ language → ∃ c more, after.toList = c :: more ∧ before.toList ++ [c] ∉ language
  farthest : Farthest language before.toList after.toList

lemma utf8Length_toList (text : String) : utf8Length text.toList = text.utf8ByteSize := by
  have hlength (cs : List Char) : String.utf8Len cs = utf8Length cs := by
    induction cs with
    | nil => rfl
    | cons c cs ih => rw [String.utf8Len_cons, utf8Length_cons, ih, Nat.add_comm]
  rw [← hlength, ← String.utf8ByteSize_ofList, String.ofList_toList]

lemma offset_toList_append (before : String) {after : String} (hrest : stuck.rest = after.toList) :
    stuck.offset (before ++ after).toList = before.utf8ByteSize := by
  rw [Stuck.offset, Stuck.accepted, hrest, String.toList_append, List.length_append, Nat.add_sub_cancel, List.take_left,
    utf8Length_toList]

lemma marks_of_append {before after : String} (hrest : stuck.rest = after.toList)
    (hmore : ∃ more, before.toList ++ more ∈ language)
    (hmem : before.toList ∈ language ↔ stuck.expected = none ∧ ¬ IsOpen before.toList)
    (hnext : before.toList ∈ language → ∃ c more, after.toList = c :: more ∧ before.toList ++ [c] ∉ language)
    (hfar : Farthest language before.toList after.toList) : Marks language (before ++ after) stuck before after := by
  have hoffset := offset_toList_append before hrest
  refine ⟨rfl, hoffset, ?_, ?_, hmore, hmem, hnext, hfar⟩
  · rw [hoffset, String.utf8ByteSize_append]
    exact Nat.le_add_right _ _
  · rw [hoffset]
    exact String.Pos.Raw.isValid_iff_exists_append.mpr ⟨before, after, rfl, rfl⟩

lemma exists_toList (s : List Char) : ∃ text : String, text.toList = s := ⟨String.ofList s, String.toList_ofList⟩

lemma Stops.exists_marks {text : String} (h : Stops language text.toList stuck)
    (hclosed : ∀ s ∈ language, ¬ IsOpen s) : ∃ before after, Marks language text stuck before after := by
  generalize htext : text.toList = s at h
  cases h with
  | @inside before rest more expected hmore hbefore hopen hfar =>
    obtain ⟨before, rfl⟩ := exists_toList before
    obtain ⟨after, rfl⟩ := exists_toList rest
    obtain rfl : text = before ++ after := by rw [← String.toList_inj, htext, String.toList_append]
    have hnot : ¬ (expected = none ∧ ¬ IsOpen before.toList) := fun hexpected => hexpected.2 (hopen hexpected.1)
    have hmem : before.toList ∈ language ↔ expected = none ∧ ¬ IsOpen before.toList := iff_of_false hbefore hnot
    exact ⟨before, after, marks_of_append rfl ⟨more, hmore⟩ hmem (fun hin => absurd hin hbefore) hfar⟩
  | @behind before rest c hbefore hnext hfar =>
    obtain ⟨before, rfl⟩ := exists_toList before
    obtain ⟨after, hafter⟩ := exists_toList (c :: rest)
    obtain rfl : text = before ++ after := by rw [← String.toList_inj, htext, String.toList_append, hafter]
    have hmore : before.toList ++ [] ∈ language := by rwa [List.append_nil]
    have hmem : before.toList ∈ language ↔ (none : Option Expectation) = none ∧ ¬ IsOpen before.toList :=
      iff_of_true hbefore ⟨rfl, hclosed _ hbefore⟩
    exact ⟨before, after,
      marks_of_append hafter.symm ⟨[], hmore⟩ hmem (fun _ => ⟨c, rest, hafter, hnext⟩) (hafter ▸ hfar)⟩

lemma condition_of_malformed {text input : String} (h : ConditionTemplate.read text = .error (.malformed input stuck)) :
    input = text ∧ condition text.toList = .error stuck := by
  rw [ConditionTemplate.read] at h
  cases hc : condition text.toList with
  | error e =>
    rw [hc] at h
    cases h
    exact ⟨rfl, rfl⟩
  | ok c =>
    simp only [hc] at h
    split at h <;> cases h

lemma action_of_malformed {text input : String} (h : ActionTemplate.read text = .error (.malformed input stuck)) :
    input = text ∧ action text.toList = .error stuck := by
  rw [ActionTemplate.read] at h
  cases ha : action text.toList with
  | error e =>
    rw [ha] at h
    cases h
    exact ⟨rfl, rfl⟩
  | ok a =>
    simp only [ha] at h
    split at h
    · rename_i e hname
      obtain ⟨-, -, rfl⟩ := Action.fieldName_eq_error_iff.mp hname
      cases h
    · split at h <;> cases h

/-- A text that is refused as a template is marked where it last could go on to a template, tokens taken whole: inside
one, or at the first character behind one. -/
theorem malformed_place (text input : String) (stuck : Stuck) :
    (ConditionTemplate.read text = .error (.malformed input stuck) →
      input = text ∧ ∃ before after, Marks conditions text stuck before after) ∧
    (ActionTemplate.read text = .error (.malformed input stuck) →
      input = text ∧ ∃ before after, Marks actions text stuck before after) := by
  constructor
  · intro h
    obtain ⟨hinput, hstuck⟩ := condition_of_malformed h
    exact ⟨hinput, (stops_condition hstuck).exists_marks fun s => not_isOpen_of_mem_conditions⟩
  · intro h
    obtain ⟨hinput, hstuck⟩ := action_of_malformed h
    exact ⟨hinput, (stops_action hstuck).exists_marks fun s => not_isOpen_of_mem_actions⟩

theorem malformed_place_accents :
    ConditionTemplate.read "\u3000x.état" = .error (.malformed "\u3000x.état" ⟨['é', 't', 'a', 't'], none⟩) ∧
    (∃ before after, Marks conditions "\u3000x.état" ⟨['é', 't', 'a', 't'], none⟩ before after) ∧
    ActionTemplate.read "x ( $param ) ;\n é" = .error (.malformed "x ( $param ) ;\n é" ⟨['é'], none⟩) ∧
    ∃ before after, Marks actions "x ( $param ) ;\n é" ⟨['é'], none⟩ before after := by
  have hcondition : ConditionTemplate.read "\u3000x.état" =
      .error (.malformed "\u3000x.état" ⟨['é', 't', 'a', 't'], none⟩) := by decide +kernel
  have haction : ActionTemplate.read "x ( $param ) ;\n é" = .error (.malformed "x ( $param ) ;\n é" ⟨['é'], none⟩) := by
    decide +kernel
  exact ⟨hcondition, ((malformed_place _ _ _).1 hcondition).2, haction, ((malformed_place _ _ _).2 haction).2⟩

end DiscountTables.Template
