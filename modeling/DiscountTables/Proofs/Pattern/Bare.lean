import DiscountTables.Pattern.Resolve
import DiscountTables.Proofs.Results
import Mathlib.Tactic

namespace DiscountTables.Pattern

def nowhere : Span := .at .start

def Literal.bare (l : Literal) : Literal := { l with span := nowhere }

def ClassSyntax.bare : ClassSyntax → ClassSyntax
  | .nothing _ => .nothing nowhere
  | .literal l => .literal l.bare
  | .range first last => .range first.bare last.bare
  | .perl kind negated _ => .perl kind negated nowhere
  | .ascii kind negated _ => .ascii kind negated nowhere
  | .property query negated _ => .property query negated nowhere
  | .bracketed negated _ body => .bracketed negated nowhere body.bare
  | .union _ a b => .union nowhere a.bare b.bare
  | .operation kind a b => .operation kind a.bare b.bare

def Expr.bare : Expr → Expr
  | .empty _ => .empty nowhere
  | .flags changes _ => .flags changes nowhere
  | .literal l => .literal l.bare
  | .dot _ => .dot nowhere
  | .assertion kind _ => .assertion kind nowhere
  | .characters c => .characters c.bare
  | .group changes captures _ body => .group changes captures nowhere body.bare
  | .repetition count _ body => .repetition count nowhere body.bare
  | .sequence _ a b => .sequence nowhere a.bare b.bare
  | .choice _ a b => .choice nowhere a.bare b.bare

lemma ClassSyntax.bare_ofItems (place : Span) (items : List ClassSyntax) :
    (ofItems place items).bare = match items.map bare with
      | [] => .nothing nowhere
      | e :: rest => rest.foldl (fun tail item => .union nowhere item tail) e := by
  cases items with
  | nil => rfl
  | cons e rest =>
    simp only [ofItems, List.map_cons]
    generalize (⟨((e :: rest).getLastD e).span.first, e.span.last⟩ : Span) = span
    induction rest generalizing e with
    | nil => rfl
    | cons a rest ih => exact ih (.union span a e)

namespace Expr

lemma bare_ofParts (span : Span) (parts : List Expr) :
    (ofParts span parts).bare = ofParts nowhere (parts.map bare) := by
  cases parts with
  | nil => rfl
  | cons e rest =>
    simp only [ofParts, List.map_cons]
    induction rest generalizing e with
    | nil => rfl
    | cons a rest ih => exact ih (.sequence span a e)

lemma bare_ofBranches (span : Span) (last : Expr) (before : List Expr) :
    (ofBranches span last before).bare = ofBranches nowhere last.bare (before.map bare) := by
  simp only [ofBranches]
  induction before generalizing last with
  | nil => rfl
  | cons a rest ih => exact ih (.choice span a last)

end Expr

section Resolve

variable {ε α β : Type}

lemma toOption_bind (x : Except ε α) (f : α → Except ε β) :
    (x >>= f).toOption = x.toOption.bind fun a => (f a).toOption := by
  cases x <;> rfl

lemma toOption_pure (a : α) : (pure a : Except ε α).toOption = some a := rfl

lemma toOption_fault (kind : FaultKind) (span : Span) : (fault kind span : Except Fault α).toOption = none := rfl

end Resolve

lemma Literal.toOption_value_bare (f : Flags) (l : Literal) :
    (l.bare.value f).toOption = (l.value f).toOption := by
  by_cases h : (!f.unicode && l.byte && decide (128 ≤ l.char.toNat)) = true
  · rw [value, value, if_pos h, toOption_fault]
    exact congrArg _ (if_pos h)
  · rw [value, value, if_neg h]
    exact congrArg _ (if_neg h)

lemma Literal.toOption_member_bare (f : Flags) (l : Literal) :
    (l.bare.member f).toOption = (l.member f).toOption := by
  simp only [member, toOption_bind, toOption_value_bare]
  congr 1
  funext c
  split <;> rfl

lemma toOption_complementIf (f : Flags) (negated : Bool) (span span' : Span) (s : Unicode.CharSet) :
    (f.complementIf negated span s).toOption = (f.complementIf negated span' s).toOption := by
  simp only [Flags.complementIf]
  split <;> rfl

lemma ClassSyntax.toOption_resolve_bare (f : Flags) (c : ClassSyntax) :
    (c.bare.resolve f).toOption = (c.resolve f).toOption := by
  induction c with
  | nothing _ => rfl
  | literal l => simp only [bare, resolve, toOption_bind, toOption_pure, Literal.toOption_member_bare]
  | range first last => simp only [bare, resolve, toOption_bind, toOption_pure, Literal.toOption_member_bare]
  | perl kind negated span =>
    simp only [bare, resolve]
    split <;> rfl
  | ascii kind negated span => exact toOption_complementIf f negated _ _ _
  | property query negated span =>
    simp only [bare, resolve, resolveProperty]
    split
    · rfl
    · cases query.set with
      | error _ => rfl
      | ok s => exact toOption_complementIf f _ _ _ s
  | bracketed negated span body ih =>
    simp only [bare, resolve, toOption_bind, ih, toOption_complementIf f negated nowhere span]
  | union _ a b iha ihb => simp only [bare, resolve, toOption_bind, toOption_pure, iha, ihb]
  | operation kind a b iha ihb => simp only [bare, resolve, toOption_bind, toOption_pure, iha, ihb]

lemma Expr.toOption_resolve_bare (f : Flags) (e : Expr) :
    (e.bare.resolve f).toOption = (e.resolve f).toOption := by
  induction e generalizing f with
  | empty _ | flags _ _ | assertion _ _ => rfl
  | dot _ =>
    simp only [bare, resolve]
    split <;> rfl
  | literal l => simp only [bare, resolve, toOption_bind, toOption_pure, Literal.toOption_value_bare]
  | characters c => simp only [bare, resolve, toOption_bind, toOption_pure, ClassSyntax.toOption_resolve_bare]
  | group changes captures _ body ih => simp only [bare, resolve, toOption_bind, toOption_pure, ih]
  | repetition count _ body ih => simp only [bare, resolve, toOption_bind, toOption_pure, ih]
  | sequence _ a b iha ihb => simp only [bare, resolve, toOption_bind, toOption_pure, iha, ihb]
  | choice _ a b iha ihb => simp only [bare, resolve, toOption_bind, toOption_pure, iha, ihb]

lemma ClassSyntax.isSome_firstBeyond_bare (room : ℕ) (inRow : Bool) (c : ClassSyntax) :
    (c.bare.firstBeyond room inRow).isSome = (c.firstBeyond room inRow).isSome := by
  induction c generalizing room inRow with
  | bracketed _ _ body ih => cases room <;> simp [bare, firstBeyond, ih]
  | union _ a b iha ihb => cases inRow <;> cases room <;> simp [bare, firstBeyond, iha, ihb]
  | operation _ a b iha ihb => cases room <;> simp [bare, firstBeyond, iha, ihb]
  | _ => rfl

lemma Expr.isSome_firstBeyond_bare (room : ℕ) (inRow : Bool) (e : Expr) :
    (e.bare.firstBeyond room inRow).isSome = (e.firstBeyond room inRow).isSome := by
  induction e generalizing room inRow with
  | characters c => exact c.isSome_firstBeyond_bare room false
  | group _ _ _ body ih | repetition _ _ body ih => cases room <;> simp [bare, firstBeyond, ih]
  | sequence _ a b iha ihb | choice _ a b iha ihb =>
    cases inRow <;> cases room <;> simp [bare, firstBeyond, iha, ihb]
  | _ => rfl

end DiscountTables.Pattern
