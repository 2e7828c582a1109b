import DiscountTables.Pattern.Basic
import DiscountTables.Proofs.Pattern.Reach
import DiscountTables.Proofs.Results

namespace DiscountTables.Pattern

def Expr.WellCounted : Expr → Prop
  | .group _ _ _ body => body.WellCounted
  | .sequence _ a b | .choice _ a b => a.WellCounted ∧ b.WellCounted
  | .repetition count _ body => count.Valid ∧ body.WellCounted
  | _ => True

lemma Expr.resolve_wellCounted {e : Expr} {f g : Flags} {r : Node} (he : e.WellCounted)
    (h : e.resolve f = .ok (r, g)) : r.WellCounted := by
  induction e generalizing f g r with
  | empty _ | flags _ _ =>
    obtain ⟨rfl, rfl⟩ := Prod.mk.inj (Except.ok.inj h)
    trivial
  | assertion _ _ =>
    obtain ⟨rfl, rfl⟩ := Prod.mk.inj (Except.ok.inj h)
    trivial
  | dot _ =>
    simp only [Expr.resolve] at h
    split at h
    · obtain ⟨rfl, rfl⟩ := Prod.mk.inj (Except.ok.inj h)
      trivial
    · cases h
  | literal _ | characters _ =>
    obtain ⟨_, _, h⟩ := bind_eq_ok.mp h
    obtain ⟨rfl, rfl⟩ := Prod.mk.inj (Except.ok.inj h)
    trivial
  | group _ _ _ _ ih =>
    obtain ⟨_, hb, h⟩ := bind_eq_ok.mp h
    obtain ⟨rfl, rfl⟩ := Prod.mk.inj (Except.ok.inj h)
    have hbody := ih he hb
    exact hbody
  | repetition _ _ _ ih =>
    obtain ⟨_, hb, h⟩ := bind_eq_ok.mp h
    obtain ⟨rfl, rfl⟩ := Prod.mk.inj (Except.ok.inj h)
    exact ⟨he.1, ih he.2 hb⟩
  | sequence _ _ _ iha ihb | choice _ _ _ iha ihb =>
    obtain ⟨_, ha, h⟩ := bind_eq_ok.mp h
    obtain ⟨_, hb, h⟩ := bind_eq_ok.mp h
    obtain ⟨rfl, rfl⟩ := Prod.mk.inj (Except.ok.inj h)
    exact ⟨iha he.1 ha, ihb he.2 hb⟩

lemma Expr.ofParts_wellCounted {span : Span} {parts : List Expr} (h : ∀ e ∈ parts, e.WellCounted) :
    (Expr.ofParts span parts).WellCounted := by
  cases parts with
  | nil => trivial
  | cons e rest =>
    obtain ⟨he, hr⟩ := List.forall_mem_cons.mp h
    simp only [ofParts]
    induction rest generalizing e with
    | nil => exact he
    | cons a rest ih =>
      obtain ⟨ha, hr⟩ := List.forall_mem_cons.mp hr
      have hs : (Expr.sequence span a e).WellCounted := ⟨ha, he⟩
      exact ih _ (List.forall_mem_cons.mpr ⟨hs, hr⟩) hs hr

lemma Expr.ofBranches_wellCounted {span : Span} {last : Expr} {before : List Expr}
    (hl : last.WellCounted) (hb : ∀ e ∈ before, e.WellCounted) :
    (Expr.ofBranches span last before).WellCounted := by
  simp only [ofBranches]
  induction before generalizing last with
  | nil => exact hl
  | cons a rest ih =>
    obtain ⟨ha, hr⟩ := List.forall_mem_cons.mp hb
    exact ih ⟨ha, hl⟩ hr

structure Content.WellCounted (k : Content) : Prop where
  branches : ∀ e ∈ k.branches, e.WellCounted
  parts : ∀ e ∈ k.parts, e.WellCounted

namespace Content

lemma start_wellCounted (p : Place) : (Content.start p).WellCounted :=
  ⟨by simp [start], by simp [start]⟩

lemma push_wellCounted {k : Content} {e : Expr} (hk : k.WellCounted) (he : e.WellCounted) :
    (k.push e).WellCounted := ⟨hk.branches, List.forall_mem_cons.mpr ⟨he, hk.parts⟩⟩

lemma toExpr_wellCounted {k : Content} (hk : k.WellCounted) (last : Place) : (k.toExpr last).WellCounted :=
  Expr.ofBranches_wellCounted (Expr.ofParts_wellCounted hk.parts) hk.branches

end Content

structure Progress.WellCounted (p : Progress) : Prop where
  content : p.content.WellCounted
  outer : ∀ g ∈ p.outer, g.around.WellCounted

namespace Progress

variable {p q : Progress}

lemma moved_wellCounted (hp : p.WellCounted) (c : Cursor) :
    ({ p with cursor := c } : Progress).WellCounted := ⟨hp.content, hp.outer⟩

lemma push_wellCounted {e : Expr} (hp : p.WellCounted) (he : e.WellCounted) (after : Cursor) :
    (p.push e after).WellCounted := ⟨Content.push_wellCounted hp.content he, hp.outer⟩

lemma openGroup_wellCounted (hp : p.WellCounted) (changes : FlagChanges) (captures : Bool)
    (after : Cursor) : (p.openGroup changes captures after).WellCounted :=
  ⟨Content.start_wellCounted _, List.forall_mem_cons.mpr ⟨hp.content, hp.outer⟩⟩

lemma parenthesis_wellCounted (hp : p.WellCounted) (h : p.parenthesis = .ok q) : q.WellCounted := by
  simp only [parenthesis] at h
  split at h
  · cases h
  split at h
  · obtain ⟨⟨named, after⟩, _, h⟩ := bind_eq_ok.mp h
    cases h
    have ho := openGroup_wellCounted hp [] true after
    exact ⟨ho.content, ho.outer⟩
  split at h
  · split at h
    · cases h
    obtain ⟨_, _, h⟩ := bind_eq_ok.mp h
    split at h
    · split at h
      · cases h
      · cases h
        exact ⟨Content.push_wellCounted hp.content (by trivial), hp.outer⟩
    · cases h
      exact openGroup_wellCounted hp _ _ _
  · cases h
    exact openGroup_wellCounted hp _ _ _

lemma closeGroup_wellCounted (hp : p.WellCounted) (h : p.closeGroup = .ok q) : q.WellCounted := by
  simp only [closeGroup] at h
  split at h
  · cases h
  · rename_i g outer ho
    cases h
    have hg : ∀ g' ∈ g :: outer, g'.around.WellCounted := ho ▸ hp.outer
    obtain ⟨hg, houter⟩ := List.forall_mem_cons.mp hg
    exact ⟨Content.push_wellCounted hg (Content.toExpr_wellCounted hp.content _), houter⟩

lemma putRepetition_wellCounted {count : Count} {e : Expr} {before : List Expr} (hp : p.WellCounted)
    (hr : p.repeatable = .ok (e, before)) (hv : count.Valid) (after : Cursor) :
    (p.putRepetition count e before after).WellCounted := by
  simp only [repeatable] at hr
  split at hr
  · cases hr
  · cases hr
  · cases hr
  · rename_i hparts
    cases hr
    have hall : ∀ e' ∈ e :: before, e'.WellCounted := hparts ▸ hp.content.parts
    obtain ⟨he, hb⟩ := List.forall_mem_cons.mp hall
    exact ⟨⟨hp.content.branches, List.forall_mem_cons.mpr ⟨⟨hv, he⟩, hb⟩⟩, hp.outer⟩

lemma repeated_wellCounted {count : Count} (hp : p.WellCounted) (hv : count.Valid)
    (h : p.repeated count = .ok q) : q.WellCounted := by
  obtain ⟨_, hr, h⟩ := bind_eq_ok.mp h
  cases h
  exact putRepetition_wellCounted hp hr hv _

lemma counted_wellCounted (hp : p.WellCounted) (h : p.counted = .ok q) : q.WellCounted := by
  obtain ⟨_, hr, h⟩ := bind_eq_ok.mp h
  obtain ⟨_, _, h⟩ := bind_eq_ok.mp h
  simp only at h
  split at h
  · split at h
    · rename_i hv
      cases h
      exact putRepetition_wellCounted hp hr hv _
    · cases h
  · cases h

lemma bar_wellCounted (hp : p.WellCounted) : p.bar.WellCounted :=
  ⟨⟨List.forall_mem_cons.mpr ⟨Expr.ofParts_wellCounted hp.content.parts, hp.content.branches⟩,
    by simp [bar]⟩, hp.outer⟩

lemma step_wellCounted {c : Char} (hp : p.WellCounted) (h : p.step c = .ok q) : q.WellCounted := by
  simp only [step] at h
  split at h
  · exact parenthesis_wellCounted hp h
  · exact closeGroup_wellCounted hp h
  · cases h
    exact bar_wellCounted hp
  · obtain ⟨_, _, h⟩ := bind_eq_ok.mp h
    cases h
    exact push_wellCounted hp (by trivial) _
  · exact repeated_wellCounted hp (by decide) h
  · exact repeated_wellCounted hp (by decide) h
  · exact repeated_wellCounted hp (by decide) h
  · exact counted_wellCounted hp h
  · cases h
    exact push_wellCounted hp (by trivial) _
  · cases h
    exact push_wellCounted hp (by trivial) _
  · cases h
    exact push_wellCounted hp (by trivial) _
  · obtain ⟨⟨item, after⟩, _, h⟩ := bind_eq_ok.mp h
    cases h
    exact push_wellCounted hp (by cases item <;> trivial) _

lemma finish_wellCounted {e : Expr} (hp : p.WellCounted) (h : p.finish = .ok e) : e.WellCounted := by
  simp only [finish] at h
  split at h
  · cases h
  · split at h
    · cases h
    · cases h
      exact Content.toExpr_wellCounted hp.content _

lemma run_wellCounted {fuel : ℕ} {e : Expr} (hp : p.WellCounted) (h : run fuel p = .ok e) :
    e.WellCounted := by
  induction fuel generalizing p with
  | zero => exact finish_wellCounted hp h
  | succ fuel ih =>
    simp only [run] at h
    split at h
    · exact finish_wellCounted (moved_wellCounted hp _) h
    · obtain ⟨q, hq, h⟩ := bind_eq_ok.mp h
      exact ih (step_wellCounted (moved_wellCounted hp _) hq) h

end Progress

lemma Node.read_wellCounted {s : String} {r : Node} (h : Node.read s = .ok r) : r.WellCounted := by
  obtain ⟨e, he, h⟩ := bind_eq_ok.mp h
  obtain ⟨⟨r', g⟩, hr, h⟩ := bind_eq_ok.mp h
  cases h
  have hstart : (Progress.start (Cursor.ofText s)).WellCounted :=
    ⟨Content.start_wellCounted _, by simp [Progress.start]⟩
  exact Expr.resolve_wellCounted (Progress.run_wellCounted hstart he) hr

lemma occursIn_iff_spans (p : Pattern) (text : String) :
    p.occursIn text = true ↔ ∃ i j, Spans text.toList p.node i j :=
  occursIn_iff (Node.read_wellCounted p.read_source) text

end DiscountTables.Pattern
