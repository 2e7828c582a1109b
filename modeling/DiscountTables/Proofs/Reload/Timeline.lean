import DiscountTables.Proofs.Reload.Service
import DiscountTables.Reload.Background

namespace DiscountTables

namespace ReloadLoop

variable {period : ℕ} {l : ReloadLoop} {t u : ℕ}

def Ticks (period : ℕ) (l : ReloadLoop) (t : ℕ) : Prop := l.running = true ∧ ∃ k, t = l.next + k * period

lemma isDue_iff : l.isDue u = true ↔ l.running = true ∧ l.next ≤ u := by simp [isDue]

lemma Ticks.next_le (h : l.Ticks period t) : l.next ≤ t := by
  obtain ⟨-, k, rfl⟩ := h
  exact Nat.le_add_right _ _

lemma Ticks.isDue (h : l.Ticks period t) (ht : t ≤ u) : l.isDue u = true := isDue_iff.mpr ⟨h.1, h.next_le.trans ht⟩

lemma ticks_iff : l.Ticks period t ↔ l.running = true ∧ t = l.next ∨ (l.ticked period).Ticks period t := by
  have hstep (k : ℕ) : l.next + (k + 1) * period = l.next + period + k * period := by
    rw [Nat.succ_mul, Nat.add_comm (k * period), Nat.add_assoc]
  constructor
  · rintro ⟨hrunning, _ | k, rfl⟩
    · exact .inl ⟨hrunning, by rw [Nat.zero_mul, Nat.add_zero]⟩
    · exact .inr ⟨hrunning, k, hstep k⟩
  · rintro (⟨hrunning, rfl⟩ | ⟨hrunning, k, rfl⟩)
    · exact ⟨hrunning, 0, by rw [Nat.zero_mul, Nat.add_zero]⟩
    · exact ⟨hrunning, k + 1, (hstep k).symm⟩

end ReloadLoop

inductive Happening (σ : Type) where
  | write (change : σ → σ)
  | cancel

def Happening.steps {σ : Type} : Happening σ → List (ServiceStep σ)
  | write change => [.write change]
  | cancel => []

def ServiceStep.isCycle {σ : Type} : ServiceStep σ → Bool
  | cycle => true
  | _ => false

/-- A step comes before another one. Writes of one instant come in the order that they are given in; a cycle has its
instant to itself. -/
def Precedes {σ : Type} (s₁ s₂ : ℕ × ServiceStep σ) : Prop :=
  s₁.1 < s₂.1 ∨ s₁.1 = s₂.1 ∧ s₁.2.isCycle = false ∧ s₂.2.isCycle = false

def writes {σ : Type} (happenings : List (ℕ × Happening σ)) : List (ℕ × ServiceStep σ) :=
  happenings.flatMap fun h => h.2.steps.map (h.1, ·)

lemma mem_writes_iff {σ : Type} {happenings : List (ℕ × Happening σ)} {s : ℕ × ServiceStep σ} :
    s ∈ writes happenings ↔ ∃ change, s.2 = .write change ∧ (s.1, .write change) ∈ happenings := by
  obtain ⟨t, step⟩ := s
  rw [writes, List.mem_flatMap]
  constructor
  · rintro ⟨⟨t, change | _⟩, hmem, hs⟩
    · obtain ⟨⟩ := List.mem_singleton.mp hs
      exact ⟨change, rfl, hmem⟩
    · cases hs
  · rintro ⟨change, rfl, hmem⟩
    exact ⟨_, hmem, List.mem_singleton_self _⟩

lemma writes_cons {σ : Type} (h : ℕ × Happening σ) (rest : List (ℕ × Happening σ)) :
    writes (h :: rest) = h.2.steps.map (h.1, ·) ++ writes rest := rfl

namespace Background

variable {σ : Type}

section Turns

variable {b : Background σ} {l : ReloadLoop} {t u : ℕ}

lemma nextTick?_eq_some (hloops : b.loops = [l]) (h : b.nextTick? u = some t) : l.isDue u = true ∧ t = l.next := by
  rw [nextTick?, hloops] at h
  split at h
  · cases h
  · cases hdue : l.isDue u <;> simp [hdue] at h
    exact ⟨rfl, h.symm⟩

lemma isDue_eq_false (hloops : b.loops = [l]) (hperiod : 0 < b.period) (h : b.nextTick? u = none) :
    l.isDue u = false := by
  rw [nextTick?, hloops, if_neg hperiod.ne'] at h
  cases hdue : l.isDue u
  · rfl
  · simp [hdue] at h

variable [ObjectStore σ Document]

lemma period_turn (b : Background σ) (t : ℕ) : (b.turn t).period = b.period :=
  congrArg Settings.pollMillis b.reloader.course.settings

lemma loops_turn (hloops : b.loops = [l]) (hrunning : l.running = true) :
    (b.turn l.next).loops = [l.ticked b.period] := by
  rw [turn, hloops, ReloadLoop.tickFirst, if_pos (ReloadLoop.isDue_iff.mpr ⟨hrunning, le_rfl⟩)]

lemma mem_due_iff (hloops : b.loops = [l]) (hperiod : 0 < b.period) :
    t ∈ b.due u ↔ l.Ticks b.period t ∧ t ≤ u := by
  rw [due]
  fun_induction run b u generalizing l with
  | case1 b hnone =>
    refine iff_of_false List.not_mem_nil ?_
    rintro ⟨ht, hle⟩
    exact Bool.false_ne_true ((isDue_eq_false hloops hperiod hnone).symm.trans (ht.isDue hle))
  | case2 b next hnext ih =>
    obtain ⟨hdue, rfl⟩ := nextTick?_eq_some hloops hnext
    obtain ⟨hrunning, hle⟩ := ReloadLoop.isDue_iff.mp hdue
    rw [Prod.map_fst, List.mem_cons, ih (loops_turn hloops hrunning) (by rwa [period_turn]), period_turn,
      l.ticks_iff, or_and_right]
    refine or_congr_left ⟨?_, fun h => h.1.2⟩
    rintro rfl
    exact ⟨⟨hrunning, rfl⟩, hle⟩

lemma due_pairwise (hloops : b.loops = [l]) (hperiod : 0 < b.period) : (b.due u).Pairwise (· < ·) := by
  rw [due]
  fun_induction run b u generalizing l with
  | case1 b hnone => exact .nil
  | case2 b next hnext ih =>
    obtain ⟨hdue, rfl⟩ := nextTick?_eq_some hloops hnext
    have hloops' := loops_turn hloops (ReloadLoop.isDue_iff.mp hdue).1
    have hperiod' : 0 < (b.turn l.next).period := by rwa [period_turn]
    refine .cons (fun t ht => ?_) (ih hloops' hperiod')
    have hlater := ((mem_due_iff hloops' hperiod').mp ht).1.next_le
    exact (Nat.lt_add_of_pos_right hperiod).trans_le hlater

lemma exists_loops_passTo (hloops : b.loops = [l]) (hperiod : 0 < b.period) : ∃ l', (b.passTo u).loops = [l'] ∧
    ∀ t, l'.Ticks b.period t ↔ l.Ticks b.period t ∧ u < t := by
  rw [passTo]
  fun_induction run b u generalizing l with
  | case1 b hnone =>
    refine ⟨l, hloops, fun t => (and_iff_left_of_imp fun ht => ?_).symm⟩
    by_contra hle
    exact Bool.false_ne_true ((isDue_eq_false hloops hperiod hnone).symm.trans (ht.isDue (Nat.not_lt.mp hle)))
  | case2 b next hnext ih =>
    obtain ⟨hdue, rfl⟩ := nextTick?_eq_some hloops hnext
    obtain ⟨hrunning, hle⟩ := ReloadLoop.isDue_iff.mp hdue
    obtain ⟨l', hl', hticks⟩ := ih (loops_turn hloops hrunning) (by rwa [period_turn])
    refine ⟨l', hl', fun t => ?_⟩
    rw [period_turn] at hticks
    rw [hticks, l.ticks_iff, or_and_right, or_iff_right]
    rintro ⟨⟨-, rfl⟩, hlt⟩
    exact Nat.not_le.mpr hlt hle

end Turns

variable [ObjectStore σ Document]

def happen (b : Background σ) : Happening σ → Background σ
  | .write change => { b with reloader := b.reloader.serve (.write change) }
  | .cancel => b.cancel

def meet (b : Background σ) (h : ℕ × Happening σ) : Background σ := (b.passTo h.1).happen h.2

def play (b : Background σ) (happenings : List (ℕ × Happening σ)) (until_ : ℕ) : Background σ :=
  (happenings.foldl meet b).passTo until_

def dueCycles (b : Background σ) (until_ : ℕ) : List (ℕ × ServiceStep σ) := (b.due until_).map fun t => (t, .cycle)

def log : Background σ → List (ℕ × Happening σ) → ℕ → List (ℕ × ServiceStep σ)
  | b, [], until_ => b.dueCycles until_
  | b, h :: rest, until_ => b.dueCycles h.1 ++ h.2.steps.map (h.1, ·) ++ (b.meet h).log rest until_

lemma reloader_passTo (b : Background σ) (u : ℕ) :
    (b.passTo u).reloader = b.reloader.serveAll ((b.dueCycles u).map Prod.snd) := by
  rw [passTo, dueCycles, due]
  fun_induction run b u with
  | case1 b hnone => rfl
  | case2 b t ht ih => exact ih

lemma reloader_meet (b : Background σ) (h : ℕ × Happening σ) : (b.meet h).reloader =
    b.reloader.serveAll ((b.dueCycles h.1 ++ h.2.steps.map (h.1, ·)).map Prod.snd) := by
  rw [List.map_append, Reloader.serveAll_append, ← reloader_passTo]
  obtain ⟨t, change | _⟩ := h
  · rfl
  · rfl

lemma reloader_play (b : Background σ) (happenings : List (ℕ × Happening σ)) (u : ℕ) :
    (b.play happenings u).reloader = b.reloader.serveAll ((b.log happenings u).map Prod.snd) := by
  induction happenings generalizing b with
  | nil => exact b.reloader_passTo u
  | cons h rest ih =>
    rw [log, List.map_append, Reloader.serveAll_append, ← reloader_meet]
    exact ih (b.meet h)

section Loop

variable {σ : Type} {b : Background σ} {l : ReloadLoop} {h : ℕ × Happening σ} {happenings : List (ℕ × Happening σ)}
  {t u : ℕ}

/-- A background with a single loop and what is to happen to it: in order, and never at a tick, unless the loop was
cancelled before. -/
structure Awaits (b : Background σ) (l : ReloadLoop) (happenings : List (ℕ × Happening σ)) : Prop where
  loops : b.loops = [l]
  period_pos : 0 < b.period
  ordered : happenings.Pairwise (·.1 ≤ ·.1)
  apart : ∀ h ∈ happenings, l.Ticks b.period h.1 → ∃ c, (c, .cancel) ∈ happenings ∧ c < h.1

lemma Awaits.not_ticks (hb : b.Awaits l (h :: happenings)) : ¬ l.Ticks b.period h.1 := by
  intro ht
  obtain ⟨c, hc, hlt⟩ := hb.apart h List.mem_cons_self ht
  rcases List.mem_cons.mp hc with rfl | hc
  · exact Nat.lt_irrefl _ hlt
  · exact absurd (List.rel_of_pairwise_cons hb.ordered hc) (Nat.not_le.mpr hlt)

lemma Awaits.ticks_iff (hb : b.Awaits l (h :: happenings)) (hu : h.1 ≤ u) :
    (l.Ticks b.period t ∧ t ≤ h.1) ∨ ((l.Ticks b.period t ∧ h.1 < t ∧ h.2 ≠ .cancel) ∧ t ≤ u ∧
      ∀ c, (c, .cancel) ∈ happenings → t < c) ↔
    l.Ticks b.period t ∧ t ≤ u ∧ ∀ c, (c, .cancel) ∈ h :: happenings → t < c := by
  constructor
  · rintro (⟨ht, hle⟩ | ⟨⟨ht, -, hcancel⟩, hle, hrest⟩)
    · have hlt : t < h.1 := hle.lt_of_ne fun heq => hb.not_ticks (heq ▸ ht)
      refine ⟨ht, hle.trans hu, fun c hc => ?_⟩
      rcases List.mem_cons.mp hc with rfl | hc
      · exact hlt
      · exact hlt.trans_le (List.rel_of_pairwise_cons hb.ordered hc)
    · refine ⟨ht, hle, fun c hc => ?_⟩
      rcases List.mem_cons.mp hc with rfl | hc
      · exact absurd rfl hcancel
      · exact hrest c hc
  · rintro ⟨ht, hle, hcancels⟩
    by_cases hnext : t ≤ h.1
    · exact .inl ⟨ht, hnext⟩
    · refine .inr ⟨⟨ht, Nat.not_le.mp hnext, fun hcancel => ?_⟩, hle, fun c hc =>
        hcancels c (List.mem_cons_of_mem _ hc)⟩
      have hhead : (h.1, .cancel) ∈ h :: happenings := hcancel ▸ List.mem_cons_self
      exact hnext (hcancels h.1 hhead).le

end Loop

variable {σ : Type} [ObjectStore σ Document] {b : Background σ} {l : ReloadLoop} {h : ℕ × Happening σ}
  {happenings : List (ℕ × Happening σ)} {t u : ℕ}

lemma mem_dueCycles_iff (hloops : b.loops = [l]) (hperiod : 0 < b.period) {s : ℕ × ServiceStep σ} :
    s ∈ b.dueCycles u ↔ s.2 = .cycle ∧ l.Ticks b.period s.1 ∧ s.1 ≤ u := by
  rw [← mem_due_iff hloops hperiod, dueCycles, List.mem_map]
  constructor
  · rintro ⟨t, ht, rfl⟩
    exact ⟨rfl, ht⟩
  · obtain ⟨t, step⟩ := s
    rintro ⟨rfl, ht⟩
    exact ⟨t, ht, rfl⟩

lemma dueCycles_pairwise (hloops : b.loops = [l]) (hperiod : 0 < b.period) : (b.dueCycles u).Pairwise Precedes := by
  rw [dueCycles, List.pairwise_map]
  exact (due_pairwise hloops hperiod).imp .inl

lemma period_meet (b : Background σ) (h : ℕ × Happening σ) : (b.meet h).period = b.period := by
  rw [period, reloader_meet, Reloader.settings_serveAll, period]

namespace Awaits

lemma meet (hb : b.Awaits l (h :: happenings)) : ∃ l', (b.meet h).Awaits l' happenings ∧
    ∀ t, l'.Ticks (b.meet h).period t ↔ l.Ticks b.period t ∧ h.1 < t ∧ h.2 ≠ .cancel := by
  obtain ⟨l₁, hloops, hlater⟩ := exists_loops_passTo (u := h.1) hb.loops hb.period_pos
  obtain ⟨l', hl', hticks⟩ : ∃ l', (b.meet h).loops = [l'] ∧
      ∀ t, l'.Ticks (b.meet h).period t ↔ l.Ticks b.period t ∧ h.1 < t ∧ h.2 ≠ .cancel := by
    rw [b.period_meet h]
    obtain ⟨w, change | _⟩ := h
    · exact ⟨l₁, hloops, fun t => by simp [hlater]⟩
    · refine ⟨{ l₁ with running := false }, ?_, fun t => by simp [ReloadLoop.Ticks]⟩
      rw [Background.meet, happen, cancel, hloops]
  refine ⟨l', ⟨hl', b.period_meet h ▸ hb.period_pos, hb.ordered.of_cons, ?_⟩, hticks⟩
  intro h' hmem ht
  obtain ⟨ht, -, hcancel⟩ := (hticks h'.1).mp ht
  obtain ⟨c, hc, hlt⟩ := hb.apart h' (List.mem_cons_of_mem _ hmem) ht
  rcases List.mem_cons.mp hc with rfl | hc
  · exact absurd rfl hcancel
  · exact ⟨c, hc, hlt⟩

lemma mem_log_iff (hb : b.Awaits l happenings) (hu : ∀ h ∈ happenings, h.1 ≤ u) {s : ℕ × ServiceStep σ} :
    s ∈ b.log happenings u ↔ (s.2 = .cycle ∧ l.Ticks b.period s.1 ∧ s.1 ≤ u ∧
      ∀ c, (c, .cancel) ∈ happenings → s.1 < c) ∨ s ∈ writes happenings := by
  induction happenings generalizing b l with
  | nil => simp [log, writes, mem_dueCycles_iff hb.loops hb.period_pos]
  | cons h rest ih =>
    obtain ⟨hfirst, hrest⟩ := List.forall_mem_cons.mp hu
    obtain ⟨l', hb', hticks⟩ := hb.meet
    -- the cycles that the rest adds are the ticks of the loop that is left
    rw [log, List.mem_append, List.mem_append, mem_dueCycles_iff hb.loops hb.period_pos, ih hb' hrest, hticks,
      ← hb.ticks_iff hfirst, writes_cons, List.mem_append]
    tauto

lemma filter_log (hb : b.Awaits l happenings) :
    (b.log happenings u).filter (fun s => !s.2.isCycle) = writes happenings := by
  have hcycles : ∀ {b : Background σ} {u}, (b.dueCycles u).filter (fun s => !s.2.isCycle) = [] := by
    intro b u
    simp [dueCycles, ServiceStep.isCycle]
  have hsteps : ∀ h : ℕ × Happening σ,
      (h.2.steps.map (h.1, ·)).filter (fun s => !s.2.isCycle) = h.2.steps.map (h.1, ·) := by
    rintro ⟨t, change | _⟩ <;> rfl
  induction happenings generalizing b l with
  | nil => exact hcycles
  | cons h rest ih =>
    obtain ⟨l', hb', -⟩ := hb.meet
    rw [log, List.filter_append, List.filter_append, hcycles, hsteps, ih hb', List.nil_append, writes_cons]

lemma log_pairwise (hb : b.Awaits l happenings) (hu : ∀ h ∈ happenings, h.1 ≤ u) :
    (b.log happenings u).Pairwise Precedes := by
  induction happenings generalizing b l with
  | nil => exact dueCycles_pairwise hb.loops hb.period_pos
  | cons h rest ih =>
    obtain ⟨hfirst, hrest⟩ := List.forall_mem_cons.mp hu
    obtain ⟨l', hb', hticks⟩ := hb.meet
    have hcycles : ∀ s ∈ b.dueCycles h.1, s.1 < h.1 := by
      intro s hs
      obtain ⟨-, ht, hle⟩ := (mem_dueCycles_iff hb.loops hb.period_pos).mp hs
      exact hle.lt_of_ne fun heq => hb.not_ticks (heq ▸ ht)
    have hsteps : ∀ s ∈ h.2.steps.map (h.1, ·), s.1 = h.1 ∧ s.2.isCycle = false := by
      obtain ⟨w, change | _⟩ := h <;> simp [Happening.steps, ServiceStep.isCycle]
    -- nothing in the rest has the instant of a cycle, since the loop does not tick twice at one
    have hlater : ∀ s ∈ (b.meet h).log rest u, h.1 < s.1 ∨ h.1 = s.1 ∧ s.2.isCycle = false := by
      intro s hs
      rcases (hb'.mem_log_iff hrest).mp hs with ⟨-, ht, -⟩ | hs
      · exact .inl ((hticks _).mp ht).2.1
      · obtain ⟨change, hchange, hmem⟩ := mem_writes_iff.mp hs
        rw [hchange]
        exact (List.rel_of_pairwise_cons hb.ordered hmem).lt_or_eq.imp_right fun heq => ⟨heq, rfl⟩
    rw [log, List.pairwise_append, List.pairwise_append]
    refine ⟨⟨dueCycles_pairwise hb.loops hb.period_pos, ?_, ?_⟩, ih hb' hrest, ?_⟩
    · obtain ⟨w, change | _⟩ := h <;> simp [Happening.steps]
    · intro s₁ h₁ s₂ h₂
      exact .inl ((hsteps s₂ h₂).1 ▸ hcycles s₁ h₁)
    · intro s₁ h₁ s₂ h₂
      rcases List.mem_append.mp h₁ with h₁ | h₁
      · have hlt := hcycles s₁ h₁
        exact .inl ((hlater s₂ h₂).elim hlt.trans fun heq => heq.1 ▸ hlt)
      · obtain ⟨heq, hwrite⟩ := hsteps s₁ h₁
        rw [Precedes, heq]
        exact (hlater s₂ h₂).imp_right fun hs => ⟨hs.1, hwrite, hs.2⟩

end Awaits

end Background

end DiscountTables
