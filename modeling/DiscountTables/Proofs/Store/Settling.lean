import DiscountTables.Proofs.Store.Calls

/-!
Promotions in a store in memory to which nothing else is written. The alias is the newest document as soon as a
copy of the winner is stamped with a later time than the winner has, or if its key is not the smaller one; until then
the same winner is copied over and over.
-/

namespace DiscountTables

open Calendar

namespace MemoryStore

variable {α : Type} {f : Fingerprint α} {s s' t : MemoryStore f} {keyPrefix aliasKey key : String}
  {o : StoredObject α} {p : Promotion}

inductive Later (keyPrefix aliasKey : String) (s : MemoryStore f) : MemoryStore f → Prop
  | start : Later keyPrefix aliasKey s s
  | promoted {t : MemoryStore f} (h : Later keyPrefix aliasKey s t) :
    Later keyPrefix aliasKey s ((promote keyPrefix aliasKey).run t).2
  | called {t : MemoryStore f} (h : Later keyPrefix aliasKey s t) (call : StoreCall α) (hread : call.target? = none) :
    Later keyPrefix aliasKey s (call.next t)
  | switched {t : MemoryStore f} (h : Later keyPrefix aliasKey s t) (offline : Bool) :
    Later keyPrefix aliasKey s (t.setOffline offline)

structure Unwritten (s t : MemoryStore f) : Prop where
  objects : t.objects = s.objects
  clock : t.clock = s.clock

lemma unwritten_call {call : StoreCall α} (h : call.target? = none) (s : MemoryStore f) :
    Unwritten s (call.next s) := by
  cases call with
  | put key content stored modified => cases h
  | copy source target => cases h
  | get key =>
    rw [StoreCall.next, StoreCall.perform, run_map, run_fetch]
    exact ⟨rfl, rfl⟩
  | head key =>
    rw [StoreCall.next, StoreCall.perform, run_map, run_head]
    exact ⟨rfl, rfl⟩
  | list keyPrefix =>
    rw [StoreCall.next, StoreCall.perform, run_map, run_list]
    exact ⟨rfl, rfl⟩

lemma unwritten_promote (h : s.Newest keyPrefix aliasKey o) :
    Unwritten s ((promote keyPrefix aliasKey).run s).2 := by
  cases hoffline : s.offline with
  | true =>
    rw [run_promote_offline keyPrefix aliasKey hoffline]
    exact ⟨rfl, rfl⟩
  | false =>
    rw [run_promote_of_newest hoffline h, if_pos rfl]
    exact ⟨rfl, rfl⟩

lemma Later.unwritten (hn : s.Newest keyPrefix aliasKey o) (h : Later keyPrefix aliasKey s t) : Unwritten s t := by
  induction h with
  | start => exact ⟨rfl, rfl⟩
  | promoted _ ih =>
    have hstep := unwritten_promote (hn.congr ih.objects)
    exact ⟨hstep.objects.trans ih.objects, hstep.clock.trans ih.clock⟩
  | @called t _ call hread ih =>
    have hstep := unwritten_call hread t
    exact ⟨hstep.objects.trans ih.objects, hstep.clock.trans ih.clock⟩
  | switched _ offline ih => exact ⟨ih.objects, ih.clock⟩

def ClockPassed (s t : MemoryStore f) (time : Instant) : Prop :=
  ∃ i, s.clock.taken ≤ i ∧ i < t.clock.taken ∧ time < s.clock.reading i

structure Copying (s : MemoryStore f) (aliasKey : String) (o : StoredObject α) (t : MemoryStore f) : Prop where
  reading : t.clock.reading = s.clock.reading
  taken : s.clock.taken ≤ t.clock.taken
  others : ∀ k, k ≠ aliasKey → t.objects.get? k = s.objects.get? k
  aliased : ∃ time, t.objects.get? aliasKey = some ⟨o.content, time⟩ ∧ o.modified ≤ time ∧
    (o.modified < time ↔ ClockPassed s t o.modified)

namespace Copying

lemma congr {u : MemoryStore f} (h : Copying s aliasKey o t) (hu : Unwritten t u) : Copying s aliasKey o u := by
  obtain ⟨hreading, htaken, hothers, haliased⟩ := h
  rw [← hu.objects] at hothers haliased
  rw [← hu.clock] at hreading htaken
  simp only [ClockPassed, ← hu.clock] at haliased
  exact ⟨hreading, htaken, hothers, haliased⟩

lemma candidate (h : Copying s aliasKey o t) {k : String} {q : StoredObject α} (hk : k ≠ aliasKey) :
    t.Candidate keyPrefix k q ↔ s.Candidate keyPrefix k q := by
  rw [Candidate, Candidate, h.others k hk]

lemma newest_alias (h : Copying s aliasKey o t) (hbelow : keyPrefix.toList <+: aliasKey.toList)
    (hn : s.Newest keyPrefix key o) (hlead : key < aliasKey ∨ ClockPassed s t o.modified) :
    ∃ q, t.Newest keyPrefix aliasKey q := by
  obtain ⟨time, haliased, hle, hpassed⟩ := h.aliased
  refine ⟨⟨o.content, time⟩, ⟨haliased, hbelow⟩, ?_⟩
  have hlt : toLex (o.modified, key) ≤ toLex (time, aliasKey) := by
    rw [Prod.Lex.toLex_le_toLex]
    rcases hlead with hkey | hclock
    · rcases hle.lt_or_eq with hlt | heq
      · exact Or.inl hlt
      · exact Or.inr ⟨heq, hkey.le⟩
    · exact Or.inl (hpassed.mpr hclock)
  intro k q hq
  by_cases hk : k = aliasKey
  · subst hk
    rw [Option.some.inj (hq.1.symm.trans haliased)]
  · exact (hn.2 k q ((h.candidate hk).mp hq)).trans hlt

lemma newest_winner (h : Copying s aliasKey o t) (hn : s.Newest keyPrefix key o) (hkey : aliasKey < key)
    (hclock : ¬ ClockPassed s t o.modified) : t.Newest keyPrefix key o := by
  obtain ⟨time, haliased, hle, hpassed⟩ := h.aliased
  obtain rfl : o.modified = time := eq_of_le_of_not_lt hle fun hlt => hclock (hpassed.mp hlt)
  refine ⟨(h.candidate hkey.ne').mpr hn.1, ?_⟩
  intro k q hq
  by_cases hk : k = aliasKey
  · subst hk
    rw [Option.some.inj (hq.1.symm.trans haliased), Prod.Lex.toLex_le_toLex]
    exact Or.inr ⟨rfl, hkey.le⟩
  · exact hn.2 k q ((h.candidate hk).mp hq)

end Copying

/-- The stamp of a copy is past the winner's time as soon as one reading of the clock was. -/
lemma copying_withCopy (hreading : t.clock.reading = s.clock.reading) (htaken : s.clock.taken ≤ t.clock.taken)
    (hothers : ∀ k, k ≠ aliasKey → t.objects.get? k = s.objects.get? k) (hclock : ¬ ClockPassed s t o.modified) :
    Copying s aliasKey o (t.withCopy aliasKey o) := by
  have hnow : t.clock.now = s.clock.reading t.clock.taken := by rw [Clock.now, hreading]
  refine ⟨hreading, htaken.trans (Nat.le_succ _), ?_, max o.modified t.clock.now, ?_, le_max_left _ _, ?_⟩
  · intro k hk
    rw [get?_withCopy, if_neg hk, hothers k hk]
  · rw [get?_withCopy, if_pos rfl]
  · rw [lt_max_iff, hnow]
    constructor
    · rintro (hlt | hlt)
      · exact absurd hlt (lt_irrefl _)
      · exact ⟨t.clock.taken, htaken, Nat.lt_succ_self _, hlt⟩
    · rintro ⟨i, hfrom, hto, hlt⟩
      rcases (Nat.lt_succ_iff.mp hto).lt_or_eq with hi | rfl
      · exact absurd ⟨i, hfrom, hi, hlt⟩ hclock
      · exact Or.inr hlt

lemma not_clockPassed_self (s : MemoryStore f) (time : Instant) : ¬ ClockPassed s s time := by
  rintro ⟨i, hfrom, hto, -⟩
  exact absurd hto (not_lt.mpr hfrom)

variable (hbelow : keyPrefix.toList <+: aliasKey.toList) (hn : s.Newest keyPrefix key o) (hne : key ≠ aliasKey)

include hbelow hn hne

lemma Copying.promoted (h : Copying s aliasKey o t) :
    Copying s aliasKey o ((promote keyPrefix aliasKey).run t).2 := by
  cases hoffline : t.offline with
  | true =>
    rw [run_promote_offline keyPrefix aliasKey hoffline]
    exact h.congr ⟨rfl, rfl⟩
  | false =>
    by_cases hlead : key < aliasKey ∨ ClockPassed s t o.modified
    · obtain ⟨q, hq⟩ := h.newest_alias hbelow hn hlead
      exact h.congr (unwritten_promote hq)
    · obtain ⟨hkey, hclock⟩ := not_or.mp hlead
      have hq := h.newest_winner hn (lt_of_le_of_ne (not_lt.mp hkey) hne.symm) hclock
      rw [run_promote_of_newest hoffline hq, if_neg hne]
      exact copying_withCopy h.reading h.taken h.others hclock

lemma Copying.later {u : MemoryStore f} (h : Copying s aliasKey o t) (hu : Later keyPrefix aliasKey t u) :
    Copying s aliasKey o u := by
  induction hu with
  | start => exact h
  | promoted _ ih => exact ih.promoted hbelow hn hne
  | @called u _ call hread ih => exact ih.congr (unwritten_call hread u)
  | switched _ offline ih => exact ih.congr ⟨rfl, rfl⟩

omit hbelow hn hne

lemma Copying.contents? {u : MemoryStore f} (h : Copying s aliasKey o t) (hu : Copying s aliasKey o u) (k : String) :
    u.contents? k = t.contents? k := by
  by_cases hk : k = aliasKey
  · subst hk
    obtain ⟨time, ht, -⟩ := h.aliased
    obtain ⟨time', hu, -⟩ := hu.aliased
    rw [MemoryStore.contents?, MemoryStore.contents?, ht, hu]
    rfl
  · rw [MemoryStore.contents?, MemoryStore.contents?, h.others k hk, hu.others k hk]

structure Settling (s s' : MemoryStore f) (keyPrefix aliasKey : String) (p : Promotion) (o : StoredObject α) :
    Prop where
  newest : s.Newest keyPrefix p.winner o
  settled : p.winner ≤ aliasKey ∨ o.modified < s.clock.now → ∀ t, Later keyPrefix aliasKey s' t →
    t.objects = s'.objects ∧
      (t.offline = false → (promote keyPrefix aliasKey).run t = (.ok ⟨aliasKey, false⟩, t.listed))
  repeated : aliasKey < p.winner → ∀ t, Later keyPrefix aliasKey s' t → t.offline = false →
    ¬ ClockPassed s t o.modified → ((promote keyPrefix aliasKey).run t).1 = .ok ⟨p.winner, true⟩
  released : aliasKey < p.winner → ∀ t, Later keyPrefix aliasKey s' t → t.offline = false →
    ClockPassed s t o.modified → (promote keyPrefix aliasKey).run t = (.ok ⟨aliasKey, false⟩, t.listed)
  contents : ∀ t, Later keyPrefix aliasKey s' t → ∀ k, t.contents? k = s'.contents? k

lemma run_promote_alias {q : StoredObject α} (hq : t.Newest keyPrefix aliasKey q) (honline : t.offline = false) :
    (promote keyPrefix aliasKey).run t = (.ok ⟨aliasKey, false⟩, t.listed) := by
  rw [run_promote_of_newest honline hq, if_pos rfl]

lemma settled_of_newest_alias {q : StoredObject α} (hq : s.Newest keyPrefix aliasKey q)
    (ht : Later keyPrefix aliasKey s t) : t.objects = s.objects ∧
      (t.offline = false → (promote keyPrefix aliasKey).run t = (.ok ⟨aliasKey, false⟩, t.listed)) := by
  have hobjects := (ht.unwritten hq).objects
  exact ⟨hobjects, run_promote_alias (hq.congr hobjects)⟩

/-- Once a promotion has succeeded and nothing else is written, every later one finds the alias to be the newest
document and changes nothing, unless the winner's key is greater than the alias and its time is not past yet. Then
the winner is copied again, with no change to any document, up to the first copy that is made after that time. -/
theorem settles (hbelow : keyPrefix.toList <+: aliasKey.toList)
    (h : (promote keyPrefix aliasKey).run s = (.ok p, s')) : ∃ o, Settling s s' keyPrefix aliasKey p o := by
  obtain ⟨honline, o, hn⟩ := newest_of_promote h
  refine ⟨o, ?_⟩
  rw [run_promote_of_newest honline hn] at h
  by_cases hne : p.winner = aliasKey
  · rw [if_pos hne] at h
    obtain ⟨-, rfl⟩ := Prod.mk.inj h
    have hlisted : s.listed.Newest keyPrefix aliasKey o := hne ▸ hn.congr rfl
    refine ⟨hn, fun _ t ht => settled_of_newest_alias hlisted ht, ?_, ?_, ?_⟩
    · intro hkey
      exact absurd hne hkey.ne'
    · intro hkey
      exact absurd hne hkey.ne'
    · intro t ht k
      rw [MemoryStore.contents?, (ht.unwritten hlisted).objects]
      rfl
  · rw [if_neg hne] at h
    obtain ⟨-, rfl⟩ := Prod.mk.inj h
    have hcopying : Copying s aliasKey o (s.listed.copied.withCopy aliasKey o) :=
      copying_withCopy rfl le_rfl (fun _ _ => rfl) (not_clockPassed_self s _)
    refine ⟨hn, ?_, ?_, ?_, ?_⟩
    · intro hlead t ht
      have hlead' : p.winner < aliasKey ∨ ClockPassed s (s.listed.copied.withCopy aliasKey o) o.modified :=
        hlead.imp (fun hle => lt_of_le_of_ne hle hne) fun hlt => ⟨s.clock.taken, le_rfl, Nat.lt_succ_self _, hlt⟩
      obtain ⟨q, hq⟩ := hcopying.newest_alias hbelow hn hlead'
      exact settled_of_newest_alias hq ht
    · intro hkey t ht honline hclock
      have hq := (hcopying.later hbelow hn hne ht).newest_winner hn hkey hclock
      rw [run_promote_of_newest honline hq, if_neg hne]
    · intro hkey t ht honline hclock
      obtain ⟨q, hq⟩ := (hcopying.later hbelow hn hne ht).newest_alias hbelow hn (Or.inr hclock)
      exact run_promote_alias hq honline
    · intro t ht
      exact hcopying.contents? (hcopying.later hbelow hn hne ht)

def stampedAhead : MemoryStore (⟨toString, List.length⟩ : Fingerprint (List ℕ)) :=
  MemoryStore.putAt { clock := ⟨fun n => n + 10, 0⟩ } "rules/z.xlsx" [1, 2] 11

theorem settles_stampedAhead : "rules/".toList <+: "rules/latest.xlsx".toList ∧
    ∃ s', (promote "rules/" "rules/latest.xlsx").run stampedAhead = (.ok ⟨"rules/z.xlsx", true⟩, s') ∧
      ∃ o, Settling stampedAhead s' "rules/" "rules/latest.xlsx" ⟨"rules/z.xlsx", true⟩ o := by
  have hbelow : "rules/".toList <+: "rules/latest.xlsx".toList := by decide +kernel
  have hok : ((promote "rules/" "rules/latest.xlsx").run stampedAhead).1 = .ok ⟨"rules/z.xlsx", true⟩ :=
    toOption_eq_some_iff.mp (by decide +kernel)
  exact ⟨hbelow, _, Prod.ext hok rfl, settles hbelow (Prod.ext hok rfl)⟩

/-- The alias does not become the newest document by a copy of one that is stamped ahead of the clock. -/
theorem promote_stampedAhead_repeats :
    Monotone stampedAhead.clock.reading ∧ "rules/".toList <+: "rules/latest.xlsx".toList ∧
    ((promote "rules/" "rules/latest.xlsx").run stampedAhead).1 = .ok ⟨"rules/z.xlsx", true⟩ ∧
    ((promote "rules/" "rules/latest.xlsx").run ((promote "rules/" "rules/latest.xlsx").run stampedAhead).2).1 ≠
      .ok ⟨"rules/latest.xlsx", false⟩ := by
  refine ⟨?_, by decide +kernel, toOption_eq_some_iff.mp (by decide +kernel), ?_⟩
  · intro m n hmn
    change (m : ℤ) + 10 ≤ n + 10
    omega
  · have hsorted : ((promote "rules/" "rules/latest.xlsx").run stampedAhead).2.objects.sorted =
        ((promote "rules/" "rules/latest.xlsx").run stampedAhead).2.objects.entries :=
      List.mergeSort_of_pairwise (by decide +kernel)
    rw [run_promote, run_list, listing, hsorted, ne_eq, ← toOption_eq_some_iff]
    decide +kernel

end MemoryStore

end DiscountTables
