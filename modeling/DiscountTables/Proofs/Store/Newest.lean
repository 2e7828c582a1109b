import DiscountTables.Proofs.Results
import DiscountTables.Proofs.Store.Memory

namespace DiscountTables

namespace ObjectInfo

lemma newest?_perm {objects listed : List ObjectInfo} (h : listed.Perm objects)
    (hrank : ∀ a ∈ objects, ∀ b ∈ objects, a.rank = b.rank → a = b) : newest? listed = newest? objects := by
  cases ho : newest? objects with
  | none =>
    rw [newest?_eq_none_iff] at ho ⊢
    exact List.Perm.eq_nil (ho ▸ h)
  | some n =>
    obtain ⟨hn, hmaxn⟩ := newest?_spec ho
    cases hl : newest? listed with
    | none =>
      rw [newest?_eq_none_iff] at hl
      exact absurd (h.mem_iff.mpr hn) (by simp [hl])
    | some m =>
      obtain ⟨hm, hmaxm⟩ := newest?_spec hl
      have heq := le_antisymm (hmaxn m (h.mem_iff.mp hm)) (hmaxm n (h.mem_iff.mpr hn))
      rw [hrank m (h.mem_iff.mp hm) n hn heq]

end ObjectInfo

namespace MemoryStore

variable {α : Type} {f : Fingerprint α} {s : MemoryStore f} {keyPrefix aliasKey : String}

lemma eq_of_rank_eq {a b : ObjectInfo} (ha : a ∈ s.listing keyPrefix) (hb : b ∈ s.listing keyPrefix)
    (h : a.rank = b.rank) : a = b := by
  obtain ⟨k, o, ho, rfl⟩ := (s.mem_listing keyPrefix a).mp ha
  obtain ⟨l, q, hq, rfl⟩ := (s.mem_listing keyPrefix b).mp hb
  obtain rfl : k = l := congrArg (fun rank => (ofLex rank).2) h
  rw [Option.some.inj (ho.1.symm.trans hq.1)]

/-- A store in memory that lists its objects in an order of its own. -/
structure Shuffled (f : Fingerprint α) where
  store : MemoryStore f
  shuffle : List ObjectInfo → List ObjectInfo
  perm : ∀ objects, (shuffle objects).Perm objects

namespace Shuffled

def within {ε β : Type} (x : StoreAction (MemoryStore f) ε β) : StoreAction (Shuffled f) ε β :=
  ExceptT.mk fun t =>
    let (result, store) := x.run t.store
    (result, { t with store })

instance : ObjectStore (Shuffled f) α where
  list keyPrefix := do
    let objects ← within (MemoryStore.list keyPrefix)
    return (← get).shuffle objects
  head key := within (MemoryStore.head key)
  get key := within (MemoryStore.fetch key)
  copy source target := within (MemoryStore.copy source target)

lemma run_within {ε β : Type} (x : StoreAction (MemoryStore f) ε β) (t : Shuffled f) :
    (within x).run t = ((x.run t.store).1, { t with store := (x.run t.store).2 }) := by
  rfl

lemma run_list (keyPrefix : String) (t : Shuffled f) : (ObjectStore.list keyPrefix).run t =
    (((ObjectStore.list keyPrefix).run t.store).1.map t.shuffle,
      { t with store := ((ObjectStore.list keyPrefix).run t.store).2 }) := by
  change (within (MemoryStore.list keyPrefix) >>= fun objects => _).run t = _
  rw [run_bind, run_within]
  change _ = (((MemoryStore.list keyPrefix).run t.store).1.map t.shuffle, _)
  cases ((MemoryStore.list keyPrefix).run t.store).1 <;> rfl

lemma run_copy (source target : String) (t : Shuffled f) : (ObjectStore.copy source target).run t =
    (((ObjectStore.copy source target).run t.store).1,
      { t with store := ((ObjectStore.copy source target).run t.store).2 }) := by
  rfl

lemma run_promote (keyPrefix aliasKey : String) (t : Shuffled f) : (promote keyPrefix aliasKey).run t =
    (((promote keyPrefix aliasKey).run t.store).1,
      { t with store := ((promote keyPrefix aliasKey).run t.store).2 }) := by
  rw [DiscountTables.run_promote, DiscountTables.run_promote, run_list, MemoryStore.run_list]
  cases t.store.offline with
  | true => rfl
  | false =>
    have hnewest : ObjectInfo.newest? (t.shuffle (t.store.listing keyPrefix)) =
        ObjectInfo.newest? (t.store.listing keyPrefix) :=
      ObjectInfo.newest?_perm (t.perm _) fun a ha b hb => eq_of_rank_eq ha hb
    simp only [Bool.false_eq_true, if_false, Except.map, hnewest]
    cases ObjectInfo.newest? (t.store.listing keyPrefix) with
    | none => rfl
    | some n =>
      simp only [run_copy]
      split
      · rfl
      · rcases (ObjectStore.copy n.key aliasKey).run _ with ⟨_ | _, _⟩ <;> rfl

end Shuffled

structure Promoting (s : MemoryStore f) (keyPrefix aliasKey : String) (p : Promotion) (o : StoredObject α)
    (s' : MemoryStore f) : Prop where
  candidate : s.Candidate keyPrefix p.winner o
  greatest : ∀ key q, s.Candidate keyPrefix key q → key ≠ p.winner →
    toLex (q.modified, key) < toLex (o.modified, p.winner)
  only : ∀ key q, s.Newest keyPrefix key q → key = p.winner
  copied : p.copied = true ↔ p.winner ≠ aliasKey
  fetched : ((ObjectStore.get p.winner).run s).1 = .ok ⟨o.content, f.tag o.content⟩
  aliased : ((ObjectStore.get aliasKey).run s').1 = .ok ⟨o.content, f.tag o.content⟩
  stamped : ∃ q, s'.objects.get? aliasKey = some q ∧ o.modified ≤ q.modified
  others : ∀ key, key ≠ aliasKey → s'.objects.get? key = s.objects.get? key

structure PromotesNewest (s : MemoryStore f) (keyPrefix aliasKey : String)
    (result : Except PromotionError Promotion) (s' : MemoryStore f) : Prop where
  offline : (∃ reason, result = .error (.store (.transport reason))) ↔ s.offline = true
  noCandidates : s.offline = false →
    (result = .error (.noCandidates keyPrefix) ↔ ∀ key o, ¬ s.Candidate keyPrefix key o)
  failed : ∀ e, result = .error e → s'.objects = s.objects
  succeeds : s.offline = false → (∃ key o, s.Candidate keyPrefix key o) →
    ∃ p o, result = .ok p ∧ s.Promoting keyPrefix aliasKey p o s'
  shuffled : ∀ t : Shuffled f, t.store = s →
    (promote keyPrefix aliasKey).run t = (result, { t with store := s' })

lemma Newest.lt {key k : String} {o q : StoredObject α} (h : s.Newest keyPrefix key o)
    (hq : s.Candidate keyPrefix k q) (hk : k ≠ key) : toLex (q.modified, k) < toLex (o.modified, key) := by
  apply lt_of_le_of_ne (h.2 k q hq)
  intro heq
  exact hk (congrArg (fun rank => (ofLex rank).2) heq)

lemma run_fetch_of_stored {key : String} {o : StoredObject α} (h : s.offline = false)
    (ho : s.objects.get? key = some o) : ((ObjectStore.get key).run s).1 = .ok ⟨o.content, f.tag o.content⟩ := by
  rw [run_fetch, (find_eq_ok_iff s key o).mpr ⟨h, ho⟩]
  rfl

lemma run_promote_of_empty (h : s.offline = false) (hn : ∀ key o, ¬ s.Candidate keyPrefix key o) :
    (promote keyPrefix aliasKey).run s = (.error (.noCandidates keyPrefix), s.listed) := by
  rw [run_promote, run_list, if_neg (by simp [h])]
  simp only [(s.newest?_listing_eq_none keyPrefix).mpr hn]
  rfl

lemma promoting_of_newest (aliasKey : String) {key : String} {o : StoredObject α} (h : s.offline = false)
    (hn : s.Newest keyPrefix key o) : ∃ p s', (promote keyPrefix aliasKey).run s = (.ok p, s') ∧
      s.Promoting keyPrefix aliasKey p o s' := by
  have hfetched := run_fetch_of_stored h hn.1.1
  rw [run_promote_of_newest h hn]
  by_cases hkey : key = aliasKey
  · rw [if_pos hkey]
    subst hkey
    refine ⟨_, _, rfl, hn.1, fun k q hq hk => hn.lt hq hk, fun k q hq => (hq.unique hn).1, by simp, hfetched,
      ?_, ⟨o, hn.1.1, le_rfl⟩, fun _ _ => rfl⟩
    exact run_fetch_of_stored h hn.1.1
  · rw [if_neg hkey]
    have haliased : (s.listed.copied.withCopy aliasKey o).objects.get? aliasKey =
        some ⟨o.content, max o.modified s.clock.now⟩ := by
      rw [get?_withCopy, if_pos rfl]
      rfl
    have hcopy : ((ObjectStore.get aliasKey).run (s.listed.copied.withCopy aliasKey o)).1 =
        .ok ⟨o.content, f.tag o.content⟩ :=
      run_fetch_of_stored (o := ⟨o.content, max o.modified s.clock.now⟩) h haliased
    refine ⟨_, _, rfl, hn.1, fun k q hq hk => hn.lt hq hk, fun k q hq => (hq.unique hn).1, by simpa using hkey,
      hfetched, hcopy, ⟨_, haliased, le_max_left _ _⟩, ?_⟩
    intro k hk
    rw [get?_withCopy, if_neg hk]
    rfl

/-- Whatever is stored and whatever the clock reads, a promotion fails on a store that is offline or has no
candidates, and copies the newest of the candidates otherwise. -/
theorem promotesNewest (s : MemoryStore f) (keyPrefix aliasKey : String) :
    s.PromotesNewest keyPrefix aliasKey ((promote keyPrefix aliasKey).run s).1
      ((promote keyPrefix aliasKey).run s).2 := by
  have hshuffled : ∀ t : Shuffled f, t.store = s → (promote keyPrefix aliasKey).run t =
      (((promote keyPrefix aliasKey).run s).1, { t with store := ((promote keyPrefix aliasKey).run s).2 }) := by
    rintro t rfl
    exact t.run_promote keyPrefix aliasKey
  cases hoffline : s.offline with
  | true =>
    rw [run_promote_offline keyPrefix aliasKey hoffline] at hshuffled ⊢
    exact ⟨by simp [hoffline, unavailable], by simp [hoffline], fun _ _ => rfl, by simp [hoffline], hshuffled⟩
  | false =>
    by_cases hnone : ∀ key o, ¬ s.Candidate keyPrefix key o
    · rw [run_promote_of_empty hoffline hnone] at hshuffled ⊢
      refine ⟨by simp [hoffline], fun _ => iff_of_true rfl hnone, fun _ _ => rfl, ?_, hshuffled⟩
      rintro - ⟨key, o, hc⟩
      exact absurd hc (hnone key o)
    · push Not at hnone
      obtain ⟨key, o, hc⟩ := hnone
      obtain ⟨k, q, hn⟩ := exists_newest hc
      obtain ⟨p, s', hrun, hpromoting⟩ := promoting_of_newest aliasKey hoffline hn
      rw [hrun] at hshuffled ⊢
      refine ⟨by simp [hoffline], ?_, by rintro e ⟨⟩, fun _ _ => ⟨p, q, rfl, hpromoting⟩, hshuffled⟩
      intro _
      exact iff_of_false (by simp) fun hnone => hnone key o hc

end MemoryStore

end DiscountTables
