import DiscountTables.Proofs.Promotion
import DiscountTables.Proofs.Store.Action
import DiscountTables.Store.Memory

namespace DiscountTables

namespace FiniteMap

variable {κ β : Type} [DecidableEq κ]

lemma mem_iff_lookup (entries : List (κ × β)) (h : (entries.map Prod.fst).Nodup) (key : κ) (value : β) :
    (key, value) ∈ entries ↔ entries.lookup key = some value := by
  induction entries with
  | nil => simp
  | cons e rest ih =>
    obtain ⟨k, v⟩ := e
    obtain ⟨hk, hrest⟩ := List.nodup_cons.mp h
    by_cases heq : key = k
    · subst heq
      have hn : (key, value) ∉ rest := fun hmem => hk (List.mem_map.mpr ⟨(key, value), hmem, rfl⟩)
      simp [hn, eq_comm]
    · have hb : (key == k) = false := beq_false_of_ne heq
      simp [List.lookup_cons, hb, heq, ih hrest]

lemma mem_entries_iff (m : FiniteMap κ β) (key : κ) (value : β) :
    (key, value) ∈ m.entries ↔ m.get? key = some value :=
  mem_iff_lookup m.entries m.nodup key value

end FiniteMap

namespace MemoryStore

variable {α : Type} {f : Fingerprint α}

def unavailable : StoreError := .transport "memory store is offline"

def listing (s : MemoryStore f) (keyPrefix : String) : List ObjectInfo :=
  (s.objects.sorted.filter fun e => keyPrefix.toList.isPrefixOf e.1.toList).map fun e =>
    ⟨e.1, e.2.modified, some (f.tag e.2.content)⟩

def find (s : MemoryStore f) (key : String) : Except StoreError (StoredObject α) :=
  if s.offline then .error unavailable
  else match s.objects.get? key with
    | some o => .ok o
    | none => .error (.notFound key)

def withCopy (s : MemoryStore f) (target : String) (o : StoredObject α) : MemoryStore f :=
  { s.putAt target o.content (max o.modified s.clock.now) with clock := s.clock.next }

def counted (s : MemoryStore f) (count : StoreCalls → StoreCalls) : MemoryStore f :=
  { s with calls := count s.calls }

@[simp] lemma objects_counted (s : MemoryStore f) (count : StoreCalls → StoreCalls) :
    (s.counted count).objects = s.objects := rfl

@[simp] lemma find_counted (s : MemoryStore f) (count : StoreCalls → StoreCalls) (key : String) :
    (s.counted count).find key = s.find key := rfl

lemma find_eq_ok_iff (s : MemoryStore f) (key : String) (o : StoredObject α) :
    s.find key = .ok o ↔ s.offline = false ∧ s.objects.get? key = some o := by
  rw [find]
  cases h : s.offline <;> cases s.objects.get? key <;> simp

lemma run_call (count : StoreCalls → StoreCalls) (s : MemoryStore f) :
    (call count).run s = (if s.offline then .error unavailable else .ok (), s.counted count) := by
  rw [call, run_bind, run_modify]
  simp only [run_bind, run_get]
  cases h : s.offline <;> simp only [counted, h] <;> rfl

lemma run_lookup (key : String) (s : MemoryStore f) :
    (lookup key).run s = (match s.objects.get? key with
      | some o => .ok o
      | none => .error (.notFound key), s) := by
  rw [lookup, run_bind, run_get]
  simp only
  cases s.objects.get? key <;> rfl

lemma run_list (keyPrefix : String) (s : MemoryStore f) :
    (ObjectStore.list keyPrefix).run s =
      (if s.offline then .error unavailable else .ok (s.listing keyPrefix),
        s.counted fun c => { c with list := c.list + 1 }) := by
  change (list keyPrefix).run s = _
  rw [list, run_bind, run_call]
  cases h : s.offline <;> rfl

lemma run_call_lookup {β : Type} (count : StoreCalls → StoreCalls) (key : String)
    (k : StoredObject α → StoreAction (MemoryStore f) StoreError β) (s : MemoryStore f) :
    (do call count; k (← lookup key) : StoreAction (MemoryStore f) StoreError β).run s =
      match s.find key with
      | .error e => (.error e, s.counted count)
      | .ok o => (k o).run (s.counted count) := by
  rw [run_bind, run_call, find]
  cases h : s.offline with
  | true => rfl
  | false =>
    simp only [Bool.false_eq_true, if_false, run_bind, run_lookup, objects_counted]
    cases s.objects.get? key <;> rfl

lemma run_head (key : String) (s : MemoryStore f) :
    (ObjectStore.head key).run s =
      ((s.find key).map fun o => f.tag o.content, s.counted fun c => { c with head := c.head + 1 }) := by
  change (head key).run s = _
  rw [head, run_call_lookup]
  cases s.find key <;> rfl

lemma run_fetch (key : String) (s : MemoryStore f) :
    (ObjectStore.get key).run s =
      ((s.find key).map fun o => ⟨o.content, f.tag o.content⟩,
        s.counted fun c => { c with get := c.get + 1 }) := by
  change (fetch key).run s = _
  rw [fetch, run_call_lookup]
  cases s.find key <;> rfl

lemma run_copy (source target : String) (s : MemoryStore f) :
    (ObjectStore.copy source target).run s =
      let t := s.counted fun c => { c with copy := c.copy + 1 }
      match s.find source with
      | .error e => (.error e, t)
      | .ok o => (.ok (), t.withCopy target o) := by
  change (copy source target).run s = _
  rw [copy, run_call_lookup]
  cases s.find source <;> rfl

def Candidate (s : MemoryStore f) (keyPrefix key : String) (o : StoredObject α) : Prop :=
  s.objects.get? key = some o ∧ keyPrefix.toList <+: key.toList

def Newest (s : MemoryStore f) (keyPrefix key : String) (o : StoredObject α) : Prop :=
  s.Candidate keyPrefix key o ∧
    ∀ k q, s.Candidate keyPrefix k q → toLex (q.modified, k) ≤ toLex (o.modified, key)

lemma mem_listing (s : MemoryStore f) (keyPrefix : String) (i : ObjectInfo) :
    i ∈ s.listing keyPrefix ↔ ∃ key o, s.Candidate keyPrefix key o ∧
      i = ⟨key, o.modified, some (f.tag o.content)⟩ := by
  simp only [listing, FiniteMap.sorted, List.mem_map, List.mem_filter, List.mem_mergeSort, Prod.exists,
    FiniteMap.mem_entries_iff, List.isPrefixOf_iff_prefix, Candidate]
  simp only [eq_comm]

lemma newest_of_entries {s : MemoryStore f} {keyPrefix key : String} {o : StoredObject α}
    (h : s.Candidate keyPrefix key o)
    (hle : ∀ e ∈ s.objects.entries, toLex (e.2.modified, e.1) ≤ toLex (o.modified, key)) :
    s.Newest keyPrefix key o :=
  ⟨h, fun k q hq => hle (k, q) ((s.objects.mem_entries_iff k q).mpr hq.1)⟩

lemma newest?_listing_eq_none (s : MemoryStore f) (keyPrefix : String) :
    ObjectInfo.newest? (s.listing keyPrefix) = none ↔ ∀ key o, ¬ s.Candidate keyPrefix key o := by
  rw [ObjectInfo.newest?_eq_none_iff, List.eq_nil_iff_forall_not_mem]
  simp only [mem_listing]
  constructor
  · intro h key o hc
    exact h _ ⟨key, o, hc, rfl⟩
  · rintro h _ ⟨key, o, hc, _⟩
    exact h key o hc

lemma newest_of_newest? {s : MemoryStore f} {keyPrefix : String} {n : ObjectInfo}
    (h : ObjectInfo.newest? (s.listing keyPrefix) = some n) : ∃ o, s.Newest keyPrefix n.key o := by
  obtain ⟨hmem, hmax⟩ := ObjectInfo.newest?_spec h
  obtain ⟨key, o, hc, rfl⟩ := (s.mem_listing keyPrefix n).mp hmem
  exact ⟨o, hc, fun k q hq => hmax _ ((s.mem_listing keyPrefix _).mpr ⟨k, q, hq, rfl⟩)⟩

lemma Newest.unique {s : MemoryStore f} {keyPrefix k₁ k₂ : String} {o₁ o₂ : StoredObject α}
    (h₁ : s.Newest keyPrefix k₁ o₁) (h₂ : s.Newest keyPrefix k₂ o₂) : k₁ = k₂ ∧ o₁ = o₂ := by
  have hle := le_antisymm (h₁.2 k₂ o₂ h₂.1) (h₂.2 k₁ o₁ h₁.1)
  obtain rfl : k₁ = k₂ := (congrArg (fun x => (ofLex x).2) hle).symm
  exact ⟨rfl, Option.some.inj (h₁.1.1.symm.trans h₂.1.1)⟩

lemma exists_newest {s : MemoryStore f} {keyPrefix key : String} {o : StoredObject α}
    (h : s.Candidate keyPrefix key o) : ∃ k q, s.Newest keyPrefix k q := by
  cases hn : ObjectInfo.newest? (s.listing keyPrefix) with
  | none => exact absurd h ((s.newest?_listing_eq_none keyPrefix).mp hn key o)
  | some n =>
    obtain ⟨q, hq⟩ := newest_of_newest? hn
    exact ⟨n.key, q, hq⟩

lemma Newest.congr {s t : MemoryStore f} {keyPrefix key : String} {o : StoredObject α}
    (h : s.Newest keyPrefix key o) (ht : t.objects = s.objects) : t.Newest keyPrefix key o := by
  simpa only [Newest, Candidate, ht] using h

structure Settled (s : MemoryStore f) (keyPrefix aliasKey : String) (content : α) : Prop where
  newest : ∃ key o, s.Newest keyPrefix key o ∧ o.content = content
  aliased : ∃ o, s.objects.get? aliasKey = some o ∧ o.content = content

lemma Settled.congr {s t : MemoryStore f} {keyPrefix aliasKey : String} {content : α}
    (h : s.Settled keyPrefix aliasKey content) (ht : t.objects = s.objects) :
    t.Settled keyPrefix aliasKey content := by
  obtain ⟨⟨key, o, hnewest, ho⟩, haliased⟩ := h
  refine ⟨⟨key, o, hnewest.congr ht, ho⟩, ?_⟩
  rwa [ht]

lemma settled_of_newest {s : MemoryStore f} {keyPrefix aliasKey : String} {o : StoredObject α}
    (h : s.Newest keyPrefix aliasKey o) : s.Settled keyPrefix aliasKey o.content :=
  ⟨⟨aliasKey, o, h, rfl⟩, ⟨o, h.1.1, rfl⟩⟩

lemma get?_withCopy (s : MemoryStore f) (target : String) (o : StoredObject α) (key : String) :
    (s.withCopy target o).objects.get? key =
      if key = target then some ⟨o.content, max o.modified s.clock.now⟩ else s.objects.get? key := by
  rw [withCopy, putAt, FiniteMap.get?_insert]

/-- The copy is not older than the newest candidate, so what is newest then has the same contents. -/
lemma settled_withCopy {s : MemoryStore f} {keyPrefix key aliasKey : String} {o : StoredObject α}
    (h : s.Newest keyPrefix key o) (hne : key ≠ aliasKey) :
    (s.withCopy aliasKey o).Settled keyPrefix aliasKey o.content := by
  have hkey : (s.withCopy aliasKey o).Candidate keyPrefix key o :=
    ⟨by rw [get?_withCopy, if_neg hne]; exact h.1.1, h.1.2⟩
  obtain ⟨k, q, hnewest⟩ := exists_newest hkey
  refine ⟨⟨k, q, hnewest, ?_⟩, ⟨⟨o.content, max o.modified s.clock.now⟩, ?_, rfl⟩⟩
  swap
  · rw [get?_withCopy, if_pos rfl]
  have hq := hnewest.1.1
  rw [get?_withCopy] at hq
  by_cases hk : k = aliasKey
  · rw [if_pos hk] at hq
    rw [← Option.some.inj hq]
  · rw [if_neg hk] at hq
    -- Such a candidate was there before the copy.
    have hle := le_antisymm (h.2 k q ⟨hq, hnewest.1.2⟩) (hnewest.2 key o hkey)
    obtain rfl : k = key := congrArg (fun x => (ofLex x).2) hle
    rw [Option.some.inj (hq.symm.trans h.1.1)]

section Promotion

variable {s s' : MemoryStore f} {keyPrefix aliasKey key : String} {o : StoredObject α} {p : Promotion}

def listed (s : MemoryStore f) : MemoryStore f := s.counted fun c => { c with list := c.list + 1 }

def copied (s : MemoryStore f) : MemoryStore f := s.counted fun c => { c with copy := c.copy + 1 }

lemma run_promote_offline (keyPrefix aliasKey : String) (h : s.offline = true) :
    (promote keyPrefix aliasKey).run s = (.error (.store unavailable), s.listed) := by
  rw [run_promote, run_list, if_pos h]
  rfl

lemma run_promote_of_newest (h : s.offline = false) (hn : s.Newest keyPrefix key o) :
    (promote keyPrefix aliasKey).run s =
      if key = aliasKey then (.ok ⟨key, false⟩, s.listed)
      else (.ok ⟨key, true⟩, s.listed.copied.withCopy aliasKey o) := by
  rw [run_promote, run_list, if_neg (by simp [h])]
  simp only
  cases hnewest : ObjectInfo.newest? (s.listing keyPrefix) with
  | none => exact absurd hn.1 ((s.newest?_listing_eq_none keyPrefix).mp hnewest key o)
  | some n =>
    obtain ⟨q, hq⟩ := newest_of_newest? hnewest
    obtain ⟨rfl, rfl⟩ := hq.unique hn
    have hfind : s.find n.key = .ok q := (find_eq_ok_iff _ _ _).mpr ⟨h, hn.1.1⟩
    simp only [run_copy, find_counted, hfind]
    rfl

lemma newest_of_promote (h : (promote keyPrefix aliasKey).run s = (.ok p, s')) :
    s.offline = false ∧ ∃ o, s.Newest keyPrefix p.winner o := by
  cases hoffline : s.offline with
  | true =>
    rw [run_promote_offline keyPrefix aliasKey hoffline] at h
    cases h
  | false =>
    refine ⟨rfl, ?_⟩
    cases hnewest : ObjectInfo.newest? (s.listing keyPrefix) with
    | none =>
      rw [run_promote, run_list, if_neg (by simp [hoffline])] at h
      simp only [hnewest] at h
      cases h
    | some n =>
      obtain ⟨o, hn⟩ := newest_of_newest? hnewest
      rw [run_promote_of_newest hoffline hn] at h
      split at h <;> cases h <;> exact ⟨o, hn⟩

end Promotion

end MemoryStore

end DiscountTables
