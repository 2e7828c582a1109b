import DiscountTables.Proofs.Results
import DiscountTables.Proofs.Store.Shared

namespace DiscountTables

variable {α : Type} {f : Fingerprint α}

abbrev SharedMemory (f : Fingerprint α) := SharedStore (MemoryStore f) α

structure MemoryStore.KeptBut (target : String) (s s' : MemoryStore f) : Prop where
  same : ∀ key, key ≠ target → s'.objects.get? key = s.objects.get? key
  kept : ∀ key, s.objects.get? key ≠ none → s'.objects.get? key ≠ none

namespace MemoryStore.KeptBut

variable {target : String} {s t u : MemoryStore f}

lemma of_objects (h : t.objects = s.objects) : KeptBut target s t := by
  constructor
  · intro key _
    rw [h]
  · intro key hkey
    rwa [h]

lemma trans (h : KeptBut target s t) (h' : KeptBut target t u) : KeptBut target s u :=
  ⟨fun key hkey => (h'.same key hkey).trans (h.same key hkey), fun key hkey => h'.kept key (h.kept key hkey)⟩

lemma withCopy (s : MemoryStore f) (target : String) (o : StoredObject α) :
    KeptBut target s (s.withCopy target o) := by
  constructor
  · intro key hkey
    rw [get?_withCopy, if_neg hkey]
  · intro key hkey
    rw [get?_withCopy]
    split
    · simp
    · exact hkey

end MemoryStore.KeptBut

namespace SharedStore

variable {s s' : SharedMemory f}

def OnlySwitched (s : SharedMemory f) : Prop := ∀ n t, ∃ offline, s.others n t = t.setOffline offline

structure Called (count : StoreCalls → StoreCalls) (s s' : SharedMemory f) : Prop where
  others : s'.others = s.others
  calls : s'.store.calls = count s.store.calls
  objects : s'.store.objects = s.store.objects

lemma OnlySwitched.congr (h : s.OnlySwitched) (hs : s'.others = s.others) : s'.OnlySwitched := by
  rwa [OnlySwitched, hs]

lemma OnlySwitched.list {keyPrefix : String} {result : Except StoreError (List ObjectInfo)}
    (h : s.OnlySwitched) (hrun : (ObjectStore.list keyPrefix).run s = (result, s')) :
    Called (fun c => { c with list := c.list + 1 }) s s' ∧
      ∀ objects, result = .ok objects → objects = s.store.listing keyPrefix := by
  obtain ⟨offline, hfound⟩ := h s.answers.length s.store
  change (call .listed (ObjectStore.list keyPrefix)).run s = _ at hrun
  rw [run_call, found, hfound, MemoryStore.run_list] at hrun
  obtain ⟨rfl, rfl⟩ := Prod.mk.inj hrun
  refine ⟨⟨rfl, rfl, rfl⟩, ?_⟩
  cases offline with
  | true => rintro objects ⟨⟩
  | false =>
    rintro objects ⟨⟩
    rfl

lemma OnlySwitched.head {key : String} {result : Except StoreError String} (h : s.OnlySwitched)
    (hrun : (ObjectStore.head key).run s = (result, s')) :
    Called (fun c => { c with head := c.head + 1 }) s s' ∧ ∀ tag, result = .ok tag →
      s'.store.offline = false ∧ ∃ o, s.store.objects.get? key = some o ∧ tag = f.tag o.content := by
  obtain ⟨offline, hfound⟩ := h s.answers.length s.store
  change (call .headed (ObjectStore.head key)).run s = _ at hrun
  rw [run_call, found, hfound, MemoryStore.run_head] at hrun
  obtain ⟨rfl, rfl⟩ := Prod.mk.inj hrun
  refine ⟨⟨rfl, rfl, rfl⟩, ?_⟩
  intro tag htag
  obtain ⟨o, ho, rfl⟩ := map_eq_ok.mp htag
  obtain ⟨hoffline, hget⟩ := (MemoryStore.find_eq_ok_iff _ _ _).mp ho
  exact ⟨hoffline, o, hget, rfl⟩

lemma OnlySwitched.get {key : String} {result : Except StoreError (Fetched α)} (h : s.OnlySwitched)
    (hrun : (ObjectStore.get key).run s = (result, s')) :
    Called (fun c => { c with get := c.get + 1 }) s s' ∧ ∀ document, result = .ok document →
      s'.store.offline = false ∧
        ∃ o, s.store.objects.get? key = some o ∧ document = ⟨o.content, f.tag o.content⟩ := by
  obtain ⟨offline, hfound⟩ := h s.answers.length s.store
  change (call .fetched (ObjectStore.get key)).run s = _ at hrun
  rw [run_call, found, hfound, MemoryStore.run_fetch] at hrun
  obtain ⟨rfl, rfl⟩ := Prod.mk.inj hrun
  refine ⟨⟨rfl, rfl, rfl⟩, ?_⟩
  intro document hdocument
  obtain ⟨o, ho, rfl⟩ := map_eq_ok.mp hdocument
  obtain ⟨hoffline, hget⟩ := (MemoryStore.find_eq_ok_iff _ _ _).mp ho
  exact ⟨hoffline, o, hget, rfl⟩

lemma OnlySwitched.copy {source target : String} {result : Except StoreError Unit} (h : s.OnlySwitched)
    (hrun : (ObjectStore.copy source target).run s = (result, s')) :
    s'.others = s.others ∧ s'.store.calls = { s.store.calls with copy := s.store.calls.copy + 1 } ∧
      MemoryStore.KeptBut target s.store s'.store ∧ (result = .ok () → ∃ o,
        s.store.objects.get? source = some o ∧ s'.store.objects = (s.store.withCopy target o).objects) := by
  obtain ⟨offline, hfound⟩ := h s.answers.length s.store
  change (call .copied (ObjectStore.copy source target)).run s = _ at hrun
  rw [run_call, found, hfound, MemoryStore.run_copy] at hrun
  cases hfind : (s.store.setOffline offline).find source with
  | error e =>
    rw [hfind] at hrun
    obtain ⟨rfl, rfl⟩ := Prod.mk.inj hrun
    exact ⟨rfl, rfl, .of_objects rfl, by rintro ⟨⟩⟩
  | ok o =>
    rw [hfind] at hrun
    obtain ⟨rfl, rfl⟩ := Prod.mk.inj hrun
    refine ⟨rfl, rfl, (MemoryStore.KeptBut.withCopy s.store target o).trans (.of_objects rfl), ?_⟩
    intro _
    exact ⟨o, ((MemoryStore.find_eq_ok_iff _ _ _).mp hfind).2, rfl⟩

variable {keyPrefix aliasKey : String} {b : α}

lemma OnlySwitched.head_settled {tag : String} (h : s.OnlySwitched)
    (hs : s.store.Settled keyPrefix aliasKey b) (hrun : (ObjectStore.head aliasKey).run s = (.ok tag, s')) :
    tag = f.tag b ∧ s'.store.offline = false ∧ s'.store.Settled keyPrefix aliasKey b := by
  obtain ⟨hcalled, hok⟩ := h.head hrun
  obtain ⟨hoffline, o, ho, rfl⟩ := hok tag rfl
  obtain ⟨q, hq, rfl⟩ := hs.aliased
  obtain rfl := Option.some.inj (ho.symm.trans hq)
  exact ⟨rfl, hoffline, hs.congr hcalled.objects⟩

lemma OnlySwitched.get_settled {document : Fetched α} (h : s.OnlySwitched)
    (hs : s.store.Settled keyPrefix aliasKey b)
    (hrun : (ObjectStore.get aliasKey).run s = (.ok document, s')) :
    document = ⟨b, f.tag b⟩ ∧ s'.store.offline = false ∧ s'.store.Settled keyPrefix aliasKey b := by
  obtain ⟨hcalled, hok⟩ := h.get hrun
  obtain ⟨hoffline, o, ho, rfl⟩ := hok document rfl
  obtain ⟨q, hq, rfl⟩ := hs.aliased
  obtain rfl := Option.some.inj (ho.symm.trans hq)
  exact ⟨rfl, hoffline, hs.congr hcalled.objects⟩

end SharedStore

end DiscountTables
