import DiscountTables.Proofs.Store.Calls

/-!
A store in memory and a store in files that are asked the same. They give the same answers, as long as every write
gives its file a stamp that it never had.
-/

namespace DiscountTables

open Calendar DirectoryStore

variable {α : Type} {f : Fingerprint α}

/-- A store in files that has what a store in memory has, and has a tag in mind only under a stamp that was written. -/
structure Mirrors (paths : Set FilePath) (m : MemoryStore f) (s : DirectoryStore f)
    (written : List (FilePath × FileStamp)) : Prop where
  online : m.offline = false
  holds : s.tree.HoldsAt paths
  stored : ∀ p ∈ paths, m.contents? (PathKey.text p) = s.tree.content? p
  stored_mem : ∀ key, m.objects.get? key ≠ none → ∃ p ∈ paths, PathKey.text p = key
  written_of_file : ∀ p c t, s.tree.file? p = some (c, t) → (p, stampOf f c t) ∈ written
  written_of_remembered : ∀ p r, s.remembered.get? p = some r → (p, r.stamp) ∈ written
  tag_eq : ∀ p r c t, s.remembered.get? p = some r → s.tree.file? p = some (c, t) → r.stamp = stampOf f c t →
    r.tag = f.tag c

namespace Mirrors

variable {paths : Set FilePath} {m m' : MemoryStore f} {s s' : DirectoryStore f}
  {written : List (FilePath × FileStamp)} {p q : FilePath}

lemma congr (h : Mirrors paths m s written) (hobjects : m'.objects = m.objects) (honline : m'.offline = m.offline)
    (hholds : s'.tree.HoldsAt paths) (hfiles : ∀ p, s'.tree.file? p = s.tree.file? p)
    (hremembered : s'.remembered = s.remembered) : Mirrors paths m' s' written := by
  refine ⟨honline.trans h.online, hholds, ?_, ?_, ?_, ?_, ?_⟩
  · intro p hp
    rw [MemoryStore.contents?, hobjects, FileTree.content?, hfiles]
    exact h.stored p hp
  · rw [hobjects]
    exact h.stored_mem
  · intro p c t hf
    exact h.written_of_file p c t ((hfiles p).symm.trans hf)
  · rw [hremembered]
    exact h.written_of_remembered
  · intro p r c t hr hf
    exact h.tag_eq p r c t (hremembered ▸ hr) ((hfiles p).symm.trans hf)

lemma counted (h : Mirrors paths m s written) (count : StoreCalls → StoreCalls) :
    Mirrors paths (m.counted count) s written :=
  h.congr rfl rfl h.holds (fun _ => rfl) rfl

lemma remember (h : Mirrors paths m s written) {c : α} {t : Instant} (hf : s.tree.file? p = some (c, t)) :
    Mirrors paths m (s.remember ⟨p, c, t⟩) written := by
  refine ⟨h.online, h.holds, h.stored, h.stored_mem, h.written_of_file, ?_, ?_⟩
  · intro q r hr
    rw [DirectoryStore.remember, FiniteMap.get?_insert] at hr
    split at hr
    · rename_i hq
      cases hr
      exact hq ▸ h.written_of_file p c t hf
    · exact h.written_of_remembered q r hr
  · intro q r c' t' hr hf' hstamp
    rw [DirectoryStore.remember, FiniteMap.get?_insert] at hr
    split at hr
    · rename_i hq
      cases hr
      rw [hq] at hf'
      cases hf.symm.trans hf'
      rfl
    · exact h.tag_eq q r c' t' hr hf' hstamp

lemma write (h : Mirrors paths m s written) (hpaths : SideBySide paths) (hq : q ∈ paths) {c : α} {t stored : Instant}
    (hobjects : m'.objects = m.objects.insert (PathKey.text q) ⟨c, stored⟩) (honline : m'.offline = m.offline)
    (hholds : s'.tree.HoldsAt paths) (hw : WrittenAt q c t s.tree s'.tree) (hremembered : s'.remembered = s.remembered)
    (hnew : (q, stampOf f c t) ∉ written) : Mirrors paths m' s' (written ++ [(q, stampOf f c t)]) := by
  refine ⟨honline.trans h.online, hholds, ?_, ?_, ?_, ?_, ?_⟩
  · intro p hp
    rw [MemoryStore.contents?, hobjects, FiniteMap.get?_insert, FileTree.content?, hw]
    by_cases hpq : p = q
    · rw [if_pos hpq, if_pos (congrArg PathKey.text hpq)]
      rfl
    · rw [if_neg hpq, if_neg fun heq => hpq (PathKey.text_injOn (hpaths.named p hp) (hpaths.named q hq) heq)]
      exact h.stored p hp
  · intro key hkey
    rw [hobjects, FiniteMap.get?_insert] at hkey
    split at hkey
    · rename_i heq
      exact ⟨q, hq, heq.symm⟩
    · exact h.stored_mem key hkey
  · intro p c' t' hf
    rw [hw] at hf
    split at hf
    · rename_i hpq
      cases hf
      simp [hpq]
    · exact List.mem_append_left _ (h.written_of_file p c' t' hf)
  · intro p r hr
    exact List.mem_append_left _ (h.written_of_remembered p r (hremembered ▸ hr))
  · intro p r c' t' hr hf hstamp
    rw [hremembered] at hr
    rw [hw] at hf
    split at hf
    · rename_i hpq
      cases hf
      -- A tag in mind under the new stamp would say that the stamp was written before.
      exact absurd (hpq ▸ hstamp ▸ h.written_of_remembered p r hr) hnew
    · exact h.tag_eq p r c' t' hr hf hstamp

lemma lookup (h : Mirrors paths m s written) (hpaths : SideBySide paths) (hp : p ∈ paths) :
    (s.tree.file? p = none ∧ m.find (PathKey.text p) = .error (.notFound (PathKey.text p)) ∧
      s.find (PathKey.text p) = .error (.notFound (PathKey.text p))) ∨
    ∃ c t stored, s.tree.file? p = some (c, t) ∧ m.find (PathKey.text p) = .ok ⟨c, stored⟩ ∧
      s.find (PathKey.text p) = .ok ⟨p, c, t⟩ := by
  have hstored := h.stored p hp
  rw [MemoryStore.contents?, FileTree.content?] at hstored
  simp only [find_text_beside hpaths h.holds hp, MemoryStore.find, h.online, Bool.false_eq_true, if_false]
  rcases hf : s.tree.file? p with _ | ⟨c, t⟩ <;>
    rcases hm : m.objects.get? (PathKey.text p) with _ | ⟨c', stored⟩ <;>
    simp_all

lemma keys_listing (h : Mirrors paths m s written) (hpaths : SideBySide paths) (keyPrefix : String) :
    (m.listing keyPrefix).map ObjectInfo.key = (s.listing keyPrefix).map ObjectInfo.key := by
  -- Both listings are sorted by key, so they have only to have the same keys.
  apply List.Pairwise.eq_of_mem_iff (r := (· < ·)) (m.keys_listing_sorted keyPrefix)
  · apply s.keys_listing_sorted keyPrefix
    rintro ⟨p, c, t⟩ hmem
    exact hpaths.named p (h.holds.file_mem p c t ((FileTree.mem_files_iff h.holds.root).mp hmem))
  intro key
  simp only [List.mem_map, MemoryStore.mem_listing, mem_listing h.holds.root]
  constructor
  · rintro ⟨_, ⟨key, o, ⟨ho, hbelow⟩, rfl⟩, rfl⟩
    obtain ⟨p, hp, rfl⟩ := h.stored_mem key (by simp [ho])
    obtain ⟨-, hm, -⟩ | ⟨c, t, stored, hf, -, -⟩ := h.lookup hpaths hp
    · simp [MemoryStore.find, h.online, ho] at hm
    · exact ⟨_, ⟨p, c, t, hf, hbelow, rfl⟩, rfl⟩
  · rintro ⟨_, ⟨p, c, t, hf, hbelow, rfl⟩, rfl⟩
    obtain ⟨hf', -, -⟩ | ⟨c, t, stored, -, hm, -⟩ := h.lookup hpaths (h.holds.file_mem p c t hf)
    · simp [hf] at hf'
    · exact ⟨_, ⟨PathKey.text p, ⟨c, stored⟩, ⟨((m.find_eq_ok_iff _ _).mp hm).2, hbelow⟩, rfl⟩, rfl⟩

end Mirrors

/-- The same answer from both stores. When it is that a document is missing, no document was changed. -/
structure AnsweredAlike [EmptyCollection α] (m : MemoryStore f) (s : DirectoryStore f) (call : StoreCall α) :
    Prop where
  same : call.answer m = call.answer s
  failed : ∀ e, call.answer m = .error e → (∃ key ∈ call.keys, e = .notFound key) ∧
    (call.next m).objects = m.objects ∧ ∀ p, (call.next s).tree.file? p = s.tree.file? p

namespace Mirrors

variable [EmptyCollection α] {paths : Set FilePath} {m m' : MemoryStore f} {s s' : DirectoryStore f}
  {written : List (FilePath × FileStamp)} {call : StoreCall α}

lemma of_read {r : StoreAnswer α} (hm : call.perform.run m = (.ok r, m')) (hs : call.perform.run s = (.ok r, s'))
    (htarget : call.target? = none) (h : Mirrors paths m' s' written) :
    AnsweredAlike m s call ∧ Mirrors paths (call.next m) (call.next s) (written ++ (s.writing? call).toList) := by
  have hw : s.writing? call = none := by rw [writing?, htarget]
  rw [hw, StoreCall.next, StoreCall.next, hm, hs, Option.toList_none, List.append_nil]
  refine ⟨⟨by rw [StoreCall.answer, StoreCall.answer, hm, hs], fun e he => ?_⟩, h⟩
  rw [StoreCall.answer, hm] at he
  cases he

lemma of_missing {key : String} (hm : call.perform.run m = (.error (.notFound key), m'))
    (hs : call.perform.run s = (.error (.notFound key), s')) (hkey : key ∈ call.keys)
    (hobjects : m'.objects = m.objects) (hfiles : ∀ p, s'.tree.file? p = s.tree.file? p)
    (h : Mirrors paths m' s' written) :
    AnsweredAlike m s call ∧ Mirrors paths (call.next m) (call.next s) (written ++ (s.writing? call).toList) := by
  have hw : s.writing? call = none := by
    rw [writing?, StoreCall.answer, hs]
    cases call.target? <;> rfl
  rw [hw, Option.toList_none, List.append_nil]
  refine ⟨⟨by rw [StoreCall.answer, StoreCall.answer, hm, hs], fun e he => ?_⟩, ?_⟩
  · rw [StoreCall.answer, hm] at he
    cases he
    rw [StoreCall.next, StoreCall.next, hm, hs]
    exact ⟨⟨key, hkey, rfl⟩, hobjects, hfiles⟩
  · rw [StoreCall.next, StoreCall.next, hm, hs]
    exact h

lemma of_write (h : Mirrors paths m s written) (hpaths : SideBySide paths) {q : FilePath} (hq : q ∈ paths)
    {c : α} {t stored : Instant} (hm : call.perform.run m = (.ok .done, m')) (hs : call.perform.run s = (.ok .done, s'))
    (htarget : call.target? = some (PathKey.text q))
    (hobjects : m'.objects = m.objects.insert (PathKey.text q) ⟨c, stored⟩) (honline : m'.offline = m.offline)
    (hholds : s'.tree.HoldsAt paths) (hw : WrittenAt q c t s.tree s'.tree) (hremembered : s'.remembered = s.remembered)
    (hnew : ∀ w, s.writing? call = some w → w ∉ written) :
    AnsweredAlike m s call ∧ Mirrors paths (call.next m) (call.next s) (written ++ (s.writing? call).toList) := by
  have hfind : s'.find (PathKey.text q) = .ok ⟨q, c, t⟩ := by
    rw [find_text_beside hpaths hholds hq, hw, if_pos rfl]
  have hwriting : s.writing? call = some (q, stampOf f c t) := by
    rw [writing?, htarget, StoreCall.answer, StoreCall.next, hs]
    simp only [hfind]
    rfl
  rw [hwriting, StoreCall.next, StoreCall.next, hm, hs, Option.toList_some]
  refine ⟨⟨by rw [StoreCall.answer, StoreCall.answer, hm, hs], fun e he => ?_⟩, ?_⟩
  · rw [StoreCall.answer, hm] at he
    cases he
  · exact h.write hpaths hq hobjects honline hholds hw hremembered (hnew _ hwriting)

lemma run_head (h : Mirrors paths m s written) {p : FilePath} {c : α} {t : Instant} (hf : s.tree.file? p = some (c, t))
    (hs : s.find (PathKey.text p) = .ok ⟨p, c, t⟩) : ∃ s',
    (ObjectStore.head (PathKey.text p)).run s = (.ok (f.tag c), s') ∧ Mirrors paths m s' written := by
  rw [DirectoryStore.run_head, hs]
  simp only [remembered?]
  rcases hr : s.remembered.get? p with _ | r
  · exact ⟨_, rfl, h.remember hf⟩
  · simp only
    split
    · rename_i tag heq
      split at heq
      · rename_i hstamp
        cases heq
        exact ⟨s, by rw [h.tag_eq p r c t hr hf hstamp], h⟩
      · cases heq
    · exact ⟨_, rfl, h.remember hf⟩

lemma next (h : Mirrors paths m s written) (hpaths : SideBySide paths)
    (hkeys : ∀ key ∈ call.keys, ∃ p ∈ paths, PathKey.text p = key)
    (hdistinct : ∀ source target, call = .copy source target → source ≠ target)
    (hnew : ∀ w, s.writing? call = some w → w ∉ written) :
    AnsweredAlike m s call ∧ Mirrors paths (call.next m) (call.next s) (written ++ (s.writing? call).toList) := by
  cases call with
  | put key content stored modified =>
    obtain ⟨q, hq, rfl⟩ := hkeys key List.mem_cons_self
    obtain ⟨t, hrun, hholds, hw⟩ := run_put_beside hpaths h.holds hq content stored modified
    have hm : (StoreCall.put (PathKey.text q) content stored modified).perform.run m =
      (.ok .done, m.putAt (PathKey.text q) content stored) := rfl
    have hs : (StoreCall.put (PathKey.text q) content stored modified).perform.run s = _ := run_map _ _ s
    rw [hrun] at hs
    exact h.of_write hpaths hq hm hs rfl rfl rfl hholds hw rfl hnew
  | get key =>
    obtain ⟨p, hp, rfl⟩ := hkeys key List.mem_cons_self
    have hm : (StoreCall.get (PathKey.text p)).perform.run m = _ := run_map _ _ m
    have hs : (StoreCall.get (PathKey.text p)).perform.run s = _ := run_map _ _ s
    rw [MemoryStore.run_fetch] at hm
    rw [run_readFile] at hs
    obtain ⟨-, hm', hs'⟩ | ⟨c, t, stored, hf, hm', hs'⟩ := h.lookup hpaths hp
    · rw [hm'] at hm
      rw [hs'] at hs
      exact of_missing hm hs List.mem_cons_self rfl (fun _ => rfl) (h.counted fun c => { c with get := c.get + 1 })
    · rw [hm'] at hm
      rw [hs'] at hs
      exact of_read hm hs rfl ((h.counted fun c => { c with get := c.get + 1 }).remember hf)
  | head key =>
    obtain ⟨p, hp, rfl⟩ := hkeys key List.mem_cons_self
    have hm : (StoreCall.head (PathKey.text p)).perform.run m = _ := run_map _ _ m
    have hs : (StoreCall.head (PathKey.text p)).perform.run s = _ := run_map _ _ s
    rw [MemoryStore.run_head] at hm
    obtain ⟨-, hm', hs'⟩ | ⟨c, t, stored, hf, hm', hs'⟩ := h.lookup hpaths hp
    · rw [hm'] at hm
      rw [DirectoryStore.run_head, hs'] at hs
      exact of_missing hm hs List.mem_cons_self rfl (fun _ => rfl) (h.counted fun c => { c with head := c.head + 1 })
    · obtain ⟨s', hrun, h'⟩ := h.run_head hf hs'
      rw [hm'] at hm
      rw [hrun] at hs
      exact of_read hm hs rfl (h'.counted fun c => { c with head := c.head + 1 })
  | list keyPrefix =>
    have hm : (StoreCall.list keyPrefix).perform.run m = _ := run_map _ _ m
    have hs : (StoreCall.list keyPrefix).perform.run s = _ := run_map _ _ s
    rw [MemoryStore.run_list, h.online] at hm
    rw [run_list, (s.tree.isDirectory_iff []).mpr h.holds.root] at hs
    simp only [Bool.false_eq_true, if_false, if_true, Except.map, h.keys_listing hpaths] at hm hs
    exact of_read hm hs rfl (h.counted _)
  | copy source target =>
    obtain ⟨p, hp, rfl⟩ := hkeys source List.mem_cons_self
    obtain ⟨q, hq, rfl⟩ := hkeys target (List.mem_cons_of_mem _ List.mem_cons_self)
    have hpq : p ≠ q := fun heq => hdistinct _ _ rfl (congrArg PathKey.text heq)
    have hm : (StoreCall.copy (PathKey.text p) (PathKey.text q)).perform.run m = _ := run_map _ _ m
    have hs : (StoreCall.copy (PathKey.text p) (PathKey.text q)).perform.run s = _ := run_map _ _ s
    have hcopy := run_copy_beside hpaths h.holds hp hq hpq
    rw [MemoryStore.run_copy] at hm
    obtain ⟨hf, hm', hs'⟩ | ⟨c, t, stored, hf, hm', hs'⟩ := h.lookup hpaths hp
    · rw [hf] at hcopy
      obtain ⟨tree, hrun, hholds, hfiles⟩ := hcopy
      rw [hm'] at hm
      rw [hrun] at hs
      exact of_missing hm hs List.mem_cons_self rfl hfiles (h.congr rfl rfl hholds hfiles rfl)
    · rw [hf] at hcopy
      obtain ⟨tree, hrun, hholds, hw⟩ := hcopy
      rw [hm'] at hm
      rw [hrun] at hs
      exact h.of_write hpaths hq hm hs rfl rfl rfl hholds hw rfl hnew

lemma after (h : Mirrors paths m s written) (hpaths : SideBySide paths) {before rest : List (StoreCall α)}
    (hkeys : ∀ c ∈ before ++ call :: rest, ∀ key ∈ c.keys, ∃ p ∈ paths, PathKey.text p = key)
    (hdistinct : ∀ source target, .copy source target ∈ before ++ call :: rest → source ≠ target)
    (hnew : (written ++ s.writings (before ++ call :: rest)).Nodup) :
    AnsweredAlike (StoreCall.after before m) (StoreCall.after before s) call := by
  -- The stamps that the calls still to come will write stay apart from those written so far.
  induction before generalizing m s written with
  | nil =>
    refine (h.next hpaths (hkeys call List.mem_cons_self) ?_ fun w hw hmem => ?_).1
    · rintro source target rfl
      exact hdistinct source target List.mem_cons_self
    · apply List.disjoint_of_nodup_append hnew hmem
      simp [writings, hw]
  | cons c before ih =>
    have hfirst : ∀ source target, c = .copy source target → source ≠ target := by
      rintro source target rfl
      exact hdistinct source target List.mem_cons_self
    have hnext := h.next hpaths (hkeys c List.mem_cons_self) hfirst fun w hw hmem =>
      List.disjoint_of_nodup_append hnew hmem (by simp [writings, hw])
    apply ih hnext.2 (fun c hc => hkeys c (List.mem_cons_of_mem _ hc))
      (fun source target hc => hdistinct source target (List.mem_cons_of_mem _ hc))
    rwa [List.append_assoc]

end Mirrors

structure Comparable (calls : List (StoreCall α)) : Prop where
  canonical : ∀ key ∈ calls.flatMap StoreCall.keys, PathKey.IsCanonical key
  apart : ∀ key ∈ calls.flatMap StoreCall.keys, ∀ other ∈ calls.flatMap StoreCall.keys,
    ¬ (key ++ "/").toList <+: other.toList
  accepted : ∀ key ∈ calls.flatMap StoreCall.keys, ∀ k ∈ PathKey.ofString? key, FileTree.Accepts k.names
  distinct : ∀ source target, .copy source target ∈ calls → source ≠ target

namespace Comparable

variable {calls : List (StoreCall α)}

def paths (calls : List (StoreCall α)) : Set FilePath :=
  {p | IsFilePath p ∧ PathKey.text p ∈ calls.flatMap StoreCall.keys}

lemma sideBySide (h : Comparable calls) : SideBySide (paths calls) := by
  refine ⟨fun p hp => hp.1, fun p hp => h.accepted _ hp.2 _ (PathKey.ofString?_text hp.1), ?_⟩
  rintro p hp q hq ⟨rest, rfl⟩
  by_contra hne
  have hrest : rest ≠ [] := fun hrest => hne (by rw [hrest, List.append_nil])
  apply h.apart _ hp.2 _ hq.2
  rw [PathKey.text_append hp.1.1 hrest, String.toList_append (s := PathKey.text p ++ "/")]
  exact List.prefix_append _ _

lemma exists_path (h : Comparable calls) {call : StoreCall α} (hc : call ∈ calls) {key : String}
    (hk : key ∈ call.keys) : ∃ p ∈ paths calls, PathKey.text p = key := by
  have hmem := List.mem_flatMap_of_mem hc hk
  obtain ⟨p, hp, rfl⟩ := PathKey.isCanonical_iff.mp (h.canonical key hmem)
  exact ⟨p, ⟨hp, hmem⟩, rfl⟩

end Comparable

lemma mirrors_empty {paths : Set FilePath} (hpaths : SideBySide paths) (memoryClock fileClock : Clock) :
    Mirrors paths ({ clock := memoryClock } : MemoryStore f) ({ clock := fileClock } : DirectoryStore f) [] := by
  have hnode : ∀ p, (FileTree.empty : FileTree α).node? p = if p = [] then some .directory else none :=
    fun p => FiniteMap.get?_insert FiniteMap.empty [] p FileNode.directory
  have hfile : ∀ p, (FileTree.empty : FileTree α).file? p = none := by
    intro p
    rw [FileTree.file?_eq_none_iff, hnode]
    split <;> simp
  refine ⟨rfl, ⟨by rw [hnode, if_pos rfl], ?_, ?_⟩, ?_, ?_, ?_, ?_, ?_⟩
  · intro p c t hf
    simp [hfile] at hf
  · intro p hp
    rw [hnode, if_neg (hpaths.named p hp).1]
    simp
  · intro p _
    rw [FileTree.content?, hfile]
    rfl
  · intro key hkey
    exact absurd rfl hkey
  · intro p c t hf
    simp [hfile] at hf
  · intro p r hr
    cases hr
  · intro p r c t hr
    cases hr

/-- Two empty stores answer every call alike. -/
theorem answeredAlike_after [EmptyCollection α] (f : Fingerprint α) (memoryClock fileClock : Clock)
    (calls : List (StoreCall α)) (hc : Comparable calls)
    (hnew : (({ clock := fileClock } : DirectoryStore f).writings calls).Nodup)
    (before rest : List (StoreCall α)) (call : StoreCall α) (hsplit : calls = before ++ call :: rest) :
    AnsweredAlike (StoreCall.after before ({ clock := memoryClock } : MemoryStore f))
      (StoreCall.after before ({ clock := fileClock } : DirectoryStore f)) call := by
  subst hsplit
  exact (mirrors_empty hc.sideBySide memoryClock fileClock).after hc.sideBySide
    (fun c hmem key => hc.exists_path hmem) hc.distinct hnew

instance (path : FilePath) : Decidable (FileTree.Accepts path) :=
  decidable_of_iff (FileTree.hasNul path = false ∧ ∀ name ∈ path, FileTree.isTooLong name = false)
    ⟨fun h => ⟨h.1, h.2⟩, fun h => ⟨h.noNul, h.short⟩⟩

def uploads : List (StoreCall (List ℕ)) := [
  .put "rules/a" [1, 2] 5 5,
  .head "rules/a",
  .copy "rules/b" "archive/rules/b",
  .copy "rules/a" "archive/rules/b",
  .put "rules/a" [3, 4] 6 7]

theorem answeredAlike_uploads :
    let f : Fingerprint (List ℕ) := ⟨toString, List.length⟩
    let calls := uploads ++ [.head "rules/a", .list "rules"]
    let m : MemoryStore f := { clock := ⟨fun n => n + 20, 0⟩ }
    let s : DirectoryStore f := { clock := ⟨fun n => n + 30, 0⟩ }
    Comparable calls ∧ (s.writings calls).Nodup ∧
      AnsweredAlike (StoreCall.after uploads m) (StoreCall.after uploads s) (.head "rules/a") := by
  intro f calls m s
  have hc : Comparable calls := by
    refine ⟨by decide +kernel, by decide +kernel, by decide +kernel, ?_⟩
    intro source target hmem
    simp only [calls, uploads, List.cons_append, List.nil_append, List.mem_cons, StoreCall.copy.injEq, reduceCtorEq,
      List.not_mem_nil, or_false, false_or] at hmem
    obtain ⟨rfl, rfl⟩ | ⟨rfl, rfl⟩ := hmem <;> decide
  have hnew : (s.writings calls).Nodup := by decide +kernel
  exact ⟨hc, hnew, answeredAlike_after f _ _ calls hc hnew uploads [.list "rules"] (.head "rules/a") rfl⟩

end DiscountTables
