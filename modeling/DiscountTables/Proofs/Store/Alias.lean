import DiscountTables.Proofs.Promotion
import DiscountTables.Proofs.Store.Directory

/-!
Promotion in a store in files. A listing has the canonical keys of the files, so an alias that is written with a
detour is not found to be the newest file when it is, and is then copied onto itself.
-/

namespace DiscountTables

open Calendar

namespace FileTree

variable {α : Type}

def WellNamed (t : FileTree α) : Prop := ∀ path c m, t.file? path = some (c, m) → IsFilePath path

lemma WellNamed.congr {t t' : FileTree α} (h : t.WellNamed) (hf : ∀ q, t'.file? q = t.file? q) : t'.WellNamed := by
  intro path c m hfile
  rw [hf] at hfile
  exact h path c m hfile

lemma wellNamed_iff {t : FileTree α} (hroot : t.node? [] = some .directory) :
    t.WellNamed ↔ ∀ e ∈ t.files, IsFilePath e.1 :=
  forall_file_iff hroot

end FileTree

namespace DirectoryStore

open FileTree

variable {α : Type} {f : Fingerprint α} {s s' : DirectoryStore f} {keyPrefix aliasKey : String}
  {r r' : FileReading α} {k : PathKey}

structure Listed (s : DirectoryStore f) (keyPrefix : String) (r : FileReading α) : Prop where
  file : s.tree.file? r.path = some (r.content, r.modified)
  below : keyPrefix.toList <+: (PathKey.text r.path).toList

structure NewestFile (s : DirectoryStore f) (keyPrefix : String) (r : FileReading α) : Prop extends
    s.Listed keyPrefix r where
  newest : ∀ q, s.Listed keyPrefix q → toLex (q.modified, PathKey.text q.path) ≤ toLex (r.modified, PathKey.text r.path)

lemma Listed.congr (h : s'.Listed keyPrefix r) (hf : s'.tree.file? r.path = s.tree.file? r.path) :
    s.Listed keyPrefix r := ⟨hf ▸ h.file, h.below⟩

lemma NewestFile.congr (h : s'.NewestFile keyPrefix r) (hf : ∀ q, s'.tree.file? q = s.tree.file? q) :
    s.NewestFile keyPrefix r :=
  ⟨h.toListed.congr (hf _), fun q hq => h.newest q (hq.congr (hf _).symm)⟩

lemma WrittenAt.wellNamed {path : FilePath} {content : α} {modified : Instant} {t t' : FileTree α}
    (h : WrittenAt path content modified t t') (ht : t.WellNamed) (hp : IsFilePath path) : t'.WellNamed := by
  intro q c m hfile
  rw [h q] at hfile
  split at hfile
  · rename_i hq
    exact hq ▸ hp
  · exact ht q c m hfile

lemma WrittenAt.content? {path : FilePath} {content : α} {modified : Instant} {t t' : FileTree α}
    (h : WrittenAt path content modified t t') (q : FilePath) :
    t'.content? q = if q = path then some content else t.content? q := by
  rw [FileTree.content?, h q]
  split <;> rfl

lemma Listed.eq_of_rank_eq (hs : s.tree.WellNamed) (h : s.Listed keyPrefix r) (h' : s.Listed keyPrefix r')
    (heq : toLex (r.modified, PathKey.text r.path) = toLex (r'.modified, PathKey.text r'.path)) : r = r' := by
  have hkey : PathKey.text r.path = PathKey.text r'.path := congrArg (fun x => (ofLex x).2) heq
  have hpath := PathKey.text_injOn (hs _ _ _ h.file) (hs _ _ _ h'.file) hkey
  have hfile := h.file
  rw [hpath, h'.file] at hfile
  obtain ⟨path, content, modified⟩ := r
  obtain ⟨path', content', modified'⟩ := r'
  simp_all

lemma NewestFile.unique (hs : s.tree.WellNamed) (h : s.NewestFile keyPrefix r) (h' : s.NewestFile keyPrefix r') :
    r = r' :=
  h.toListed.eq_of_rank_eq hs h'.toListed (le_antisymm (h'.newest r h.toListed) (h.newest r' h'.toListed))

lemma exists_newestFile (hroot : s.tree.node? [] = some .directory) {n : ObjectInfo}
    (h : ObjectInfo.newest? (s.listing keyPrefix) = some n) :
    ∃ r, s.NewestFile keyPrefix r ∧ n.key = PathKey.text r.path := by
  obtain ⟨hmem, hmax⟩ := ObjectInfo.newest?_spec h
  obtain ⟨path, content, modified, hfile, hbelow, rfl⟩ := (mem_listing hroot).mp hmem
  refine ⟨⟨path, content, modified⟩, ⟨⟨hfile, hbelow⟩, ?_⟩, rfl⟩
  intro q hq
  exact hmax _ ((mem_listing hroot).mpr ⟨q.path, q.content, q.modified, hq.file, hq.below, rfl⟩)

lemma find_text (hs : s.tree.WellNamed) {q : FileReading α} (h : s.find (PathKey.text r.path) = .ok q)
    (hr : s.Listed keyPrefix r) : q = r := by
  obtain ⟨k, hk, hpath, hlocate⟩ := find_eq_ok_iff.mp h
  rw [PathKey.ofString?_text (hs _ _ _ hr.file)] at hk
  cases hk
  have hfile := (locate_eq_file_iff.mp hlocate).2.2
  rw [hr.file] at hfile
  obtain ⟨path, content, modified⟩ := r
  obtain ⟨path', content', modified'⟩ := q
  simp_all

structure Settled (s : DirectoryStore f) (keyPrefix : String) (path : FilePath) (content : α) : Prop where
  named : s.tree.WellNamed
  aliased : s.tree.content? path = some content
  newest : ∀ r, s.NewestFile keyPrefix r → r.content = content

lemma settled_of_writtenAt (hs : s.tree.WellNamed) (hr : s.NewestFile keyPrefix r) (hk : IsFilePath k.names)
    (hne : r.path ≠ k.names) {modified : Instant} (hw : WrittenAt k.names r.content modified s.tree s'.tree) :
    s'.Settled keyPrefix k.names r.content := by
  refine ⟨hw.wellNamed hs hk, by rw [hw.content?, if_pos rfl], fun q hq => ?_⟩
  -- The copy can be older than what it copies or newer; it is the newest file then, or the same one is as before.
  by_cases hpath : q.path = k.names
  · have hfile := hq.file
    rw [hw, if_pos hpath] at hfile
    simp_all
  · have hq' : s.Listed keyPrefix q := hq.toListed.congr (by rw [hw, if_neg hpath])
    have hr' : s'.Listed keyPrefix r := hr.toListed.congr (by rw [hw, if_neg hne])
    rw [hr.toListed.eq_of_rank_eq hs hq' (le_antisymm (hq.newest r hr') (hr.newest q hq'))]

lemma Settled.congr {path : FilePath} {content : α} (h : s.Settled keyPrefix path content)
    (hf : ∀ q, s'.tree.file? q = s.tree.file? q) : s'.Settled keyPrefix path content := by
  refine ⟨h.named.congr hf, ?_, fun r hr => h.newest r (hr.congr hf)⟩
  rw [FileTree.content?, hf]
  exact h.aliased

/-- No detour to the alias is taken for another file: it is written as its path is, or it is not listed. -/
def Direct (keyPrefix aliasKey : String) (k : PathKey) : Prop :=
  PathKey.text k.names = aliasKey ∨ ¬ keyPrefix.toList <+: (PathKey.text k.names).toList

lemma Direct.path_ne (h : Direct keyPrefix aliasKey k) (hr : s.Listed keyPrefix r)
    (halias : PathKey.text r.path ≠ aliasKey) : r.path ≠ k.names := by
  intro hpath
  rcases h with h | h
  · exact halias (hpath ▸ h)
  · exact h (hpath ▸ hr.below)

variable [EmptyCollection α]

inductive Promotes (s : DirectoryStore f) (keyPrefix aliasKey : String) :
    Except PromotionError Promotion → DirectoryStore f → Prop
  | failed {e : PromotionError} {s' : DirectoryStore f} (hf : ∀ q, s'.tree.file? q = s.tree.file? q) :
    Promotes s keyPrefix aliasKey (.error e) s'
  | kept {r : FileReading α} (hr : s.NewestFile keyPrefix r) (halias : PathKey.text r.path = aliasKey) :
    Promotes s keyPrefix aliasKey (.ok ⟨PathKey.text r.path, false⟩) s
  | copied {r : FileReading α} {k : PathKey} {s' : DirectoryStore f} (hr : s.NewestFile keyPrefix r)
    (halias : PathKey.text r.path ≠ aliasKey) (hk : PathKey.ofString? aliasKey = some k)
    (hw : WrittenAt k.names (if r.path = k.names then ∅ else r.content) s.clock.now s.tree s'.tree) :
    Promotes s keyPrefix aliasKey (.ok ⟨PathKey.text r.path, true⟩) s'

lemma promotes (hs : s.tree.WellNamed) (keyPrefix aliasKey : String) :
    s.Promotes keyPrefix aliasKey ((promote keyPrefix aliasKey).run s).1
      ((promote keyPrefix aliasKey).run s).2 := by
  rw [run_promote, run_list]
  cases hdirectory : s.tree.isDirectory [] with
  | false => exact .failed fun _ => rfl
  | true =>
    have hroot : s.tree.node? [] = some .directory := (s.tree.isDirectory_iff []).mp hdirectory
    simp only [if_true]
    cases hn : ObjectInfo.newest? (s.listing keyPrefix) with
    | none => exact .failed fun _ => rfl
    | some n =>
      obtain ⟨r, hr, hkey⟩ := exists_newestFile hroot hn
      simp only [hkey]
      split
      · rename_i halias
        exact .kept hr halias
      · rename_i halias
        rcases hcopy : (ObjectStore.copy (PathKey.text r.path) aliasKey).run s with ⟨e | _, s'⟩
        · exact .failed ((copy_outcome hcopy).2.1 (by simp))
        · obtain ⟨q, k, hq, hk, -, hw⟩ := (copy_outcome hcopy).2.2 rfl
          obtain rfl := find_text hs hq hr.toListed
          exact .copied hr halias hk hw

def promoted (keyPrefix aliasKey : String) (s : DirectoryStore f) : DirectoryStore f :=
  ((promote keyPrefix aliasKey).run s).2

lemma Settled.step {content : α} (h : s.Settled keyPrefix k.names content)
    (hk : PathKey.ofString? aliasKey = some k) (hd : Direct keyPrefix aliasKey k) :
    (promoted keyPrefix aliasKey s).Settled keyPrefix k.names content ∧
      ∀ q, (promoted keyPrefix aliasKey s).tree.content? q = s.tree.content? q := by
  have hp := promotes h.named keyPrefix aliasKey
  rw [promoted]
  generalize ((promote keyPrefix aliasKey).run s).1 = result,
    ((promote keyPrefix aliasKey).run s).2 = s' at hp
  cases hp with
  | failed hf => exact ⟨h.congr hf, fun q => by rw [FileTree.content?, hf, FileTree.content?]⟩
  | kept hr halias => exact ⟨h, fun q => rfl⟩
  | copied hr halias hk' hw =>
    obtain rfl := Option.some.inj (hk'.symm.trans hk)
    have hne := hd.path_ne hr.toListed halias
    rw [if_neg hne] at hw
    -- What is copied once more is what the alias has.
    obtain rfl := h.newest _ hr
    refine ⟨settled_of_writtenAt h.named hr (PathKey.isFilePath_names hk) hne hw, fun q => ?_⟩
    rw [hw.content?]
    split
    · rename_i hq
      rw [hq, h.aliased]
    · rfl

lemma Settled.iterate {content : α} (h : s.Settled keyPrefix k.names content)
    (hk : PathKey.ofString? aliasKey = some k) (hd : Direct keyPrefix aliasKey k) (n : ℕ) :
    ((promoted keyPrefix aliasKey)^[n] s).Settled keyPrefix k.names content ∧
      ∀ q, ((promoted keyPrefix aliasKey)^[n] s).tree.content? q = s.tree.content? q := by
  induction n with
  | zero => exact ⟨h, fun q => rfl⟩
  | succ n ih =>
    rw [Function.iterate_succ_apply']
    obtain ⟨hsettled, hcontent⟩ := ih.1.step hk hd
    exact ⟨hsettled, fun q => (hcontent q).trans (ih.2 q)⟩

structure AliasEffect (s s' : DirectoryStore f) (keyPrefix aliasKey : String) (k : PathKey) (r : FileReading α) :
    Prop where
  newest : s.NewestFile keyPrefix r
  others : ∀ q, q ≠ k.names → s'.tree.content? q = s.tree.content? q
  aliased : (r.path = k.names → PathKey.text r.path = aliasKey) → s'.tree.content? k.names = some r.content
  lost : r.path = k.names → PathKey.text r.path ≠ aliasKey → s'.tree.content? k.names = some ∅
  repeated : Direct keyPrefix aliasKey k → ∀ n q,
    ((promoted keyPrefix aliasKey)^[n] s').tree.content? q = s'.tree.content? q

/-- A promotion that succeeds puts the newest file at the alias and changes no other, and so do any number of
them, unless the alias is a detour to a listed file: then the newest file is emptied if it is the alias. -/
theorem aliasEffect (hs : s.tree.WellNamed) (hk : PathKey.ofString? aliasKey = some k) {p : Promotion}
    (h : (promote keyPrefix aliasKey).run s = (.ok p, s')) :
    ∃ r, p.winner = PathKey.text r.path ∧ AliasEffect s s' keyPrefix aliasKey k r := by
  have hp := promotes hs keyPrefix aliasKey
  rw [h] at hp
  simp only at hp
  cases hp with
  | @kept r hr halias =>
    have hpath : r.path = k.names := by
      have htext := PathKey.ofString?_text (hs _ _ _ hr.file)
      rw [halias, hk] at htext
      rw [Option.some.inj htext]
    have halias' : s.tree.content? k.names = some r.content := by
      rw [← hpath, FileTree.content?, hr.file]
      rfl
    have hsettled : s.Settled keyPrefix k.names r.content :=
      ⟨hs, halias', fun q hq => by rw [hq.unique hs hr]⟩
    exact ⟨r, rfl, hr, fun _ _ => rfl, fun _ => halias', fun _ hne => absurd halias hne,
      fun hd n => (hsettled.iterate hk hd n).2⟩
  | @copied r k' _ hr halias hk' hw =>
    obtain rfl := Option.some.inj (hk'.symm.trans hk)
    refine ⟨r, rfl, hr, fun q hq => by rw [hw.content?, if_neg hq], ?_, ?_, ?_⟩
    · intro himp
      rw [hw.content?, if_pos rfl, if_neg fun hpath => halias (himp hpath)]
    · intro hpath _
      rw [hw.content?, if_pos rfl, if_pos hpath]
    · intro hd n
      have hne := hd.path_ne hr.toListed halias
      rw [if_neg hne] at hw
      exact ((settled_of_writtenAt hs hr (PathKey.isFilePath_names hk) hne hw).iterate hk hd n).2

def written (files : List (FilePath × List ℕ × Instant)) :
    DirectoryStore (⟨toString, List.length⟩ : Fingerprint (List ℕ)) :=
  files.foldl (fun s (path, content, modified) => ((writeFileAt ⟨path, .plain⟩ content modified).run s).2)
    { clock := ⟨fun n => n + 10, 0⟩ }

def twoUploads : DirectoryStore (⟨toString, List.length⟩ : Fingerprint (List ℕ)) :=
  written [(["rules", "b"], [3], 6), (["rules", "a"], [1, 2], 5)]

theorem aliasEffect_twoUploads :
    twoUploads.tree.WellNamed ∧ PathKey.ofString? "published/./b" = some ⟨["published", "b"], .plain⟩ ∧
    ∃ s' r, (promote "rules/" "published/./b").run twoUploads = (.ok ⟨"rules/b", true⟩, s') ∧
      PathKey.text r.path = "rules/b" ∧
      AliasEffect twoUploads s' "rules/" "published/./b" ⟨["published", "b"], .plain⟩ r := by
  have hnamed : twoUploads.tree.WellNamed := (wellNamed_iff (by decide +kernel)).mpr (by decide +kernel)
  have hkey : PathKey.ofString? "published/./b" = some ⟨["published", "b"], .plain⟩ := by decide +kernel
  have hlisting : twoUploads.listing "rules/" = [⟨"rules/a", 5, none⟩, ⟨"rules/b", 6, none⟩] := by
    rw [listing, show (twoUploads.tree.files.map _).filter _ = [⟨"rules/a", 5, none⟩, ⟨"rules/b", 6, none⟩] by
      decide +kernel]
    exact List.mergeSort_of_pairwise (by decide)
  have hok : ((promote "rules/" "published/./b").run twoUploads).1 = .ok ⟨"rules/b", true⟩ := by
    rw [run_promote, run_list, hlisting]
    exact toOption_eq_some_iff.mp (by decide +kernel)
  obtain ⟨r, hwinner, heffect⟩ := aliasEffect hnamed hkey (Prod.ext hok rfl)
  exact ⟨hnamed, hkey, _, r, Prod.ext hok rfl, hwinner.symm, heffect⟩

def oneUpload : DirectoryStore (⟨toString, List.length⟩ : Fingerprint (List ℕ)) :=
  written [(["rules", "latest.xlsx"], [1, 2], 5)]

theorem promote_detour_empties :
    PathKey.ofString? "rules//latest.xlsx" = some ⟨["rules", "latest.xlsx"], .plain⟩ ∧
    oneUpload.tree.files = [(["rules", "latest.xlsx"], [1, 2], 5)] ∧
    ((promote "rules/" "rules//latest.xlsx").run oneUpload).1 = .ok ⟨"rules/latest.xlsx", true⟩ ∧
    ((promote "rules/" "rules//latest.xlsx").run oneUpload).2.tree.content? ["rules", "latest.xlsx"] ≠
      some [1, 2] :=
  ⟨by decide +kernel, by decide +kernel, toOption_eq_some_iff.mp (by decide +kernel), by decide +kernel⟩

end DirectoryStore

end DiscountTables
