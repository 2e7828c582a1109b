import DiscountTables.Proofs.Results
import DiscountTables.Proofs.Store.Traversal
import DiscountTables.Proofs.Store.PathKey
import DiscountTables.Store.Directory

namespace DiscountTables

open Calendar

structure FileReading (α : Type) where
  path : FilePath
  content : α
  modified : Instant
  deriving DecidableEq

namespace DirectoryStore

variable {α : Type} {f : Fingerprint α} {s s' : DirectoryStore f} {key source target keyPrefix : String}
  {path : FilePath} {r : FileReading α}

def withTree (s : DirectoryStore f) (tree : FileTree α) : DirectoryStore f := { s with tree }

def find (s : DirectoryStore f) (key : String) : Except StoreError (FileReading α) :=
  match PathKey.ofString? key with
  | none => .error (.invalidKey key)
  | some k => match s.tree.locate k with
    | .error e => .error (missing key e)
    | .ok .directory => .error (.file .isADirectory)
    | .ok (.file content modified) => .ok ⟨k.names, content, modified⟩

def stamp (f : Fingerprint α) (r : FileReading α) : FileStamp := stampOf f r.content r.modified

def remember (s : DirectoryStore f) (r : FileReading α) : DirectoryStore f :=
  { s with remembered := s.remembered.insert r.path ⟨stamp f r, f.tag r.content⟩ }

def listing (s : DirectoryStore f) (keyPrefix : String) : List ObjectInfo :=
  ((s.tree.files.map fun (path, _, modified) => ObjectInfo.mk (PathKey.text path) modified none).filter fun o =>
    keyPrefix.toList.isPrefixOf o.key.toList).mergeSort fun a b => a.key ≤ b.key

def WrittenAt (path : FilePath) (content : α) (modified : Instant) (t t' : FileTree α) : Prop :=
  ∀ q, t'.file? q = if q = path then some (content, modified) else t.file? q

lemma find_eq_ok_iff : s.find key = .ok r ↔ ∃ k, PathKey.ofString? key = some k ∧ r.path = k.names ∧
    s.tree.locate k = .ok (.file r.content r.modified) := by
  rw [find]
  obtain ⟨path, content, modified⟩ := r
  cases PathKey.ofString? key with
  | none => simp
  | some k =>
    rcases h : s.tree.locate k with e | (⟨c, m⟩ | _)
    · simp [h]
    · simp [h, eq_comm]
    · simp [h]

lemma run_pathKey (key : String) (s : DirectoryStore f) : (pathKey key).run s =
    (match PathKey.ofString? key with
      | some k => .ok k
      | none => .error (.invalidKey key), s) := by
  rw [pathKey]
  cases PathKey.ofString? key <;> rfl

lemma run_locate (key : String) (k : PathKey) (s : DirectoryStore f) : (locate key k).run s =
    ((s.tree.locate k).mapError (missing key), s) := by
  rw [locate, run_bind, run_get]
  simp only
  cases s.tree.locate k <;> rfl

lemma run_onTree {ε : Type} (change : StoreAction (FileTree α) ε Unit) (s : DirectoryStore f) :
    (onTree change).run s = ((change.run s.tree).1, s.withTree (change.run s.tree).2) := by
  rw [onTree, run_bind, run_get]
  rcases h : change.run s.tree with ⟨_ | _, t⟩ <;> simp only [h] <;> rfl

lemma run_writeFileAt (key : PathKey) (content : α) (modified : Instant) (s : DirectoryStore f) :
    (writeFileAt key content modified).run s =
      match (FileTree.makeDirectories key.names.dropLast).run s.tree with
      | (.error e, t) => (.error e, s.withTree t)
      | (.ok (), t) => match t.checkWritable key with
        | .error e => (.error e, s.withTree t)
        | .ok () => (.ok (), s.withTree (t.put key.names (.file content modified.withoutLeap))) := by
  rw [writeFileAt, run_bind, run_onTree]
  rcases (FileTree.makeDirectories key.names.dropLast).run s.tree with ⟨e | _, t⟩
  · rfl
  · simp only [run_bind, run_get, withTree]
    cases t.checkWritable key <;> rfl

lemma writtenAt_put {k : PathKey} {content : α} {modified : Instant} {t t' : FileTree α}
    (hmake : (FileTree.makeDirectories k.names.dropLast).run t = (.ok (), t'))
    (hcheck : t'.checkWritable k = .ok ()) :
    WrittenAt k.names content modified t (t'.put k.names (.file content modified)) := by
  have hroom : t'.hasRoomFor k.names (.file content modified) = true :=
    FileTree.hasRoomFor_file.mpr ⟨Or.inr (FileTree.directory_of_makeDirectories hmake),
      (FileTree.checkWritable_eq_ok hcheck).2⟩
  have hfiles := FileTree.file?_makeDirectories k.names.dropLast t
  rw [hmake] at hfiles
  intro q
  rw [← hfiles q]
  by_cases hq : q = k.names
  · rw [if_pos hq, FileTree.file?_eq_some_iff, FileTree.node?_put hroom, if_pos hq]
  · rw [if_neg hq]
    apply FileTree.file?_congr
    rw [FileTree.node?_put hroom, if_neg hq]

section Runs

variable [EmptyCollection α]

lemma run_readFile (key : String) (s : DirectoryStore f) : (ObjectStore.get key).run s =
    match s.find key with
    | .error e => (.error e, s)
    | .ok r => (.ok ⟨r.content, f.tag r.content⟩, s.remember r) := by
  change (readFile key).run s = _
  rw [readFile, run_bind, run_pathKey, find]
  cases PathKey.ofString? key with
  | none => rfl
  | some k =>
    simp only [run_bind, run_locate]
    rcases s.tree.locate k with e | (⟨c, m⟩ | _) <;> rfl

lemma run_head (key : String) (s : DirectoryStore f) : (ObjectStore.head key).run s =
    match s.find key with
    | .error e => (.error e, s)
    | .ok r => match s.remembered? r.path (stamp f r) with
      | some tag => (.ok tag, s)
      | none => (.ok (f.tag r.content), s.remember r) := by
  change (head key).run s = _
  have hread : (readFile key).run s = (ObjectStore.get key).run s := rfl
  rw [run_readFile] at hread
  rw [head, run_bind, run_pathKey]
  rw [find] at hread ⊢
  cases hk : PathKey.ofString? key with
  | none => rfl
  | some k =>
    simp only [run_bind, run_locate]
    rw [hk] at hread
    rcases hl : s.tree.locate k with e | (⟨c, m⟩ | _)
    · rfl
    · simp only [hl, mapError_ok, run_bind, run_get, stamp] at hread ⊢
      cases s.remembered? k.names (stampOf f c m) with
      | some tag => rfl
      | none => simp only [run_bind, hread]; rfl
    · rfl

lemma run_list (keyPrefix : String) (s : DirectoryStore f) : (ObjectStore.list keyPrefix).run s =
    (if s.tree.isDirectory [] then .ok (s.listing keyPrefix) else .error (.file .notFound), s) := by
  change (list keyPrefix).run s = _
  rw [list, run_bind, run_get]
  simp only
  split <;> rfl

lemma run_copy (source target : String) (s : DirectoryStore f) :
    (ObjectStore.copy source target).run s = match PathKey.ofString? source with
      | none => (.error (.invalidKey source), s)
      | some sourceKey => match PathKey.ofString? target with
        | none => (.error (.invalidKey target), s)
        | some targetKey => match (FileTree.makeDirectories targetKey.names.dropLast).run s.tree with
          | (.error e, t) => (.error (.file e), s.withTree t)
          | (.ok (), t) => match t.locate sourceKey with
            | .error e => (.error (missing source e), s.withTree t)
            | .ok .directory => (.error (.file .notARegularFile), s.withTree t)
            | .ok (.file content _) => match t.checkWritable targetKey with
              | .error e => (.error (missing source e), s.withTree t)
              | .ok () => (.ok (), { s with
                tree := t.put targetKey.names
                  (.file (if sourceKey.names = targetKey.names then ∅ else content) s.clock.now)
                clock := s.clock.next }) := by
  change (copy source target).run s = _
  rw [copy, run_bind, run_pathKey]
  cases PathKey.ofString? source with
  | none => rfl
  | some sourceKey =>
    simp only [run_bind, run_pathKey]
    cases PathKey.ofString? target with
    | none => rfl
    | some targetKey =>
      simp only [run_adapt, run_onTree]
      rcases (FileTree.makeDirectories targetKey.names.dropLast).run s.tree with ⟨e | _, t⟩
      · rfl
      · simp only [mapError_ok, run_locate, withTree]
        rcases t.locate sourceKey with e | (⟨content, m⟩ | _)
        · rfl
        · simp only [mapError_ok, run_bind, run_get]
          cases t.checkWritable targetKey <;> rfl
        · rfl

/-- A copy that fails leaves all files as they are. One that succeeds puts what it reads at the target and
leaves the others; what is copied onto itself is lost. -/
lemma copy_outcome {result : Except StoreError Unit}
    (h : (ObjectStore.copy source target).run s = (result, s')) :
    s'.remembered = s.remembered ∧
    (result ≠ .ok () → ∀ q, s'.tree.file? q = s.tree.file? q) ∧
    (result = .ok () → ∃ r k, s.find source = .ok r ∧ PathKey.ofString? target = some k ∧ k.ending = .plain ∧
      WrittenAt k.names (if r.path = k.names then ∅ else r.content) s.clock.now s.tree s'.tree) := by
  rw [run_copy] at h
  cases hsource : PathKey.ofString? source with
  | none =>
    rw [hsource] at h
    cases h
    exact ⟨rfl, fun _ _ => rfl, by simp⟩
  | some sourceKey =>
  cases htarget : PathKey.ofString? target with
  | none =>
    simp only [hsource, htarget] at h
    cases h
    exact ⟨rfl, fun _ _ => rfl, by simp⟩
  | some targetKey =>
  have hfiles := FileTree.file?_makeDirectories targetKey.names.dropLast s.tree
  rcases hmake : (FileTree.makeDirectories targetKey.names.dropLast).run s.tree with ⟨e | _, t⟩ <;>
    simp only [hsource, htarget, hmake] at h hfiles
  · cases h
    exact ⟨rfl, fun _ => hfiles, by simp⟩
  rcases hlocate : t.locate sourceKey with e | (⟨content, modified⟩ | _) <;> simp only [hlocate] at h
  · cases h
    exact ⟨rfl, fun _ => hfiles, by simp⟩
  · cases hcheck : t.checkWritable targetKey with
    | error e =>
      simp only [hcheck] at h
      cases h
      exact ⟨rfl, fun _ => hfiles, by simp⟩
    | ok _ =>
      simp only [hcheck] at h
      cases h
      refine ⟨rfl, by simp, fun _ => ⟨⟨sourceKey.names, content, modified⟩, targetKey, ?_, rfl, ?_, ?_⟩⟩
      · -- The source is looked up after the directories are made, and is the file it was before.
        rw [FileTree.locate_eq_file_iff, hfiles, ← FileTree.locate_eq_file_iff] at hlocate
        exact find_eq_ok_iff.mpr ⟨sourceKey, hsource, rfl, hlocate⟩
      · exact (FileTree.checkWritable_eq_ok hcheck).1
      · exact writtenAt_put hmake hcheck
  · cases h
    exact ⟨rfl, fun _ => hfiles, by simp⟩

end Runs

lemma mem_listing (hroot : s.tree.node? [] = some .directory) {o : ObjectInfo} :
    o ∈ s.listing keyPrefix ↔ ∃ path content modified,
      s.tree.file? path = some (content, modified) ∧ keyPrefix.toList <+: (PathKey.text path).toList ∧
        o = ⟨PathKey.text path, modified, none⟩ := by
  simp only [listing, List.mem_mergeSort, List.mem_filter, List.mem_map, Prod.exists, List.isPrefixOf_iff_prefix,
    FileTree.mem_files_iff hroot]
  constructor
  · rintro ⟨⟨path, content, modified, hfile, rfl⟩, hbelow⟩
    exact ⟨path, content, modified, hfile, hbelow, rfl⟩
  · rintro ⟨path, content, modified, hfile, hbelow, rfl⟩
    exact ⟨⟨path, content, modified, hfile, rfl⟩, hbelow⟩

end DirectoryStore

end DiscountTables
