import DiscountTables.Proofs.Store.Alias
import DiscountTables.Proofs.Store.Calls
import DiscountTables.Proofs.Text.ByteOrder

namespace DiscountTables

open Calendar Text

namespace PathKey

variable {key : String} {k : PathKey} {root : FilePath}

def follow (start : FilePath) (segment : List Char) : FilePath :=
  if segment = ['.', '.'] then start.dropLast
  else if isName segment then start ++ [String.ofList segment]
  else start

def destination (root : FilePath) (key : String) : FilePath :=
  (segments key).foldl follow (if key.toList.head? = some '/' then [] else root)

lemma head?_pieces_eq_nil_iff {cut : Char → Bool} {s : List Char} :
    (pieces cut s).head? = some [] ↔ s = [] ∨ ∃ c, s.head? = some c ∧ cut c = true := by
  cases s with
  | nil => simp [pieces]
  | cons c s =>
    rw [pieces]
    by_cases hc : cut c = true
    · simp [hc]
    · cases hp : pieces cut s <;> simp [hc]

lemma head?_segments_eq_nil_iff : (segments key).head? = some [] ↔ key = "" ∨ key.toList.head? = some '/' := by
  rw [segments, head?_pieces_eq_nil_iff, String.toList_eq_nil_iff]
  simp

lemma exists_ofString?_iff : (∃ k, ofString? key = some k) ↔
    isConfined (segments key) = true := by
  simp only [ofString?]
  split <;> simp_all

lemma accepted_iff : (∃ k, ofString? key = some k) ↔ key ≠ "" ∧ key.toList.head? ≠ some '/' ∧
    (segments key).head? ≠ some ['.'] ∧ ['.', '.'] ∉ segments key := by
  have hnil : (segments key).head? = some [] ↔ key = "" ∨ key.toList.head? = some '/' := head?_segments_eq_nil_iff
  have hup : ((segments key).all fun s => s != ['.', '.']) = true ↔ ['.', '.'] ∉ segments key := by
    rw [List.all_eq_true]
    exact ⟨fun h hmem => by simpa using h _ hmem, fun h s hs => bne_iff_ne.mpr fun heq => h (heq ▸ hs)⟩
  rw [exists_ofString?_iff, ← and_assoc, ← not_or, ← hnil, isConfined, Bool.and_eq_true, hup, ← and_assoc]
  obtain ⟨first, rest, hs⟩ := List.exists_cons_of_ne_nil (segments_ne_nil key)
  simp [isName, hs]

lemma names_eq (h : ofString? key = some k) : k.names = ((segments key).filter isName).map String.ofList := by
  simp only [ofString?] at h
  split at h
  · cases h
    rfl
  · cases h

lemma foldl_follow {segments : List (List Char)} (h : ['.', '.'] ∉ segments) :
    segments.foldl follow root = root ++ (segments.filter isName).map String.ofList := by
  induction segments generalizing root with
  | nil => simp
  | cons segment segments ih =>
    obtain ⟨hup, hrest⟩ := List.ne_and_not_mem_of_not_mem_cons h
    rw [List.foldl_cons, ih hrest, follow, if_neg hup.symm]
    cases hname : isName segment <;> simp [hname]

lemma below_root (h : ofString? key = some k) {way : List (List Char)} (hway : way <+: segments key) :
    root <+: way.foldl follow root := by
  obtain ⟨-, -, -, hup⟩ := accepted_iff.mp ⟨k, h⟩
  rw [foldl_follow fun hmem => hup (hway.subset hmem)]
  exact List.prefix_append _ _

lemma destination_eq (h : ofString? key = some k) : destination root key = root ++ k.names := by
  obtain ⟨-, hslash, -, hup⟩ := accepted_iff.mp ⟨k, h⟩
  rw [destination, if_neg hslash, foldl_follow hup, names_eq h]

end PathKey

namespace FileTree

variable {α : Type} {t : FileTree α} {path q : FilePath}

def Storable (t : FileTree α) : Prop := ∀ path c m, t.file? path = some (c, m) → IsFilePath path ∧ Accepts path

instance (path : FilePath) : Decidable (Accepts path) :=
  decidable_of_iff ((hasNul path || path.any isTooLong) = false) (by
    simp only [Bool.or_eq_false_iff, List.any_eq_false, Bool.not_eq_true]
    exact ⟨fun h => ⟨h.1, h.2⟩, fun h => ⟨h.noNul, h.short⟩⟩)

lemma Storable.wellNamed (h : t.Storable) : t.WellNamed := fun path c m hfile => (h path c m hfile).1

lemma node?_put_of_ne {n : FileNode α} (h : q ≠ path) : (t.put path n).node? q = t.node? q := by
  by_cases hroom : t.hasRoomFor path n = true
  · rw [node?_put hroom, if_neg h]
  · rw [put, dif_neg hroom]

lemma node?_makeDirectoriesFrom {rest : FilePath} (h : ¬ q <+: path ++ rest) :
    ((makeDirectoriesFrom path rest).run t).2.node? q = t.node? q := by
  have hne : q ≠ path := by
    rintro rfl
    exact h (List.prefix_append q rest)
  induction rest generalizing path t with
  | nil =>
    rw [makeDirectoriesFrom, run_makeDirectory]
    cases t.file? path with
    | some _ => rfl
    | none => exact node?_put_of_ne hne
  | cons name rest ih =>
    rw [List.append_cons] at h
    have hne' : q ≠ path ++ [name] := by
      rintro rfl
      exact h (List.prefix_append _ rest)
    rw [run_makeDirectoriesFrom_cons]
    cases t.file? path with
    | some _ => rfl
    | none =>
      simp only
      split
      · exact node?_put_of_ne hne
      · rw [ih h hne', node?_put_of_ne hne]

lemma node?_makeDirectories (h : ¬ q <+: path) : ((makeDirectories path).run t).2.node? q = t.node? q := by
  rw [run_makeDirectories]
  split
  · rfl
  · exact node?_makeDirectoriesFrom h

end FileTree

namespace DirectoryStore

open FileTree

variable {α : Type} {f : Fingerprint α} {s s' : DirectoryStore f} {keyPrefix key source target : String}
  {r : FileReading α} {root : FilePath} [EmptyCollection α]

structure Lists (s : DirectoryStore f) (root : FilePath) (keyPrefix : String) (found : List ObjectInfo) : Prop where
  ascending : (found.map fun o => bytes o.key).Pairwise (· < ·)
  entries : ∀ o, o ∈ found ↔ ∃ r, s.Listed keyPrefix r ∧ o = ⟨PathKey.text r.path, r.modified, none⟩
  single : ∀ r, s.Listed keyPrefix r → ∃! o, o ∈ found ∧ PathKey.ofString? o.key = some ⟨r.path, .plain⟩
  resolved : ∀ r, s.Listed keyPrefix r → PathKey.destination root (PathKey.text r.path) = root ++ r.path
  fetched : ∀ r, s.Listed keyPrefix r →
    ((ObjectStore.get (PathKey.text r.path)).run s).1 = .ok ⟨r.content, f.tag r.content⟩
  headed : ∀ r, s.Listed keyPrefix r → ((ObjectStore.head (PathKey.text r.path)).run s).1 =
    .ok ((s.remembered? r.path (stamp f r)).getD (f.tag r.content))

omit [EmptyCollection α] in
lemma find_listed (hs : s.tree.Storable) (hr : s.Listed keyPrefix r) : s.find (PathKey.text r.path) = .ok r := by
  obtain ⟨hpath, haccepts⟩ := hs _ _ _ hr.file
  apply find_eq_ok_iff.mpr
  exact ⟨_, PathKey.ofString?_text hpath, rfl, locate_eq_file_iff.mpr ⟨rfl, haccepts, hr.file⟩⟩

lemma head_of_find (h : s.find key = .ok r) : ((ObjectStore.head key).run s).1 =
    .ok ((s.remembered? r.path (stamp f r)).getD (f.tag r.content)) := by
  rw [run_head, h]
  simp only
  cases s.remembered? r.path (stamp f r) <;> rfl

omit [EmptyCollection α] in
lemma mem_listing_iff (hroot : s.tree.node? [] = some .directory) {o : ObjectInfo} : o ∈ s.listing keyPrefix ↔
    ∃ r, s.Listed keyPrefix r ∧ o = ⟨PathKey.text r.path, r.modified, none⟩ := by
  rw [mem_listing hroot]
  constructor
  · rintro ⟨path, content, modified, hfile, hbelow, rfl⟩
    exact ⟨⟨path, content, modified⟩, ⟨hfile, hbelow⟩, rfl⟩
  · rintro ⟨r, hr, rfl⟩
    exact ⟨r.path, r.content, r.modified, hr.file, hr.below, rfl⟩

lemma lists_listing (hroot : s.tree.node? [] = some .directory) (hs : s.tree.Storable) (root : FilePath)
    (keyPrefix : String) : s.Lists root keyPrefix (s.listing keyPrefix) := by
  have hnamed : ∀ e ∈ s.tree.files, IsFilePath e.1 := (wellNamed_iff hroot).mp hs.wellNamed
  refine ⟨?_, fun o => mem_listing_iff hroot, ?_, ?_, ?_, fun r hr => head_of_find (find_listed hs hr)⟩
  · have hkeys := s.keys_listing_sorted keyPrefix hnamed
    rw [List.pairwise_map] at hkeys ⊢
    exact hkeys.imp bytes_lt
  · intro r hr
    have hkey := PathKey.ofString?_text (hs _ _ _ hr.file).1
    refine ⟨_, ⟨(mem_listing_iff hroot).mpr ⟨r, hr, rfl⟩, hkey⟩, ?_⟩
    rintro o ⟨hmem, ho⟩
    obtain ⟨q, hq, rfl⟩ := (mem_listing_iff hroot).mp hmem
    rw [PathKey.ofString?_text (hs _ _ _ hq.file).1] at ho
    have hpath : q.path = r.path := congrArg PathKey.names (Option.some.inj ho)
    have hfile := hq.file
    rw [hpath, hr.file] at hfile
    obtain ⟨-, hmodified⟩ := Prod.mk.inj (Option.some.inj hfile)
    rw [hpath, hmodified]
  · intro r hr
    exact PathKey.destination_eq (PathKey.ofString?_text (hs _ _ _ hr.file).1)
  · intro r hr
    rw [run_readFile, find_listed hs hr]

structure Reaches (s : DirectoryStore f) (root : FilePath) (key : String) : Prop where
  accepted : (∃ k, PathKey.ofString? key = some k) ↔ key ≠ "" ∧ key.toList.head? ≠ some '/' ∧
    (PathKey.segments key).head? ≠ some ['.'] ∧ ['.', '.'] ∉ PathKey.segments key
  names : ∀ k, PathKey.ofString? key = some k → k.names =
    ((PathKey.segments key).filter fun segment => segment ≠ [] ∧ segment ≠ ['.']).map String.ofList
  destination : ∀ k, PathKey.ofString? key = some k → PathKey.destination root key = root ++ k.names
  below : ∀ k, PathKey.ofString? key = some k → ∀ way, way <+: PathKey.segments key →
    root <+: way.foldl PathKey.follow root
  refused : PathKey.ofString? key = none → (ObjectStore.get key).run s = (.error (.invalidKey key), s) ∧
    (ObjectStore.head key).run s = (.error (.invalidKey key), s)
  unchanged : ((ObjectStore.get key).run s).2.tree = s.tree ∧ ((ObjectStore.head key).run s).2.tree = s.tree
  fetched : ∀ d, ((ObjectStore.get key).run s).1 = .ok d → ∃ k m, PathKey.ofString? key = some k ∧
    s.tree.file? k.names = some (d.content, m)
  headed : ∀ tag, ((ObjectStore.head key).run s).1 = .ok tag → ∃ k c m, PathKey.ofString? key = some k ∧
    s.tree.file? k.names = some (c, m)

omit [EmptyCollection α] in
lemma file_of_find (h : s.find key = .ok r) : ∃ k, PathKey.ofString? key = some k ∧
    s.tree.file? k.names = some (r.content, r.modified) := by
  obtain ⟨k, hk, -, hlocate⟩ := find_eq_ok_iff.mp h
  exact ⟨k, hk, (locate_eq_file_iff.mp hlocate).2.2⟩

lemma reaches (s : DirectoryStore f) (root : FilePath) (key : String) : s.Reaches root key := by
  refine ⟨PathKey.accepted_iff, ?_, fun k => PathKey.destination_eq, fun k h way => PathKey.below_root h,
    ?_, ?_, ?_, ?_⟩
  · intro k h
    rw [PathKey.names_eq h]
    congr 2
    funext segment
    rw [PathKey.isName, Bool.decide_and]
    simp only [bne, decide_not, Bool.beq_eq_decide_eq]
  · intro h
    rw [run_readFile, run_head, find, h]
    exact ⟨rfl, rfl⟩
  · rw [run_readFile, run_head]
    cases s.find key with
    | error e => exact ⟨rfl, rfl⟩
    | ok r =>
      simp only
      cases s.remembered? r.path (stamp f r) <;> exact ⟨rfl, rfl⟩
  · intro d h
    rw [run_readFile] at h
    cases hfind : s.find key with
    | error e =>
      rw [hfind] at h
      cases h
    | ok r =>
      rw [hfind] at h
      cases h
      obtain ⟨k, hk, hfile⟩ := file_of_find hfind
      exact ⟨k, r.modified, hk, hfile⟩
  · intro tag h
    rw [run_head] at h
    cases hfind : s.find key with
    | error e =>
      rw [hfind] at h
      cases h
    | ok r =>
      obtain ⟨k, hk, hfile⟩ := file_of_find hfind
      exact ⟨k, r.content, r.modified, hk, hfile⟩

structure CopiesWithin (s : DirectoryStore f) (source target : String) : Prop where
  refused : PathKey.ofString? source = none ∨ PathKey.ofString? target = none →
    ∃ key, (ObjectStore.copy source target).run s = (.error (.invalidKey key), s)
  elsewhere : ∀ q, ((ObjectStore.copy source target).run s).2.tree.node? q ≠ s.tree.node? q →
    ∃ k, PathKey.ofString? target = some k ∧ q <+: k.names
  copied : ((ObjectStore.copy source target).run s).1 = .ok () → ∃ r k, s.find source = .ok r ∧
    PathKey.ofString? target = some k ∧
      WrittenAt k.names (if r.path = k.names then ∅ else r.content) s.clock.now s.tree
        ((ObjectStore.copy source target).run s).2.tree

lemma node?_run_copy {q : FilePath} (h : ∀ k, PathKey.ofString? target = some k → ¬ q <+: k.names) :
    ((ObjectStore.copy source target).run s).2.tree.node? q = s.tree.node? q := by
  rw [run_copy]
  cases PathKey.ofString? source with
  | none => rfl
  | some sourceKey =>
  cases htarget : PathKey.ofString? target with
  | none => rfl
  | some k =>
    have hq := h k htarget
    have hmake : ((FileTree.makeDirectories k.names.dropLast).run s.tree).2.node? q = s.tree.node? q :=
      node?_makeDirectories fun hbelow => hq (hbelow.trans k.names.dropLast_prefix)
    rcases hrun : (FileTree.makeDirectories k.names.dropLast).run s.tree with ⟨e | _, t⟩ <;>
      simp only [hrun] at hmake ⊢
    · exact hmake
    · rcases t.locate sourceKey with e | (⟨content, modified⟩ | _) <;> simp only
      · exact hmake
      · cases t.checkWritable k with
        | error e => exact hmake
        | ok _ =>
          rw [← hmake]
          apply node?_put_of_ne
          rintro rfl
          exact hq (List.prefix_refl _)
      · exact hmake

lemma copiesWithin (s : DirectoryStore f) (source target : String) : s.CopiesWithin source target := by
  refine ⟨?_, ?_, ?_⟩
  · intro h
    rw [run_copy]
    cases hsource : PathKey.ofString? source with
    | none => exact ⟨source, rfl⟩
    | some sourceKey =>
      obtain htarget : PathKey.ofString? target = none := h.resolve_left (by simp [hsource])
      rw [htarget]
      exact ⟨target, rfl⟩
  · intro q
    contrapose!
    exact node?_run_copy
  · intro h
    obtain ⟨r, k, hr, hk, -, hw⟩ := (copy_outcome (Prod.ext h rfl)).2.2 rfl
    exact ⟨r, k, hr, hk, hw⟩

/-- A listing has every file below the root once, in the order of the keys' bytes, under a key by which the file is
found. A key is taken unless it is empty, begins with a slash or a dot segment, or goes up; and no key that is taken
leads out of the root, so that only files below it are read or written. -/
theorem confinement (hroot : s.tree.isDirectory [] = true) (hs : s.tree.Storable) (root : FilePath) :
    (∀ keyPrefix, ∃ found, (ObjectStore.list keyPrefix).run s = (.ok found, s) ∧ s.Lists root keyPrefix found) ∧
    (∀ key, s.Reaches root key) ∧ ∀ source target, s.CopiesWithin source target := by
  refine ⟨fun keyPrefix => ⟨s.listing keyPrefix, ?_, ?_⟩, s.reaches root, s.copiesWithin⟩
  · rw [run_list, if_pos hroot]
  · exact lists_listing ((s.tree.isDirectory_iff []).mp hroot) hs root keyPrefix

def archive : DirectoryStore (⟨toString, List.length⟩ : Fingerprint (List ℕ)) :=
  written [(["rules", "archive", "b"], [3], 6), (["rules", "a"], [1, 2], 5), (["readme"], [7], 4)]

theorem confinement_archive : archive.tree.isDirectory [] = true ∧ archive.tree.Storable ∧
    (∀ keyPrefix, ∃ found, (ObjectStore.list keyPrefix).run archive = (.ok found, archive) ∧
      archive.Lists ["srv", "bucket"] keyPrefix found) ∧
    (∀ key, archive.Reaches ["srv", "bucket"] key) ∧ ∀ source target, archive.CopiesWithin source target := by
  have hroot : archive.tree.isDirectory [] = true := by decide +kernel
  have hs : archive.tree.Storable :=
    (forall_file_iff ((archive.tree.isDirectory_iff []).mp hroot)).mpr (by decide +kernel)
  exact ⟨hroot, hs, confinement hroot hs ["srv", "bucket"]⟩

end DirectoryStore

end DiscountTables
