import DiscountTables.Proofs.Store.FileTree

namespace DiscountTables

open Calendar

namespace FileTree

variable {α : Type} {t : FileTree α} {path directory : FilePath} {n : FileNode α} {content : α} {modified : Instant}
  {pending : List FilePath} {steps : ℕ}

lemma mem_entries_iff : (path, n) ∈ t.nodes.entries ↔ t.node? path = some n :=
  FiniteMap.mem_entries_iff t.nodes path n

lemma mem_entriesIn_iff : (path, n) ∈ t.entriesIn directory ↔
    t.node? path = some n ∧ path ≠ [] ∧ path.dropLast = directory := by
  simp [entriesIn, mem_entries_iff]

lemma mem_filesAmong_iff {entries : List (FilePath × FileNode α)} :
    (path, content, modified) ∈ filesAmong entries ↔ (path, .file content modified) ∈ entries := by
  rw [filesAmong, List.mem_filterMap]
  constructor
  · rintro ⟨⟨p, node⟩, hmem, h⟩
    cases node with
    | file c m =>
      obtain ⟨rfl, rfl, rfl⟩ : p = path ∧ c = content ∧ m = modified := by simpa using h
      exact hmem
    | directory => cases h
  · intro h
    exact ⟨_, h, rfl⟩

lemma mem_directoriesAmong_iff {entries : List (FilePath × FileNode α)} :
    path ∈ directoriesAmong entries ↔ (path, .directory) ∈ entries := by
  rw [directoriesAmong, List.mem_filterMap]
  constructor
  · rintro ⟨⟨p, node⟩, hmem, h⟩
    cases node with
    | file c m => cases h
    | directory =>
      obtain rfl : p = path := by simpa using h
      exact hmem
  · intro h
    exact ⟨_, h, rfl⟩

structure Apart (t : FileTree α) (pending : List FilePath) : Prop where
  directory : ∀ d ∈ pending, t.node? d = some .directory
  apart : pending.Pairwise fun d e => ¬ d <+: e ∧ ¬ e <+: d

def pendingAfter (t : FileTree α) (directory : FilePath) (pending : List FilePath) : List FilePath :=
  (directoriesAmong (t.entriesIn directory)).reverse ++ pending

lemma filesFrom_succ : t.filesFrom (steps + 1) (directory :: pending) =
    filesAmong (t.entriesIn directory) ++ t.filesFrom steps (t.pendingAfter directory pending) := rfl

lemma concat_iff : path ≠ [] ∧ path.dropLast = directory ↔ ∃ name, path = directory ++ [name] := by
  constructor
  · rintro ⟨hne, rfl⟩
    exact ⟨path.getLast hne, (List.dropLast_append_getLast hne).symm⟩
  · rintro ⟨name, rfl⟩
    simp

lemma mem_pendingAfter_iff : path ∈ t.pendingAfter directory pending ↔
    (t.node? path = some .directory ∧ ∃ name, path = directory ++ [name]) ∨ path ∈ pending := by
  rw [pendingAfter, List.mem_append, List.mem_reverse, mem_directoriesAmong_iff, mem_entriesIn_iff, concat_iff]

lemma not_prefix_concat {d : FilePath} {name : String} (h : ¬ d <+: directory ∧ ¬ directory <+: d) :
    ¬ d <+: directory ++ [name] ∧ ¬ directory ++ [name] <+: d := by
  constructor
  · intro hd
    rcases List.prefix_concat_iff.mp hd with rfl | hd
    · exact h.2 (List.prefix_append directory [name])
    · exact h.1 hd
  · intro hd
    exact h.2 ((List.prefix_append directory [name]).trans hd)

lemma not_prefix_of_ne {d e : FilePath} (hlength : d.length = e.length) (hne : d ≠ e) : ¬ d <+: e ∧ ¬ e <+: d :=
  ⟨fun h => hne (h.eq_of_length hlength), fun h => hne (h.eq_of_length hlength.symm).symm⟩

lemma entriesIn_nodup (t : FileTree α) (directory : FilePath) : ((t.entriesIn directory).map Prod.fst).Nodup :=
  t.nodes.nodup.sublist (List.filter_sublist.map Prod.fst)

lemma filesAmong_sublist (entries : List (FilePath × FileNode α)) :
    ((filesAmong entries).map Prod.fst).Sublist (entries.map Prod.fst) := by
  induction entries with
  | nil => exact .slnil
  | cons e rest ih =>
    obtain ⟨p, node⟩ := e
    cases node with
    | file c m => exact ih.cons_cons p
    | directory => exact ih.cons p

lemma directoriesAmong_sublist (entries : List (FilePath × FileNode α)) :
    (directoriesAmong entries).Sublist (entries.map Prod.fst) := by
  induction entries with
  | nil => exact .slnil
  | cons e rest ih =>
    obtain ⟨p, node⟩ := e
    cases node with
    | file c m => exact ih.cons p
    | directory => exact ih.cons_cons p

lemma Apart.step (h : t.Apart (directory :: pending)) : t.Apart (t.pendingAfter directory pending) := by
  obtain ⟨hapart, hpending⟩ := List.pairwise_cons.mp h.apart
  constructor
  · intro d hd
    rcases mem_pendingAfter_iff.mp hd with ⟨hdirectory, -⟩ | hd
    · exact hdirectory
    · exact h.directory d (List.mem_cons_of_mem _ hd)
  · rw [pendingAfter, List.pairwise_append]
    have hchild : ∀ d ∈ (directoriesAmong (t.entriesIn directory)).reverse, ∃ name, d = directory ++ [name] := by
      intro d hd
      rw [List.mem_reverse, mem_directoriesAmong_iff, mem_entriesIn_iff, concat_iff] at hd
      exact hd.2
    have hnodup : (directoriesAmong (t.entriesIn directory)).reverse.Nodup :=
      List.nodup_reverse.mpr ((t.entriesIn_nodup directory).sublist (directoriesAmong_sublist _))
    refine ⟨?_, hpending, ?_⟩
    · refine List.Pairwise.imp_of_mem ?_ hnodup
      intro d e hd he hne
      obtain ⟨x, rfl⟩ := hchild d hd
      obtain ⟨y, rfl⟩ := hchild e he
      exact not_prefix_of_ne (by simp) hne
    · intro d hd e he
      obtain ⟨x, rfl⟩ := hchild d hd
      exact (not_prefix_concat (hapart e he).symm).symm

lemma Apart.not_above {d : FilePath} (h : t.Apart (directory :: pending)) (hd : d ∈ t.pendingAfter directory pending) :
    ¬ d <+: directory := by
  intro habove
  rcases mem_pendingAfter_iff.mp hd with ⟨-, name, rfl⟩ | hd
  · have hlength := habove.length_le
    rw [List.length_append, List.length_singleton] at hlength
    omega
  · exact ((List.pairwise_cons.mp h.apart).1 d hd).2 habove

def directoriesBelow (t : FileTree α) (pending : List FilePath) : Finset FilePath :=
  t.nodes.keys.toFinset.filter fun p => t.isDirectory p && pending.any fun d => d.isPrefixOf p

lemma mem_directoriesBelow_iff : path ∈ t.directoriesBelow pending ↔
    t.node? path = some .directory ∧ ∃ d ∈ pending, d <+: path := by
  simp only [directoriesBelow, Finset.mem_filter, List.mem_toFinset, Bool.and_eq_true, isDirectory_iff,
    List.any_eq_true, List.isPrefixOf_iff_prefix]
  refine ⟨And.right, fun h => ⟨?_, h⟩⟩
  exact List.mem_map.mpr ⟨(path, .directory), mem_entries_iff.mpr h.1, rfl⟩

lemma directoriesBelow_ssubset (h : t.Apart (directory :: pending)) :
    t.directoriesBelow (t.pendingAfter directory pending) ⊂ t.directoriesBelow (directory :: pending) := by
  rw [Finset.ssubset_iff_of_subset]
  · -- The directory itself is not below any that is pending after it.
    have hself := h.directory directory List.mem_cons_self
    refine ⟨directory, mem_directoriesBelow_iff.mpr ⟨hself, directory, List.mem_cons_self, List.prefix_refl _⟩, ?_⟩
    rw [mem_directoriesBelow_iff]
    rintro ⟨-, d, hd, habove⟩
    exact h.not_above hd habove
  · intro path hpath
    obtain ⟨hnode, d, hd, hbelow⟩ := mem_directoriesBelow_iff.mp hpath
    apply mem_directoriesBelow_iff.mpr
    rcases mem_pendingAfter_iff.mp hd with ⟨-, name, rfl⟩ | hd
    · exact ⟨hnode, directory, List.mem_cons_self, (List.prefix_append _ _).trans hbelow⟩
    · exact ⟨hnode, d, List.mem_cons_of_mem _ hd, hbelow⟩

lemma card_pendingAfter_le (h : t.Apart (directory :: pending))
    (hsteps : (t.directoriesBelow (directory :: pending)).card ≤ steps + 1) :
    (t.directoriesBelow (t.pendingAfter directory pending)).card ≤ steps :=
  Nat.le_of_lt_succ ((Finset.card_lt_card (directoriesBelow_ssubset h)).trans_le hsteps)

lemma card_pos (h : t.Apart (directory :: pending)) : 0 < (t.directoriesBelow (directory :: pending)).card :=
  (Nat.zero_le _).trans_lt (Finset.card_lt_card (directoriesBelow_ssubset h))

lemma prefix_iff_of_file (hdirectory : t.node? directory = some .directory)
    (hfile : t.node? path = some (.file content modified)) : directory <+: path ↔
      (∃ name, path = directory ++ [name]) ∨
        ∃ d, (t.node? d = some .directory ∧ ∃ name, d = directory ++ [name]) ∧ d <+: path := by
  constructor
  · rintro ⟨rest, rfl⟩
    cases rest with
    | nil =>
      rw [List.append_nil, hdirectory] at hfile
      cases hfile
    | cons name rest =>
      rw [List.append_cons] at hfile ⊢
      by_cases hrest : rest = []
      · subst hrest
        exact Or.inl ⟨name, List.append_nil _⟩
      · have hne : t.node? (directory ++ [name] ++ rest) ≠ none := by
          rw [hfile]
          simp
        have hnode := directory_of_below hne hrest
        exact Or.inr ⟨directory ++ [name], ⟨hnode, name, rfl⟩, List.prefix_append _ _⟩
  · rintro (⟨name, rfl⟩ | ⟨d, ⟨-, name, rfl⟩, hbelow⟩)
    · exact List.prefix_append _ _
    · exact (List.prefix_append _ _).trans hbelow

lemma mem_filesFrom_iff (h : t.Apart pending) (hsteps : (t.directoriesBelow pending).card ≤ steps) :
    (path, content, modified) ∈ t.filesFrom steps pending ↔
      t.file? path = some (content, modified) ∧ ∃ d ∈ pending, d <+: path := by
  rw [file?_eq_some_iff]
  induction steps generalizing pending with
  | zero =>
    cases pending with
    | nil => simp [filesFrom]
    | cons directory pending => exact absurd (card_pos h) (not_lt.mpr hsteps)
  | succ steps ih =>
    cases pending with
    | nil => simp [filesFrom]
    | cons directory pending =>
      rw [filesFrom_succ, List.mem_append, mem_filesAmong_iff, mem_entriesIn_iff, concat_iff,
        ih h.step (card_pendingAfter_le h hsteps), ← and_or_left]
      apply and_congr_right
      intro hfile
      simp only [mem_pendingAfter_iff, or_and_right, exists_or, List.exists_mem_cons_iff, ← or_assoc]
      rw [prefix_iff_of_file (h.directory directory List.mem_cons_self) hfile]

lemma filesFrom_nodup (h : t.Apart pending) (hsteps : (t.directoriesBelow pending).card ≤ steps) :
    ((t.filesFrom steps pending).map Prod.fst).Nodup := by
  induction steps generalizing pending with
  | zero =>
    cases pending with
    | nil => simp [filesFrom]
    | cons directory pending => exact absurd (card_pos h) (not_lt.mpr hsteps)
  | succ steps ih =>
    cases pending with
    | nil => simp [filesFrom]
    | cons directory pending =>
      have hcard := card_pendingAfter_le h hsteps
      rw [filesFrom_succ, List.map_append, List.nodup_append]
      refine ⟨(t.entriesIn_nodup directory).sublist (filesAmong_sublist _), ih h.step hcard, ?_⟩
      rintro path hhere _ hlater rfl
      obtain ⟨⟨_, content, modified⟩, hmem, rfl⟩ := List.mem_map.mp hhere
      obtain ⟨hfile, hconcat⟩ := mem_entriesIn_iff.mp (mem_filesAmong_iff.mp hmem)
      obtain ⟨name, rfl⟩ := concat_iff.mp hconcat
      obtain ⟨⟨_, content', modified'⟩, hmem', heq⟩ := List.mem_map.mp hlater
      obtain rfl : _ = directory ++ [name] := heq
      obtain ⟨-, d, hd, hbelow⟩ := (mem_filesFrom_iff h.step hcard).mp hmem'
      -- A pending directory that leads to a file of this one would be this one, or the file.
      rcases List.prefix_concat_iff.mp hbelow with rfl | hbelow
      · rw [h.step.directory _ hd] at hfile
        cases hfile
      · exact h.not_above hd hbelow

lemma apart_root (h : t.node? [] = some .directory) : t.Apart [[]] :=
  ⟨by simpa using h, List.pairwise_singleton _ _⟩

lemma card_directoriesBelow_le (t : FileTree α) (pending : List FilePath) :
    (t.directoriesBelow pending).card ≤ t.nodes.entries.length := by
  calc (t.directoriesBelow pending).card ≤ t.nodes.keys.toFinset.card := Finset.card_filter_le _ _
    _ ≤ t.nodes.keys.length := t.nodes.keys.toFinset_card_le
    _ = t.nodes.entries.length := List.length_map _

lemma files_eq_nil (h : t.node? [] ≠ some .directory) : t.files = [] := by
  have hentries : t.entriesIn [] = [] := by
    rw [List.eq_nil_iff_forall_not_mem]
    rintro ⟨path, node⟩ hmem
    obtain ⟨hnode, hne, -⟩ := mem_entriesIn_iff.mp hmem
    have hbelow : t.node? ([] ++ path) ≠ none := by
      rw [List.nil_append, hnode]
      simp
    exact h (directory_of_below hbelow hne)
  rw [files]
  cases t.nodes.entries.length with
  | zero => rfl
  | succ steps =>
    rw [filesFrom_succ, pendingAfter, hentries]
    simp [filesAmong, directoriesAmong, filesFrom]

lemma mem_files_iff (hroot : t.node? [] = some .directory) :
    (path, content, modified) ∈ t.files ↔ t.file? path = some (content, modified) := by
  rw [files, mem_filesFrom_iff (apart_root hroot) (t.card_directoriesBelow_le _)]
  simp

lemma forall_file_iff (hroot : t.node? [] = some .directory) {P : FilePath → Prop} :
    (∀ path c m, t.file? path = some (c, m) → P path) ↔ ∀ e ∈ t.files, P e.1 := by
  constructor
  · rintro h ⟨path, content, modified⟩ hmem
    exact h path content modified ((mem_files_iff hroot).mp hmem)
  · intro h path content modified hfile
    exact h (path, content, modified) ((mem_files_iff hroot).mpr hfile)

lemma files_nodup (t : FileTree α) : (t.files.map Prod.fst).Nodup := by
  by_cases hroot : t.node? [] = some .directory
  · exact filesFrom_nodup (apart_root hroot) (t.card_directoriesBelow_le _)
  · rw [files_eq_nil hroot]
    exact List.nodup_nil

end FileTree

end DiscountTables
