import DiscountTables.Proofs.Store.Memory
import DiscountTables.Store.FileTree

namespace DiscountTables

open Calendar

namespace FileTree

variable {α : Type} {t t' : FileTree α} {path rest p q : FilePath} {n : FileNode α} {content : α}
  {modified : Instant}

def file? (t : FileTree α) (path : FilePath) : Option (α × Instant) :=
  match t.node? path with
  | some (.file content modified) => some (content, modified)
  | _ => none

def content? (t : FileTree α) (path : FilePath) : Option α := (t.file? path).map Prod.fst

structure Accepts (path : FilePath) : Prop where
  noNul : hasNul path = false
  short : ∀ name ∈ path, isTooLong name = false

lemma file?_eq_some_iff : t.file? path = some (content, modified) ↔ t.node? path = some (.file content modified) := by
  rw [file?]
  split <;> simp_all

lemma file?_eq_none_iff : t.file? path = none ↔ ∀ c m, t.node? path ≠ some (.file c m) := by
  rw [file?]
  split <;> simp_all

lemma file?_congr (h : t'.node? path = t.node? path) : t'.file? path = t.file? path := by
  rw [file?, file?, h]

lemma node?_put (h : t.hasRoomFor path n = true) (q : FilePath) :
    (t.put path n).node? q = if q = path then some n else t.node? q := by
  rw [put, dif_pos h]
  exact FiniteMap.get?_insert t.nodes path q n

lemma hasRoomFor_directory : t.hasRoomFor path .directory = true ↔
    path = [] ∨ t.node? path.dropLast = some .directory := by
  simp [hasRoomFor, isDirectory_iff, node?]

lemma hasRoomFor_file : t.hasRoomFor path (.file content modified) = true ↔
    (path = [] ∨ t.node? path.dropLast = some .directory) ∧ t.node? path ≠ some .directory := by
  have h : t.isDirectory path = false ↔ t.node? path ≠ some .directory := by
    rw [← Bool.not_eq_true, isDirectory_iff, node?]
  simp [hasRoomFor, h, isDirectory_iff, node?]

lemma directory_of_below (h : t.node? (path ++ rest) ≠ none) (hr : rest ≠ []) :
    t.node? path = some .directory := by
  induction rest using List.reverseRecOn with
  | nil => exact absurd rfl hr
  | append_singleton rest name ih =>
    rw [← List.append_assoc] at h
    have hd := t.closed _ _ h
    by_cases hrest : rest = []
    · subst hrest
      rw [List.append_nil] at hd
      exact hd
    · apply ih _ hrest
      simp [node?, hd]

section Descend

lemma descend_eq_ok_iff : t.descend path rest = .ok n ↔
    t.node? (path ++ rest) = some n ∧ ∀ name ∈ rest, isTooLong name = false := by
  induction rest generalizing path with
  | nil =>
    rw [descend, List.append_nil]
    cases t.node? path <;> simp
  | cons name rest ih =>
    have hbelow : t.node? (path ++ name :: rest) = some n → t.node? path = some .directory := by
      intro h
      exact directory_of_below (by simp [h]) (List.cons_ne_nil name rest)
    rw [descend]
    cases hn : t.node? path with
    | none => simpa [hn] using fun h => absurd (hbelow h) (by simp [hn])
    | some node =>
      cases node with
      | file c m => simpa [hn] using fun h => absurd (hbelow h) (by simp [hn])
      | directory =>
        simp only
        cases hl : isTooLong name with
        | true => simp [hl]
        | false => simp [hl, ih]

lemma descend_eq_notFound (h : t.descend path rest = .error .notFound) : t.node? (path ++ rest) = none := by
  induction rest generalizing path with
  | nil =>
    rw [descend] at h
    rw [List.append_nil]
    cases hn : t.node? path with
    | none => rfl
    | some node => simp [hn] at h
  | cons name rest ih =>
    rw [descend] at h
    cases hn : t.node? path with
    | none =>
      -- Something below a path that is missing would have a directory there.
      by_contra hne
      simpa [hn] using directory_of_below hne (List.cons_ne_nil name rest)
    | some node =>
      cases node with
      | file c m => simp [hn] at h
      | directory =>
        simp only [hn] at h
        split at h
        · cases h
        · simpa using ih h

lemma descend_of_missing (hs : ∀ name ∈ rest, isTooLong name = false) (hn : t.node? (path ++ rest) = none)
    (hf : ∀ p, path <+: p → p <+: path ++ rest → t.file? p = none) : t.descend path rest = .error .notFound := by
  induction rest generalizing path with
  | nil =>
    rw [List.append_nil] at hn
    simp [descend, hn]
  | cons name rest ih =>
    rw [descend]
    cases hd : t.node? path with
    | none => rfl
    | some node =>
      cases node with
      | file c m =>
        have hfile := hf path (List.prefix_refl path) (List.prefix_append path _)
        exact absurd hd (file?_eq_none_iff.mp hfile c m)
      | directory =>
        obtain ⟨hname, hrest⟩ := List.forall_mem_cons.mp hs
        have hassoc : path ++ name :: rest = path ++ [name] ++ rest := by simp
        rw [hassoc] at hn hf
        simp only [hname, Bool.false_eq_true, if_false]
        apply ih hrest hn
        intro p hp
        exact hf p ((List.prefix_append path _).trans hp)

end Descend

lemma find_eq_ok_iff : t.find path = .ok n ↔ t.node? path = some n ∧ Accepts path := by
  rw [find]
  split
  · rename_i hnul
    simpa using fun _ ha => absurd ha.noNul (by simp [hnul])
  · rename_i hnul
    rw [descend_eq_ok_iff, List.nil_append]
    exact and_congr_right fun _ => ⟨fun h => ⟨by simpa using hnul, h⟩, Accepts.short⟩

lemma find_eq_notFound (h : t.find path = .error .notFound) : t.node? path = none := by
  rw [find] at h
  split at h
  · cases h
  · exact descend_eq_notFound h

lemma find_of_missing (ha : Accepts path) (hn : t.node? path = none) (hf : ∀ p, p <+: path → t.file? p = none) :
    t.find path = .error .notFound := by
  simp only [find, ha.noNul, Bool.false_eq_true, if_false]
  apply descend_of_missing ha.short hn
  intro p _ hp
  exact hf p hp

lemma locate_eq_file_iff {key : PathKey} : t.locate key = .ok (.file content modified) ↔
    key.ending = .plain ∧ Accepts key.names ∧ t.file? key.names = some (content, modified) := by
  rw [file?_eq_some_iff, and_comm (a := Accepts key.names), ← find_eq_ok_iff, locate]
  split
  · simp_all
  · simp_all
  · rename_i h₁ h₂
    cases hending : key.ending with
    | plain => simp
    | slash => simpa using fun h => h₁ _ _ h hending
    | dot => simpa using fun h => h₂ _ _ h hending

lemma locate_of_missing {key : PathKey} (ha : Accepts key.names) (hn : t.node? key.names = none)
    (hf : ∀ p, p <+: key.names → t.file? p = none) : t.locate key = .error .notFound := by
  rw [locate, find_of_missing ha hn hf]

lemma checkWritable_eq_ok {key : PathKey} (h : t.checkWritable key = .ok ()) :
    key.ending = .plain ∧ t.node? key.names ≠ some .directory := by
  rw [checkWritable] at h
  split at h
  · cases h
  · cases hending : key.ending with
    | plain =>
      refine ⟨rfl, ?_⟩
      intro hd
      cases hfind : t.find key.names with
      | ok node =>
        obtain rfl := Option.some.inj ((find_eq_ok_iff.mp hfind).1.symm.trans hd)
        simp [hending, hfind] at h
      | error e =>
        obtain rfl : e = .notFound := by
          rw [hending, hfind] at h
          cases e <;> simp_all
        simp [find_eq_notFound hfind] at hd
    | slash => simp [hending] at h
    | dot =>
      rw [hending] at h
      rcases hfind : t.find key.names with e | (⟨c, m⟩ | _) <;> simp [hfind] at h

lemma checkWritable_of_accepts {key : PathKey} (hending : key.ending = .plain) (ha : Accepts key.names)
    (hd : t.node? key.names ≠ some .directory) (hf : ∀ p, p <+: key.names → p ≠ key.names → t.file? p = none) :
    t.checkWritable key = .ok () := by
  simp only [checkWritable, ha.noNul, hending, Bool.false_eq_true, if_false]
  cases hn : t.node? key.names with
  | none =>
    have hfind : t.find key.names = .error .notFound := by
      apply find_of_missing ha hn
      intro p hp
      by_cases heq : p = key.names
      · exact file?_eq_none_iff.mpr (by simp [heq, hn])
      · exact hf p hp heq
    rw [hfind]
  | some node =>
    rw [find_eq_ok_iff.mpr ⟨hn, ha⟩]
    cases node with
    | file c m => rfl
    | directory => exact absurd hn hd

section MakeDirectories

lemma run_makeDirectory (path : FilePath) (last : Bool) (t : FileTree α) : (makeDirectory path last).run t =
    match t.file? path with
    | some _ => (.error (if last then .alreadyExists else .notADirectory), t)
    | none => (.ok (), t.put path .directory) := by
  rw [makeDirectory, run_bind, run_get, file?]
  simp only
  rcases t.node? path with _ | (⟨c, m⟩ | _) <;> rfl

lemma file?_put_directory (h : t.file? path = none) (q : FilePath) :
    (t.put path .directory).file? q = t.file? q := by
  by_cases hr : t.hasRoomFor path .directory = true
  · by_cases hq : q = path
    · subst hq
      rw [h, file?_eq_none_iff]
      simp [node?_put hr]
    · apply file?_congr
      rw [node?_put hr, if_neg hq]
  · rw [put, dif_neg hr]

lemma run_makeDirectoriesFrom_cons (path : FilePath) (name : String) (rest : FilePath) (t : FileTree α) :
    (makeDirectoriesFrom path (name :: rest)).run t =
      match t.file? path with
      | some _ => (.error .notADirectory, t)
      | none =>
        if isTooLong name then (.error .nameTooLong, t.put path .directory)
        else (makeDirectoriesFrom (path ++ [name]) rest).run (t.put path .directory) := by
  rw [makeDirectoriesFrom, run_bind, run_makeDirectory]
  cases t.file? path with
  | some _ => rfl
  | none =>
    cases isTooLong name <;> rfl

lemma file?_makeDirectoriesFrom (path rest : FilePath) (t : FileTree α) (q : FilePath) :
    ((makeDirectoriesFrom path rest).run t).2.file? q = t.file? q := by
  induction rest generalizing path t with
  | nil =>
    rw [makeDirectoriesFrom, run_makeDirectory]
    cases h : t.file? path with
    | some _ => rfl
    | none => exact file?_put_directory h q
  | cons name rest ih =>
    rw [run_makeDirectoriesFrom_cons]
    cases h : t.file? path with
    | some _ => rfl
    | none =>
      simp only
      split
      · exact file?_put_directory h q
      · rw [ih, file?_put_directory h]

lemma run_makeDirectories (path : FilePath) (t : FileTree α) : (makeDirectories path).run t =
    if hasNul path then (.error .nulInName, t) else (makeDirectoriesFrom [] path).run t := by
  simp only [makeDirectories]
  split <;> rfl

lemma file?_makeDirectories (path : FilePath) (t : FileTree α) (q : FilePath) :
    ((makeDirectories path).run t).2.file? q = t.file? q := by
  rw [run_makeDirectories]
  split
  · rfl
  · exact file?_makeDirectoriesFrom [] path t q

lemma directory_of_makeDirectoriesFrom (hr : t.hasRoomFor path .directory = true)
    (h : (makeDirectoriesFrom path rest).run t = (.ok (), t')) : t'.node? (path ++ rest) = some .directory := by
  induction rest generalizing path t with
  | nil =>
    rw [makeDirectoriesFrom, run_makeDirectory] at h
    split at h
    · cases h
    · obtain ⟨-, rfl⟩ := Prod.mk.inj h
      rw [List.append_nil, node?_put hr, if_pos rfl]
  | cons name rest ih =>
    rw [run_makeDirectoriesFrom_cons] at h
    split at h
    · cases h
    · split at h
      · cases h
      · have hassoc : path ++ name :: rest = path ++ [name] ++ rest := by simp
        rw [hassoc]
        apply ih _ h
        apply hasRoomFor_directory.mpr
        right
        rw [List.dropLast_concat, node?_put hr, if_pos rfl]

lemma directory_of_makeDirectories (h : (makeDirectories path).run t = (.ok (), t')) :
    t'.node? path = some .directory := by
  rw [run_makeDirectories] at h
  split at h
  · cases h
  · exact directory_of_makeDirectoriesFrom (hasRoomFor_directory.mpr (Or.inl rfl)) h

lemma exists_makeDirectoriesFrom (hr : t.hasRoomFor path .directory = true)
    (hs : ∀ name ∈ rest, isTooLong name = false)
    (hf : ∀ p, path <+: p → p <+: path ++ rest → t.file? p = none) :
    ∃ t', (makeDirectoriesFrom path rest).run t = (.ok (), t') ∧
      ∀ q, t'.node? q = if path <+: q ∧ q <+: path ++ rest then some .directory else t.node? q := by
  have hpath : t.file? path = none := hf path (List.prefix_refl path) (List.prefix_append path rest)
  induction rest generalizing path t with
  | nil =>
    refine ⟨t.put path .directory, by rw [makeDirectoriesFrom, run_makeDirectory, hpath], fun q => ?_⟩
    rw [node?_put hr, List.append_nil]
    congr 1
    exact propext ⟨fun h => h ▸ ⟨List.prefix_refl _, List.prefix_refl _⟩, fun h => h.2.eq_of_length_le h.1.length_le⟩
  | cons name rest ih =>
    obtain ⟨hname, hrest⟩ := List.forall_mem_cons.mp hs
    have hassoc : path ++ name :: rest = path ++ [name] ++ rest := by simp
    rw [hassoc] at hf ⊢
    have hroom : (t.put path .directory).hasRoomFor (path ++ [name]) .directory = true := by
      apply hasRoomFor_directory.mpr
      right
      rw [List.dropLast_concat, node?_put hr, if_pos rfl]
    have hfiles : ∀ p, path ++ [name] <+: p → p <+: path ++ [name] ++ rest →
        (t.put path .directory).file? p = none := by
      intro p hp hp'
      rw [file?_put_directory hpath]
      exact hf p ((List.prefix_append path _).trans hp) hp'
    obtain ⟨t', hrun, hnode⟩ := ih hroom hrest hfiles
      (hfiles _ (List.prefix_refl _) (List.prefix_append _ _))
    refine ⟨t', by simp [run_makeDirectoriesFrom_cons, hpath, hname, hrun], fun q => ?_⟩
    rw [hnode, node?_put hr]
    by_cases hq : q = path
    · subst hq
      simp [List.append_assoc]
    · -- Of the paths on the way only `path` itself is not below `path ++ [name]`.
      rw [if_neg hq]
      congr 1
      apply propext
      apply and_congr_left
      intro hbelow
      refine ⟨(List.prefix_append path [name]).trans, ?_⟩
      rintro ⟨s, rfl⟩
      rw [List.append_assoc, List.prefix_append_right_inj, List.singleton_append] at hbelow
      cases s with
      | nil => exact absurd (List.append_nil path) hq
      | cons d s =>
        obtain ⟨rfl, -⟩ := List.cons_prefix_cons.mp hbelow
        rw [List.prefix_append_right_inj]
        exact List.prefix_append [d] s

lemma exists_makeDirectories (ha : Accepts path) (hf : ∀ p, p <+: path → t.file? p = none) :
    ∃ t', (makeDirectories path).run t = (.ok (), t') ∧
      ∀ q, t'.node? q = if q <+: path then some .directory else t.node? q := by
  have hroom : t.hasRoomFor [] .directory = true := hasRoomFor_directory.mpr (Or.inl rfl)
  obtain ⟨t', hrun, hnode⟩ := exists_makeDirectoriesFrom hroom ha.short fun p _ => hf p
  refine ⟨t', by simpa [run_makeDirectories, ha.noNul] using hrun, ?_⟩
  simpa using hnode

end MakeDirectories

end FileTree

end DiscountTables
