import DiscountTables.Proofs.Store.Directory

namespace DiscountTables

open Calendar

structure SideBySide (paths : Set FilePath) : Prop where
  named : ∀ p ∈ paths, IsFilePath p
  accepted : ∀ p ∈ paths, FileTree.Accepts p
  apart : ∀ p ∈ paths, ∀ q ∈ paths, p <+: q → p = q

namespace FileTree

variable {α : Type} {t t' : FileTree α} {paths : Set FilePath} {p q : FilePath}

lemma Accepts.above (h : Accepts q) (hp : p <+: q) : Accepts p := by
  refine ⟨?_, fun name hname => h.short name (hp.subset hname)⟩
  have hq := h.noNul
  rw [hasNul, List.any_eq_false] at hq ⊢
  exact fun name hname => hq name (hp.subset hname)

structure HoldsAt (t : FileTree α) (paths : Set FilePath) : Prop where
  root : t.node? [] = some .directory
  file_mem : ∀ p c m, t.file? p = some (c, m) → p ∈ paths
  not_directory : ∀ p ∈ paths, t.node? p ≠ some .directory

variable (hpaths : SideBySide paths)

include hpaths

lemma HoldsAt.file?_above (h : t.HoldsAt paths) (hq : q ∈ paths) (hp : p <+: q) (hne : p ≠ q) :
    t.file? p = none := by
  rcases hf : t.file? p with _ | ⟨c, m⟩
  · rfl
  · exact absurd (hpaths.apart p (h.file_mem p c m hf) q hq hp) hne

lemma HoldsAt.locate (h : t.HoldsAt paths) (hq : q ∈ paths) : t.locate ⟨q, .plain⟩ =
    match t.file? q with
    | some (c, m) => .ok (.file c m)
    | none => .error .notFound := by
  have ha := hpaths.accepted q hq
  rcases hf : t.file? q with _ | ⟨c, m⟩
  · have hnode : t.node? q = none := by
      rcases hn : t.node? q with _ | ⟨c, m⟩ | _
      · rfl
      · exact absurd hn (file?_eq_none_iff.mp hf c m)
      · exact absurd hn (h.not_directory q hq)
    apply locate_of_missing ha hnode
    intro p hp
    by_cases hpq : p = q
    · exact hpq ▸ hf
    · exact h.file?_above hpaths hq hp hpq
  · exact locate_eq_file_iff.mpr ⟨rfl, ha, hf⟩

lemma HoldsAt.makeDirectories (h : t.HoldsAt paths) (hq : q ∈ paths) :
    ∃ t', (makeDirectories q.dropLast).run t = (.ok (), t') ∧ t'.HoldsAt paths ∧ (∀ p, t'.file? p = t.file? p) ∧
      t'.checkWritable ⟨q, .plain⟩ = .ok () := by
  -- What is above `q` is not `q`, and so none of the paths leads through it.
  have hne : ∀ p, p <+: q.dropLast → p ≠ q := by
    rintro p hp rfl
    have hlength := hp.length_le
    have hpos := List.length_pos_of_ne_nil (hpaths.named p hq).1
    rw [List.length_dropLast] at hlength
    omega
  obtain ⟨t', hrun, hnode⟩ := exists_makeDirectories (t := t) ((hpaths.accepted q hq).above q.dropLast_prefix)
    fun p hp => h.file?_above hpaths hq (hp.trans q.dropLast_prefix) (hne p hp)
  have hfiles := file?_makeDirectories q.dropLast t
  rw [hrun] at hfiles
  have hholds : t'.HoldsAt paths := by
    refine ⟨by rw [hnode, if_pos q.dropLast.nil_prefix], ?_, ?_⟩
    · intro p c m hf
      exact h.file_mem p c m ((hfiles p).symm.trans hf)
    · intro p hp
      rw [hnode, if_neg]
      · exact h.not_directory p hp
      · intro hpre
        exact hne p hpre (hpaths.apart p hp q hq (hpre.trans q.dropLast_prefix))
  refine ⟨t', hrun, hholds, hfiles, ?_⟩
  exact checkWritable_of_accepts rfl (hpaths.accepted q hq) (hholds.not_directory q hq) fun p hp =>
    hholds.file?_above hpaths hq hp

lemma HoldsAt.put (h : t.HoldsAt paths) (hq : q ∈ paths) (hd : t.node? q.dropLast = some .directory) (content : α)
    (modified : Instant) : (t.put q (.file content modified)).HoldsAt paths := by
  have hnode := node?_put (hasRoomFor_file.mpr ⟨Or.inr hd, h.not_directory q hq⟩) (n := .file content modified)
  refine ⟨?_, ?_, ?_⟩
  · rw [hnode, if_neg (Ne.symm (hpaths.named q hq).1)]
    exact h.root
  · intro p c m hf
    by_cases hpq : p = q
    · exact hpq ▸ hq
    · rw [file?_congr ((hnode p).trans (if_neg hpq))] at hf
      exact h.file_mem p c m hf
  · intro p hp
    rw [hnode]
    split
    · simp
    · exact h.not_directory p hp

end FileTree

lemma DirectoryStore.find_text_beside {α : Type} {f : Fingerprint α} {s : DirectoryStore f} {paths : Set FilePath}
    {q : FilePath} (hpaths : SideBySide paths) (h : s.tree.HoldsAt paths) (hq : q ∈ paths) :
    s.find (PathKey.text q) = match s.tree.file? q with
      | some (c, m) => .ok ⟨q, c, m⟩
      | none => .error (.notFound (PathKey.text q)) := by
  rw [find, PathKey.ofString?_text (hpaths.named q hq)]
  simp only [h.locate hpaths hq]
  rcases s.tree.file? q with _ | ⟨c, m⟩ <;> rfl

end DiscountTables
