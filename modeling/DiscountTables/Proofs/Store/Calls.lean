import DiscountTables.Proofs.Store.Memory
import DiscountTables.Proofs.Store.SideBySide

namespace DiscountTables

open Calendar

/-- What two stores are asked. A document that is put is given a time for the one store, and another for the file in
the other. -/
inductive StoreCall (α : Type) where
  | put (key : String) (content : α) (stored modified : Instant)
  | get (key : String)
  | head (key : String)
  | list (keyPrefix : String)
  | copy (source target : String)

inductive StoreAnswer (α : Type) where
  | done
  | document (d : Fetched α)
  | tag (versionTag : String)
  | keys (keys : List String)
  deriving DecidableEq

class WritableStore (σ : Type) (α : outParam Type) extends ObjectStore σ α where
  put : String → α → Instant → Instant → StoreAction σ StoreError Unit

variable {σ ε α β γ : Type} {f : Fingerprint α}

instance : WritableStore (MemoryStore f) α where
  put key content stored _ := modify fun m => m.putAt key content stored

instance [EmptyCollection α] : WritableStore (DirectoryStore f) α where
  put key content _ modified := do
    let k ← DirectoryStore.pathKey key
    (DirectoryStore.writeFileAt k content modified).adapt .file

lemma run_map (g : β → γ) (x : StoreAction σ ε β) (s : σ) :
    (g <$> x).run s = ((x.run s).1.map g, (x.run s).2) := by
  change (x >>= fun a => pure (g a)).run s = _
  rw [run_bind]
  rcases x.run s with ⟨_ | _, s'⟩ <;> rfl

namespace StoreCall

def keys : StoreCall α → List String
  | put key .. | get key | head key => [key]
  | list _ => []
  | copy source target => [source, target]

def target? : StoreCall α → Option String
  | put key .. | copy _ key => some key
  | get _ | head _ | list _ => none

variable [WritableStore σ α]

def perform : StoreCall α → StoreAction σ StoreError (StoreAnswer α)
  | put key content stored modified => (fun _ => .done) <$> WritableStore.put key content stored modified
  | get key => .document <$> ObjectStore.get key
  | head key => .tag <$> ObjectStore.head key
  | list keyPrefix => (fun found => .keys (found.map ObjectInfo.key)) <$> ObjectStore.list keyPrefix
  | copy source target => (fun _ => .done) <$> ObjectStore.copy source target

def answer (call : StoreCall α) (s : σ) : Except StoreError (StoreAnswer α) := (call.perform.run s).1

def next (call : StoreCall α) (s : σ) : σ := (call.perform.run s).2

def after (calls : List (StoreCall α)) (s : σ) : σ := calls.foldl (fun s call => call.next s) s

end StoreCall

namespace DirectoryStore

variable [EmptyCollection α] {s s' : DirectoryStore f} {paths : Set FilePath} {p q : FilePath}

def writing? (s : DirectoryStore f) (call : StoreCall α) : Option (FilePath × FileStamp) :=
  match call.target?, call.answer s with
  | some key, .ok _ => ((call.next s).find key).toOption.map fun r => (r.path, stamp f r)
  | _, _ => none

def writings (s : DirectoryStore f) : List (StoreCall α) → List (FilePath × FileStamp)
  | [] => []
  | call :: rest => (s.writing? call).toList ++ (call.next s).writings rest

variable (hpaths : SideBySide paths)

include hpaths

lemma run_put_beside (h : s.tree.HoldsAt paths) (hq : q ∈ paths) (content : α) (stored modified : Instant) :
    ∃ t, (WritableStore.put (PathKey.text q) content stored modified).run s = (.ok (), s.withTree t) ∧
      t.HoldsAt paths ∧ WrittenAt q content modified.withoutLeap s.tree t := by
  obtain ⟨t, hrun, ht, -, hcheck⟩ := h.makeDirectories hpaths hq
  refine ⟨_, ?_, ht.put hpaths hq (FileTree.directory_of_makeDirectories hrun) content modified.withoutLeap,
    writtenAt_put hrun hcheck⟩
  change (pathKey (PathKey.text q) >>= fun k => (writeFileAt k content modified).adapt .file).run s = _
  rw [run_bind, run_pathKey, PathKey.ofString?_text (hpaths.named q hq)]
  simp only [run_adapt, run_writeFileAt, hrun, hcheck, mapError_ok]

lemma run_copy_beside (h : s.tree.HoldsAt paths) (hp : p ∈ paths) (hq : q ∈ paths) (hpq : p ≠ q) :
    match s.tree.file? p with
    | none => ∃ t, (ObjectStore.copy (PathKey.text p) (PathKey.text q)).run s =
        (.error (.notFound (PathKey.text p)), s.withTree t) ∧ t.HoldsAt paths ∧ ∀ r, t.file? r = s.tree.file? r
    | some (content, _) => ∃ t, (ObjectStore.copy (PathKey.text p) (PathKey.text q)).run s =
        (.ok (), { s with tree := t, clock := s.clock.next }) ∧ t.HoldsAt paths ∧
          WrittenAt q content s.clock.now s.tree t := by
  obtain ⟨t, hrun, ht, hfiles, hcheck⟩ := h.makeDirectories hpaths hq
  have hlocate := ht.locate hpaths hp
  rw [hfiles] at hlocate
  rcases hf : s.tree.file? p with _ | ⟨content, modified⟩ <;>
    simp only [hf] at hlocate <;>
    simp only [run_copy, PathKey.ofString?_text (hpaths.named p hp), PathKey.ofString?_text (hpaths.named q hq), hrun,
      hlocate, hcheck, if_neg hpq]
  · exact ⟨t, rfl, ht, hfiles⟩
  · exact ⟨_, rfl, ht.put hpaths hq (FileTree.directory_of_makeDirectories hrun) content s.clock.now,
      writtenAt_put hrun hcheck⟩

end DirectoryStore

lemma pairwise_key_mergeSort (key : β → String) {l : List β} (h : (l.map key).Nodup) :
    ((l.mergeSort fun a b => key a ≤ key b).map key).Pairwise (· < ·) := by
  have hsorted : (l.mergeSort fun a b => key a ≤ key b).Pairwise fun a b => decide (key a ≤ key b) = true := by
    apply List.pairwise_mergeSort
    · intro a b c
      simpa using String.le_trans
    · intro a b
      simpa using String.le_total (key a) (key b)
  have hnodup : ((l.mergeSort fun a b => key a ≤ key b).map key).Nodup :=
    ((List.mergeSort_perm l _).map key).nodup_iff.mpr h
  rw [List.pairwise_map]
  refine hsorted.imp₂ ?_ (List.pairwise_map.mp hnodup)
  intro a b hle hne
  exact lt_of_le_of_ne (of_decide_eq_true hle) hne

lemma MemoryStore.keys_listing_sorted (m : MemoryStore f) (keyPrefix : String) :
    ((m.listing keyPrefix).map ObjectInfo.key).Pairwise (· < ·) := by
  rw [listing, List.map_map]
  exact (pairwise_key_mergeSort Prod.fst m.objects.nodup).sublist (List.filter_sublist.map Prod.fst)

lemma DirectoryStore.keys_listing_sorted (s : DirectoryStore f) (keyPrefix : String)
    (h : ∀ e ∈ s.tree.files, IsFilePath e.1) : ((s.listing keyPrefix).map ObjectInfo.key).Pairwise (· < ·) := by
  apply pairwise_key_mergeSort ObjectInfo.key
  apply List.Nodup.sublist (List.filter_sublist.map ObjectInfo.key)
  rw [List.map_map]
  apply List.Nodup.map_on _ (List.Nodup.of_map Prod.fst s.tree.files_nodup)
  intro e he e' he' htext
  exact List.inj_on_of_nodup_map s.tree.files_nodup he he' (PathKey.text_injOn (h e he) (h e' he') htext)

end DiscountTables
