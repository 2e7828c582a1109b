import DiscountTables.Store.PathKey
import Mathlib.Data.String.Basic
import Mathlib.Tactic

/-!
Keys and paths. The canonical keys stand for the paths one to one, and every other key is a detour to a path
that has a canonical key.
-/

namespace DiscountTables

open Text

def IsFileName (name : String) : Prop := name ≠ "" ∧ name ≠ "." ∧ name ≠ ".." ∧ '/' ∉ name.toList

instance (name : String) : Decidable (IsFileName name) :=
  inferInstanceAs (Decidable (name ≠ "" ∧ name ≠ "." ∧ name ≠ ".." ∧ '/' ∉ name.toList))

def IsFilePath (path : FilePath) : Prop := path ≠ [] ∧ ∀ name ∈ path, IsFileName name

instance (path : FilePath) : Decidable (IsFilePath path) :=
  inferInstanceAs (Decidable (path ≠ [] ∧ ∀ name ∈ path, IsFileName name))

lemma notMem_of_mem_pieces {cut : Char → Bool} {s piece : List Char} (h : piece ∈ pieces cut s) :
    ∀ c ∈ piece, cut c = false := by
  induction s generalizing piece with
  | nil => simp_all [pieces]
  | cons d s ih =>
    rw [pieces] at h
    split at h
    · rcases List.mem_cons.mp h with rfl | h
      · simp
      · exact ih h
    · rename_i hd
      cases hp : pieces cut s with
      | nil => exact absurd hp (pieces_ne_nil cut s)
      | cons p ps =>
        rw [hp] at h ih
        rcases List.mem_cons.mp h with rfl | h
        · exact List.forall_mem_cons.mpr ⟨by simpa using hd, ih List.mem_cons_self⟩
        · exact ih (List.mem_cons_of_mem _ h)

lemma pieces_eq_splitOn (c : Char) (s : List Char) : pieces (· == c) s = s.splitOn c := by
  induction s with
  | nil => rfl
  | cons d s ih =>
    rw [pieces, ih, List.splitOn_cons_eq_if_modifyHead]
    cases h : s.splitOn c with
    | nil => exact absurd h (List.splitOn_ne_nil c s)
    | cons p ps => rfl

namespace PathKey

def IsCanonical (key : String) : Prop := ∀ segment ∈ segments key, IsFileName (String.ofList segment)

instance (key : String) : Decidable (IsCanonical key) :=
  inferInstanceAs (Decidable (∀ segment ∈ segments key, IsFileName (String.ofList segment)))

lemma segments_ne_nil (key : String) : segments key ≠ [] := pieces_ne_nil _ _

lemma isFileName_ofList {segment : List Char} : IsFileName (String.ofList segment) ↔
    isName segment = true ∧ segment ≠ ['.', '.'] ∧ '/' ∉ segment := by
  have h (name : String) : String.ofList segment = name ↔ segment = name.toList := by
    rw [← String.toList_inj, String.toList_ofList]
  simp [IsFileName, isName, h, and_assoc]

lemma isFileName_of_mem_segments {key : String} {segment : List Char} (h : segment ∈ segments key)
    (hn : isName segment = true) (hup : segment ≠ ['.', '.']) : IsFileName (String.ofList segment) := by
  apply isFileName_ofList.mpr
  refine ⟨hn, hup, fun hslash => ?_⟩
  simpa using notMem_of_mem_pieces h '/' hslash

lemma text_segments (key : String) : text ((segments key).map String.ofList) = key := by
  apply String.toList_injective
  rw [text, String.toList_intercalate, List.map_map, segments, pieces_eq_splitOn]
  have hid : String.toList ∘ String.ofList = id := funext fun s => String.toList_ofList
  rw [hid, List.map_id]
  exact List.intercalate_splitOn '/'

lemma text_cons {name : String} {path : FilePath} (h : path ≠ []) : text (name :: path) = name ++ "/" ++ text path :=
  String.intercalate_cons_of_ne_nil h

lemma text_append {path rest : FilePath} (h : path ≠ []) (hr : rest ≠ []) :
    text (path ++ rest) = text path ++ "/" ++ text rest := by
  induction path with
  | nil => exact absurd rfl h
  | cons name path ih =>
    rw [List.cons_append, text_cons (List.append_ne_nil_of_right_ne_nil path hr)]
    by_cases hp : path = []
    · rw [hp]
      simp [text]
    · rw [ih hp, text_cons hp]
      simp only [String.append_assoc]

lemma segments_text {path : FilePath} (h : IsFilePath path) : segments (text path) = path.map String.toList := by
  rw [segments, pieces_eq_splitOn, text, String.toList_intercalate]
  apply List.splitOn_intercalate
  · intro segment hs
    obtain ⟨name, hname, rfl⟩ := List.mem_map.mp hs
    exact (h.2 name hname).2.2.2
  · simpa using h.1

lemma isName_toList {name : String} (h : IsFileName name) :
    isName name.toList = true ∧ name.toList ≠ ['.', '.'] := by
  rw [← String.ofList_toList (s := name), isFileName_ofList] at h
  exact ⟨h.1, h.2.1⟩

lemma endingOf_names {segments : List (List Char)} (h : ∀ s ∈ segments, isName s = true) :
    endingOf segments = .plain := by
  have hdot : (segments.reverse.find? fun s => s != []) ≠ some ['.'] := by
    intro hd
    have hmem := List.mem_reverse.mp (List.mem_of_find?_eq_some hd)
    simpa [isName] using h _ hmem
  have hslash : segments.getLast? ≠ some [] := by
    intro hs
    simpa [isName] using h _ (List.mem_of_getLast? hs)
  rw [endingOf, if_neg hdot, if_neg hslash]

lemma ofString?_text {path : FilePath} (h : IsFilePath path) : ofString? (text path) = some ⟨path, .plain⟩ := by
  have hnames : ∀ s ∈ path.map String.toList, isName s = true := by
    intro s hs
    obtain ⟨name, hname, rfl⟩ := List.mem_map.mp hs
    exact (isName_toList (h.2 name hname)).1
  have hconfined : isConfined (path.map String.toList) = true := by
    obtain ⟨name, rest, rfl⟩ := List.exists_cons_of_ne_nil h.1
    simp only [isConfined, List.map_cons, List.head?_cons, Option.elim_some, Bool.and_eq_true, List.all_eq_true]
    refine ⟨hnames _ List.mem_cons_self, ?_⟩
    intro s hs
    obtain ⟨name', hname, rfl⟩ := List.mem_map.mp (List.map_cons ▸ hs)
    simpa using (isName_toList (h.2 name' hname)).2
  have hid : (path.map String.toList).map String.ofList = path := by
    rw [List.map_map]
    exact (List.map_congr_left fun name _ => String.ofList_toList).trans (List.map_id path)
  simp only [ofString?, segments_text h, hconfined, if_true, List.filter_eq_self.mpr hnames, hid,
    endingOf_names hnames]

lemma isFilePath_names {key : String} {k : PathKey} (h : ofString? key = some k) : IsFilePath k.names := by
  simp only [ofString?] at h
  split at h
  · rename_i hc
    cases h
    simp only [isConfined, Bool.and_eq_true, List.all_eq_true, bne_iff_ne] at hc
    obtain ⟨hhead, hup⟩ := hc
    constructor
    · obtain ⟨first, rest, hs⟩ := List.exists_cons_of_ne_nil (segments_ne_nil key)
      rw [hs] at hhead ⊢
      simp_all
    · intro name hname
      obtain ⟨segment, hsegment, rfl⟩ := List.mem_map.mp hname
      obtain ⟨hmem, hn⟩ := List.mem_filter.mp hsegment
      exact isFileName_of_mem_segments hmem hn (hup segment hmem)
  · cases h

lemma text_injOn {path path' : FilePath} (h : IsFilePath path) (h' : IsFilePath path')
    (heq : text path = text path') : path = path' := by
  have hkey := (ofString?_text h).symm.trans (heq ▸ ofString?_text h')
  exact congrArg names (Option.some.inj hkey)

lemma isCanonical_iff {key : String} : IsCanonical key ↔ ∃ path, IsFilePath path ∧ text path = key := by
  constructor
  · intro h
    refine ⟨(segments key).map String.ofList, ⟨by simpa using segments_ne_nil key, ?_⟩, text_segments key⟩
    intro name hname
    obtain ⟨segment, hs, rfl⟩ := List.mem_map.mp hname
    exact h segment hs
  · rintro ⟨path, hpath, rfl⟩ segment hs
    rw [segments_text hpath] at hs
    obtain ⟨name, hname, rfl⟩ := List.mem_map.mp hs
    rw [String.ofList_toList]
    exact hpath.2 name hname

end PathKey

end DiscountTables
