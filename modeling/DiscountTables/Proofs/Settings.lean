import DiscountTables.Proofs.Results
import DiscountTables.Proofs.Toml.Table
import DiscountTables.Reload.Basic

/-!
Which documents are settings. The table `rules` counts for the whole document if there is one. The entries that count
must have known keys and the right types, and the time between two cycles must not be zero.
-/

namespace DiscountTables

open Toml

namespace Toml.Value

def text? : Value → Option String
  | .string s | .datetime s => some s
  | _ => none

def natural? : Value → Option ℕ
  | .integer (.ofNat n) => some n
  | _ => none

lemma exists_text?_iff {v : Value} : (∃ s, v.text? = some s) ↔ ∃ s, v = .string s ∨ v = .datetime s := by
  cases v <;> simp [text?]

lemma natural?_eq_some_iff {v : Value} {n : ℕ} : v.natural? = some n ↔ v = .integer n := by
  constructor
  · intro h
    rw [natural?.eq_def] at h
    split at h
    · cases h
      rfl
    · cases h
  · rintro rfl
    rfl

end Toml.Value

namespace Settings

def textKeys : List String := ["bucket", "prefix", "alias_key"]

structure WellTyped (table : List (String × Value)) : Prop where
  known : ∀ key v, table.lookup key = some v → key ∈ keys
  texts : ∀ key ∈ textKeys, ∀ v, table.lookup key = some v → ∃ s, v = .string s ∨ v = .datetime s

def withEntries (s : Settings) (table : List (String × Value)) : Settings where
  bucket := ((table.lookup "bucket").bind Value.text?).getD s.bucket
  keyPrefix := ((table.lookup "prefix").bind Value.text?).getD s.keyPrefix
  aliasKey := ((table.lookup "alias_key").bind Value.text?).getD s.aliasKey
  pollMillis := ((table.lookup "poll_ms").bind Value.natural?).getD s.pollMillis

inductive Fits : String → Value → Prop
  | text {key s : String} {v : Value} (hk : key ∈ textKeys) (hv : v.text? = some s) : Fits key v
  | interval {v : Value} {n : ℕ} (hv : v.natural? = some n) : Fits "poll_ms" v

lemma text_eq_ok_iff {v : Value} {s : String} : text v = .ok s ↔ v.text? = some s := by
  cases v <;> simp [text, Value.text?]

lemma natural_eq_ok_iff {v : Value} {n : ℕ} : natural v = .ok n ↔ v.natural? = some n := by
  rw [Value.natural?_eq_some_iff]
  cases v with
  | integer m =>
    rw [natural]
    split
    · simp only [Except.ok.injEq, Value.integer.injEq]
      omega
    · simp only [reduceCtorEq, Value.integer.injEq, false_iff]
      omega
  | _ => simp [natural]

lemma fits_text_iff {key : String} {v : Value} (hk : key ∈ textKeys) : Fits key v ↔ ∃ t, v.text? = some t := by
  constructor
  · rintro (⟨-, hv⟩ | ⟨hv⟩)
    · exact ⟨_, hv⟩
    · exact absurd hk (by decide)
  · rintro ⟨_, hv⟩
    exact .text hk hv

lemma fits_interval_iff {v : Value} : Fits "poll_ms" v ↔ ∃ n, v.natural? = some n := by
  constructor
  · rintro (⟨hk, -⟩ | ⟨hv⟩)
    · exact absurd hk (by decide)
    · exact ⟨_, hv⟩
  · rintro ⟨_, hv⟩
    exact .interval hv

lemma Fits.mem_keys {key : String} {v : Value} (h : Fits key v) : key ∈ keys := by
  cases h with
  | text hk _ => exact (by decide : textKeys ⊆ keys) hk
  | interval _ => decide

lemma exists_some_iff {α : Type} {read : Option α} {f : α → Settings} {s t : Settings}
    (h : ∀ a, read = some a → f a = t) : (∃ a, read = some a ∧ f a = s) ↔ (∃ a, read = some a) ∧ s = t := by
  constructor
  · rintro ⟨a, ha, rfl⟩
    exact ⟨⟨a, ha⟩, h a ha⟩
  · rintro ⟨⟨a, ha⟩, rfl⟩
    exact ⟨a, ha, h a ha⟩

lemma setEntry_eq_ok_iff {s s' : Settings} {key : String} {v : Value} :
    s.setEntry key v = .ok s' ↔ Fits key v ∧ s' = s.withEntries [(key, v)] := by
  rw [setEntry.eq_def]
  split
  case h_5 hbucket hprefix halias hinterval =>
    refine iff_of_false (fun h => by cases h) ?_
    rintro ⟨hfits, -⟩
    have hkey := hfits.mem_keys
    simp only [keys, List.mem_cons, List.not_mem_nil, or_false] at hkey
    rcases hkey with h | h | h | h
    · exact hbucket h
    · exact hprefix h
    · exact halias h
    · exact hinterval h
  case h_4 =>
    simp only [bind_eq_ok, mapError_eq_ok, natural_eq_ok_iff, fits_interval_iff, pure, Except.pure, Except.ok.injEq]
    exact exists_some_iff fun n hn => by simp [withEntries, List.lookup_cons, hn]
  all_goals
    rw [fits_text_iff (by decide)]
    simp only [bind_eq_ok, mapError_eq_ok, text_eq_ok_iff, pure, Except.pure, Except.ok.injEq]
    exact exists_some_iff fun t ht => by simp [withEntries, List.lookup_cons, ht]

lemma setEntry_ne_zeroInterval (s : Settings) (key : String) (v : Value) :
    s.setEntry key v ≠ .error .zeroInterval := by
  rw [setEntry.eq_def]
  split
  case h_5 => exact fun h => by cases h
  case h_4 => cases natural v <;> exact fun h => by cases h
  all_goals cases text v <;> exact fun h => by cases h

lemma withEntries_cons (s : Settings) {key : String} {v : Value} {rest : List (String × Value)}
    (hfits : Fits key v) (hnew : rest.lookup key = none) :
    (s.withEntries [(key, v)]).withEntries rest = s.withEntries ((key, v) :: rest) := by
  cases hfits with
  | interval hv => simp [withEntries, List.lookup_cons, hnew, hv]
  | text hk hv =>
    simp only [textKeys, List.mem_cons, List.not_mem_nil, or_false] at hk
    rcases hk with rfl | rfl | rfl <;> simp [withEntries, List.lookup_cons, hnew, hv]

section Table

variable {table : List (String × Value)} (h : IsTable table)
include h

lemma foldlM_setEntry_eq_ok_iff (s s' : Settings) :
    table.foldlM (fun s e => s.setEntry e.1 e.2) s = .ok s' ↔
      (∀ e ∈ table, Fits e.1 e.2) ∧ s' = s.withEntries table := by
  induction table generalizing s with
  | nil => simp [withEntries, pure, Except.pure, eq_comm]
  | cons head rest ih =>
    obtain ⟨key, v⟩ := head
    obtain ⟨hhead, hpairs⟩ := List.pairwise_cons.mp h
    have hrest : IsTable rest := hpairs
    have hnew : rest.lookup key = none := by
      refine Option.eq_none_iff_forall_ne_some.mpr fun w hw => ?_
      exact (hhead _ (hrest.lookup_eq_some_iff.mp hw)).false
    rw [List.foldlM_cons, bind_eq_ok]
    simp only [setEntry_eq_ok_iff, ih hrest, List.forall_mem_cons]
    constructor
    · rintro ⟨_, ⟨hfits, rfl⟩, hall, rfl⟩
      exact ⟨⟨hfits, hall⟩, s.withEntries_cons hfits hnew⟩
    · rintro ⟨⟨hfits, hall⟩, rfl⟩
      exact ⟨_, ⟨hfits, rfl⟩, hall, (s.withEntries_cons hfits hnew).symm⟩

lemma fits_iff : (∀ e ∈ table, Fits e.1 e.2) ↔
    WellTyped table ∧ ∀ v, table.lookup "poll_ms" = some v → ∃ n : ℕ, v = .integer n := by
  constructor
  · intro hall
    have hfits : ∀ {key v}, table.lookup key = some v → Fits key v :=
      fun hv => hall _ (h.lookup_eq_some_iff.mp hv)
    refine ⟨⟨fun key v hv => (hfits hv).mem_keys, fun key hk v hv => ?_⟩, fun v hv => ?_⟩
    · exact Value.exists_text?_iff.mp ((fits_text_iff hk).mp (hfits hv))
    · obtain ⟨n, hn⟩ := fits_interval_iff.mp (hfits hv)
      exact ⟨n, Value.natural?_eq_some_iff.mp hn⟩
  · rintro ⟨htyped, hinterval⟩ ⟨key, v⟩ he
    have hv := h.lookup_eq_some_iff.mpr he
    by_cases hk : key ∈ textKeys
    · exact (fits_text_iff hk).mpr (Value.exists_text?_iff.mpr (htyped.texts key hk v hv))
    · have hkey : key = "poll_ms" := by
        have hknown := htyped.known key v hv
        simp only [keys, textKeys, List.mem_cons, List.not_mem_nil, or_false, not_or] at hknown hk
        tauto
      subst hkey
      obtain ⟨n, rfl⟩ := hinterval v hv
      exact .interval (Value.natural?_eq_some_iff.mpr rfl)

end Table

lemma pollMillis_withEntries_eq_zero_iff {table : List (String × Value)}
    (h : ∀ v, table.lookup "poll_ms" = some v → ∃ n : ℕ, v = .integer n) :
    (({} : Settings).withEntries table).pollMillis = 0 ↔ table.lookup "poll_ms" = some (.integer 0) := by
  rw [withEntries]
  cases hv : table.lookup "poll_ms" with
  | none => simp
  | some v =>
    obtain ⟨n, rfl⟩ := h v hv
    simp [Value.natural?]

lemma foldlM_setEntry_ne_zeroInterval (s : Settings) (entries : List (String × Value)) :
    entries.foldlM (fun s e => s.setEntry e.1 e.2) s ≠ .error .zeroInterval := by
  induction entries generalizing s with
  | nil => exact fun h => by cases h
  | cons head rest ih =>
    rw [List.foldlM_cons]
    cases hs : s.setEntry head.1 head.2 with
    | ok s' => exact ih s'
    | error e => exact fun h => s.setEntry_ne_zeroInterval head.1 head.2 (hs.trans h)

lemma check_eq_ok_iff {s t : Settings} : s.check = .ok t ↔ s = t ∧ s.pollMillis ≠ 0 := by
  by_cases h : s.pollMillis = 0 <;> simp [check, h]

lemma check_eq_zeroInterval_iff {s : Settings} : s.check = .error .zeroInterval ↔ s.pollMillis = 0 := by
  by_cases h : s.pollMillis = 0 <;> simp [check, h]

lemma ofEntries_eq (entries : List (String × Value)) :
    ofEntries entries = entries.foldlM (fun s e => s.setEntry e.1 e.2) {} >>= check := rfl

lemma ofEntries_eq_zeroInterval_iff (entries : List (String × Value)) : ofEntries entries = .error .zeroInterval ↔
    ∃ s, entries.foldlM (fun s e => s.setEntry e.1 e.2) ({} : Settings) = .ok s ∧ s.pollMillis = 0 := by
  rw [ofEntries_eq]
  cases hs : entries.foldlM (fun s e => s.setEntry e.1 e.2) ({} : Settings) with
  | ok s => simp [bind, Except.bind, check_eq_zeroInterval_iff]
  | error e =>
    refine iff_of_false (fun h => ?_) (by simp)
    exact foldlM_setEntry_ne_zeroInterval {} entries (hs.trans h)

lemma relevant_of_table {document table : List (String × Value)} (h : document.lookup "rules" = some (.table table)) :
    relevant document = table := by
  rw [relevant, h]

lemma relevant_of_bare {table : List (String × Value)}
    (h : ∀ entries, table.lookup "rules" ≠ some (.table entries)) : relevant table = table := by
  rw [relevant]
  split
  · rename_i entries he
    exact absurd he (h entries)
  · rfl

lemma read_of_read? {text : String} {document : List (String × Value)} (h : Toml.read? text = some document) :
    read text = ofToml document := by
  rw [read, h]

lemma start_eq_ok {σ : Type} {s : Settings} (h : s.pollMillis ≠ 0) (store : σ) :
    Reloader.start s store = .ok { settings := s, store } := by
  rw [Reloader.start, check_eq_ok_iff.mpr ⟨rfl, h⟩]
  rfl

section Bare

variable {table : List (String × Value)} (h : IsTable table)
include h

lemma ofEntries_eq_ok_iff (s : Settings) : ofEntries table = .ok s ↔
    (∀ e ∈ table, Fits e.1 e.2) ∧ s = ({} : Settings).withEntries table ∧ s.pollMillis ≠ 0 := by
  rw [ofEntries_eq, bind_eq_ok]
  simp only [foldlM_setEntry_eq_ok_iff h, check_eq_ok_iff]
  constructor
  · rintro ⟨_, ⟨hall, rfl⟩, rfl, hpoll⟩
    exact ⟨hall, rfl, hpoll⟩
  · rintro ⟨hall, rfl, hpoll⟩
    exact ⟨_, ⟨hall, rfl⟩, rfl, hpoll⟩

lemma exists_ofEntries_iff : (∃ s, ofEntries table = .ok s) ↔
    WellTyped table ∧ ∀ v, table.lookup "poll_ms" = some v → ∃ n : ℤ, 1 ≤ n ∧ v = .integer n := by
  simp only [ofEntries_eq_ok_iff h, fits_iff h]
  constructor
  · rintro ⟨_, ⟨htyped, hnatural⟩, rfl, hpoll⟩
    refine ⟨htyped, fun v hv => ?_⟩
    obtain ⟨n, rfl⟩ := hnatural v hv
    refine ⟨n, ?_, rfl⟩
    by_contra hn
    obtain rfl : n = 0 := by omega
    exact hpoll ((pollMillis_withEntries_eq_zero_iff hnatural).mpr hv)
  · rintro ⟨htyped, hinterval⟩
    have hnatural : ∀ v, table.lookup "poll_ms" = some v → ∃ n : ℕ, v = .integer n := by
      intro v hv
      obtain ⟨n, hn, rfl⟩ := hinterval v hv
      exact ⟨n.toNat, congrArg Value.integer (Int.toNat_of_nonneg (Int.le_trans (by decide) hn)).symm⟩
    refine ⟨_, ⟨htyped, hnatural⟩, rfl, fun hpoll => ?_⟩
    obtain ⟨n, hn, hzero⟩ := hinterval _ ((pollMillis_withEntries_eq_zero_iff hnatural).mp hpoll)
    cases hzero
    exact absurd hn (by decide)

lemma ofEntries_eq_zeroInterval_iff_lookup : ofEntries table = .error .zeroInterval ↔
    WellTyped table ∧ table.lookup "poll_ms" = some (.integer 0) := by
  rw [ofEntries_eq_zeroInterval_iff]
  simp only [foldlM_setEntry_eq_ok_iff h, fits_iff h]
  constructor
  · rintro ⟨_, ⟨⟨htyped, hnatural⟩, rfl⟩, hpoll⟩
    exact ⟨htyped, (pollMillis_withEntries_eq_zero_iff hnatural).mp hpoll⟩
  · rintro ⟨htyped, hzero⟩
    have hnatural : ∀ v, table.lookup "poll_ms" = some v → ∃ n : ℕ, v = .integer n := by
      intro v hv
      exact ⟨0, Option.some.inj (hv.symm.trans hzero)⟩
    exact ⟨_, ⟨⟨htyped, hnatural⟩, rfl⟩, (pollMillis_withEntries_eq_zero_iff hnatural).mpr hzero⟩

end Bare

/-- The table `rules` counts as the whole document would. Entries without such a table are settings, namely theirs and
the defaults for what is missing, if they have known keys and the right types and do not make the interval zero. -/
theorem ofToml_exact :
    (∀ text document, Toml.read? text = some document → IsTable document ∧
      (∀ key table, document.lookup key = some (.table table) → IsTable table) ∧ read text = ofToml document) ∧
    (∀ document table, document.lookup "rules" = some (.table table) → table.lookup "rules" = none →
      ofToml document = ofToml table) ∧
    ∀ table, IsTable table → (∀ entries, table.lookup "rules" ≠ some (.table entries)) →
      ((∃ s, ofToml table = .ok s) ↔ WellTyped table ∧
        ∀ v, table.lookup "poll_ms" = some v → ∃ n : ℤ, 1 ≤ n ∧ v = .integer n) ∧
      (∀ s, ofToml table = .ok s → s = ({} : Settings).withEntries table ∧
        ∀ (σ : Type) (store : σ), Reloader.start s store = .ok { settings := s, store }) ∧
      (ofToml table = .error .zeroInterval ↔ WellTyped table ∧ table.lookup "poll_ms" = some (.integer 0)) := by
  refine ⟨fun text document hd => ?_, fun document table hd ht => ?_, fun table htable hbare => ?_⟩
  · obtain ⟨hdocument, htables⟩ := isTable_of_read? hd
    exact ⟨hdocument, htables, read_of_read? hd⟩
  · have hbare : ∀ entries, table.lookup "rules" ≠ some (.table entries) := fun entries he => by
      rw [ht] at he
      cases he
    rw [ofToml, ofToml, relevant_of_table hd, relevant_of_bare hbare]
  · rw [ofToml, relevant_of_bare hbare]
    refine ⟨exists_ofEntries_iff htable, fun s hs => ?_, ofEntries_eq_zeroInterval_iff_lookup htable⟩
    obtain ⟨-, hvalues, hpoll⟩ := (ofEntries_eq_ok_iff htable s).mp hs
    exact ⟨hvalues, fun σ store => start_eq_ok hpoll store⟩

def hourly : List (String × Value) := [("poll_ms", .integer 3600000), ("prefix", .datetime "2024-05-01")]

theorem ofToml_exact_hourly :
    (∃ document, Toml.read? "title = 'x'\n[rules]\nprefix = 2024-05-01\npoll_ms = 3_600_000" = some document ∧
      IsTable document ∧ ofToml document = .ok { keyPrefix := "2024-05-01", pollMillis := 3600000 }) ∧
    IsTable hourly ∧ hourly.lookup "rules" = none ∧
    ofToml [("rules", .table hourly), ("title", .string "x")] = ofToml hourly ∧
    ∃ s, ofToml hourly = .ok s ∧ s = { keyPrefix := "2024-05-01", pollMillis := 3600000 } := by
  obtain ⟨hread, hnested, hexact⟩ := ofToml_exact
  have htext : (Toml.read? "title = 'x'\n[rules]\nprefix = 2024-05-01\npoll_ms = 3_600_000").isSome := by
    decide +kernel
  obtain ⟨document, hdocument⟩ := Option.isSome_iff_exists.mp htext
  obtain ⟨hsorted, -, hsettings⟩ := hread _ _ hdocument
  have htable : IsTable hourly := by
    rw [IsTable, hourly, List.pairwise_pair]
    decide
  have hfits : ∀ e ∈ hourly, Fits e.1 e.2 := by
    intro e he
    rcases List.mem_pair.mp he with rfl | rfl
    · exact .interval rfl
    · exact .text (by decide) rfl
  obtain ⟨hok, hvalues, -⟩ := hexact hourly htable fun _ he => by cases he
  have htyped : WellTyped hourly := ((fits_iff htable).mp hfits).1
  obtain ⟨s, hs⟩ := hok.mpr ⟨htyped, fun v hv => ⟨3600000, by decide, (Option.some.inj hv).symm⟩⟩
  refine ⟨⟨document, hdocument, hsorted, ?_⟩, htable, rfl, hnested _ _ rfl rfl, s, hs, (hvalues s hs).1⟩
  rw [← hsettings]
  decide +kernel

end Settings

end DiscountTables
