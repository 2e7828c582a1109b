import DiscountTables.Proofs.Store.Directory

namespace DiscountTables

open Calendar

inductive FileEvent (α : Type) where
  | write (key : PathKey) (content : α) (modified : Instant)
  | makeDirectories (path : FilePath)
  | remove (path : FilePath)
  | list (keyPrefix : String)
  | head (key : String)
  | get (key : String)
  | copy (source target : String)

namespace DirectoryStore

variable {α : Type} {f : Fingerprint α} [EmptyCollection α]

def opened (f : Fingerprint α) (tree : FileTree α) (clock : Clock) : DirectoryStore f := { tree, clock }

def step (s : DirectoryStore f) : FileEvent α → DirectoryStore f
  | .write key content modified => ((writeFileAt key content modified).run s).2
  | .makeDirectories path => ((makeDirectories path).run s).2
  | .remove path => s.remove path
  | .list keyPrefix => ((ObjectStore.list keyPrefix).run s).2
  | .head key => ((ObjectStore.head key).run s).2
  | .get key => ((ObjectStore.get key).run s).2
  | .copy source target => ((ObjectStore.copy source target).run s).2

def after (s : DirectoryStore f) (events : List (FileEvent α)) : DirectoryStore f := events.foldl step s

/-- The file that an event reads: every call of `get` that finds one does, and a call of `head` if the tag is not
remembered. -/
def reading? (s : DirectoryStore f) : FileEvent α → Option (FileReading α)
  | .get key => (s.find key).toOption
  | .head key => (s.find key).toOption.filter fun r => (s.remembered? r.path (stamp f r)).isNone
  | _ => none

def readings (s : DirectoryStore f) : List (FileEvent α) → List (FileReading α)
  | [] => []
  | e :: rest => (s.reading? e).toList ++ (s.step e).readings rest

end DirectoryStore

namespace FileReading

variable {α : Type}

def latest? (readings : List (FileReading α)) (path : FilePath) : Option (FileReading α) :=
  (readings.filter fun r => r.path = path).getLast?

def remembered (f : Fingerprint α) (r : FileReading α) : RememberedTag :=
  ⟨DirectoryStore.stamp f r, f.tag r.content⟩

lemma latest?_concat (readings : List (FileReading α)) (r : FileReading α) (path : FilePath) :
    latest? (readings ++ [r]) path = if path = r.path then some r else latest? readings path := by
  rw [latest?, List.filter_append]
  by_cases h : path = r.path
  · simp [h]
  · simp [h, Ne.symm h, latest?]

end FileReading

namespace DirectoryStore

open FileReading

variable {α : Type} {f : Fingerprint α} {s : DirectoryStore f} {r : FileReading α}

/-- What is remembered of each file is its latest reading. -/
def Reflects (s : DirectoryStore f) (readings : List (FileReading α)) : Prop :=
  ∀ path, s.remembered.get? path = (latest? readings path).map (FileReading.remembered f)

lemma Reflects.congr {s' : DirectoryStore f} {readings : List (FileReading α)} (h : s.Reflects readings)
    (hs : s'.remembered = s.remembered) : s'.Reflects readings := by
  intro path
  rw [hs, h path]

lemma Reflects.remember {readings : List (FileReading α)} (h : s.Reflects readings) (r : FileReading α) :
    (s.remember r).Reflects (readings ++ [r]) := by
  intro path
  rw [DirectoryStore.remember, FiniteMap.get?_insert, h path, latest?_concat]
  split <;> rfl

lemma Reflects.remembered? {readings : List (FileReading α)} (h : s.Reflects readings) (path : FilePath)
    (st : FileStamp) : s.remembered? path st =
      ((latest? readings path).filter fun q => stamp f q = st).map fun q => f.tag q.content := by
  rw [DirectoryStore.remembered?, h path]
  cases latest? readings path with
  | none => rfl
  | some q => by_cases hq : stamp f q = st <;> simp [FileReading.remembered, hq]

lemma Reflects.unread [EmptyCollection α] {readings : List (FileReading α)} (h : s.Reflects readings)
    {e : FileEvent α} (hs : (s.step e).remembered = s.remembered) (he : s.reading? e = none) :
    (s.step e).Reflects (readings ++ (s.reading? e).toList) := by
  rw [he, Option.toList_none, List.append_nil]
  exact h.congr hs

lemma remembered_writeFileAt (key : PathKey) (content : α) (modified : Instant) (s : DirectoryStore f) :
    ((writeFileAt key content modified).run s).2.remembered = s.remembered := by
  rw [run_writeFileAt]
  rcases (FileTree.makeDirectories key.names.dropLast).run s.tree with ⟨e | _, t⟩
  · rfl
  · simp only
    cases t.checkWritable key <;> rfl

variable [EmptyCollection α]

lemma Reflects.step {readings : List (FileReading α)} (h : s.Reflects readings) (e : FileEvent α) :
    (s.step e).Reflects (readings ++ (s.reading? e).toList) := by
  cases e with
  | write key content modified => exact h.unread (remembered_writeFileAt key content modified s) rfl
  | makeDirectories path =>
    apply h.unread _ rfl
    rw [DirectoryStore.step, makeDirectories, run_onTree]
    rfl
  | remove path => exact h.unread rfl rfl
  | list keyPrefix =>
    apply h.unread _ rfl
    rw [DirectoryStore.step, run_list]
  | head key =>
    rw [reading?, DirectoryStore.step, run_head]
    cases s.find key with
    | error e => simpa [Except.toOption] using h
    | ok r =>
      -- A tag in mind under the file's stamp is answered, and the file is not read.
      cases ht : s.remembered? r.path (stamp f r) with
      | some tag => simpa [Except.toOption, Option.filter_some, ht] using h
      | none => simpa [Except.toOption, Option.filter_some, ht] using h.remember r
  | get key =>
    rw [reading?, DirectoryStore.step, run_readFile]
    cases s.find key with
    | error e => simpa [Except.toOption] using h
    | ok r => exact h.remember r
  | copy source target => exact h.unread (copy_outcome rfl).1 rfl

lemma Reflects.after {readings : List (FileReading α)} (h : s.Reflects readings) (events : List (FileEvent α)) :
    (s.after events).Reflects (readings ++ s.readings events) := by
  induction events generalizing s readings with
  | nil =>
    rw [DirectoryStore.readings, List.append_nil]
    exact h
  | cons e rest ih =>
    rw [DirectoryStore.readings, ← List.append_assoc]
    exact ih (h.step e)

structure AnswersFor (s : DirectoryStore f) (readings : List (FileReading α)) (key : String) (r : FileReading α) :
    Prop where
  get : ((ObjectStore.get key).run s).1 = .ok ⟨r.content, f.tag r.content⟩
  head : (∀ q, latest? readings r.path = some q → stamp f q ≠ stamp f r) →
    ((ObjectStore.head key).run s).1 = .ok (f.tag r.content)
  head_stale : ∀ q, latest? readings r.path = some q → stamp f q = stamp f r →
    ((ObjectStore.head key).run s).1 = .ok (f.tag q.content)
  head_eq_get : (∀ q, latest? readings r.path = some q → stamp f q = stamp f r → q.content = r.content) →
    ((ObjectStore.head key).run s).1 = ((ObjectStore.get key).run s).1.map Fetched.versionTag

lemma Reflects.run_head {readings : List (FileReading α)} (h : s.Reflects readings) {key : String}
    (hr : s.find key = .ok r) : ((ObjectStore.head key).run s).1 =
      .ok ((((latest? readings r.path).filter fun q => stamp f q = stamp f r).map fun q => f.tag q.content).getD
        (f.tag r.content)) := by
  rw [DirectoryStore.run_head, hr]
  simp only [h.remembered?]
  cases ((latest? readings r.path).filter fun q => stamp f q = stamp f r).map fun q => f.tag q.content <;> rfl

lemma Reflects.answersFor {readings : List (FileReading α)} (h : s.Reflects readings) {key : String}
    (hr : s.find key = .ok r) : s.AnswersFor readings key r := by
  have hget : ((ObjectStore.get key).run s).1 = .ok ⟨r.content, f.tag r.content⟩ := by
    rw [run_readFile, hr]
  have hstale : ∀ q, latest? readings r.path = some q → stamp f q = stamp f r →
      ((ObjectStore.head key).run s).1 = .ok (f.tag q.content) := by
    intro q hq hstamp
    rw [h.run_head hr, hq]
    simp [Option.filter_some, hstamp]
  have hfresh : (∀ q, latest? readings r.path = some q → stamp f q ≠ stamp f r) →
      ((ObjectStore.head key).run s).1 = .ok (f.tag r.content) := by
    intro hq
    rw [h.run_head hr]
    cases hl : latest? readings r.path with
    | none => rfl
    | some q => simp [Option.filter_some, hq q hl]
  refine ⟨hget, hfresh, hstale, ?_⟩
  intro hcontent
  rw [hget]
  by_cases hq : ∃ q, latest? readings r.path = some q ∧ stamp f q = stamp f r
  · obtain ⟨q, hq, hstamp⟩ := hq
    rw [hstale q hq hstamp, hcontent q hq hstamp]
    rfl
  · apply hfresh
    intro q hl hstamp
    exact hq ⟨q, hl, hstamp⟩

/-- After any events a store in files answers with the contents that a file has, and with their tag unless the
file has the stamp of its latest reading. -/
theorem answersFor_after (f : Fingerprint α) (tree : FileTree α) (clock : Clock) (events : List (FileEvent α))
    (key : String) (r : FileReading α) (hr : ((opened f tree clock).after events).find key = .ok r) :
    ((opened f tree clock).after events).AnswersFor ((opened f tree clock).readings events) key r := by
  have hstart : (opened f tree clock).Reflects [] := fun path => rfl
  exact (hstart.after events).answersFor hr

def rewritten : List (FileEvent (List ℕ)) := [
  .write ⟨["rules", "a"], .plain⟩ [1, 2] 5,
  .head "rules//a",
  .write ⟨["rules", "a"], .plain⟩ [3, 4] 5]

theorem answersFor_rewritten :
    let s := opened (⟨toString, List.length⟩ : Fingerprint (List ℕ)) .empty ⟨fun n => n, 0⟩
    (s.after rewritten).find "rules/./a" = .ok ⟨["rules", "a"], [3, 4], 5⟩ ∧
    (s.after rewritten).AnswersFor (s.readings rewritten) "rules/./a" ⟨["rules", "a"], [3, 4], 5⟩ ∧
    ((ObjectStore.head "rules/./a").run (s.after rewritten)).1 = .ok "[1, 2]" := by
  intro s
  have hfind : (s.after rewritten).find "rules/./a" = .ok ⟨["rules", "a"], [3, 4], 5⟩ :=
    toOption_eq_some_iff.mp (by decide +kernel)
  have hlatest : latest? (s.readings rewritten) ["rules", "a"] = some ⟨["rules", "a"], [1, 2], 5⟩ := by
    decide +kernel
  have h := answersFor_after _ _ _ rewritten "rules/./a" _ hfind
  exact ⟨hfind, h, h.head_stale _ hlatest (by decide)⟩

end DirectoryStore

end DiscountTables
