import DiscountTables.Proofs.Store.Memory

namespace DiscountTables

inductive Answer (α : Type) where
  | listed (result : Except StoreError (List ObjectInfo))
  | headed (result : Except StoreError String)
  | fetched (result : Except StoreError (Fetched α))
  | copied (result : Except StoreError Unit)

namespace Answer

variable {α : Type}

def tag? : Answer α → Option String
  | headed (.ok tag) => some tag
  | _ => none

def document? : Answer α → Option (Fetched α)
  | fetched (.ok document) => some document
  | _ => none

end Answer

/-- A store to which others may do anything before each call. The answers are kept, the latest last. -/
structure SharedStore (σ α : Type) where
  store : σ
  others : ℕ → σ → σ
  answers : List (Answer α) := []

namespace SharedStore

variable {σ α β : Type}

def found (s : SharedStore σ α) : σ := s.others s.answers.length s.store

def recorded (s : SharedStore σ α) (answer : Answer α) (store : σ) : SharedStore σ α :=
  { s with store, answers := s.answers ++ [answer] }

def call (record : Except StoreError β → Answer α) (x : StoreAction σ StoreError β) :
    StoreAction (SharedStore σ α) StoreError β :=
  ExceptT.mk fun s =>
    let (result, store) := x.run s.found
    (result, s.recorded (record result) store)

instance [ObjectStore σ α] : ObjectStore (SharedStore σ α) α where
  list keyPrefix := call .listed (ObjectStore.list keyPrefix)
  head key := call .headed (ObjectStore.head key)
  get key := call .fetched (ObjectStore.get key)
  copy source target := call .copied (ObjectStore.copy source target)

lemma run_call (record : Except StoreError β → Answer α) (x : StoreAction σ StoreError β)
    (s : SharedStore σ α) :
    (call record x).run s = ((x.run s.found).1, s.recorded (record (x.run s.found).1) (x.run s.found).2) := by
  rfl

lemma answers_call {record : Except StoreError β → Answer α} {x : StoreAction σ StoreError β}
    {s s' : SharedStore σ α} {result : Except StoreError β} (h : (call record x).run s = (result, s')) :
    s'.answers = s.answers ++ [record result] := by
  obtain ⟨rfl, rfl⟩ := Prod.mk.inj h
  rfl

/-- From now on others leave the store alone. -/
def Untouched (s : SharedStore σ α) : Prop := ∀ n, s.answers.length ≤ n → ∀ t, s.others n t = t

end SharedStore

section Agrees

variable {σ α ε ε' β γ : Type}

def Agrees (x : StoreAction (SharedStore σ α) ε β) (y : StoreAction σ ε β) : Prop :=
  ∀ s : SharedStore σ α, s.Untouched →
    (x.run s).1 = (y.run s.store).1 ∧ (x.run s).2.store = (y.run s.store).2 ∧ (x.run s).2.Untouched

lemma agrees_pure (a : β) : Agrees (pure a : StoreAction (SharedStore σ α) ε β) (pure a) :=
  fun _ hs => ⟨rfl, rfl, hs⟩

lemma agrees_throw (e : ε) : Agrees (throw e : StoreAction (SharedStore σ α) ε β) (throw e) :=
  fun _ hs => ⟨rfl, rfl, hs⟩

lemma agrees_call (record : Except StoreError β → Answer α) (x : StoreAction σ StoreError β) :
    Agrees (SharedStore.call record x) x := by
  intro s hs
  have hfound : s.found = s.store := hs _ le_rfl _
  rw [SharedStore.run_call, hfound]
  refine ⟨rfl, rfl, ?_⟩
  intro n hn
  rw [SharedStore.recorded, List.length_append] at hn
  exact hs n (by omega)

lemma Agrees.adapt {x : StoreAction (SharedStore σ α) ε β} {y : StoreAction σ ε β} (h : Agrees x y)
    (g : ε → ε') : Agrees (x.adapt g) (y.adapt g) := by
  intro s hs
  obtain ⟨hresult, hstore, huntouched⟩ := h s hs
  rw [run_adapt, run_adapt, hresult]
  exact ⟨rfl, hstore, huntouched⟩

lemma Agrees.bind {x : StoreAction (SharedStore σ α) ε β} {y : StoreAction σ ε β}
    {k : β → StoreAction (SharedStore σ α) ε γ} {l : β → StoreAction σ ε γ} (h : Agrees x y)
    (hk : ∀ a, Agrees (k a) (l a)) : Agrees (x >>= k) (y >>= l) := by
  intro s hs
  obtain ⟨hresult, hstore, huntouched⟩ := h s hs
  rw [run_bind, run_bind]
  rcases hx : x.run s with ⟨result, s'⟩
  rcases hy : y.run s.store with ⟨result', t⟩
  simp only [hx, hy] at hresult hstore huntouched
  subst hresult hstore
  cases result with
  | error e => exact ⟨rfl, rfl, huntouched⟩
  | ok a => exact hk a s' huntouched

end Agrees

end DiscountTables
