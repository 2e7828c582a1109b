namespace DiscountTables

structure FiniteMap (κ β : Type) where
  entries : List (κ × β)
  nodup : (entries.map Prod.fst).Nodup

namespace FiniteMap

variable {κ β : Type}

def empty : FiniteMap κ β := ⟨[], by simp⟩

def keys (m : FiniteMap κ β) : List κ := m.entries.map Prod.fst

def restrict (m : FiniteMap κ β) (keep : κ → Bool) : FiniteMap κ β where
  entries := m.entries.filter fun e => keep e.1
  nodup := m.nodup.sublist (List.filter_sublist.map Prod.fst)

variable [DecidableEq κ]

def get? (m : FiniteMap κ β) (key : κ) : Option β := m.entries.lookup key

def erase (m : FiniteMap κ β) (key : κ) : FiniteMap κ β := m.restrict (· != key)

theorem notMem_keys_erase (m : FiniteMap κ β) (key : κ) : key ∉ (m.erase key).keys := by
  simp [keys, erase, restrict]

def insert (m : FiniteMap κ β) (key : κ) (value : β) : FiniteMap κ β where
  entries := (key, value) :: (m.erase key).entries
  nodup := List.nodup_cons.2 ⟨m.notMem_keys_erase key, (m.erase key).nodup⟩

@[simp] theorem get?_empty (key : κ) : (empty : FiniteMap κ β).get? key = none := rfl

theorem lookup_filter (entries : List (κ × β)) (keep : κ → Bool) (key : κ) :
    (entries.filter fun e => keep e.1).lookup key = if keep key then entries.lookup key else none := by
  induction entries with
  | nil => simp
  | cons e rest ih =>
    obtain ⟨a, v⟩ := e
    by_cases ha : keep a <;> by_cases hk : key = a
    · subst hk
      simp [ha]
    · have : (key == a) = false := by simpa using hk
      simp [ha, List.lookup_cons, this, ih]
    · subst hk
      simp [ha, ih]
    · have : (key == a) = false := by simpa using hk
      simp [ha, List.lookup_cons, this, ih]

theorem get?_restrict (m : FiniteMap κ β) (keep : κ → Bool) (key : κ) :
    (m.restrict keep).get? key = if keep key then m.get? key else none :=
  lookup_filter m.entries keep key

theorem get?_erase (m : FiniteMap κ β) (key k : κ) :
    (m.erase key).get? k = if k = key then none else m.get? k := by
  rw [erase, get?_restrict]
  by_cases h : k = key <;> simp [h]

theorem get?_insert (m : FiniteMap κ β) (key k : κ) (value : β) :
    (m.insert key value).get? k = if k = key then some value else m.get? k := by
  by_cases h : k = key
  · subst h
    simp [get?, insert]
  · have hb : (k == key) = false := by simpa using h
    have := m.get?_erase key k
    simp only [get?, h, if_false] at this
    simp [get?, insert, List.lookup_cons, hb, h, this]

end FiniteMap

def FiniteMap.sorted {β : Type} (m : FiniteMap String β) : List (String × β) :=
  m.entries.mergeSort fun x y => x.1 ≤ y.1

end DiscountTables
