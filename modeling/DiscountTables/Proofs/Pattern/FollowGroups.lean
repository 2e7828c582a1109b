import DiscountTables.Proofs.Pattern.FollowClasses

namespace DiscountTables.Pattern

open Text

variable {ι α β : Type} {tail : ι → List Char} {verbose : Bool} {c : Cursor} {c' : ι → Cursor}

section Flags

variable {items items' : List (Option Flag × Span)}

lemma find?_map_fst (h : items'.map Prod.fst = items.map Prod.fst) (o : Option Flag) :
    (items'.find? fun item => item.1 == o).map Prod.fst =
      (items.find? fun item => item.1 == o).map Prod.fst := by
  have hfind (l : List (Option Flag × Span)) : (l.find? fun item => item.1 == o).map Prod.fst =
      (l.map Prod.fst).find? (· == o) := by rw [List.find?_map]; rfl
  rw [hfind, hfind, h]

lemma flagChanges_eq_foldl (items : List (Option Flag × Span)) : flagChanges items =
    ((items.map Prod.fst).foldl (fun (acc : FlagChanges × Bool) item => match item with
      | none => (acc.1, false)
      | some f => (acc.1 ++ [(f, acc.2)], acc.2)) ([], true)).1 := by
  rw [List.foldl_map]
  rfl

lemma flagChanges_congr (h : items'.map Prod.fst = items.map Prod.fst) :
    flagChanges items' = flagChanges items := by
  rw [flagChanges_eq_foldl, flagChanges_eq_foldl, h]

lemma getLast?_map_fst (h : items'.map Prod.fst = items.map Prod.fst) :
    items'.getLast?.map Prod.fst = items.getLast?.map Prod.fst := by
  rw [← List.getLast?_map, ← List.getLast?_map, h]

lemma exists_of_map_fst {x x' : Option (Option Flag × Span)} (h : x'.map Prod.fst = x.map Prod.fst)
    {o : Option Flag} {span : Span} (hx : x = some (o, span)) : ∃ span', x' = some (o, span') := by
  rw [hx] at h
  obtain ⟨⟨_, span'⟩, hs, rfl⟩ := Option.map_eq_some_iff.mp h
  exact ⟨span', hs⟩

lemma eq_none_of_map_fst {x x' : Option (Option Flag × Span)} (h : x'.map Prod.fst = x.map Prod.fst)
    (hx : x = none) : x' = none := by
  rwa [hx, Option.map_none, Option.map_eq_none_iff] at h

def FlagsExtend (tail : ι → List Char) (n : ℕ) : Prop :=
  ∀ {c : Cursor} {c' : ι → Cursor} {m : ι → ℕ} {items : List (Option Flag × Span)}
    {items' : ι → List (Option Flag × Span)}, c.Follows tail c' → c.left < n → (∀ i, (c' i).left < m i) →
    (∀ i, (items' i).map Prod.fst = items.map Prod.fst) →
    Extends (fun x x' => Kept tail (List.map Prod.fst) x x' ∧ x.2.rest ≠ []) (fun i x => x.2.rest = tail i)
      (flagItems n items c) fun i => flagItems (m i) (items' i) (c' i)

variable {items' : ι → List (Option Flag × Span)} {n : ℕ} {k : ι → ℕ} {d : Char} {r : List Char}

lemma extends_flagItems_last (h : c.Follows tail c') (hc : c.rest = d :: r) (hd : d = ':' ∨ d = ')')
    (hi : ∀ i, (items' i).map Prod.fst = items.map Prod.fst) :
    Extends (fun x x' => Kept tail (List.map Prod.fst) x x' ∧ x.2.rest ≠ []) (fun i x => x.2.rest = tail i)
      (flagItems (n + 1) items c) fun i => flagItems (k i + 1) (items' i) (c' i) := by
  have hlast (i : ι) := getLast?_map_fst (hi i)
  have hok : Extends (fun x x' => Kept tail (List.map Prod.fst) x x' ∧ x.2.rest ≠ [])
      (fun i x => x.2.rest = tail i) (.ok (items, c)) fun i => .ok (items' i, c' i) :=
    .of_rel ⟨⟨hi, h⟩, by simp [hc]⟩
  simp only [flagItems, hc, h.cons hc, if_pos hd]
  rcases hown : items.getLast? with - | ⟨- | f, span⟩
  · simp only [fun i => eq_none_of_map_fst (hlast i) hown]
    exact hok
  · choose span' hspan using fun i => exists_of_map_fst (hlast i) hown
    simp only [hspan]
    exact .faults
  · choose span' hspan using fun i => exists_of_map_fst (hlast i) hown
    simp only [hspan]
    exact hok

lemma extends_flagItems_flag (ih : FlagsExtend tail n) (h : c.Follows tail c') (hn : c.left ≤ n)
    (hm : ∀ i, (c' i).left ≤ k i) (hc : c.rest = d :: r) (hd : ¬ (d = ':' ∨ d = ')'))
    (hi : ∀ i, (items' i).map Prod.fst = items.map Prod.fst) :
    Extends (fun x x' => Kept tail (List.map Prod.fst) x x' ∧ x.2.rest ≠ []) (fun i x => x.2.rest = tail i)
      (flagItems (n + 1) items c) fun i => flagItems (k i + 1) (items' i) (c' i) := by
  have hnext := h.next (by simp [hc])
  have hlt : c.next.left < c.left := Cursor.left_next_lt (by simp [Cursor.left, hc])
  have hfind (o : Option Flag) (i : ι) := find?_map_fst (hi i) o
  have hpush (o : Option Flag) := ih hnext (hlt.trans_le hn) (fun i => (h.left_lt hnext hlt i).trans_le (hm i))
    fun i => (by simp [hi i] : (items' i ++ [(o, (c' i).charSpan)]).map Prod.fst =
      (items ++ [(o, c.charSpan)]).map Prod.fst)
  simp only [flagItems, hc, h.cons hc, if_neg hd]
  cases flag? d with
  | none =>
    by_cases hminus : d = '-'
    · simp only [hminus, if_true]
      rcases hown : items.find? (fun item => item.1 == none) with - | ⟨o, span⟩
      · simp only [hown, fun i => eq_none_of_map_fst (hfind none i) hown]
        exact hpush none
      · choose span' hspan using fun i => exists_of_map_fst (hfind none i) hown
        simp only [hown, hspan]
        exact fun _ _ hx => by cases hx
    · simp only [hminus]
      exact .faults
  | some f =>
    rcases hown : items.find? (fun item => item.1 == some f) with - | ⟨o, span⟩
    · simp only [hown, fun i => eq_none_of_map_fst (hfind (some f) i) hown]
      exact hpush (some f)
    · choose span' hspan using fun i => exists_of_map_fst (hfind (some f) i) hown
      simp only [hown, hspan]
      exact fun _ _ hx => by cases hx

lemma extends_flagItems (ht : ∀ i, Closing (tail i)) (n : ℕ) : FlagsExtend tail n := by
  induction n with
  | zero => exact fun _ hn _ _ => absurd hn (Nat.not_lt_zero _)
  | succ n ih =>
    intro c c' m items items' h hn hm hi
    obtain ⟨k, hmk⟩ := Cursor.Follows.exists_eq_succ fun i => (Nat.zero_le _).trans_lt (hm i)
    simp only [hmk] at hm ⊢
    cases hc : c.rest with
    | nil =>
      simp only [flagItems, hc]
      intro i x hx
      rcases h.paren_or_nil ht hc i with ⟨more, htail, -, hi⟩ | hi
      · simp only [hi, or_true, if_true] at hx
        split at hx
        · cases hx
        · cases hx
          exact hi.trans htail.symm
      · simp [hi, fault] at hx
    | cons d r =>
      by_cases hd : d = ':' ∨ d = ')'
      · exact extends_flagItems_last h hc hd hi
      · exact extends_flagItems_flag ih h (Nat.lt_succ_iff.mp hn) (fun i => Nat.lt_succ_iff.mp (hm i)) hc hd hi

end Flags

section Names

def nameUpTo (fuel : ℕ) (read : List Char) : Reader (List Char) := fun c => do
  let (read, after) ← groupNameTail fuel read c
  if after.rest.isEmpty then fault .groupNameUnfinished after.here else return (read, after)

lemma rest_of_groupNameTail {n : ℕ} (hn : c.left ≤ n) (hc : '>' ∉ c.rest) {read : List Char}
    {x : List Char × Cursor} (hx : groupNameTail n read c = .ok x) : x.2.rest = [] := by
  induction n generalizing read c with
  | zero =>
    cases hx
    exact List.length_eq_zero_iff.mp (Nat.le_zero.mp hn)
  | succ n ih =>
    simp only [groupNameTail] at hx
    split at hx
    · rename_i hr
      cases hx
      exact hr
    · rename_i d r hr
      have hlt : c.next.left < c.left := Cursor.left_next_lt (by simp [Cursor.left, hr])
      have hd : d ≠ '>' := by
        rintro rfl
        simp [hr] at hc
      have hnext : '>' ∉ c.next.rest := by
        rw [Cursor.rest_next]
        exact fun h => hc (List.mem_of_mem_tail h)
      rw [if_neg hd] at hx
      split at hx
      · exact ih (by omega) hnext hx
      · cases hx

lemma rest_ne_nil_of_nameUpTo {n : ℕ} {read : List Char} {x : List Char × Cursor}
    (hx : nameUpTo n read c = .ok x) : x.2.rest ≠ [] := by
  obtain ⟨y, -, hx⟩ := bind_eq_ok.mp hx
  simp only at hx
  split at hx
  · cases hx
  · rename_i hy
    cases hx
    simpa using hy

lemma nameUpTo_ne_ok {n : ℕ} (hn : c.left ≤ n) (hc : '>' ∉ c.rest) (read : List Char) (x : List Char × Cursor) :
    nameUpTo n read c ≠ .ok x := by
  intro hx
  obtain ⟨y, hy, hx⟩ := bind_eq_ok.mp hx
  simp [rest_of_groupNameTail hn hc hy, fault] at hx

lemma extends_of_atEnd (ht : ∀ i, Closing (tail i)) (h : c.Follows tail c') (hc : c.rest = []) {n : ℕ}
    {m : ι → ℕ} (hn : c.left ≤ n) (hm : ∀ i, (c' i).left ≤ m i) (read : List Char) :
    Extends (Kept tail id) never (nameUpTo n read c) fun i => nameUpTo (m i) read (c' i) := by
  cases hx : nameUpTo n read c with
  | ok x => exact absurd hx (nameUpTo_ne_ok hn (by simp [hc]) read x)
  | error e =>
    intro i x hx
    refine nameUpTo_ne_ok (hm i) ?_ read x hx
    rcases h.paren_or_nil ht hc i with ⟨more, -, rfl | rfl, hi⟩ | hi <;> simp [hi]

lemma nameUpTo_cons {n : ℕ} {d : Char} {r : List Char} (hc : c.rest = d :: r) (read : List Char) :
    nameUpTo (n + 1) read c = if d = '>' then .ok (read, c)
      else if isGroupNamePart read.isEmpty d then nameUpTo n (d :: read) c.next
      else fault .groupNameInvalid c.charSpan := by
  simp only [nameUpTo, groupNameTail, hc]
  split
  · simp only [Except.bind, bind, hc]
    rfl
  split
  · rfl
  · rfl

lemma extends_nameUpTo (ht : ∀ i, Closing (tail i)) (h : c.Follows tail c') {n : ℕ} {m : ι → ℕ}
    (hn : c.left ≤ n) (hm : ∀ i, (c' i).left ≤ m i) (read : List Char) :
    Extends (Kept tail id) never (nameUpTo n read c) fun i => nameUpTo (m i) read (c' i) := by
  induction n generalizing m read c c' with
  | zero =>
    have hc : c.rest = [] := List.length_eq_zero_iff.mp (Nat.le_zero.mp hn)
    exact extends_of_atEnd ht h hc hn hm read
  | succ n ih =>
    cases hc : c.rest with
    | nil => exact extends_of_atEnd ht h hc hn hm read
    | cons d r =>
      have hlt : c.next.left < c.left := Cursor.left_next_lt (by simp [Cursor.left, hc])
      have hnext := h.next (by simp [hc])
      have hlt' := h.left_lt hnext hlt
      obtain ⟨k, hmk⟩ := Cursor.Follows.exists_eq_succ fun i => (Nat.zero_lt_of_lt (hlt' i)).trans_le (hm i)
      simp only [hmk, nameUpTo_cons hc, nameUpTo_cons (h.cons hc _)]
      by_cases hd : d = '>'
      · simp only [if_pos hd]
        exact .of_rel ⟨fun _ => rfl, h⟩
      simp only [if_neg hd]
      by_cases hpart : isGroupNamePart read.isEmpty d = true
      · simp only [if_pos hpart]
        exact ih hnext (by omega) (fun i => Nat.lt_succ_iff.mp ((hlt' i).trans_le ((hm i).trans_eq (hmk i)))) _
      · simp only [if_neg hpart]
        exact .faults

lemma groupName_eq (names : List (String × Span)) : groupName names c =
    if c.rest.isEmpty then fault .groupNameUnfinished c.here
    else nameUpTo c.rest.length [] c >>= fun x =>
      if x.1.isEmpty then fault .groupNameEmpty c.here
      else
        match names.lookup (String.ofList x.1.reverse) with
        | some earlier => .error ⟨.groupNameDuplicate, ⟨c.place, x.2.place⟩, some earlier⟩
        | none => .ok ((String.ofList x.1.reverse, ⟨c.place, x.2.place⟩), x.2.next) := by
  simp only [groupName, nameUpTo]
  split
  · rfl
  · cases groupNameTail c.rest.length [] c with
    | error e => rfl
    | ok x =>
      simp only [bind, Except.bind]
      by_cases hx : x.2.rest.isEmpty = true
      · simp only [if_pos hx]
        rfl
      · simp only [if_neg hx]
        rfl

lemma lookup_isSome_congr {names names' : List (String × Span)} (h : names'.map Prod.fst = names.map Prod.fst)
    (name : String) : (names'.lookup name).isSome = (names.lookup name).isSome := by
  have hlookup (l : List (String × Span)) : (l.lookup name).isSome = (l.map Prod.fst).contains name := by
    induction l with
    | nil => rfl
    | cons x l ih =>
      obtain ⟨first, span⟩ := x
      simp only [List.lookup_cons, List.map_cons, List.contains_cons]
      cases hx : name == first <;> simp [ih]
  rw [hlookup, hlookup, h]

lemma extends_groupName (ht : ∀ i, Closing (tail i)) (h : c.Follows tail c') {names : List (String × Span)}
    {names' : ι → List (String × Span)} (hnames : ∀ i, (names' i).map Prod.fst = names.map Prod.fst) :
    Extends (Kept tail Prod.fst) never (groupName names c) fun i => groupName (names' i) (c' i) := by
  by_cases hc : c.rest = []
  · rw [groupName_eq, if_pos (by simp [hc])]
    refine .of_errors (fun i x hx => ?_) _ _
    rw [groupName_eq] at hx
    split at hx
    · cases hx
    · obtain ⟨y, hy, -⟩ := bind_eq_ok.mp hx
      refine nameUpTo_ne_ok (le_refl (c' i).left) ?_ [] y hy
      rcases h.paren_or_nil ht hc i with ⟨more, -, rfl | rfl, hi⟩ | hi <;> simp [hi]
  · have hne : c.rest.isEmpty = false := by simpa using hc
    have hne' (i : ι) : (c' i).rest.isEmpty = false := by simp [h.append hc, hc]
    simp only [groupName_eq, hne, hne']
    refine (extends_nameUpTo ht h (le_refl c.rest.length) (fun i => le_refl (c' i).rest.length)
      []).bind_of_never ?_
    rintro ⟨read, after⟩ x' hx ⟨hread, hafter⟩
    have hread' (i : ι) : (x' i).1 = read := hread i
    simp only [hread']
    by_cases hempty : read.isEmpty = true
    · simp only [if_pos hempty]
      exact .faults
    · simp only [if_neg hempty]
      have hlookup (i : ι) := lookup_isSome_congr (hnames i) (String.ofList read.reverse)
      cases hown : names.lookup (String.ofList read.reverse) with
      | none =>
        have hnone (i : ι) : (names' i).lookup (String.ofList read.reverse) = none := by
          simpa [hown] using hlookup i
        simp only [hnone]
        exact .of_rel ⟨fun _ => rfl, hafter.next (rest_ne_nil_of_nameUpTo hx)⟩
      | some s =>
        intro i x hx
        obtain ⟨s', hs⟩ := Option.isSome_iff_exists.mp ((hlookup i).trans (by rw [hown]; rfl))
        simp [hs] at hx

end Names

section Counts

lemma decimal_of_stop (hc : ∀ d ∈ c.rest.head?, isBlank d = false ∧ isAsciiDigit d = false) :
    ∃ f, decimal verbose c = (.error f, c) := by
  have hblank (v : Bool) : c.takeWhile v isBlank = ([], c) := Cursor.collect_of_stop fun d hd => (hc d hd).1
  have hdigit : c.takeWhile verbose isAsciiDigit = ([], c) := Cursor.collect_of_stop fun d hd => (hc d hd).2
  exact ⟨_, by simp only [decimal, hblank, hdigit]; rfl⟩

lemma decimal_at_paren_or_nil (verbose : Bool) {more : List Char} (hc : c.rest = ')' :: more ∨ c.rest = []) :
    ∃ f, decimal verbose c = (.error f, c) := by
  apply decimal_of_stop
  rcases hc with hc | hc
  · rw [hc]
    rintro d ⟨⟩
    decide
  · simp [hc]

def upperBound (verbose : Bool) (first : Place) (least : Except Fault ℕ) : Reader Count := fun c =>
  match c.rest with
  | [] => fault .countUnclosed ⟨first, c.place⟩
  | ',' :: _ =>
    let c := c.advance verbose
    match c.rest with
    | [] => fault .countUnclosed ⟨first, c.place⟩
    | '\x7d' :: _ => least.map fun n => (⟨n, none⟩, c)
    | _ => do
      let least ← least
      let (most, c) := decimal verbose c
      return (⟨least, some (← most)⟩, c)
  | _ => least.map fun n => (⟨n, some n⟩, c)

lemma countBounds_eq (first : Place) : countBounds verbose first c =
    if c.rest.isEmpty then fault .countUnclosed ⟨first, c.place⟩
    else upperBound verbose first (decimal verbose c).1 (decimal verbose c).2 := rfl

lemma extends_upperBound (ht : ∀ i, Closing (tail i)) (h : c.Follows tail c') (first : Place)
    (first' : ι → Place) {least : Except Fault ℕ} {least' : ι → Except Fault ℕ}
    (hl : Extends (fun a b => ∀ i, b i = a) never least least') :
    Extends (Kept tail id) (fun i x => x.2.rest = tail i) (upperBound verbose first least c)
      fun i => upperBound verbose (first' i) (least' i) (c' i) := by
  simp only [upperBound]
  cases hc : c.rest with
  | nil =>
    intro i x hx
    rcases h.paren_or_nil ht hc i with ⟨more, htail, -, hi⟩ | hi
    · simp only [hi] at hx
      obtain ⟨n, -, rfl⟩ := map_eq_ok.mp hx
      exact hi.trans htail.symm
    · simp [hi, fault] at hx
  | cons d r =>
    have hc' := h.cons hc
    by_cases hcomma : d = ','
    · subst hcomma
      have ha := h.advance ht (by simp [hc]) verbose
      cases hs : (c.advance verbose).rest with
      | nil =>
        intro i x hx
        rcases ha.paren_or_nil ht hs i with ⟨more, htail, -, hi⟩ | hi
        · obtain ⟨f, hf⟩ := decimal_at_paren_or_nil verbose (Or.inl hi)
          simp [hc', hi, hf, bind_eq_ok] at hx
        · simp [hc', hi, fault] at hx
      | cons e s =>
        by_cases hbrace : e = '\x7d'
        · subst hbrace
          simp only [hc', ha.cons hs]
          exact hl.map fun n n' hn => ⟨fun i => by simp [hn i], ha⟩
        · simp only [hc', ha.cons hs, List.cons.injEq, hbrace, false_and, imp_self, implies_true]
          obtain ⟨hmost, hafter⟩ := decimal_follows ht ha verbose
          refine hl.bind_of_never fun n n' _ hn => ?_
          refine (Extends.of_toOption fun i => congrArg (Option.map id) (hmost i)).bind_of_never
            fun k k' _ hk => ?_
          exact .of_rel ⟨fun i => by simp [hn i, show k' i = k from hk i], hafter⟩
    · simp only [hc', List.cons.injEq, hcomma, false_and, imp_self, implies_true]
      exact hl.map fun n n' hn => ⟨fun i => by simp [hn i], h⟩

lemma extends_countBounds (ht : ∀ i, Closing (tail i)) (h : c.Follows tail c') (first : Place)
    (first' : ι → Place) : Extends (Kept tail id) (fun i x => x.2.rest = tail i) (countBounds verbose first c)
      fun i => countBounds verbose (first' i) (c' i) := by
  simp only [countBounds_eq]
  by_cases hc : c.rest = []
  · simp only [hc]
    refine .of_errors (fun i x => ?_) _ _
    rcases h.paren_or_nil ht hc i with ⟨more, -, -, hi⟩ | hi
    · obtain ⟨f, hf⟩ := decimal_at_paren_or_nil verbose (Or.inl hi)
      simp [upperBound, hi, hf, Except.map]
    · simp [hi, fault]
  · have hne : c.rest.isEmpty = false := by simpa using hc
    have hne' (i : ι) : (c' i).rest.isEmpty = false := by simp [h.append hc, hc]
    obtain ⟨hleast, hafter⟩ := decimal_follows ht h verbose
    simp only [hne, hne']
    apply extends_upperBound ht hafter
    exact .of_toOption fun i => congrArg (Option.map id) (hleast i)

end Counts

end DiscountTables.Pattern
