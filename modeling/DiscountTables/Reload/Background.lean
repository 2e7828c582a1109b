import DiscountTables.Reload.Basic

/-!
Reload loops in the background. A loop runs a cycle when it starts and one after each poll interval,
until it is stopped. Time is counted in milliseconds, and a cycle takes none.
-/

namespace DiscountTables

structure ReloadLoop where
  next : Nat
  running : Bool := true
  deriving DecidableEq, Repr

namespace ReloadLoop

def isDue (l : ReloadLoop) (until_ : Nat) : Bool := l.running && l.next ≤ until_

def ticked (period : Nat) (l : ReloadLoop) : ReloadLoop := { l with next := l.next + period }

def tickFirst (period until_ : Nat) : List ReloadLoop → List ReloadLoop
  | [] => []
  | l :: rest => if l.isDue until_ then l.ticked period :: rest else l :: tickFirst period until_ rest

def remaining (until_ : Nat) : List ReloadLoop → Nat
  | [] => 0
  | l :: rest => (if l.isDue until_ then until_ + 1 - l.next else 0) + remaining until_ rest

theorem remaining_tickFirst_lt {period t until_ : Nat} {loops : List ReloadLoop} (hperiod : 0 < period)
    (ht : t ≤ until_) (hdue : ∃ l ∈ loops, l.isDue t = true) :
    remaining until_ (tickFirst period t loops) < remaining until_ loops := by
  induction loops with
  | nil => simp at hdue
  | cons l rest ih =>
    rw [tickFirst]
    split
    · rename_i hl
      simp only [isDue, Bool.and_eq_true, decide_eq_true_eq] at hl
      have hlater : l.next ≤ until_ := Nat.le_trans hl.2 ht
      simp only [remaining, isDue, ticked, hl.1, hlater, decide_true, Bool.and_self, if_true]
      split <;> omega
    · rename_i hl
      obtain ⟨k, hk, hkdue⟩ := hdue
      have hrest : ∃ l ∈ rest, l.isDue t = true :=
        ⟨k, (List.mem_cons.mp hk).resolve_left fun heq => hl (heq ▸ hkdue), hkdue⟩
      exact Nat.add_lt_add_left (ih hrest) _

end ReloadLoop

/-- A reloader and its loops, the one that started last first. -/
structure Background (σ : Type) where
  reloader : Reloader σ
  now : Nat := 0
  loops : List ReloadLoop := []

namespace Background

variable {σ : Type}

def period (b : Background σ) : Nat := b.reloader.settings.pollMillis

/-- The instant of the first tick that comes until an instant. A timer without a period is refused, and
then there is none. -/
def nextTick? (b : Background σ) (until_ : Nat) : Option Nat :=
  if b.period = 0 then none else ((b.loops.filter fun l => l.isDue until_).map ReloadLoop.next).min?

theorem of_nextTick? {b : Background σ} {t until_ : Nat} (h : b.nextTick? until_ = some t) :
    0 < b.period ∧ t ≤ until_ ∧ ∃ l ∈ b.loops, l.isDue t = true := by
  rw [nextTick?] at h
  split at h
  · cases h
  · rename_i hperiod
    obtain ⟨l, hl, rfl⟩ := List.mem_map.mp (List.min?_mem h)
    obtain ⟨hl, hdue⟩ := List.mem_filter.mp hl
    simp only [ReloadLoop.isDue, Bool.and_eq_true, decide_eq_true_eq] at hdue
    refine ⟨Nat.pos_of_ne_zero hperiod, hdue.2, l, hl, ?_⟩
    simp [ReloadLoop.isDue, hdue.1]

def turn [ObjectStore σ Document] (b : Background σ) (t : Nat) : Background σ where
  reloader := b.reloader.afterCycle
  now := t
  loops := ReloadLoop.tickFirst b.period t b.loops

/-- The turns that the loops take until an instant: when they come, and what they lead to. -/
def run [ObjectStore σ Document] (b : Background σ) (until_ : Nat) : List Nat × Background σ :=
  match _h : b.nextTick? until_ with
  | none => ([], { b with now := until_ })
  | some t => ((b.turn t).run until_).map (t :: ·) id
termination_by ReloadLoop.remaining until_ b.loops
decreasing_by
  obtain ⟨hperiod, ht, hdue⟩ := of_nextTick? _h
  exact ReloadLoop.remaining_tickFirst_lt hperiod ht hdue

def due [ObjectStore σ Document] (b : Background σ) (until_ : Nat) : List Nat := (b.run until_).1

def passTo [ObjectStore σ Document] (b : Background σ) (until_ : Nat) : Background σ := (b.run until_).2

def advance [ObjectStore σ Document] (b : Background σ) (millis : Nat) : Background σ :=
  b.passTo (b.now + millis)

def spawn (b : Background σ) : Background σ := { b with loops := { next := b.now } :: b.loops }

/-- Stops the loop that started last. -/
def cancel (b : Background σ) : Background σ :=
  { b with loops :=
      match b.loops with
      | [] => []
      | l :: rest => { l with running := false } :: rest }

end Background

end DiscountTables
