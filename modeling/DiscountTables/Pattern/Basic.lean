import DiscountTables.Pattern.Resolve
import DiscountTables.Pattern.Search
import DiscountTables.Pattern.Size

namespace DiscountTables

/-- A valid pattern, which fits into the limit. Its meaning is determined by its text. -/
structure Pattern where
  source : String
  node : Pattern.Node
  read_source : Pattern.Node.read source = .ok node
  fits : node.fits = true

namespace Pattern

inductive Invalid where
  | faulty (source : String) (fault : Fault)
  | oversized
  deriving DecidableEq, Repr

def Invalid.message : Invalid → String
  | faulty source fault => fault.render source
  | oversized => "Compiled regex exceeds size limit of " ++ toString sizeLimit ++ " bytes."

def ofText (text : String) : Except Invalid Pattern :=
  match h : Node.read text with
  | .error fault => .error (.faulty text fault)
  | .ok node => if fits : node.fits then .ok ⟨text, node, h, fits⟩ else .error .oversized

def ofCell (cell : String) : Except Invalid Pattern := ofText ("^(?:" ++ cell ++ ")$")

theorem eq_of_source_eq {p q : Pattern} (h : p.source = q.source) : p = q := by
  obtain ⟨s, n, hn, _⟩ := p
  obtain ⟨s', n', hn', _⟩ := q
  subst h
  have : n = n' := Except.ok.inj (hn.symm.trans hn')
  subst this
  rfl

instance : DecidableEq Pattern := fun p q =>
  if h : p.source = q.source then isTrue (eq_of_source_eq h)
  else isFalse fun e => h (e ▸ rfl)

def occursIn (p : Pattern) (text : String) : Bool := p.node.occursIn text

end Pattern

end DiscountTables
