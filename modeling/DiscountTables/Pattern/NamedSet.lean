import DiscountTables.Pattern.Syntax
import DiscountTables.Text.Basic
import DiscountTables.Unicode.Age
import DiscountTables.Unicode.Category
import DiscountTables.Unicode.Property
import DiscountTables.Unicode.ScriptExtensions
import DiscountTables.Unicode.Segmentation

namespace DiscountTables.Pattern

open Text Unicode

def wordChars : CharSet :=
  .unions [Property.alphabetic, Category.union Category.mark, Category.decimalNumberSet,
    Category.connectorPunctuationSet, Property.joinControl]

namespace AsciiClass

def digitSet : CharSet := .between '0' '9'
def lowerSet : CharSet := .between 'a' 'z'
def upperSet : CharSet := .between 'A' 'Z'
def alphaSet : CharSet := lowerSet.union upperSet
def alnumSet : CharSet := alphaSet.union digitSet
def graphSet : CharSet := .between '!' '~'
def spaceSet : CharSet := .union (.between '\t' '\r') (.single ' ')
def wordSet : CharSet := alnumSet.union (.single '_')

def set : AsciiClass → CharSet
  | alnum => alnumSet
  | alpha => alphaSet
  | ascii => .between '\x00' '\x7f'
  | blank => .union (.single '\t') (.single ' ')
  | cntrl => .union (.between '\x00' '\x1f') (.single '\x7f')
  | digit => digitSet
  | graph => graphSet
  | lower => lowerSet
  | print => .between ' ' '~'
  | punct => graphSet.diff alnumSet
  | space => spaceSet
  | upper => upperSet
  | word => wordSet
  | xdigit => .unions [digitSet, .between 'A' 'F', .between 'a' 'f']

end AsciiClass

def PerlClass.set (unicode : Bool) : PerlClass → CharSet
  | .digit => if unicode then Category.decimalNumberSet else AsciiClass.digitSet
  | .space => if unicode then Property.whiteSpace else AsciiClass.spaceSet
  | .word => if unicode then wordChars else AsciiClass.wordSet

def normalName (name : String) : String :=
  let s := name.toList
  let hasIs := Text.foldCase (s.take 2) == ['i', 's']
  let kept := (if hasIs then s.drop 2 else s).filter fun c =>
    c != ' ' && c != '_' && c != '-' && c.toNat < 128
  let folded := Text.foldCase kept
  if hasIs && folded == ['c'] then "isc" else String.ofList folded

def categorySet? (name : String) : Option CharSet :=
  match name with
  | "any" => some .all
  | "assigned" => some Category.unassignedSet.complement
  | "ascii" => some AsciiClass.ascii.set
  | _ => (Category.named? name).map Category.union

inductive ValuedProperty where
  | category
  | script
  | scriptExtensions
  | age
  | graphemeBreak
  | wordBreak
  | sentenceBreak
  deriving DecidableEq, Repr

namespace ValuedProperty

def named? : String → Option ValuedProperty
  | "gc" | "generalcategory" => some category
  | "sc" | "script" => some script
  | "scx" | "scriptextensions" => some scriptExtensions
  | "age" => some age
  | "gcb" | "graphemeclusterbreak" => some graphemeBreak
  | "wb" | "wordbreak" => some wordBreak
  | "sb" | "sentencebreak" => some sentenceBreak
  | _ => none

def set? : ValuedProperty → String → Option CharSet
  | category => categorySet?
  | script => Script.named?
  | scriptExtensions => ScriptExtensions.named?
  | age => Age.named?
  | graphemeBreak => GraphemeBreak.named?
  | wordBreak => WordBreak.named?
  | sentenceBreak => SentenceBreak.named?

end ValuedProperty

def isPropertyName (name : String) : Bool :=
  (ValuedProperty.named? name).isSome || (Property.named? name).isSome ||
    Property.otherNames.contains name

def categoriesFirst : List String := ["cf", "sc", "lc"]

def namedSet (name : String) : Except FaultKind CharSet :=
  let name := normalName name
  if isPropertyName name && !categoriesFirst.contains name then
    match Property.named? name with
    | some s => .ok s
    | none => .error .propertyNotFound
  else
    match (categorySet? name).or (Script.named? name) with
    | some s => .ok s
    | none =>
      .error (if ["cs", "surrogate"].contains name || Script.bareNames.contains name then
        .propertyValueNotFound
      else .propertyNotFound)

def valuedSet (name value : String) : Except FaultKind CharSet :=
  let name := normalName name
  match (ValuedProperty.named? name).bind fun p => p.set? (normalName value) with
  | some s => .ok s
  | none => .error (if isPropertyName name then .propertyValueNotFound else .propertyNotFound)

namespace PropertyQuery

def set : PropertyQuery → Except FaultKind CharSet
  | .letter c => namedSet c.toString
  | .named name => namedSet name
  | .valued name value _ => valuedSet name value

def isNegated : PropertyQuery → Bool
  | .valued _ _ negated => negated
  | _ => false

end PropertyQuery

end DiscountTables.Pattern
