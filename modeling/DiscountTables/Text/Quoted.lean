import DiscountTables.Text.Basic
import DiscountTables.Unicode.Category
import DiscountTables.Unicode.Property

namespace DiscountTables.Text

open Unicode

def unseen : List Category :=
  .spaceSeparator :: .lineSeparator :: .paragraphSeparator :: Category.other

def isUnseen (c : Char) : Bool :=
  (unseen.any fun k => k.set.contains c) && !Additions.assigned.contains c

def isExtending (c : Char) : Bool :=
  (Property.graphemeExtend.contains c && Category.mark.any fun k => k.set.contains c) ||
    Additions.extending.contains c

def isShown (c : Char) : Bool :=
  c == ' ' ||
    (!isUnseen c && !Property.defaultIgnorableCodePoint.contains c && !isExtending c)

def quoteChar (c : Char) : String :=
  match c with
  | '\x00' => "\\0"
  | '\t' => "\\t"
  | '\r' => "\\r"
  | '\n' => "\\n"
  | '\\' => "\\\\"
  | '"' => "\\\""
  | _ => if isShown c then c.toString else "\\u\x7b" ++ hexText c.toNat ++ "\x7d"

def quoted (s : String) : String := "\"" ++ String.join (s.toList.map quoteChar) ++ "\""

end DiscountTables.Text
