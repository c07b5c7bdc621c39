import ImageCatalog.Text.Quoted
import ImageCatalog.Value.Calendar

/-!
# What can go wrong in a YAML document

A text may be no YAML document at all, or a scalar in it may not denote the value that its tag or
its form promises. The second kind has several causes, each with its own report.

One more fault is none of the text: the copies that stand here for the aliases of a document say
nothing about an alias inside its own node, nor about a node that means one thing before and another
after the mapping around its mark of a merge or of a value was read. Such a document is entangled.
-/

namespace ImageCatalog.Yaml

/-- Why a text is not read as a document. -/
inductive Fault
  | malformed
  | codePoint (value : Nat)
  | overlong (overflow : Text.DigitOverflow)
  | wholeInvalid (base : Nat) (chars : String)
  | realInvalid (chars : String)
  | numberMissing
  | powerTooLarge
  | flagInvalid
  | timestampInvalid
  | timestampNoText
  | calendar (fault : CalendarFault)
  | entangled
deriving DecidableEq, Repr

/-- What is reported about a fault. -/
def Fault.message : Fault → String
  | .malformed => "not valid JSON or YAML"
  | .codePoint value =>
    if value < 0x80000000 then "chr() arg not in range(0x110000)"
    else "Python int too large to convert to C int"
  | .overlong overflow => overflow.message
  | .wholeInvalid base chars =>
    "invalid literal for int() with base " ++ toString base ++ ": " ++ Text.Quoted.quote chars
  | .realInvalid chars => "could not convert string to float: " ++ Text.Quoted.quote chars
  | .numberMissing => "string index out of range"
  | .powerTooLarge => "int too large to convert to float"
  | .flagInvalid => "not a boolean"
  | .timestampInvalid => "not a timestamp"
  | .timestampNoText => "not a text"
  | .calendar fault => fault.message
  | .entangled => "entangled"

end ImageCatalog.Yaml
