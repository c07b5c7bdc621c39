/-!
# Ranges of characters

A class of characters is given by the ranges of code points that it covers, lowest first. The
tables beside this module (digits, letters, printable characters) are such lists; membership is
decided here, once for all of them.
-/

namespace ImageCatalog.Text

/-- Whether the code point of a character lies in one of the ranges, both ends included. -/
def inRanges (ranges : List (Nat × Nat)) (char : Char) : Bool :=
  ranges.any fun range => range.1 ≤ char.toNat && char.toNat ≤ range.2

end ImageCatalog.Text
