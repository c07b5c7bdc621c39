/-!
# Line ends

Text files may end their lines with a line feed, a carriage return, or both. Reading a file turns
all of them into line feeds.
-/

namespace ImageCatalog.Text

/-- Turn every end of a line into a line feed. -/
def unifyLineEnds : List Char → List Char
  | [] => []
  | '\r' :: '\n' :: rest => '\n' :: unifyLineEnds rest
  | '\r' :: rest => '\n' :: unifyLineEnds rest
  | char :: rest => char :: unifyLineEnds rest

end ImageCatalog.Text
