import ImageCatalog.Text.Blank

/-!
# Tokens

A text is cut into tokens at the characters of a class: a token is a longest run of characters
outside the class.
-/

namespace ImageCatalog.Text

/-- The longest runs of characters outside a class, where `current` is the run that is open at the
front, last character first. -/
def tokensFrom (separates : Char → Bool) (current : List Char) : List Char → List (List Char)
  | [] => if current.isEmpty then [] else [current.reverse]
  | char :: rest =>
    if separates char then
      if current.isEmpty then tokensFrom separates [] rest
      else current.reverse :: tokensFrom separates [] rest
    else tokensFrom separates (char :: current) rest

/-- The longest runs of characters outside a class. -/
def tokens (separates : Char → Bool) (chars : List Char) : List (List Char) :=
  tokensFrom separates [] chars

end ImageCatalog.Text
