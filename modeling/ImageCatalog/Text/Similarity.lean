/-!
# Similar texts

Two texts are compared by their longest common block, and by the blocks to its left and right in the
same way. They are similar if the characters in common blocks make up at least three fifths of both
texts together. `closest` gives the candidates most similar to a text.
-/

namespace ImageCatalog.Text

/-- The number of characters that two rows have in common at their fronts. -/
def commonLead : List Char → List Char → Nat
  | [], _ => 0
  | _, [] => 0
  | left :: lefts, right :: rights => if left = right then commonLead lefts rights + 1 else 0

/-- A block that two rows have in common: where it starts in each, and its length. -/
structure CommonBlock where
  left : Nat
  right : Nat
  length : Nat
deriving DecidableEq, Repr

/-- The longer of two blocks; of equally long ones the first. -/
def CommonBlock.longer (first second : CommonBlock) : CommonBlock :=
  if first.length < second.length then second else first

/-- All blocks of two rows that are as long as possible for their starts. -/
def commonBlocks (left right : List Char) : List CommonBlock :=
  (List.range left.length).flatMap fun first =>
    (List.range right.length).map fun second =>
      ⟨first, second, commonLead (left.drop first) (right.drop second)⟩

/-- The longest block of two rows. -/
def longestBlock (left right : List Char) : CommonBlock :=
  (commonBlocks left right).foldl CommonBlock.longer ⟨0, 0, 0⟩

/-- The number of characters in the common blocks of two rows, down to a depth. -/
def commonCount : Nat → List Char → List Char → Nat
  | 0, _, _ => 0
  | depth + 1, left, right =>
    let block := longestBlock left right
    if block.length = 0 then 0
    else
      commonCount depth (left.take block.left) (right.take block.right) + block.length +
        commonCount depth (left.drop (block.left + block.length))
          (right.drop (block.right + block.length))

/-- A candidate with the number of characters that it has in common with a text, and the number of
characters of both. -/
structure Candidate where
  text : String
  common : Nat
  total : Nat

/-- Compare a candidate with a text. -/
def Candidate.of (text candidate : String) : Candidate :=
  ⟨candidate, commonCount candidate.length candidate.toList text.toList,
    candidate.length + text.length⟩

/-- Whether a candidate is similar to its text. -/
def Candidate.isSimilar (candidate : Candidate) : Bool :=
  3 * candidate.total ≤ 10 * candidate.common

/-- Whether a candidate comes before another one: it is more similar, or as similar and later in
alphabetical order. -/
def Candidate.precedes (first second : Candidate) : Bool :=
  let share := first.common * second.total
  let other := second.common * first.total
  other < share || (share == other && second.text ≤ first.text)

/-- The three candidates most similar to a text, in alphabetical order. -/
def closest (text : String) (candidates : List String) : List String :=
  let similar := (candidates.map (Candidate.of text)).filter Candidate.isSimilar
  let best := (similar.mergeSort Candidate.precedes).take 3
  (best.map Candidate.text).mergeSort fun first second => first ≤ second

end ImageCatalog.Text
