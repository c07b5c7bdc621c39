import ImageCatalog.Config.File
import ImageCatalog.Proofs.Text.Utf8

/-!
# What a file is read as

Whether a file is accepted, and what its document is, can be told from its characters: they are cut
into tokens, the tokens make up nodes, and the nodes have values. How a file that is not accepted is
reported is left out here.
-/

namespace ImageCatalog.Config

open Text

/-- The document that a row of characters is as a file. -/
def filedDocument? (chars : List Char) : Option Value := do
  let root ← (Yaml.Node.ofCut (Yaml.cut (unifyLineEnds chars))).toOption
  (root.toValue root.height).toOption

theorem toOption_yaml_read (chars : List Char) :
    (Yaml.read (String.ofList chars)).toOption =
      (Yaml.Node.ofCut (Yaml.cut chars)).toOption.bind fun root =>
        (root.toValue root.height).toOption := by
  rw [Yaml.read, String.toList_ofList]
  cases Yaml.Node.ofCut (Yaml.cut chars) with
  | error fault => rfl
  | ok root =>
      simp only [bind, Except.bind, Except.toOption, Option.bind_some]
      cases root.toValue root.height <;> rfl

theorem toOption_readBytes (fileName : String) (chars : List Char) :
    (readBytes fileName (Utf8.encodeChars chars)).toOption = filedDocument? chars := by
  have read : (readBytes fileName (Utf8.encodeChars chars)).toOption =
      (Yaml.read (String.ofList (unifyLineEnds chars))).toOption := by
    simp only [readBytes, Utf8.decodeChars?_encodeChars]
    split
    · next read => rw [read]; rfl
    · next read => rw [read]; rfl
    · next read => rw [read]; rfl
  exact read.trans (toOption_yaml_read _)

theorem toOption_ofBytes (fileName : String) (content : List UInt8) (category : String) :
    (ofBytes fileName content category).toOption =
      (readBytes fileName content).toOption.bind fun document =>
        (build document (nameOfFile fileName) category).toOption := by
  rw [ofBytes]
  cases readBytes fileName content with
  | error fault => rfl
  | ok document =>
      simp only [bind, Except.bind, Except.toOption, Option.bind_some]
      cases build document (nameOfFile fileName) category <;> rfl

end ImageCatalog.Config
