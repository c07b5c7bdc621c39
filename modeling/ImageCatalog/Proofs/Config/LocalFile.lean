import ImageCatalog.Config.Document
import ImageCatalog.Json.Writer
import ImageCatalog.Proofs.Config.Outcome
import ImageCatalog.Proofs.Json.Accepted
import ImageCatalog.Proofs.Json.LineEnds
import ImageCatalog.Proofs.Yaml.Values

/-!
# Local files and fetched documents

The catalog brings configurations as JSON, while local files are read as YAML, whatever they hold.
The two readings agree on every JSON text that is spelt in a portable way: the line ends that the
file loses do not matter, the text has no characters that YAML refuses, and its tokens, its nodes
and its values are those that the spelling shows. What the document is checked for then is the same,
and so is what is reported. On texts that are not portable they do not agree.
-/

namespace ImageCatalog.Config

open Text

/-- The text of a portable document is read from a file as the value that it spells. -/
theorem readBytes_chars {document : Json.Document} (portable : document.IsPortable)
    (fileName : String) :
    readBytes fileName (Utf8.encodeChars document.chars) = .ok document.content.value := by
  have reads : Yaml.read (String.ofList document.unified.chars) = .ok document.content.value := by
    rw [← document.content.value_unified]
    exact Json.Document.yaml_read_eq portable.unified
  simp only [readBytes, Utf8.decodeChars?_encodeChars, document.unify_chars, reads]

/-- Every text that JSON accepts is spelt in some way, and if any way in which it is spelt is
portable, a local file with the text is taken for the configuration that its value describes, or
reported as its value is. -/
theorem ofBytes_eq_build_of_read {text : String} {value : Value}
    (reads : Json.read text = .ok value) :
    (∃ document : Json.Document, document.chars = text.toList) ∧
      ∀ document : Json.Document, document.chars = text.toList → document.IsPortable →
        ∀ fileName category : String,
          ofBytes fileName (Utf8.encode text) category =
            (build value (nameOfFile fileName) category).mapError .invalid := by
  constructor
  · rcases Json.read_eq_ok_iff.mp reads with ⟨document, spelt, _⟩
    exact ⟨document, spelt⟩
  · intro document spelt portable fileName category
    have same : document.content.value = value := by
      have again : Json.read text = .ok document.content.value :=
        Json.read_eq_ok_iff.mpr ⟨document, spelt, rfl⟩
      rw [reads, Except.ok.injEq] at again
      exact again.symm
    have found : readBytes fileName (Utf8.encode text) = .ok value := by
      rw [← same, Utf8.encode, ← spelt]
      exact readBytes_chars portable fileName
    rw [ofBytes, found]
    rfl

/-! ## A portable configuration -/

/-- The characters of a configuration, with what stands before its first name and before the colon
behind it, its title, and an option. -/
def sampleChars (edge beforeColon title option : String) : List Char :=
  ["\x7b", edge, "\"friendly_name\"", beforeColon, ": ", title, ", \"link\": ",
    "\"https://h.test/i\"", ", \"func\": \"GET\"", ", \"parameters\": ", "[\x7b\"type\": \"enum\"",
    ", \"value\": [", option, "]\x7d], ", "\"response\": ", "\x7b\"image\": ",
    "\x7b\"content_type\": ", "\"URL\"\x7d\x7d\x7d"].flatMap String.toList

/-- The pieces of a text whose characters all stand for themselves. -/
def plainly (text : String) : List Json.Piece :=
  text.toList.filterMap fun char =>
    if allowed : char ≠ '"' ∧ char ≠ '\\' ∧ 0x20 ≤ char.toNat then some (.plain char allowed)
    else none

/-- A spelling of a sample, with a line end of two characters in front of its first name. -/
def sampleDocument : Json.Document :=
  let nothing : Json.Gap := ⟨[], by decide⟩
  let line : Json.Gap := ⟨['\r', '\n', ' '], by decide⟩
  let blank : Json.Gap := ⟨[' '], by decide⟩
  let label (name : String) : Json.Label := ⟨plainly name, nothing, blank⟩
  let quoted (text : String) : Json.Spelling := .text (plainly text)
  let number : Json.Numeral :=
    ⟨false, ['1'], ['5'], some ⟨false, some true, ['3'], by decide, by decide⟩, by decide,
      by decide, by decide⟩
  let parameter : Json.Fields :=
    .more (label "type") (quoted "enum") nothing blank
      (.last (label "value") (.list nothing (.last (.number number) nothing)) nothing)
  let image : Json.Fields :=
    .last (label "image")
      (.object nothing (.last (label "content_type") (quoted "URL") nothing)) nothing
  let fields : Json.Fields :=
    .more (label "friendly_name") (quoted "f") nothing blank
      (.more (label "link") (quoted "https://h.test/i") nothing blank
        (.more (label "func") (quoted "GET") nothing blank
          (.more (label "parameters") (.list nothing (.last (.object nothing parameter) nothing))
            nothing blank (.last (label "response") (.object nothing image) nothing))))
  ⟨nothing, .object line fields, nothing⟩

theorem ofBytes_sampleDocument :
    let text := String.ofList (sampleChars "\r\n " "" "\"f\"" "1.5e-3")
    Json.read text = .ok sampleDocument.content.value ∧
      (build sampleDocument.content.value "c" localCategory).toOption.isSome = true ∧
        ofBytes "c.api.json" (Utf8.encode text) localCategory =
          (build sampleDocument.content.value (nameOfFile "c.api.json") localCategory).mapError
            .invalid := by
  intro text
  have spelt : sampleDocument.chars = text.toList := by
    rw [String.toList_ofList]
    decide +kernel
  have reads := Json.read_eq_ok_iff.mpr ⟨sampleDocument, spelt, rfl⟩
  exact ⟨reads, by decide +kernel, (ofBytes_eq_build_of_read reads).2 sampleDocument spelt
    (by decide +kernel) "c.api.json" localCategory⟩

/-! ## Texts that are not portable -/

/-- What tells the samples apart: the title and the kinds of the options. -/
def outline (config : Config) : String × List (List String) :=
  (config.description.title, config.description.parameters.map fun parameter =>
    match parameter.kind with
    | .choice field => field.options.map Value.kindName
    | _ => [])

/-- The outline of what a text is as JSON. -/
def fetchedOutline (chars : List Char) : Option (String × List (List String)) :=
  (Json.readAll chars).toOption.bind fun document =>
    (build document "c" localCategory).toOption.map outline

/-- The outline of what a text is as a local file. -/
def filedOutline (chars : List Char) : Option (String × List (List String)) :=
  (Yaml.Node.ofCut (Yaml.cut (unifyLineEnds chars))).toOption.bind fun root =>
    (root.toValue root.height).toOption.bind fun document =>
      (build document "c" localCategory).toOption.map outline

theorem map_outline_ofBytes (chars : List Char) :
    (ofBytes "c.api.json" (Utf8.encodeChars chars) localCategory).toOption.map outline =
      filedOutline chars := by
  have name : nameOfFile "c.api.json" = "c" := nameOfFile_append "c"
  rw [toOption_ofBytes, toOption_readBytes, name]
  simp only [filedOutline, filedDocument?, Option.bind_eq_bind, Option.map_bind, Option.bind_assoc,
    Function.comp_def]

theorem exists_of_outlines {chars : List Char} (fetched : (fetchedOutline chars).isSome = true)
    (differs : filedOutline chars ≠ fetchedOutline chars) :
    ∃ document config, Json.read (String.ofList chars) = .ok document ∧
      build document "c" localCategory = .ok config ∧
        ofBytes "c.api.json" (Utf8.encode (String.ofList chars)) localCategory ≠ .ok config := by
  rcases Option.isSome_iff_exists.mp fetched with ⟨found, outlined⟩
  rcases Option.bind_eq_some_iff.mp outlined with ⟨document, reads, built⟩
  rcases Option.map_eq_some_iff.mp built with ⟨config, builds, rfl⟩
  refine ⟨document, config, ?_, Results.eq_ok_of_toOption builds, fun same => differs ?_⟩
  · rw [Json.read, String.toList_ofList]
    exact Results.eq_ok_of_toOption reads
  · rw [Utf8.encode, String.toList_ofList] at same
    rw [outlined, ← map_outline_ofBytes, same]
    rfl

/-- A tab in front of a name, a line end before a colon, a character that YAML refuses, one that
ends a line there, the two halves of a pair, an exponent without a fraction, one without a sign, and
not-a-number. -/
def unportableSamples : List (List Char) :=
  [sampleChars "\n\t" "" "\"f\"" "1", sampleChars "" "\n" "\"f\"" "1",
    sampleChars "" "" "\"\x7f\"" "1", sampleChars "" "" "\"a\u0085b\"" "1",
    sampleChars "" "" "\"\\ud83d\\ude00\"" "1", sampleChars "" "" "\"f\"" "1e-5",
    sampleChars "" "" "\"f\"" "1.5e3", sampleChars "" "" "\"f\"" "NaN"]

/-- The file gives the configuration its name, but each of these samples is a configuration as JSON,
and none or another one as a local file. -/
theorem ofBytes_ne_build_of_unportable :
    nameOfFile "c.api.json" = "c" ∧ ∀ chars ∈ unportableSamples, ∃ document config,
      Json.read (String.ofList chars) = .ok document ∧
        build document "c" localCategory = .ok config ∧
          ofBytes "c.api.json" (Utf8.encode (String.ofList chars)) localCategory ≠ .ok config := by
  have each : ∀ chars ∈ unportableSamples,
      (fetchedOutline chars).isSome = true ∧ filedOutline chars ≠ fetchedOutline chars := by
    decide +kernel
  exact ⟨nameOfFile_append "c", fun chars member =>
    exists_of_outlines (each chars member).1 (each chars member).2⟩

end ImageCatalog.Config
