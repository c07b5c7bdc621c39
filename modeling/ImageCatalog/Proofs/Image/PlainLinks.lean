import ImageCatalog.Proofs.Image.Payloads
import ImageCatalog.Proofs.Json.RoundTrip
import ImageCatalog.Proofs.Number.Literal
import ImageCatalog.Proofs.Text.Token

/-!
# Links in plain text

An answer of links that is no JSON document is taken for plain text, and its links are its tokens
between blanks and commas that start with `http`: each once for every place where it stands, in the
order of the places. A row of links with blanks and commas between them is such an answer, because a
JSON text starts with none of the characters with which the row can start.
-/

namespace ImageCatalog.Json

variable {char : Char} {chars : List Char}

/-- Whether a value can start with a character. -/
def opensValue (char : Char) : Bool :=
  char.isDigit || ['"', '[', '\x7b', 'n', 't', 'f', 'N', 'I', '-'].contains char

theorem readScalar_of_foreign (foreign : ∀ char ∈ chars.head?, opensValue char = false) :
    readScalar chars = .error .malformed := by
  have noDigit : ∀ char ∈ chars.head?, char.isDigit = false := fun char first =>
    (Bool.or_eq_false_iff.mp (foreign char first)).1
  unfold readScalar
  split
  iterate 7 exact absurd (foreign _ rfl) (by decide)
  by_contra wellFormed
  rcases exists_digit_of_readNumber rfl wellFormed with ⟨digit, others, rfl, isDigit⟩
  rw [noDigit digit rfl] at isDigit
  cases isDigit

theorem readValue_of_foreign (foreign : ∀ char ∈ chars.head?, opensValue char = false)
    (budget : Nat) : readValue budget chars = .error .malformed := by
  cases budget with
  | zero => rfl
  | succ budget =>
      unfold readValue
      split
      iterate 3 exact absurd (foreign _ rfl) (by decide)
      exact readScalar_of_foreign foreign

/-- A text is no JSON if no value can start with its first character that is no blank. -/
theorem readAll_of_foreign (foreign : ∀ char ∈ (skipGap chars).head?, opensValue char = false) :
    readAll chars = .error .malformed := by
  rw [readAll, readValue_of_foreign foreign]
  rfl

end ImageCatalog.Json

namespace ImageCatalog.Image

open Config Json Text

variable {char : Char} {gap rest : List Char} {text link : String} {links : List String}
  {place : Nat}

/-- The characters between the links in a plain text: blanks and commas. -/
def separatesLinks (char : Char) : Bool :=
  isBlank char || char == ','

/-- Whether a plain text has a link at a place: what stands there between blanks and commas starts
with `http`. -/
def IsLinkAt (text : String) (place : Nat) (link : String) : Prop :=
  IsTokenAt separatesLinks text.toList place link.toList ∧ startsWith "http" link = true

/-- Whether a row of links is that of a plain text: all of its links, each once for every place, in
the order of the places. -/
def AreLinksOf (text : String) (links : List String) : Prop :=
  ∃ placed : List (Nat × String), placed.map Prod.snd = links ∧
    placed.Pairwise (fun entry later => entry.1 < later.1) ∧
    ∀ place link, (place, link) ∈ placed ↔ IsLinkAt text place link

/-! ## The links of a text -/

theorem areLinksOf_plainLinks (text : String) : AreLinksOf text (plainLinks text) := by
  have separated : Separated separatesLinks (tokens separatesLinks text.toList) text.toList :=
    separated_iff.mpr rfl
  rcases separated.exists_places with ⟨placed, found, ordered, places⟩
  let starts (entry : Nat × List Char) : Bool := "http".toList.isPrefixOf entry.2
  refine ⟨(placed.filter starts).map (Prod.map id String.ofList), ?_, ?_, fun place link => ?_⟩
  · have links : plainLinks text = ((tokens separatesLinks text.toList).filter
        fun token => "http".toList.isPrefixOf token).map String.ofList := rfl
    rw [links, ← found, List.filter_map, List.map_map, List.map_map]
    rfl
  · exact List.pairwise_map.mpr (ordered.sublist List.filter_sublist)
  · simp only [List.mem_map, List.mem_filter, Prod.exists, places, Prod.map_apply, id_eq,
      Prod.mk.injEq]
    constructor
    · rintro ⟨_, token, ⟨isToken, start⟩, rfl, rfl⟩
      have same := String.toList_ofList (l := token)
      exact ⟨same.symm ▸ isToken, (congrArg ("http".toList.isPrefixOf ·) same).trans start⟩
    · rintro ⟨isToken, start⟩
      exact ⟨place, link.toList, ⟨isToken, start⟩, rfl, String.ofList_toList⟩

theorem extract_of_malformed {content : List UInt8} (decodes : Utf8.decode? content = some text)
    (malformed : Json.read text = .error .malformed) (path : Option String)
    (headers : List (String × String)) :
    extract ⟨.url, path⟩ headers content = .ok (plainLinks text) := by
  apply extract_of_find
  · simp [find, findLinks, decodes, malformed]
  · rcases areLinksOf_plainLinks text with ⟨placed, found, _, places⟩
    rw [← found, List.forall_mem_map]
    rintro ⟨place, link⟩ member rfl
    exact absurd rfl ((places place "").mp member).1.nonempty

/-! ## Rows of links -/

theorem opensValue_of_separatesLinks (separates : separatesLinks char = true) :
    opensValue char = false := by
  rw [← Bool.not_eq_true]
  intro opens
  have ink : IsInk char ∧ char ≠ ',' := by
    rcases (Bool.or_eq_true _ _).mp opens with digit | mark
    · refine ⟨isInk_of_isAlphanum (by simp [Char.isAlphanum, digit]), ?_⟩
      rintro rfl
      cases digit
    · simp only [List.contains_iff_mem, List.mem_cons, List.not_mem_nil, or_false] at mark
      rcases mark with rfl | rfl | rfl | rfl | rfl | rfl | rfl | rfl | rfl <;> decide
  simp [separatesLinks, Number.isBlank_of_isInk ink.1, ink.2] at separates

/-- What is left of a row of separators behind the blanks of JSON texts does not open a value. -/
theorem foreign_skipGap_append (blank : ∀ char ∈ gap, separatesLinks char = true) {first : Char}
    (solid : isGap first = false) (foreign : opensValue first = false) (rest : List Char) :
    ∀ char ∈ (skipGap (gap ++ first :: rest)).head?, opensValue char = false := by
  induction gap with
  | nil =>
      rw [List.nil_append, skipGap_cons solid]
      simpa using foreign
  | cons other gap hypothesis =>
      rw [List.forall_mem_cons] at blank
      rw [List.cons_append]
      cases skipped : isGap other with
      | true =>
          have skip : AreGaps [other] := by simpa [AreGaps] using skipped
          rw [← List.singleton_append, skipGap_append skip]
          exact hypothesis blank.2
      | false =>
          rw [skipGap_cons skipped]
          simpa using opensValue_of_separatesLinks blank.1

/-- A row of links is no JSON text. -/
theorem read_of_separated {others : List (List Char)} (isLink : startsWith "http" link = true)
    (separated : Separated separatesLinks (link.toList :: others) text.toList) :
    Json.read text = .error .malformed := by
  rcases List.isPrefixOf_iff_prefix.mp isLink with ⟨address, whole⟩
  rw [Json.read]
  apply readAll_of_foreign
  generalize text.toList = chars at separated
  cases separated with
  | @token gap _ rest _ blank nonempty solid ends later =>
      rw [← whole]
      exact foreign_skipGap_append blank (by decide) (by decide) _

theorem plainLinks_of_separated (areLinks : ∀ link ∈ links, startsWith "http" link = true)
    (separated : Separated separatesLinks (links.map String.toList) text.toList) :
    plainLinks text = links := by
  have found : tokens separatesLinks text.toList = links.map String.toList :=
    tokens_of_separated separated
  have starts : ∀ token ∈ links.map String.toList, "http".toList.isPrefixOf token = true :=
    List.forall_mem_map.mpr areLinks
  have same : links.map (String.ofList ∘ String.toList) = links :=
    (List.map_congr_left fun link _ => String.ofList_toList).trans (List.map_id links)
  calc
    plainLinks text
    _ = ((tokens separatesLinks text.toList).filter
        fun token => "http".toList.isPrefixOf token).map String.ofList := rfl
    _ = (links.map String.toList).map String.ofList := by
      rw [found, List.filter_eq_self.mpr starts]
    _ = links := by rw [List.map_map, same]

/-- What is read of plain texts: of an answer that is UTF-8 but no JSON exactly its links, each once
for every place; and a row of links with blanks and commas between them is such an answer. -/
theorem extract_plain_links (path : Option String) (headers : List (String × String))
    (content : List UInt8) (text : String) (decodes : Utf8.decode? content = some text) :
    (Json.read text = .error .malformed →
      ∃ links, extract ⟨.url, path⟩ headers content = .ok links ∧ AreLinksOf text links) ∧
    ∀ links : List String, links ≠ [] → (∀ link ∈ links, startsWith "http" link = true) →
      Separated separatesLinks (links.map String.toList) text.toList →
      Json.read text = .error .malformed ∧ extract ⟨.url, path⟩ headers content = .ok links := by
  refine ⟨fun malformed => ?_, fun links some areLinks separated => ?_⟩
  · exact ⟨_, extract_of_malformed decodes malformed path headers, areLinksOf_plainLinks text⟩
  · have malformed : Json.read text = .error .malformed := by
      cases links with
      | nil => contradiction
      | cons link others => exact read_of_separated (areLinks link List.mem_cons_self) separated
    refine ⟨malformed, ?_⟩
    rw [extract_of_malformed decodes malformed, plainLinks_of_separated areLinks separated]

/-- A document that is broken off, with a link outside its texts and another one inside. -/
def brokenText : String :=
  "\x7b\"images\": \nhttp://a,\"http://b\""

/-- A row of links of which two are the same, between a comma, blanks and separators of other
kinds. -/
def scatteredText : String :=
  "\u2028,http://a, ,http\x1chttp://a\n"

theorem extract_plain_links_scattered :
    Json.read brokenText = .error .malformed ∧
    (∃ links, extract ⟨.url, some "images"⟩ [] (Utf8.encode brokenText) = .ok links ∧
      AreLinksOf brokenText links ∧ links = ["http://a"]) ∧
    Separated separatesLinks (["http://a", "http", "http://a"].map String.toList)
      scatteredText.toList ∧
    extract ⟨.url, none⟩ [] (Utf8.encode scatteredText) = .ok ["http://a", "http", "http://a"] := by
  have malformed : Json.read brokenText = .error .malformed := by cbv
  have broken : extract ⟨.url, some "images"⟩ [] (Utf8.encode brokenText) = .ok ["http://a"] := by
    cbv
  have separated : Separated separatesLinks (["http://a", "http", "http://a"].map String.toList)
      scatteredText.toList := separated_iff.mpr (by decide +kernel)
  rcases (extract_plain_links (some "images") [] _ brokenText (Utf8.decode?_encode _)).1 malformed
    with ⟨links, extracts, areLinks⟩
  rw [broken, Except.ok.injEq] at extracts
  subst extracts
  have scattered := (extract_plain_links none [] _ scatteredText (Utf8.decode?_encode _)).2 _
    (List.cons_ne_nil _ _) (by decide) separated
  exact ⟨malformed, ⟨_, broken, areLinks, rfl⟩, separated, scattered.2⟩

end ImageCatalog.Image
