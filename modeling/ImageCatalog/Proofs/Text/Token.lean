import ImageCatalog.Text.Token
import Mathlib.Data.List.Basic
import Mathlib.Data.List.TakeWhile

/-!
# Tokens and their places

`IsTokenAt` says where a text has a token: what stands there has no separator in it, and it cannot
be made longer at either end without taking one in. `Separated` puts a text together from tokens
with gaps around them. Every text is put together from the tokens into which it is cut and from no
others (`separated_iff`), and these are the tokens that it has, each at its own place and in the
order of the places (`Separated.exists_places`).
-/

namespace ImageCatalog.Text

variable {separates : Char → Bool} {chars token other gap rest : List Char}
  {found : List (List Char)} {place : Nat}

/-- Whether a row of characters outside a class stands at a place of a text, and nothing longer
does. -/
structure IsTokenAt (separates : Char → Bool) (chars : List Char) (place : Nat)
    (token : List Char) : Prop where
  nonempty : token ≠ []
  solid : ∀ char ∈ token, separates char = false
  bounded : ∃ before after, chars = before ++ (token ++ after) ∧ before.length = place ∧
    (∀ char ∈ before.getLast?, separates char = true) ∧
    ∀ char ∈ after.head?, separates char = true

/-- The ways in which a text is put together from tokens. Gaps consist of separators; the first and
the last one may be empty, but not one between two tokens. -/
inductive Separated (separates : Char → Bool) : List (List Char) → List Char → Prop
  | gap {gap : List Char} (blank : ∀ char ∈ gap, separates char = true) : Separated separates [] gap
  | token {gap token rest : List Char} {found : List (List Char)}
      (blank : ∀ char ∈ gap, separates char = true) (nonempty : token ≠ [])
      (solid : ∀ char ∈ token, separates char = false)
      (ends : ∀ char ∈ rest.head?, separates char = true) (later : Separated separates found rest) :
      Separated separates (token :: found) (gap ++ (token ++ rest))

/-! ## Cutting -/

theorem tokens_cons (separator : separates char = true) (rest : List Char) :
    tokens separates (char :: rest) = tokens separates rest := by
  simp [tokens, tokensFrom, separator]

theorem tokens_gap (blank : ∀ char ∈ gap, separates char = true) (rest : List Char) :
    tokens separates (gap ++ rest) = tokens separates rest := by
  induction gap with
  | nil => rfl
  | cons char gap hypothesis =>
      rw [List.forall_mem_cons] at blank
      rw [List.cons_append, tokens_cons blank.1, hypothesis blank.2]

/-- A token that is open takes in what is no separator. -/
theorem tokensFrom_append (solid : ∀ char ∈ token, separates char = false)
    (current rest : List Char) :
    tokensFrom separates current (token ++ rest) =
      tokensFrom separates (token.reverse ++ current) rest := by
  induction token generalizing current with
  | nil => rfl
  | cons char token hypothesis =>
      rw [List.forall_mem_cons] at solid
      rw [List.cons_append, tokensFrom, solid.1, if_neg Bool.false_ne_true, hypothesis solid.2]
      simp

theorem tokens_token (nonempty : token ≠ []) (solid : ∀ char ∈ token, separates char = false)
    (ends : ∀ char ∈ rest.head?, separates char = true) :
    tokens separates (token ++ rest) = token :: tokens separates rest := by
  have opened : (token.reverse ++ []).isEmpty = false := by simpa using nonempty
  have closed : (token.reverse ++ []).reverse = token := by simp
  rw [tokens, tokensFrom_append solid]
  cases rest with
  | nil => simp [tokensFrom, tokens, nonempty]
  | cons char rest =>
      have separator : separates char = true := ends char rfl
      rw [tokensFrom, if_pos separator, opened, if_neg Bool.false_ne_true, closed,
        tokens_cons separator]
      rfl

theorem tokens_of_separated (separated : Separated separates found chars) :
    tokens separates chars = found := by
  induction separated with
  | gap blank =>
      have nothing := tokens_gap blank []
      rwa [List.append_nil] at nothing
  | token blank nonempty solid ends later hypothesis =>
      rw [tokens_gap blank, tokens_token nonempty solid ends, hypothesis]

/-- A character in front of a text lengthens its first gap or its first token, or it is a token of
its own. -/
theorem Separated.exists_cons (separated : Separated separates found chars) (char : Char) :
    ∃ found, Separated separates found (char :: chars) := by
  cases separator : separates char with
  | true =>
      cases separated with
      | gap blank => exact ⟨_, .gap (List.forall_mem_cons.mpr ⟨separator, blank⟩)⟩
      | token blank nonempty solid ends later =>
          exact ⟨_, .token (List.forall_mem_cons.mpr ⟨separator, blank⟩) nonempty solid ends later⟩
  | false =>
      have alone : ∀ other ∈ [char], separates other = false := by simpa using separator
      have none : ∀ other ∈ ([] : List Char), separates other = true := by simp
      by_cases ends : ∀ other ∈ chars.head?, separates other = true
      · exact ⟨_, .token none (List.cons_ne_nil char []) alone ends separated⟩
      · cases separated with
        | gap blank => exact absurd (fun other first => blank other (List.mem_of_head? first)) ends
        | @token gap token rest _ blank nonempty solid endsLater later =>
            have noGap : gap = [] := by
              cases gap with
              | nil => rfl
              | cons first others => exact absurd (by simpa using blank first (by simp)) ends
            subst noGap
            exact ⟨_, .token none (List.cons_ne_nil char token)
              (List.forall_mem_cons.mpr ⟨separator, solid⟩) endsLater later⟩

theorem exists_separated (separates : Char → Bool) (chars : List Char) :
    ∃ found, Separated separates found chars := by
  induction chars with
  | nil => exact ⟨[], .gap (by simp)⟩
  | cons char chars hypothesis =>
      rcases hypothesis with ⟨found, separated⟩
      exact separated.exists_cons char

/-- A text is put together from its tokens, and from nothing else. -/
theorem separated_iff : Separated separates found chars ↔ tokens separates chars = found := by
  refine ⟨tokens_of_separated, ?_⟩
  rintro rfl
  rcases exists_separated separates chars with ⟨found, separated⟩
  rwa [tokens_of_separated separated]

/-! ## Places -/

/-- A separator in front of a text moves its tokens by one place. -/
theorem isTokenAt_cons_iff {char : Char} (separator : separates char = true) :
    IsTokenAt separates (char :: chars) place token ↔
      ∃ earlier, place = earlier + 1 ∧ IsTokenAt separates chars earlier token := by
  constructor
  · rintro ⟨nonempty, solid, before, after, split, rfl, starts, ends⟩
    cases before with
    | nil =>
        cases token with
        | nil => contradiction
        | cons first others =>
            cases split
            rw [solid char List.mem_cons_self] at separator
            cases separator
    | cons first before =>
        rw [List.cons_append, List.cons.injEq] at split
        refine ⟨before.length, rfl, nonempty, solid, before, after, split.2, rfl, ?_, ends⟩
        cases before with
        | nil => simp
        | cons second others => rwa [List.getLast?_cons_cons] at starts
  · rintro ⟨earlier, rfl, nonempty, solid, before, after, rfl, rfl, starts, ends⟩
    refine ⟨nonempty, solid, char :: before, after, rfl, rfl, ?_, ends⟩
    cases before with
    | nil => simpa using separator
    | cons second others => rwa [List.getLast?_cons_cons]

theorem isTokenAt_gap_iff (blank : ∀ char ∈ gap, separates char = true) :
    IsTokenAt separates (gap ++ chars) place token ↔
      ∃ earlier, place = gap.length + earlier ∧ IsTokenAt separates chars earlier token := by
  induction gap generalizing place with
  | nil => simp
  | cons char gap hypothesis =>
      rw [List.forall_mem_cons] at blank
      simp only [List.cons_append, isTokenAt_cons_iff blank.1, hypothesis blank.2,
        List.length_cons]
      constructor
      · rintro ⟨_, rfl, earlier, rfl, isToken⟩
        exact ⟨earlier, by omega, isToken⟩
      · rintro ⟨earlier, rfl, isToken⟩
        exact ⟨gap.length + earlier, by omega, earlier, rfl, isToken⟩

theorem takeWhile_token (solid : ∀ char ∈ token, separates char = false)
    (ends : ∀ char ∈ rest.head?, separates char = true) :
    (token ++ rest).takeWhile (fun char => !separates char) = token := by
  have stays : ∀ char ∈ token, (!separates char) = true := fun char member => by
    simp [solid char member]
  have stops : rest.takeWhile (fun char => !separates char) = [] := by
    cases rest with
    | nil => rfl
    | cons char rest => simp [ends char rfl]
  rw [List.takeWhile_append_of_pos stays, stops, List.append_nil]

/-- What does not start at the front of a token starts behind it. -/
theorem isTokenAt_token_iff (nonempty : token ≠ [])
    (solid : ∀ char ∈ token, separates char = false)
    (ends : ∀ char ∈ rest.head?, separates char = true) :
    IsTokenAt separates (token ++ rest) place other ↔
      place = 0 ∧ other = token ∨
      ∃ earlier, place = token.length + earlier ∧ IsTokenAt separates rest earlier other := by
  constructor
  · rintro ⟨some, solidOther, before, after, split, rfl, starts, endsOther⟩
    by_cases front : before = []
    · subst front
      refine .inl ⟨rfl, ?_⟩
      rw [← takeWhile_token solidOther endsOther, ← takeWhile_token solid ends, split]
      rfl
    · rcases List.append_eq_append_iff.mp split with ⟨between, rfl, rfl⟩ | ⟨inside, rfl, _⟩
      · refine .inr ⟨between.length, List.length_append, some, solidOther, between, after, rfl, rfl,
          ?_, endsOther⟩
        intro char last
        exact starts char (by simp [List.getLast?_append, Option.mem_def.mp last])
      · -- The place would be inside the token, but there is a separator in front of it.
        have last := List.getLast?_eq_some_getLast front
        have separator := starts _ last
        rw [solid _ (List.mem_append_left _ (List.getLast_mem front))] at separator
        cases separator
  · rintro (⟨rfl, rfl⟩ | ⟨earlier, rfl, some, solidOther, before, after, rfl, rfl, starts,
      endsOther⟩)
    · exact ⟨nonempty, solid, [], rest, rfl, rfl, by simp, ends⟩
    · refine ⟨some, solidOther, token ++ before, after, (List.append_assoc _ _ _).symm,
        List.length_append, ?_, endsOther⟩
      cases before with
      | nil =>
          cases other with
          | nil => contradiction
          | cons first others =>
              have separator : separates first = true := ends first rfl
              rw [solidOther first List.mem_cons_self] at separator
              cases separator
      | cons first others => simpa [List.getLast?_append] using starts

/-- The tokens of a text are what it is put together from, each at its own place and in the order of
the places. -/
theorem Separated.exists_places (separated : Separated separates found chars) :
    ∃ placed : List (Nat × List Char), placed.map Prod.snd = found ∧
      placed.Pairwise (fun entry later => entry.1 < later.1) ∧
      ∀ place token, (place, token) ∈ placed ↔ IsTokenAt separates chars place token := by
  induction separated with
  | @gap gap blank =>
      refine ⟨[], rfl, .nil, fun place token => ?_⟩
      have none : ∀ earlier, ¬IsTokenAt separates [] earlier token := by
        rintro earlier ⟨nonempty, _, before, after, split, _⟩
        simp [nonempty] at split
      have places : IsTokenAt separates (gap ++ []) place token ↔ _ := isTokenAt_gap_iff blank
      rw [List.append_nil] at places
      simp [places, none]
  | @token gap token rest _ blank nonempty solid ends later hypothesis =>
      rcases hypothesis with ⟨placed, rfl, ordered, places⟩
      have long : 0 < token.length := List.length_pos_of_ne_nil nonempty
      let moved (entry : Nat × List Char) := (gap.length + (token.length + entry.1), entry.2)
      refine ⟨(gap.length, token) :: placed.map moved, ?_, ?_, fun place other => ?_⟩
      · simp [moved]
      · rw [List.pairwise_cons, List.forall_mem_map, List.pairwise_map]
        refine ⟨fun entry _ => ?_, ordered.imp fun earlier => ?_⟩
        · simp only [moved]
          omega
        · simp only [moved]
          omega
      · rw [isTokenAt_gap_iff blank]
        simp only [isTokenAt_token_iff nonempty solid ends, List.mem_cons, List.mem_map, moved,
          Prod.exists, places, Prod.mk.injEq]
        constructor
        · rintro (⟨rfl, rfl⟩ | ⟨earlier, _, isToken, rfl, rfl⟩)
          · exact ⟨0, rfl, .inl ⟨rfl, rfl⟩⟩
          · exact ⟨_, rfl, .inr ⟨earlier, rfl, isToken⟩⟩
        · rintro ⟨_, rfl, ⟨rfl, rfl⟩ | ⟨earlier, rfl, isToken⟩⟩
          · exact .inl ⟨rfl, rfl⟩
          · exact .inr ⟨earlier, other, isToken, rfl, rfl⟩

end ImageCatalog.Text
