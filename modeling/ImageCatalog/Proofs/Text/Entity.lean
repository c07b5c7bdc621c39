import ImageCatalog.Text.Entity

/-!
# Reading escaped texts back

The characters with a meaning in a page are written as references that end in a semicolon, so that
no reference runs on into the text behind it. Resolving an escaped text never fails and gives the
text back, whatever follows it; the escaped text has no angle bracket and no quote in it.
-/

namespace ImageCatalog.Text.Entity

theorem resolveFrom_skip (skipped rest : List Char) :
    resolveFrom skipped.length (skipped ++ rest) = resolveFrom 0 rest := by
  induction skipped with
  | nil => rfl
  | cons char others hypothesis =>
      rw [List.length_cons, List.cons_append, resolveFrom]
      exact hypothesis

theorem resolveFrom_plain {char : Char} (plain : char ≠ '&') (rest : List Char) :
    resolveFrom 0 (char :: rest) = (resolveFrom 0 rest).map (char :: ·) := by
  rw [resolveFrom, if_neg plain]

/-- A reference that ends in a semicolon is resolved on its own. -/
theorem resolveFrom_reference {reference : Written} {body text : List Char} {rest : List Char}
    (written : written? (body ++ ';' :: rest) = some (reference, body.length))
    (resolved : resolve reference true = .ok text) :
    resolveFrom 0 ('&' :: (body ++ ';' :: rest)) = (resolveFrom 0 rest).map (text ++ ·) := by
  have closed : ((body ++ ';' :: rest)[body.length]? == some ';') = true := by simp
  have skips : resolveFrom (body.length + 1) (body ++ ';' :: rest) = resolveFrom 0 rest := by
    have split : body ++ ';' :: rest = (body ++ [';']) ++ rest := by simp
    have length : body.length + 1 = (body ++ [';']).length := by simp
    rw [split, length, resolveFrom_skip]
  rw [resolveFrom, if_pos rfl, written]
  simp only [closed, resolved, if_true, skips]
  cases resolveFrom 0 rest <;> rfl

/-- Resolving undoes the escaping of a character. -/
theorem resolveFrom_escapeChar (char : Char) (rest : List Char) :
    resolveFrom 0 (escapeChar char ++ rest) = (resolveFrom 0 rest).map (char :: ·) := by
  have named (name : List Char) (shown : Char)
      (written : written? (name ++ ';' :: rest) = some (.name name, name.length))
      (known : ofName name true = [shown]) :
      resolveFrom 0 ('&' :: (name ++ ';' :: rest)) = (resolveFrom 0 rest).map (shown :: ·) :=
    resolveFrom_reference written (congrArg Except.ok known)
  unfold escapeChar
  split
  · exact named ['a', 'm', 'p'] '&' rfl (by decide +kernel)
  · exact named ['l', 't'] '<' rfl (by decide +kernel)
  · exact named ['g', 't'] '>' rfl (by decide +kernel)
  · exact named ['q', 'u', 'o', 't'] '"' rfl (by decide +kernel)
  · have written : written? (['#', 'x', '2', '7'] ++ ';' :: rest) =
        some (.hexadecimal ['2', '7'], ['#', 'x', '2', '7'].length) := rfl
    have known : ofCode ((hexToNat? ['2', '7']).getD 0) = ['\''] := by decide +kernel
    exact resolveFrom_reference written (congrArg Except.ok known)
  · next plain _ _ _ _ => exact resolveFrom_plain plain rest

/-- Resolving undoes escaping, whatever follows. -/
theorem resolveFrom_escape (chars rest : List Char) :
    resolveFrom 0 (chars.flatMap escapeChar ++ rest) =
      (resolveFrom 0 rest).map (chars ++ ·) := by
  induction chars with
  | nil =>
      rw [List.flatMap_nil, List.nil_append]
      cases resolveFrom 0 rest <;> rfl
  | cons char others hypothesis =>
      rw [List.flatMap_cons, List.append_assoc, resolveFrom_escapeChar, hypothesis]
      cases resolveFrom 0 rest <;> rfl

/-! ## The characters of an escaped text -/

theorem mem_escapeChar {char other : Char} (member : other ∈ escapeChar char) :
    other = char ∧ other ≠ '<' ∨ other ∈ "&ampltgquo#x27;".toList := by
  have listed (row : List Char)
      (known : (row.all fun char => "&ampltgquo#x27;".toList.contains char) = true)
      (inRow : other ∈ row) : other ∈ "&ampltgquo#x27;".toList :=
    List.contains_iff_mem.mp (List.all_eq_true.mp known other inRow)
  unfold escapeChar at member
  split at member
  · exact .inr (listed _ (by decide) member)
  · exact .inr (listed _ (by decide) member)
  · exact .inr (listed _ (by decide) member)
  · exact .inr (listed _ (by decide) member)
  · exact .inr (listed _ (by decide) member)
  · next plain _ _ _ =>
      rw [List.mem_singleton] at member
      exact .inl ⟨member, member ▸ plain⟩

theorem escape_ne_nil {chars : List Char} (some : chars ≠ []) : chars.flatMap escapeChar ≠ [] := by
  rcases List.exists_cons_of_ne_nil some with ⟨first, rest, rfl⟩
  have written : escapeChar first ≠ [] := by
    unfold escapeChar
    split <;> exact List.cons_ne_nil _ _
  rw [List.flatMap_cons]
  exact List.append_ne_nil_of_left_ne_nil written _

/-- An escaped text has no angle bracket that opens a tag. -/
theorem not_mem_escape (chars : List Char) : '<' ∉ chars.flatMap escapeChar := by
  intro member
  rcases List.mem_flatMap.mp member with ⟨char, _, written⟩
  rcases mem_escapeChar written with ⟨_, plain⟩ | reference
  · exact plain rfl
  · revert reference
    decide

/-- An escaped text has a line break only where the text has one. -/
theorem newline_not_mem_escape {chars : List Char} (oneLine : '\n' ∉ chars) :
    '\n' ∉ chars.flatMap escapeChar := by
  intro member
  rcases List.mem_flatMap.mp member with ⟨char, charMem, written⟩
  rcases mem_escapeChar written with ⟨same, _⟩ | reference
  · exact oneLine (same ▸ charMem)
  · revert reference
    decide

end ImageCatalog.Text.Entity
