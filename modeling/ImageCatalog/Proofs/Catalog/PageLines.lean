import ImageCatalog.Proofs.Catalog.Page

/-!
# Pages that list entries line by line

A line of a page is an anchor that shows the escaped name of an entry, with a slash behind it or
not, and with any number of spaces around both. Its class says whether the entry is a directory or a
file, or, for anchors that list nothing, neither. `Lists` says that a page consists of such lines
and of any text between them that starts no anchor. Such a page is read as exactly the entries that
its lines list, in their order, and every row of entries is listed by some page.
-/

namespace ImageCatalog.Catalog

open Text

/-- The name of an entry in a page: a text on one line without outer blanks and without a slash at
its end. -/
structure EntryName where
  chars : List Char
  ne_nil : chars ≠ []
  oneLine : '\n' ∉ chars
  firstVisible : ∀ char ∈ chars.head?, isBlank char = false
  lastVisible : ∀ char ∈ chars.getLast?, isBlank char = false
  noSlash : chars.getLast? ≠ some '/'

/-- An anchor that shows a name. Its target has no space and no line break, its class no quote, and
its other attributes do not close the tag. -/
structure Line where
  target : List Char
  classes : List Char
  attributes : List Char
  name : EntryName
  spacesBefore : Nat
  slash : Bool
  spacesAfter : Nat
  target_plain : ∀ char ∈ target, char ≠ ' ' ∧ char ≠ '\n'
  classes_ne_nil : classes ≠ []
  classes_plain : '"' ∉ classes
  attributes_plain : '>' ∉ attributes ∧ '\n' ∉ attributes

namespace Line

/-- What stands between the tags of a line. -/
def label (line : Line) : List Char :=
  List.replicate line.spacesBefore ' ' ++
    (line.name.chars.flatMap Entity.escapeChar ++ if line.slash then ['/'] else []) ++
    List.replicate line.spacesAfter ' '

/-- The text of a line. -/
def chars (line : Line) : List Char :=
  "<a href=\"".toList ++ line.target ++ "\" class=\"".toList ++ line.classes ++ ['"'] ++
    line.attributes ++ ['>'] ++ line.label ++ "</a>".toList

/-- The entry that a line lists by its class, if it lists one. -/
inductive Shows (line : Line) : Option Entry → Prop
  | directory (folder : "folder".toList <:+: line.classes) :
      Shows line (some ⟨String.ofList line.name.chars, .directory, none⟩)
  | file (noFolder : ¬"folder".toList <:+: line.classes) (file : "file".toList <:+: line.classes) :
      Shows line (some ⟨String.ofList line.name.chars, .file, none⟩)
  | nothing (noFolder : ¬"folder".toList <:+: line.classes)
      (noFile : ¬"file".toList <:+: line.classes) : Shows line none

end Line

/-- Whether a page consists of lines that list some entries, of lines that list nothing, and of text
between them that starts no anchor. -/
inductive Lists : List Char → List Entry → Prop
  | text {gap : List Char} (free : ¬anchorMark <:+: gap) : Lists gap []
  | entry {gap rest : List Char} {line : Line} {entry : Entry} {entries : List Entry}
      (free : ¬anchorMark <:+: gap) (shows : line.Shows (some entry)) (lists : Lists rest entries) :
      Lists (gap ++ (line.chars ++ rest)) (entry :: entries)
  | other {gap rest : List Char} {line : Line} {entries : List Entry}
      (free : ¬anchorMark <:+: gap) (shows : line.Shows none) (lists : Lists rest entries) :
      Lists (gap ++ (line.chars ++ rest)) entries

/-! ## One line -/

namespace Line

variable (line : Line)

/-- The text that a line shows, before it is escaped. -/
def shown : List Char :=
  List.replicate line.spacesBefore ' ' ++
    (line.name.chars ++ if line.slash then ['/'] else []) ++ List.replicate line.spacesAfter ' '

theorem label_eq_escape : line.label = line.shown.flatMap Entity.escapeChar := by
  have spaces (count : Nat) : (List.replicate count ' ').flatMap Entity.escapeChar =
      List.replicate count ' ' := by
    rw [List.flatMap_replicate]
    exact List.flatten_replicate_singleton
  have slash : (if line.slash then ['/'] else []).flatMap Entity.escapeChar =
      if line.slash then ['/'] else [] := by
    cases line.slash <;> rfl
  simp only [label, shown, List.flatMap_append, spaces, slash]

/-- Without the spaces around it, a line shows the name and the slash. -/
theorem trim_shown : trim line.shown = line.name.chars ++ if line.slash then ['/'] else [] := by
  have spaces (count : Nat) : ∀ char ∈ List.replicate count ' ', isBlank char = true := by
    intro char member
    rw [List.eq_of_mem_replicate member]
    rfl
  rw [trim, shown, trimBy_append (spaces _) (spaces _)]
  apply trimBy_of_ends
  · intro char first
    rw [List.head?_append_of_ne_nil _ line.name.ne_nil] at first
    exact line.name.firstVisible char first
  · intro char last
    cases slash : line.slash with
    | true =>
        rw [slash, if_pos rfl, List.getLast?_concat] at last
        cases last
        rfl
    | false =>
        rw [slash, if_neg (by simp), List.append_nil] at last
        exact line.name.lastVisible char last

theorem nameOfLabel_label : nameOfLabel line.label = .ok line.name.chars := by
  rw [label_eq_escape, nameOfLabel_escape, trim_shown]
  cases line.slash with
  | true =>
      have last : (line.name.chars ++ ['/']).getLast? = some '/' := List.getLast?_concat
      rw [if_pos rfl, if_pos last, List.dropLast_concat]
  | false =>
      simp only [Bool.false_eq_true, if_false, List.append_nil]
      rw [if_neg line.name.noSlash]

theorem shown_plain : line.shown ≠ [] ∧ '\n' ∉ line.shown := by
  constructor
  · simp [shown, line.name.ne_nil]
  · cases slash : line.slash <;> simp [shown, slash, line.name.oneLine, List.mem_replicate]

/-- A line as an anchor. -/
def anchor : WrittenAnchor where
  target := line.target
  classes := line.classes
  attributes := line.attributes
  label := line.label
  target_plain := line.target_plain
  classes_ne_nil := line.classes_ne_nil
  classes_plain := line.classes_plain
  attributes_plain := line.attributes_plain
  label_ne_nil := by
    rw [label_eq_escape]
    exact Entity.escape_ne_nil line.shown_plain.1
  label_plain := by
    rw [label_eq_escape]
    exact ⟨Entity.not_mem_escape _, Entity.newline_not_mem_escape line.shown_plain.2⟩

theorem chars_anchor : line.anchor.chars = line.chars := by
  have opening : "<a href=\"".toList = anchorMark ++ ['"'] := by decide
  have middle : "\" class=\"".toList = '"' :: classMark := by decide
  unfold chars
  rw [opening, middle]
  simp only [anchor, WrittenAnchor.chars, WrittenAnchor.fromClass, List.append_assoc,
    List.cons_append, List.nil_append]

variable {line} {shown? : Option Entry}

/-- A line is read as the entry that it lists. -/
theorem Shows.read (shows : line.Shows shown?) :
    entryOfAnchor? line.anchor.read = .ok shown? := by
  rw [entryOfAnchor?_of_nameOfLabel line.name.ne_nil line.nameOfLabel_label]
  have classes : line.anchor.read.classes = line.classes := rfl
  have kind : kindOfClasses? line.classes = shown?.map Entry.kind := by
    unfold kindOfClasses?
    cases shows with
    | directory folder => exact if_pos (occursIn_iff.mpr folder)
    | file noFolder file =>
        rw [if_neg (mt occursIn_iff.mp noFolder)]
        exact if_pos (occursIn_iff.mpr file)
    | nothing noFolder noFile =>
        rw [if_neg (mt occursIn_iff.mp noFolder)]
        exact if_neg (mt occursIn_iff.mp noFile)
  rw [classes, kind]
  cases shows <;> rfl

end Line

/-! ## Whole pages -/

variable {page gap rest : List Char} {entries : List Entry}

/-- The anchors of a page that lists entries, each with the entry that it lists. -/
theorem exists_renders_of_lists (lists : Lists page entries) :
    ∃ (written : List WrittenAnchor) (found : List (Option Entry)), Renders page written ∧
      List.Forall₂ (fun anchor shown? => entryOfAnchor? anchor.read = .ok shown?) written found ∧
      found.filterMap id = entries := by
  induction lists with
  | text free => exact ⟨[], [], .text free, .nil, rfl⟩
  | @entry gap rest line entry entries free shows lists hypothesis =>
      rcases hypothesis with ⟨written, found, renders, each, rfl⟩
      refine ⟨line.anchor :: written, some entry :: found, ?_, .cons shows.read each, rfl⟩
      rw [← line.chars_anchor]
      exact .anchor free renders
  | @other gap rest line entries free shows lists hypothesis =>
      rcases hypothesis with ⟨written, found, renders, each, rfl⟩
      refine ⟨line.anchor :: written, none :: found, ?_, .cons shows.read each, rfl⟩
      rw [← line.chars_anchor]
      exact .anchor free renders

theorem plain_nil : '>' ∉ ([] : List Char) ∧ '\n' ∉ ([] : List Char) :=
  ⟨List.not_mem_nil, List.not_mem_nil⟩

/-- The line of a name in the form of a static index. -/
def EntryName.line (name : EntryName) (kind : EntryKind) : Line where
  target := []
  classes := match kind with
    | .directory => "folder".toList
    | .file => "file".toList
  attributes := []
  name := name
  spacesBefore := 0
  slash := false
  spacesAfter := 0
  target_plain := by simp
  classes_ne_nil := by cases kind <;> decide
  classes_plain := by cases kind <;> decide
  attributes_plain := plain_nil

theorem EntryName.shows_line (name : EntryName) (kind : EntryKind) :
    (name.line kind).Shows (some ⟨String.ofList name.chars, kind, none⟩) := by
  cases kind with
  | directory => exact .directory List.infix_rfl
  | file =>
      have noFolder : ¬"folder".toList <:+: "file".toList := by decide
      exact .file noFolder List.infix_rfl

/-- A page that lists entries is read as exactly these, with their names and kinds and in their
order, whatever lines that list nothing and whatever text stands between them; and there is such a
page for every row of names and kinds. -/
theorem readPage_of_lists :
    (∀ (page : String) (entries : List Entry), Lists page.toList entries →
      readPage page = .ok entries) ∧
    ∀ rows : List (EntryName × EntryKind), ∃ page, Lists page
      (rows.map fun (name, kind) => ⟨String.ofList name.chars, kind, none⟩) := by
  constructor
  · intro page entries lists
    rcases exists_renders_of_lists lists with ⟨written, found, renders, each, rfl⟩
    exact Catalog.readPage_of_renders renders each
  · intro rows
    have free : ¬anchorMark <:+: [] := by decide
    induction rows with
    | nil => exact ⟨[], .text free⟩
    | cons row others hypothesis =>
        rcases hypothesis with ⟨page, lists⟩
        exact ⟨_, .entry free (row.1.shows_line row.2) lists⟩

/-- A line that leads upwards and lists nothing. -/
def sampleUpwards : Line where
  target := "../".toList
  classes := "icon icon-up".toList
  attributes := []
  name := ⟨"..".toList, by decide, by decide, by rintro _ ⟨⟩; rfl, by rintro _ ⟨⟩; rfl,
    by decide⟩
  spacesBefore := 0
  slash := false
  spacesAfter := 0
  target_plain := by simp
  classes_ne_nil := by decide
  classes_plain := by decide
  attributes_plain := plain_nil

/-- The line of a directory whose name is escaped, with a slash and spaces around it. -/
def sampleDirectory : Line where
  target := "/Tom%20%26%20Jerry/".toList
  classes := "icon icon-folder".toList
  attributes := " title=\"a class=\"".toList
  name := ⟨"Tom & Jerry".toList, by decide, by decide, by rintro _ ⟨⟩; rfl, by rintro _ ⟨⟩; rfl,
    by decide⟩
  spacesBefore := 1
  slash := true
  spacesAfter := 2
  target_plain := by simp
  classes_ne_nil := by decide
  classes_plain := by decide
  attributes_plain := by decide

/-- The line of a file whose name looks like a reference. -/
def sampleFile : Line where
  target := "/x".toList
  classes := "file".toList
  attributes := []
  name := ⟨"&lt;'.json".toList, by decide, by decide, by rintro _ ⟨⟩; rfl, by rintro _ ⟨⟩; rfl,
    by decide⟩
  spacesBefore := 0
  slash := false
  spacesAfter := 0
  target_plain := by simp
  classes_ne_nil := by decide
  classes_plain := by decide
  attributes_plain := plain_nil

theorem readPage_of_lists_sample :
    let page := "<li><a href=\"../\" class=\"icon icon-up\">..</a></li>\n<li>" ++
      "<a href=\"/Tom%20%26%20Jerry/\" class=\"icon icon-folder\" title=\"a class=\"> " ++
      "Tom &amp; Jerry/  </a></li>\n" ++
      "<a href=\"/x\" class=\"file\">&amp;lt;&#x27;.json</a> <a hre"
    let entries : List Entry := [⟨"Tom & Jerry", .directory, none⟩, ⟨"&lt;'.json", .file, none⟩]
    Lists page.toList entries ∧ readPage page = .ok entries := by
  intro page entries
  have split : page.toList = "<li>".toList ++ (sampleUpwards.chars ++ ("</li>\n<li>".toList ++
      (sampleDirectory.chars ++ ("</li>\n".toList ++
        (sampleFile.chars ++ " <a hre".toList))))) := by
    decide +kernel
  have lists : Lists page.toList entries := by
    rw [split]
    exact .other (by decide) (.nothing (by decide) (by decide)) <|
      .entry (by decide) (.directory (by decide)) <|
        .entry (by decide) (.file (by decide) (by decide)) (.text (by decide))
  exact ⟨lists, readPage_of_lists.1 page entries lists⟩

end ImageCatalog.Catalog
