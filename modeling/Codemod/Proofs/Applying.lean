import Codemod.Patch.Unified

/-!
# Applying a patch

A patch is read line by line: the names of the files, then hunks, each a heading with two ranges of lines
and entries that keep, remove or add a line. A mark takes the break from the line in front of it. A hunk
is applied where its heading says: the lines on its old side have to be there, and the lines on its new side
stand in their place. Reading takes back what printing did.
-/
namespace Codemod.Patch

/-! ## Lines -/

/-- The lines of a text in a row are the text: it is cut behind its breaks, and nothing is lost. -/
theorem split_lines_flatten (text : List Char) : (splitLines text).flatten = text := by
  fun_induction splitLines text with
  | case1 => rfl
  | case2 rest inductionHypothesis => rw [List.flatten_cons, inductionHypothesis, List.singleton_append]
  | case3 c rest _ none inductionHypothesis =>
    rw [none] at inductionHypothesis
    rw [← inductionHypothesis]
    rfl
  | case4 c rest _ line lines some inductionHypothesis =>
    rw [some] at inductionHypothesis
    rw [← inductionHypothesis]
    rfl

/-- A line has a break at its end at most. The induction follows the way a text is divided: a break
closes the line that it ends, and no other character is one. -/
theorem split_lines_shape (text : List Char) :
    ∀ line ∈ splitLines text, line ≠ [] ∧ '\n' ∉ line.dropLast := by
  fun_induction splitLines text with
  | case1 => exact fun _ none => absurd none List.not_mem_nil
  | case2 rest inductionHypothesis =>
    exact List.forall_mem_cons.mpr ⟨⟨by decide, by decide⟩, inductionHypothesis⟩
  | case3 c rest _ none inductionHypothesis =>
    refine List.forall_mem_cons.mpr ⟨⟨List.cons_ne_nil _ _, List.not_mem_nil⟩, fun _ none => ?_⟩
    exact absurd none List.not_mem_nil
  | case4 c rest other line lines some inductionHypothesis =>
    rw [some] at inductionHypothesis
    obtain ⟨⟨nonempty, inner⟩, others⟩ := List.forall_mem_cons.mp inductionHypothesis
    refine List.forall_mem_cons.mpr ⟨⟨List.cons_ne_nil _ _, ?_⟩, others⟩
    rw [List.dropLast_cons_of_ne_nil nonempty]
    exact List.not_mem_cons_of_ne_of_not_mem (Ne.symm other) inner

/-- Every line but the last ends with a break. The induction follows the way a text is divided: a break
ends a line and begins a shorter text, and any other character is put in front of the first line of the
rest. -/
theorem split_lines_broken (text : List Char) :
    ∀ line ∈ (splitLines text).dropLast, line.getLast? = some '\n' := by
  fun_induction splitLines text with
  | case1 => exact fun _ none => absurd none List.not_mem_nil
  | case2 rest inductionHypothesis =>
    cases lines : splitLines rest with
    | nil => exact fun _ none => absurd none List.not_mem_nil
    | cons line lines =>
      rw [lines] at inductionHypothesis
      rw [List.dropLast_cons_of_ne_nil (List.cons_ne_nil _ _)]
      exact List.forall_mem_cons.mpr ⟨rfl, inductionHypothesis⟩
  | case3 => exact fun _ none => absurd none List.not_mem_nil
  | case4 c rest _ line lines some inductionHypothesis =>
    have nonempty := (split_lines_shape rest line (some ▸ List.mem_cons_self)).1
    rw [some] at inductionHypothesis
    cases lines with
    | nil => exact fun _ none => absurd none List.not_mem_nil
    | cons next lines =>
      rw [List.dropLast_cons_of_ne_nil (List.cons_ne_nil _ _)] at inductionHypothesis ⊢
      obtain ⟨last, others⟩ := List.forall_mem_cons.mp inductionHypothesis
      refine List.forall_mem_cons.mpr ⟨?_, others⟩
      rwa [List.getLast?_cons_of_ne_nil nonempty]

/-- Lines that are put one after the other, each with a break, are found again. -/
theorem split_lines_append {line : List Char} (rest : List Char) (inner : '\n' ∉ line) :
    splitLines (line ++ '\n' :: rest) = (line ++ ['\n']) :: splitLines rest := by
  induction line with
  | nil => rfl
  | cons c line inductionHypothesis =>
    have other := List.ne_of_not_mem_cons inner
    rw [List.cons_append, splitLines, if_neg (Ne.symm other),
      inductionHypothesis (List.not_mem_of_not_mem_cons inner)]
    rfl

/-- Lines of a text that stand one after the other with their breaks. -/
theorem split_lines_flat_map (lines : List String) (inner : ∀ line ∈ lines, '\n' ∉ line.toList) :
    splitLines (lines.flatMap fun line => line.toList ++ ['\n']) =
      lines.map fun line => line.toList ++ ['\n'] := by
  induction lines with
  | nil => rfl
  | cons line lines inductionHypothesis =>
    obtain ⟨here, others⟩ := List.forall_mem_cons.mp inner
    rw [List.flatMap_cons, List.append_assoc, List.singleton_append, split_lines_append _ here,
      inductionHypothesis others, List.map_cons]

/-- The lines of a text make up the text. -/
theorem join_lines (text : String) : String.join (linesOf text).toList = text := by
  rw [← String.toList_inj, String.toList_join, linesOf]
  simp only [List.flatMap_map, String.toList_ofList, List.flatMap_id']
  exact split_lines_flatten text.toList

/-- Different texts have different lines, since a text is its lines in a row. -/
theorem lines_ne {old new : String} (different : old ≠ new) : linesOf old ≠ linesOf new := by
  intro same
  exact different (by rw [← join_lines old, same, join_lines])

/-- A line without its break, and whether it has one. -/
theorem bare_of_broken {line : String} (broken : endsWithBreak line = true) :
    (bare line).toList ++ ['\n'] = line.toList := by
  obtain ⟨front, shape⟩ := List.getLast?_eq_some_iff.mp (beq_iff_eq.mp broken)
  rw [bare, shape, List.reverse_append]
  simp

/-- A line without a break at its end is not cut. -/
theorem bare_of_unbroken {line : String} (unbroken : endsWithBreak line = false) : bare line = line := by
  rw [bare]
  split
  · rename_i rest shape
    rw [endsWithBreak, ← List.head?_reverse, shape] at unbroken
    cases unbroken
  · rfl

/-- A line ends with a break when its last character is one. -/
theorem ends_with_break_iff {line : String} : endsWithBreak line = true ↔ line.toList.getLast? = some '\n' :=
  beq_iff_eq

/-- A break stands at the end of a line only. A line that ends with a break loses it, and one that does
not is the last of the text and has none inside. -/
theorem bare_inner {text line : String} (isLine : line ∈ (linesOf text).toList) :
    '\n' ∉ (bare line).toList := by
  obtain ⟨characters, isPart, rfl⟩ := List.mem_map.mp isLine
  obtain ⟨_, inner⟩ := split_lines_shape text.toList characters isPart
  cases ends : endsWithBreak (String.ofList characters) with
  | true =>
    have same := congrArg List.dropLast (bare_of_broken ends)
    rw [List.dropLast_concat, String.toList_ofList] at same
    rwa [same]
  | false =>
    rw [bare_of_unbroken ends, String.toList_ofList]
    intro isIn
    rw [← Bool.not_eq_true, ends_with_break_iff, String.toList_ofList] at ends
    rcases List.eq_nil_or_concat characters with rfl | ⟨front, last, rfl⟩
    · cases isIn
    · rw [List.concat_eq_append] at isIn inner ends
      rw [List.dropLast_concat] at inner
      rw [List.getLast?_concat] at ends
      rcases List.mem_append.mp isIn with inFront | isLast
      · exact inner inFront
      · exact ends (congrArg some (List.mem_singleton.mp isLast).symm)

/-- A line that another follows has a break. -/
theorem broken_of_followed {text : String} {front back : List String}
    (lines : (linesOf text).toList = front ++ back) (followed : back ≠ []) :
    ∀ line ∈ front, endsWithBreak line = true := by
  intro line isIn
  have inFront : line ∈ (linesOf text).toList.dropLast := by
    rw [lines, List.dropLast_append_of_ne_nil followed]
    exact List.mem_append_left _ isIn
  rw [linesOf, List.toList_toArray, ← List.map_dropLast] at inFront
  obtain ⟨characters, isPart, rfl⟩ := List.mem_map.mp inFront
  rw [ends_with_break_iff, String.toList_ofList]
  exact split_lines_broken text.toList characters isPart

/-- The last line ends as the text does. -/
theorem ends_with_break_last {text line : String} {front : List String}
    (lines : (linesOf text).toList = front ++ [line]) : endsWithBreak line = endsWithBreak text := by
  have nonempty : line.toList ≠ [] := by
    have isIn : line ∈ (linesOf text).toList := lines ▸ List.mem_append_right _ List.mem_cons_self
    obtain ⟨characters, isPart, rfl⟩ := List.mem_map.mp isIn
    rw [String.toList_ofList]
    exact (split_lines_shape text.toList characters isPart).1
  have whole := join_lines text
  rw [lines, ← String.toList_inj, String.toList_join, List.flatMap_append, List.flatMap_singleton] at whole
  rw [endsWithBreak, endsWithBreak, ← whole, List.getLast?_append, List.getLast?_eq_some_getLast nonempty]
  rfl

/-- The empty text is the only one without lines. -/
theorem lines_eq_nil_iff {text : String} : (linesOf text).toList = [] ↔ text = "" := by
  constructor
  · intro none
    have whole := join_lines text
    rw [none] at whole
    exact whole.symm
  · rintro rfl
    rfl

/-! ## Entries and hunks -/

/-- A line of a hunk and what is done with it. The line has its break, if there is one. -/
structure Entry where
  change : Change
  line : String

/-- The lines of one side of a hunk: how many there are, and the first of them, or the line before it if
there is none. -/
structure Range where
  start : Nat
  count : Nat
  deriving DecidableEq

/-- A hunk as it is read. -/
structure Part where
  oldRange : Range
  newRange : Range
  entries : List Entry

/-- The lines of a hunk that are in the old text. -/
def oldSide (entries : List Entry) : List String :=
  (entries.filter (·.change ≠ .add)).map (·.line)

/-- The lines of a hunk that are in the new text. -/
def newSide (entries : List Entry) : List String :=
  (entries.filter (·.change ≠ .remove)).map (·.line)

/-- The range of some lines that stand after others. -/
def Range.behind (others count : Nat) : Range where
  start := if count = 0 then others else others + 1
  count := count

/-- How many lines stand before a range. -/
def Range.before (range : Range) : Nat :=
  if range.count = 0 then range.start else range.start - 1

/-- The hunk of some entries that stand after a number of old and of new lines. -/
def Part.behind (used made : Nat) (entries : List Entry) : Part where
  oldRange := .behind used (oldSide entries).length
  newRange := .behind made (newSide entries).length
  entries := entries

/-! ## Reading -/

/-- What stands in a text after a mark that it has to begin with. -/
def expect (mark : String) (text : List Char) : Option (List Char) :=
  if mark.toList <+: text then some (text.drop mark.toList.length) else none

/-- The number at the beginning of a text, and what stands after it. -/
def readNumber (text : List Char) : Option (Nat × List Char) :=
  let digits := text.takeWhile Char.isDigit
  if digits = [] then none else some (Nat.ofDigitChars 10 digits 0, text.dropWhile Char.isDigit)

/-- The range at the beginning of a text, and what stands after it. A range without a count is one line. -/
def readRange (text : List Char) : Option (Range × List Char) :=
  (readNumber text).bind fun start =>
    match start.2 with
    | ',' :: rest => (readNumber rest).map fun count => (⟨start.1, count.1⟩, count.2)
    | rest => some (⟨start.1, 1⟩, rest)

/-- The two ranges in the heading of a hunk. -/
def readHeading (line : List Char) : Option (Range × Range) :=
  (expect "@@ -" line).bind fun text =>
    (readRange text).bind fun oldRange =>
      (expect " +" oldRange.2).bind fun text =>
        (readRange text).bind fun newRange =>
          (expect " @@" newRange.2).map fun _ => (oldRange.1, newRange.1)

/-- What is read of a patch from some line on: whether a mark comes first, the entries up to the next heading,
and the hunks from there on. -/
structure Reading where
  marked : Bool
  entries : List Entry
  parts : List Part

/-- One more entry in front. After a mark its line has no break. -/
def Reading.withEntry (after : Reading) (change : Change) (text : List Char) : Reading where
  marked := false
  entries := ⟨change, String.ofList (if after.marked then text.dropLast else text)⟩ :: after.entries
  parts := after.parts

/-- One more line of a patch, read by its first character. -/
def readLine (line : List Char) (after : Reading) : Option Reading :=
  match line with
  | ' ' :: text => some (after.withEntry .keep text)
  | '-' :: text => some (after.withEntry .remove text)
  | '+' :: text => some (after.withEntry .add text)
  | '\\' :: _ => if after.marked then none else some { after with marked := true }
  | line =>
    if after.marked then none
    else (readHeading line).map fun ranges => ⟨false, [], ⟨ranges.1, ranges.2, after.entries⟩ :: after.parts⟩

/-- The lines of a patch after the names of the files. -/
def readLines : List (List Char) → Option Reading
  | [] => some ⟨false, [], []⟩
  | line :: rest => (readLines rest).bind (readLine line)

/-- The lines after the names of the files, of which the old one comes first. -/
def skipNames : List (List Char) → Option (List (List Char))
  | oldName :: newName :: rest =>
    if "--- ".toList <+: oldName then if "+++ ".toList <+: newName then some rest else none
    else skipNames (newName :: rest)
  | _ => none

/-- The hunks of a patch. -/
def readPatch (patch : String) : Option (List Part) :=
  (skipNames (splitLines patch.toList)).bind fun lines =>
    (readLines lines).bind fun reading =>
      if reading.marked = false ∧ reading.entries.isEmpty then some reading.parts else none

/-! ## Applying -/

/-- The new lines that hunks make of the old lines from some place on. Each hunk has to stand where its
heading says, with as many lines, and its old side has to be there. -/
def applyParts : List Part → (used made : Nat) → List String → Option (List String)
  | [], _, _, lines => some lines
  | part :: parts, used, made, lines =>
    let skipped := part.oldRange.before - used
    let oldLines := oldSide part.entries
    let newLines := newSide part.entries
    if part.oldRange = .behind (used + skipped) oldLines.length ∧
        part.newRange = .behind (made + skipped) newLines.length ∧
        skipped ≤ lines.length ∧ oldLines <+: lines.drop skipped then
      (applyParts parts (used + skipped + oldLines.length) (made + skipped + newLines.length)
          (lines.drop (skipped + oldLines.length))).map
        (lines.take skipped ++ newLines ++ ·)
    else none

/-- The text that a patch makes of another one, if it applies. -/
def apply (patch original : String) : Option String :=
  (readPatch patch).bind fun parts => (applyParts parts 0 0 (linesOf original).toList).map String.join

/-! ## Reading what was printed -/

/-- The character in front of a line. -/
def Change.sign : Change → String
  | .keep => " "
  | .remove => "-"
  | .add => "+"

/-- The lines that entries print, without marks. -/
def plain (entries : List Entry) : List String :=
  entries.map fun entry => entry.change.sign ++ bare entry.line

/-- The lines that an entry prints: one without a break is followed by the mark. -/
def Entry.text (entry : Entry) : List String :=
  (entry.change.sign ++ bare entry.line) :: if endsWithBreak entry.line then [] else [noBreakMark]

def Range.text (range : Range) : String :=
  toString range.start ++ "," ++ toString range.count

/-- The lines that a hunk prints. -/
def Part.text (part : Part) : List String :=
  ("@@ -" ++ part.oldRange.text ++ " +" ++ part.newRange.text ++ " @@") :: part.entries.flatMap Entry.text

/-- The characters of lines, each with a break. -/
def withBreaks (lines : List String) : List (List Char) :=
  lines.map fun line => line.toList ++ ['\n']

/-- Breaks are put behind lines one by one. -/
theorem with_breaks_append (lines others : List String) :
    withBreaks (lines ++ others) = withBreaks lines ++ withBreaks others :=
  List.map_append

/-- A mark that stands in front is read off. -/
theorem expect_append (mark : String) (rest : List Char) : expect mark (mark.toList ++ rest) = some rest := by
  rw [expect, if_pos (List.prefix_append _ _), List.drop_append_length]

/-- A number is read back from its digits, when no further digit comes after them. Its digits are taken
as long as there are any, and what they spell is the number. -/
theorem read_number_text (number : Nat) {rest : List Char} (ends : ∀ c ∈ rest.head?, c.isDigit = false) :
    readNumber ((toString number).toList ++ rest) = some (number, rest) := by
  have digits : (toString number).toList = Nat.toDigits 10 number := by
    rw [show toString number = number.repr from rfl, Nat.repr_eq_ofList_toDigits, String.toList_ofList]
  have allDigits (c : Char) (isIn : c ∈ Nat.toDigits 10 number) : c.isDigit = true :=
    Nat.isDigit_of_mem_toDigits (by decide) (by decide) isIn
  have noMore : rest.takeWhile Char.isDigit = [] ∧ rest.dropWhile Char.isDigit = rest := by
    cases rest with
    | nil => exact ⟨rfl, rfl⟩
    | cons c rest =>
      have notDigit := ends c rfl
      simp [notDigit]
  rw [readNumber, digits, List.takeWhile_append_of_pos allDigits, List.dropWhile_append_of_pos allDigits,
    noMore.1, noMore.2, List.append_nil, if_neg Nat.toDigits_ne_nil,
    Nat.ofDigitChars_toDigits (by decide) (by decide)]

/-- So is a range, with or without a count of lines. -/
theorem read_range_text (range : Range) {rest : List Char} (ends : ∀ c ∈ rest.head?, c.isDigit = false) :
    readRange (range.text.toList ++ rest) = some (range, rest) := by
  have text : range.text.toList ++ rest =
      (toString range.start).toList ++ (',' :: ((toString range.count).toList ++ rest)) := by
    simp [Range.text]
  rw [readRange, text, read_number_text range.start (by simp), Option.bind_some]
  simp only [read_number_text range.count ends, Option.map_some]

/-- So are the two ranges in the heading of a hunk, whatever comes after it. -/
theorem read_heading_text (oldRange newRange : Range) (rest : List Char) :
    readHeading (("@@ -" ++ oldRange.text ++ " +" ++ newRange.text ++ " @@").toList ++ rest) =
      some (oldRange, newRange) := by
  simp only [String.toList_append, List.append_assoc]
  rw [readHeading, expect_append, Option.bind_some, read_range_text oldRange (by simp), Option.bind_some,
    expect_append, Option.bind_some, read_range_text newRange (by simp), Option.bind_some, expect_append]
  rfl

/-- A line with the sign of a change in front is read as an entry for that change. -/
theorem read_line_sign (change : Change) (text : List Char) (after : Reading) :
    readLine (change.sign.toList ++ text) after = some (after.withEntry change text) := by
  cases change <;> rfl

/-- An entry that was printed is read again. Its sign says what is done to the line; a line without a
break is followed by the mark, which is met first when reading backwards and takes away the break that
printing had to add. -/
theorem read_entry (entry : Entry) {lines : List (List Char)} {after : Reading}
    (read : readLines lines = some after) (unmarked : after.marked = false) :
    readLines (withBreaks entry.text ++ lines) = some ⟨false, entry :: after.entries, after.parts⟩ := by
  obtain ⟨change, line⟩ := entry
  cases ends : endsWithBreak line with
  | true =>
    have printed : withBreaks (Entry.text ⟨change, line⟩) = [change.sign.toList ++ line.toList] := by
      rw [Entry.text, if_pos ends, withBreaks, List.map_singleton, String.toList_append, List.append_assoc,
        bare_of_broken ends]
    rw [printed, List.singleton_append, readLines, read, Option.bind_some, read_line_sign, Reading.withEntry,
      unmarked, if_neg Bool.false_ne_true, String.ofList_toList]
  | false =>
    have printed : withBreaks (Entry.text ⟨change, line⟩) =
        [change.sign.toList ++ (line.toList ++ ['\n']), noBreakMark.toList ++ ['\n']] := by
      rw [Entry.text, if_neg (ends ▸ Bool.false_ne_true), withBreaks, List.map_cons, List.map_singleton,
        String.toList_append, List.append_assoc, bare_of_unbroken ends]
    have mark : readLine (noBreakMark.toList ++ ['\n']) after = some { after with marked := true } := by
      rw [show noBreakMark.toList ++ ['\n'] = '\\' :: " No newline at end of file\n".toList by decide, readLine,
        unmarked, if_neg Bool.false_ne_true]
    rw [printed, List.cons_append, List.singleton_append, readLines, readLines, read, Option.bind_some, mark,
      Option.bind_some, read_line_sign, Reading.withEntry, if_pos rfl, List.dropLast_concat,
      String.ofList_toList]

/-- Entries that were printed are read again. -/
theorem read_entries (entries : List Entry) {lines : List (List Char)} {after : Reading}
    (read : readLines lines = some after) (unmarked : after.marked = false) :
    readLines (withBreaks (entries.flatMap Entry.text) ++ lines) =
      some ⟨false, entries ++ after.entries, after.parts⟩ := by
  induction entries with
  | nil =>
    rw [← unmarked]
    exact read
  | cons entry entries inductionHypothesis =>
    rw [List.flatMap_cons, with_breaks_append, List.append_assoc, read_entry entry inductionHypothesis rfl]
    rfl

/-- A line that is the heading of a hunk closes what was read behind it, as the lines are read from the
last one up. -/
theorem read_line_heading (oldRange newRange : Range) (after : Reading) (unmarked : after.marked = false) :
    readLine (("@@ -" ++ oldRange.text ++ " +" ++ newRange.text ++ " @@").toList ++ ['\n']) after =
      some ⟨false, [], ⟨oldRange, newRange, after.entries⟩ :: after.parts⟩ := by
  have read := read_heading_text oldRange newRange ['\n']
  obtain ⟨rest, shape⟩ : ∃ rest,
      ("@@ -" ++ oldRange.text ++ " +" ++ newRange.text ++ " @@").toList ++ ['\n'] = '@' :: rest := by
    simp only [String.toList_append, List.append_assoc]
    exact ⟨_, rfl⟩
  rw [shape] at read ⊢
  simp [readLine, unmarked, read]

/-- Hunks that were printed are read again. -/
theorem read_parts (parts : List Part) :
    readLines (withBreaks (parts.flatMap Part.text)) = some ⟨false, [], parts⟩ := by
  induction parts with
  | nil => rfl
  | cons part parts inductionHypothesis =>
    have entries := read_entries part.entries inductionHypothesis rfl
    rw [List.append_nil] at entries
    have heading := read_line_heading part.oldRange part.newRange ⟨false, part.entries, parts⟩ rfl
    rw [List.flatMap_cons, Part.text, List.cons_append, withBreaks, List.map_cons, readLines, ← withBreaks,
      with_breaks_append, entries, Option.bind_some, heading]

/-- No break is printed within a range, so a heading is one line. -/
theorem range_inner (range : Range) : '\n' ∉ range.text.toList := by
  have number (n : Nat) : '\n' ∉ (toString n).toList := by
    rw [show toString n = n.repr from rfl, Nat.repr_eq_ofList_toDigits, String.toList_ofList]
    intro isIn
    exact absurd (Nat.isDigit_of_mem_toDigits (by decide) (by decide) isIn) (by decide)
  simp only [Range.text, String.toList_append, List.mem_append, not_or]
  exact ⟨⟨number _, by decide⟩, number _⟩

/-- The lines that a hunk prints have no breaks inside. The heading of a hunk holds digits and signs, and
the mark holds no break either. -/
theorem part_inner (part : Part) (inner : ∀ entry ∈ part.entries, '\n' ∉ (bare entry.line).toList) :
    ∀ line ∈ part.text, '\n' ∉ line.toList := by
  refine List.forall_mem_cons.mpr ⟨?_, fun line isLine => ?_⟩
  · simp only [String.toList_append, List.mem_append, not_or]
    exact ⟨⟨⟨⟨by decide, range_inner _⟩, by decide⟩, range_inner _⟩, by decide⟩
  · obtain ⟨entry, isEntry, isLine⟩ := List.mem_flatMap.mp isLine
    rcases List.mem_cons.mp isLine with rfl | isMark
    · rw [String.toList_append, List.mem_append, not_or]
      exact ⟨by cases entry.change <;> decide, inner entry isEntry⟩
    · split at isMark
      · cases isMark
      · rw [List.mem_singleton.mp isMark]
        decide

/-- Lines that are joined by breaks, with one more at the end, have a break behind each of them. -/
theorem lines_text {lines : List String} (some : lines ≠ []) :
    ("\n".intercalate lines ++ "\n").toList = lines.flatMap fun line => line.toList ++ ['\n'] := by
  rw [String.toList_append, String.toList_intercalate]
  induction lines with
  | nil => exact absurd rfl some
  | cons line lines inductionHypothesis =>
    cases lines with
    | nil => simp
    | cons next lines =>
      rw [List.flatMap_cons, ← inductionHypothesis (List.cons_ne_nil _ _)]
      simp [List.intercalate]

/-- The lines of a patch before the hunks. -/
def namesText (name : String) : List String :=
  [String.ofList (List.replicate 67 '='), "--- a/" ++ name, "+++ b/" ++ name]

/-- The two lines with the names of the files in front of a patch are skipped. None of them begins as the
heading of a hunk does, and the rule above them is skipped as well. -/
theorem skip_names (name : String) (rest : List (List Char)) :
    skipNames (withBreaks (namesText name) ++ rest) = some rest := by
  have rule : ¬"--- ".toList <+: (String.ofList (List.replicate 67 '=')).toList ++ ['\n'] := by
    rw [String.toList_ofList]
    decide
  have oldName : "--- ".toList <+: ("--- a/" ++ name).toList ++ ['\n'] := by
    rw [String.toList_append, List.append_assoc]
    exact ⟨"a/".toList ++ (name.toList ++ ['\n']), rfl⟩
  have newName : "+++ ".toList <+: ("+++ b/" ++ name).toList ++ ['\n'] := by
    rw [String.toList_append, List.append_assoc]
    exact ⟨"b/".toList ++ (name.toList ++ ['\n']), rfl⟩
  simp only [withBreaks, namesText, List.map_cons, List.map_nil, List.cons_append, List.nil_append, skipNames,
    if_neg rule, if_pos oldName, if_pos newName]

/-- A patch that was printed is read again. Its lines have no breaks inside, so that dividing the text
gives them back; then the hunks are read one by one. -/
theorem read_patch {name : String} (nameInner : '\n' ∉ name.toList) (parts : List Part)
    (inner : ∀ part ∈ parts, ∀ entry ∈ part.entries, '\n' ∉ (bare entry.line).toList) :
    readPatch ("\n".intercalate (namesText name ++ parts.flatMap Part.text) ++ "\n") = some parts := by
  have linesInner : ∀ line ∈ namesText name ++ parts.flatMap Part.text, '\n' ∉ line.toList := by
    intro line isLine
    rcases List.mem_append.mp isLine with isName | isPart
    · simp only [namesText, List.mem_cons, List.not_mem_nil, or_false] at isName
      rcases isName with rfl | rfl | rfl
      · rw [String.toList_ofList]
        decide
      · rw [String.toList_append, List.mem_append, not_or]
        exact ⟨by decide, nameInner⟩
      · rw [String.toList_append, List.mem_append, not_or]
        exact ⟨by decide, nameInner⟩
    · obtain ⟨part, isPart, isLine⟩ := List.mem_flatMap.mp isPart
      exact part_inner part (inner part isPart) line isLine
  rw [readPatch, lines_text (by simp [namesText]), split_lines_flat_map _ linesInner, ← withBreaks,
    with_breaks_append, skip_names, Option.bind_some, read_parts]
  rfl

/-! ## Applying a hunk -/

/-- A range that is put behind some lines has these lines before it. An empty range counts from the line
before itself, which is taken back. -/
theorem Range.before_behind (others count : Nat) : (Range.behind others count).before = others := by
  rw [before, behind]
  split
  · rfl
  · rw [Nat.add_sub_cancel]

/-- The lines between the last hunk and the place that a heading says. -/
theorem skipped_before (used made skipped : Nat) (entries : List Entry) :
    (Part.behind (used + skipped) made entries).oldRange.before - used = skipped := by
  rw [Part.behind, Range.before_behind, Nat.add_sub_cancel_left]

/-- A hunk whose old side is where its heading says puts the new side in its place. The lines before the
hunk are skipped as they are, and the heading counts from them. -/
theorem apply_parts_cons (skipped : List String) (entries : List Entry) (parts : List Part) (used made : Nat)
    (rest : List String) :
    applyParts (.behind (used + skipped.length) (made + skipped.length) entries :: parts) used made
        (skipped ++ (oldSide entries ++ rest)) =
      (applyParts parts (used + skipped.length + (oldSide entries).length)
        (made + skipped.length + (newSide entries).length) rest).map (skipped ++ newSide entries ++ ·) := by
  rw [applyParts, skipped_before, if_pos]
  · simp only [Part.behind]
    rw [List.take_left, ← List.drop_drop, List.drop_left, List.drop_left]
  · refine ⟨rfl, rfl, ?_, ?_⟩
    · rw [List.length_append]
      exact Nat.le_add_right _ _
    · rw [List.drop_left]
      exact List.prefix_append _ _

/-- A hunk whose old side is not where its heading says does not apply. -/
theorem apply_parts_none (skipped lines : List String) (entries : List Entry) (parts : List Part)
    (used made : Nat) (alike : (oldSide entries).length = lines.length) (differ : oldSide entries ≠ lines) :
    applyParts (.behind (used + skipped.length) (made + skipped.length) entries :: parts) used made
      (skipped ++ lines) = none := by
  rw [applyParts, skipped_before, if_neg]
  rintro ⟨_, _, _, isPrefix⟩
  rw [List.drop_left] at isPrefix
  exact differ (isPrefix.eq_of_length alike)

end Codemod.Patch
