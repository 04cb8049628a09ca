import Codemod.Syntax.Source

/-!
# Reported positions

The line and the column of a place are what reading the text up to there counts: every character that
ends a line starts the count of columns anew, and any other adds its code units. A reported position is
looked up among the positions where lines start, by halving, which comes to the same.
-/
namespace Codemod.Syntax

namespace Source

/-- Whether a line ends with the character at a position: it ends one, and is no carriage return with a
line feed after it. -/
def endsLine (source : Source) (index : Nat) : Bool :=
  isLineBreak (source.get index) && !(source.get index == '\r' && source.get (index + 1) == '\n')

/-- The line and column that reading a number of characters from the start leads to. At the end of the
text reading stops. -/
def reached (source : Source) : Nat → Position
  | 0 => { line := 1, column := 1 }
  | index + 1 =>
    let before := source.reached index
    if source.size ≤ index then before
    else if source.endsLine index then { line := before.line + 1, column := 1 }
    else { before with column := before.column + Text.widthOfChar (source.get index) }

/-- Lines and columns count from one. The induction is on the offset: the column counts up, or begins
again at one on the next line. -/
theorem reached_pos (source : Source) (offset : Nat) :
    1 ≤ (source.reached offset).line ∧ 1 ≤ (source.reached offset).column := by
  induction offset with
  | zero => exact ⟨Nat.le_refl 1, Nat.le_refl 1⟩
  | succ index inductionHypothesis =>
    obtain ⟨line, column⟩ := inductionHypothesis
    simp only [reached]
    split
    · exact ⟨line, column⟩
    · split
      · exact ⟨Nat.le_add_left 1 _, Nat.le_refl 1⟩
      · exact ⟨line, Nat.le_add_right_of_le column⟩

/-- Past the end of the text nothing more is read. -/
theorem reached_min (source : Source) (offset : Nat) :
    source.reached offset = source.reached (min offset source.size) := by
  induction offset with
  | zero => rw [Nat.zero_min]
  | succ index inductionHypothesis =>
    by_cases past : source.size ≤ index
    · rw [Nat.min_eq_right (Nat.le_succ_of_le past)]
      rw [Nat.min_eq_right past] at inductionHypothesis
      simpa only [reached, past, if_true] using inductionHypothesis
    · rw [Nat.min_eq_left (by omega)]

/-- No line ends past the end of the text. -/
theorem lt_size_of_ends {source : Source} {index : Nat} (ends : source.endsLine index = true) :
    index < source.size := by
  apply Nat.lt_of_not_le
  intro past
  have nothing : source.get index = '\x00' := by
    simp [get, Array.getElem?_eq_none past]
  simp [endsLine, nothing, isLineBreak] at ends

end Source

/-- The source of some characters. -/
def Source.ofChars (chars : List Char) : Source :=
  { chars := chars.toArray }

/-- Behind a first character, the characters stand one position later. -/
theorem get_of_chars_succ (c : Char) (rest : List Char) (index : Nat) :
    (Source.ofChars (c :: rest)).get (index + 1) = (Source.ofChars rest).get index := by
  simp [Source.get, Source.ofChars]

/-- Behind a first character, lines end one position later: whether one ends at a position does not
depend on what comes before it. -/
theorem ends_line_succ (c : Char) (rest : List Char) (index : Nat) :
    (Source.ofChars (c :: rest)).endsLine (index + 1) = (Source.ofChars rest).endsLine index := by
  simp only [Source.endsLine, get_of_chars_succ]

/-- The first character ends its line when it ends one and does not begin a pair. The feed of a pair of
return and feed ends the line, not the return. -/
theorem ends_line_zero (c : Char) (rest : List Char)
    (unpaired : ∀ later, c = '\r' → rest = '\n' :: later → False) :
    (Source.ofChars (c :: rest)).endsLine 0 = isLineBreak c := by
  have first : (Source.ofChars (c :: rest)).get 0 = c := rfl
  have second : ¬(c = '\r' ∧ (Source.ofChars (c :: rest)).get 1 = '\n') := by
    rintro ⟨isReturn, feed⟩
    rw [get_of_chars_succ] at feed
    cases rest with
    | nil => cases feed
    | cons next later =>
      have isFeed : next = '\n' := feed
      exact unpaired later isReturn (congrArg (· :: later) isFeed)
  simp only [Source.endsLine, first, Nat.zero_add, Bool.and_eq_left_iff_imp, Bool.not_eq_true',
    Bool.and_eq_false_imp, beq_iff_eq, beq_eq_false_iff_ne]
  intro _ isReturn feed
  exact second ⟨isReturn, feed⟩

/-- A line starts after every character that a line ends with, and nowhere else past the first. The
induction follows the characters; a pair of a carriage return and a line feed ends one line, and is
passed over as one. -/
theorem mem_line_starts_from (chars : List Char) (pos start : Nat) :
    start ∈ lineStartsFrom chars pos ↔
      ∃ index, (Source.ofChars chars).endsLine index = true ∧ start = pos + index + 1 := by
  fun_induction lineStartsFrom chars pos with
  | case1 pos =>
    constructor
    · intro impossible
      exact absurd impossible List.not_mem_nil
    · rintro ⟨index, ends, _⟩
      exact absurd (Source.lt_size_of_ends ends) (Nat.not_lt_zero index)
  | case2 pos rest inductionHypothesis =>
    rw [List.mem_cons, inductionHypothesis]
    constructor
    · rintro (rfl | ⟨index, ends, rfl⟩)
      · exact ⟨1, rfl, rfl⟩
      · exact ⟨index + 2, by rwa [ends_line_succ, ends_line_succ], by omega⟩
    · rintro ⟨index, ends, rfl⟩
      rcases index with _ | _ | index
      · cases ends
      · exact .inl rfl
      · rw [ends_line_succ, ends_line_succ] at ends
        exact .inr ⟨index, ends, by omega⟩
  | case3 pos c rest unpaired ends inductionHypothesis =>
    rw [List.mem_cons, inductionHypothesis]
    constructor
    · rintro (rfl | ⟨index, later, rfl⟩)
      · exact ⟨0, (ends_line_zero c rest unpaired).trans ends, rfl⟩
      · exact ⟨index + 1, by rwa [ends_line_succ], by omega⟩
    · rintro ⟨index, later, rfl⟩
      cases index with
      | zero => exact .inl rfl
      | succ index =>
        rw [ends_line_succ] at later
        exact .inr ⟨index, later, by omega⟩
  | case4 pos c rest unpaired ends inductionHypothesis =>
    rw [inductionHypothesis]
    constructor
    · rintro ⟨index, later, rfl⟩
      exact ⟨index + 1, by rwa [ends_line_succ], by omega⟩
    · rintro ⟨index, later, rfl⟩
      cases index with
      | zero =>
        rw [ends_line_zero c rest unpaired] at later
        exact absurd later ends
      | succ index =>
        rw [ends_line_succ] at later
        exact ⟨index, later, by omega⟩

/-- Lines start in order. -/
theorem line_starts_from_sorted (chars : List Char) (pos : Nat) :
    (lineStartsFrom chars pos).Pairwise (· < ·) := by
  have beyond (chars : List Char) (pos start : Nat) (present : start ∈ lineStartsFrom chars pos) :
      pos < start := by
    obtain ⟨index, _, rfl⟩ := (mem_line_starts_from chars pos start).mp present
    omega
  fun_induction lineStartsFrom chars pos with
  | case1 => exact .nil
  | case2 pos rest inductionHypothesis => exact .cons (beyond rest _) inductionHypothesis
  | case3 pos c rest _ _ inductionHypothesis => exact .cons (beyond rest _) inductionHypothesis
  | case4 pos c rest _ _ inductionHypothesis => exact inductionHypothesis

namespace Source

/-- The positions where lines start, as a list. -/
def starts (source : Source) : List Nat :=
  0 :: lineStartsFrom source.chars.toList 0

/-- The table of lines is the list of the positions where they start. -/
theorem line_starts_eq (source : Source) : source.lineStarts = source.starts.toArray :=
  rfl

/-- Lines start at the beginning, and after each position that ends a line. -/
theorem mem_starts {source : Source} {start : Nat} :
    start ∈ source.starts ↔ start = 0 ∨ ∃ index, source.endsLine index = true ∧ start = index + 1 := by
  rw [starts, List.mem_cons, mem_line_starts_from]
  simp [ofChars]

/-- The starts of lines come in order. -/
theorem starts_sorted (source : Source) : source.starts.Pairwise (· < ·) := by
  refine .cons ?_ (line_starts_from_sorted _ 0)
  intro start present
  obtain ⟨index, _, rfl⟩ := (mem_line_starts_from _ 0 start).mp present
  omega

/-- A line that a position stands on: it starts there or before, and the lines after it start later. -/
structure OnLine (source : Source) (pos number : Nat) : Prop where
  bound : number < source.starts.length
  before : source.starts.getD number 0 ≤ pos
  after : ∀ later, number < later → later < source.starts.length → pos < source.starts.getD later 0

/-- The start of a line that there is. -/
theorem get_starts {source : Source} {number : Nat} (bound : number < source.starts.length) :
    source.starts.getD number 0 = source.starts[number] := by
  simp [List.getD, bound]

/-- A later line starts later. -/
theorem starts_lt {source : Source} {earlier later : Nat} (order : earlier < later)
    (bound : later < source.starts.length) :
    source.starts.getD earlier 0 < source.starts.getD later 0 := by
  rw [get_starts (Nat.lt_trans order bound), get_starts bound]
  exact List.pairwise_iff_getElem.mp source.starts_sorted earlier later _ bound order

/-- A position stands on one line, since lines start in order. -/
theorem OnLine.unique {source : Source} {pos first second : Nat} (one : source.OnLine pos first)
    (other : source.OnLine pos second) : first = second := by
  rcases Nat.lt_trichotomy first second with earlier | same | later
  · exact absurd other.before (Nat.not_le_of_lt (one.after second earlier other.bound))
  · exact same
  · exact absurd one.before (Nat.not_le_of_lt (other.after first later one.bound))

/-- Halving keeps the line of the position between its bounds, so that it is found when they meet. The
induction is on the number of halvings that are allowed. -/
theorem line_index_on (source : Source) (pos fuel low high : Nat) (order : low < high)
    (bound : high ≤ source.starts.length) (enough : high - low ≤ fuel)
    (before : source.starts.getD low 0 ≤ pos)
    (after : ∀ later, high ≤ later → later < source.starts.length → pos < source.starts.getD later 0) :
    source.OnLine pos (lineIndex source.lineStarts pos fuel low high) := by
  induction fuel generalizing low high with
  | zero => omega
  | succ fuel inductionHypothesis =>
    rw [lineIndex]
    split
    · exact ⟨by omega, before, fun later past => after later (by omega)⟩
    · rename_i apart
      have middle : source.lineStarts.getD ((low + high) / 2) 0 =
          source.starts.getD ((low + high) / 2) 0 := by
        simp [line_starts_eq]
      dsimp only
      rw [middle]
      split
      · rename_i reaches
        exact inductionHypothesis _ _ (by omega) bound (by omega) reaches after
      · rename_i beyond
        refine inductionHypothesis _ _ (by omega) (by omega) (by omega) before ?_
        intro later past present
        rcases Nat.eq_or_lt_of_le past with rfl | past
        · exact Nat.lt_of_not_le beyond
        · exact Nat.lt_trans (Nat.lt_of_not_le beyond) (starts_lt past present)

/-- Halving the table finds the line of every position. It needs no more steps than there are lines. -/
theorem line_of_on (source : Source) (pos : Nat) : source.OnLine pos (lineOf source.lineStarts pos) := by
  have size : source.lineStarts.size = source.starts.length := by
    simp [line_starts_eq]
  rw [lineOf, size]
  apply line_index_on
  · exact Nat.succ_pos _
  · exact Nat.le_refl _
  · omega
  · exact Nat.zero_le pos
  · intro later past present
    omega

/-- The next position is on the same line, unless the line ends here. The next line does not start there,
and so it starts later. -/
theorem OnLine.same {source : Source} {pos number : Nat} (on : source.OnLine pos number)
    (goesOn : source.endsLine pos = false) : source.OnLine (pos + 1) number where
  bound := on.bound
  before := Nat.le_succ_of_le on.before
  after := by
    intro later past present
    refine Nat.lt_of_le_of_ne (on.after later past present) ?_
    intro starts
    have listed : pos + 1 ∈ source.starts := by
      rw [starts, get_starts present]
      exact List.getElem_mem present
    rcases mem_starts.mp listed with impossible | ⟨index, ends, same⟩
    · cases impossible
    · rw [← Nat.succ.inj same, goesOn] at ends
      cases ends

/-- After the end of a line the next position starts the next one. The start of the next line is the
position behind the end, since no line starts between the two. -/
theorem OnLine.next {source : Source} {pos number : Nat} (on : source.OnLine pos number)
    (ends : source.endsLine pos = true) :
    source.OnLine (pos + 1) (number + 1) ∧ source.starts.getD (number + 1) 0 = pos + 1 := by
  obtain ⟨index, present, starts⟩ :=
    List.mem_iff_getElem.mp (mem_starts.mpr (.inr ⟨pos, ends, rfl⟩) : pos + 1 ∈ source.starts)
  have begins : source.starts.getD index 0 = pos + 1 := by
    rw [get_starts present, starts]
  have past : number < index := by
    apply Nat.lt_of_not_le
    intro within
    have order : source.starts.getD index 0 ≤ source.starts.getD number 0 := by
      rcases Nat.eq_or_lt_of_le within with rfl | within
      · exact Nat.le_refl _
      · exact Nat.le_of_lt (starts_lt within on.bound)
    have before := on.before
    omega
  -- A line between the two would start after the position and before the next one.
  have adjacent : index = number + 1 := by
    apply Nat.le_antisymm (Nat.le_of_not_lt _) past
    intro between
    have after := on.after (number + 1) (Nat.lt_succ_self number) (Nat.lt_trans between present)
    have before : source.starts.getD (number + 1) 0 < source.starts.getD index 0 :=
      starts_lt between present
    omega
  subst adjacent
  refine ⟨⟨present, Nat.le_of_eq begins, ?_⟩, begins⟩
  intro later beyond within
  rw [← begins]
  exact starts_lt beyond within

/-- The position that is reported for a place on a line that is known. -/
theorem position_at_on {source : Source} {pos number : Nat} (on : source.OnLine pos number) :
    source.positionAt pos =
      { line := number + 1
        column := Text.width (source.slice (source.starts.getD number 0) pos) + 1 } := by
  have found : lineOf source.lineStarts pos = number := (line_of_on source pos).unique on
  have start : source.lineStarts.getD number 0 = source.starts.getD number 0 := by
    simp [line_starts_eq]
  simp only [positionAt, found, start, slice]

/-- The width of texts put together is the sum of theirs. -/
theorem width_append (first second : String) :
    Text.width (first ++ second) = Text.width first + Text.width second := by
  simp [Text.width, Text.units]

/-- The text up to a place past the end is the same as up to the next. -/
theorem slice_past {source : Source} {start index : Nat} (past : source.size ≤ index) :
    source.slice start (index + 1) = source.slice start index := by
  have length : (source.chars.toList.drop start).length ≤ index - start := by
    simp only [List.length_drop, Array.length_toList]
    exact Nat.sub_le_sub_right past start
  simp only [slice, Array.toList_extract, List.extract_eq_take_drop]
  rw [List.take_of_length_le length, List.take_of_length_le (by omega)]

/-- The text up to the next place has one more character. -/
theorem slice_succ {source : Source} {start index : Nat} (order : start ≤ index)
    (within : index < source.size) :
    source.slice start (index + 1) =
      source.slice start index ++ String.ofList [source.get index] := by
  have present : index < source.chars.size := within
  have length : index - start < (source.chars.toList.drop start).length := by
    simp only [List.length_drop, Array.length_toList]
    omega
  simp only [slice, Array.toList_extract, List.extract_eq_take_drop, ← String.ofList_append]
  rw [Nat.succ_sub order, List.take_succ_eq_append_getElem length]
  simp [get, present, order]

/-- The reported position of a place is the one that reading up to it counts. The induction is on the
place; the line of each place gives that of the next. -/
theorem position_at_eq_reached (source : Source) (offset : Nat) :
    source.positionAt offset = source.reached offset := by
  induction offset with
  | zero =>
    have on : source.OnLine 0 0 := by
      refine ⟨Nat.succ_pos _, Nat.le_refl 0, ?_⟩
      intro later past present
      exact Nat.lt_of_le_of_lt (Nat.zero_le _) (starts_lt past present)
    rw [position_at_on on]
    simp [reached, slice, Text.width, Text.units]
  | succ index inductionHypothesis =>
    have on := line_of_on source index
    rw [position_at_on on] at inductionHypothesis
    rw [reached, ← inductionHypothesis]
    dsimp only
    split
    · rename_i past
      have goesOn : source.endsLine index = false := by
        rw [Bool.eq_false_iff]
        intro ends
        exact absurd (lt_size_of_ends ends) (Nat.not_lt_of_le past)
      rw [position_at_on (on.same goesOn), slice_past past]
    · rename_i within
      split
      · rename_i ends
        obtain ⟨next, begins⟩ := on.next ends
        rw [position_at_on next, begins]
        simp [slice, Text.width, Text.units]
      · rename_i goesOn
        rw [position_at_on (on.same (Bool.eq_false_iff.mpr goesOn)),
          slice_succ on.before (Nat.lt_of_not_le within), width_append]
        simp [Text.width, Text.units, Text.length_units_of_char, Nat.add_right_comm]

end Source

end Codemod.Syntax
