import Codemod.Proofs.Marks
import Codemod.Proofs.Diagonals
import Codemod.Outcome

/-!
# Printed patches

The hunks of a script are collected run by run. Between two hunks the lines of both sides are the same; in a
hunk its entries say what became of the lines since it began. So a hunk that is closed before the ends is
one that applies, whatever comes after it, and only the marks of the last one can stand wrong. They do in two
cases: when everything is removed from a text that ends with a break, and when the old text does not end with
one and its last removal has an insertion before it in the same hunk. In all other cases the patch makes the
new text of the old one.
-/
namespace Codemod.Patch

/-- The lines of a text from some place on. -/
def linesFrom (text : String) (place : Nat) : List String :=
  (linesOf text).toList.drop place

/-- Whether the last removal of a script has an insertion before it in the same hunk. Kept lines between two
changes leave them in one hunk when there are few; `added` says whether there is an insertion in the hunk so
far. -/
def removesAfterAdding (context : Nat) : List Run → (added : Bool) → Bool
  | [], _ => false
  | run :: rest, added =>
    match run.change with
    | .add => removesAfterAdding context rest true
    | .remove => added && rest.all (·.change = .add) || removesAfterAdding context rest added
    | .keep => removesAfterAdding context rest (added && run.count ≤ context * 2)

/-- Whether a mark for a missing last break stands wrong: everything is removed from a text that ends with a
break, or the old text lacks one and its last removal comes after an insertion. -/
def Misprinted (old new : String) (context : Nat) : Prop :=
  new = "" ∧ endsWithBreak old = true ∨
    old ≠ "" ∧ endsWithBreak old = false ∧
      removesAfterAdding context (script (linesOf old) (linesOf new)) false = true

variable {oldText newText : String} {context used made i j oldNext newNext : Nat} {runs : List Run}
  {previous : Option (List String)} {added right : Bool} {skipped recent kept changed : List String}
  {entries : List Entry} {hunks : List Hunk}

/-! ## Lines that are left -/

/-- From the start on, these are all the lines of a text. -/
theorem lines_from_zero (text : String) : linesFrom text 0 = (linesOf text).toList :=
  rfl

/-- Nothing comes after the last line. -/
theorem lines_from_end (text : String) : linesFrom text (linesOf text).toList.length = [] :=
  List.drop_length

/-- Where no line is left within a text, the place is its end. -/
theorem lines_from_eq_nil {text : String} {place : Nat} (none : linesFrom text place = [])
    (inside : place ≤ (linesOf text).toList.length) : place = (linesOf text).toList.length :=
  Nat.le_antisymm inside (List.drop_eq_nil_iff.mp none)

/-- A line has no break within it: texts are cut into lines at their breaks. -/
theorem line_inner {text line : String} {place : Nat} (isLine : line ∈ linesFrom text place) :
    '\n' ∉ (bare line).toList :=
  bare_inner (List.mem_of_mem_drop isLine)

/-- The next lines of a text. -/
theorem next_lines {text : String} {place count : Nat}
    (inside : place + count ≤ (linesOf text).toList.length) :
    ((linesFrom text place).take count).length = count ∧
      linesFrom text place = (linesFrom text place).take count ++ linesFrom text (place + count) := by
  refine ⟨?_, ?_⟩
  · rw [linesFrom, List.length_take, List.length_drop]
    omega
  · rw [linesFrom, linesFrom, ← List.drop_drop, List.take_append_drop]

/-- There is something to take where lines are left. -/
theorem some_lines {text : String} {place count : Nat} (some : 0 < count)
    (inside : place + count ≤ (linesOf text).toList.length) : (linesFrom text place).take count ≠ [] := by
  rwa [← List.length_pos_iff, (next_lines inside).1]

/-- Some of the next lines and what comes after them. -/
theorem lines_shown {text : String} {rest : List String} (next : linesFrom text i = kept ++ rest)
    {shown : Nat} (inside : shown ≤ kept.length) :
    linesFrom text (i + shown) = kept.drop shown ++ rest ∧
      linesFrom text i = kept.take shown ++ linesFrom text (i + shown) := by
  have after : linesFrom text (i + shown) = kept.drop shown ++ rest := by
    rw [linesFrom, ← List.drop_drop, ← linesFrom, next, List.drop_append_of_le_length inside]
  exact ⟨after, by rw [after, ← List.append_assoc, List.take_append_drop, next]⟩

/-- A text is what was gone through and what is left. -/
theorem lines_whole {text : String} {lines : List String} (next : linesFrom text i = lines) :
    (linesOf text).toList = (linesOf text).toList.take i ++ lines := by
  rw [← next, linesFrom, List.take_append_drop]

/-- When kept lines end one text and not the other, the one that they end does so with a break. The same
last line is followed by another one in the text that goes on, and a line that is followed by another
ends with a break. -/
theorem kept_broken (nonempty : kept ≠ []) (inOld : linesFrom oldText i = kept ++ linesFrom oldText oldNext)
    (inNew : linesFrom newText j = kept ++ linesFrom newText newNext) (oldEnd : linesFrom oldText oldNext = [])
    (newMore : linesFrom newText newNext ≠ []) : endsWithBreak oldText = true := by
  rcases List.eq_nil_or_concat kept with rfl | ⟨front, last, rfl⟩
  · exact absurd rfl nonempty
  rw [List.concat_eq_append] at inOld inNew
  rw [oldEnd, List.append_nil] at inOld
  have oldWhole := lines_whole inOld
  have newWhole := lines_whole inNew
  rw [← List.append_assoc] at oldWhole newWhole
  rw [← ends_with_break_last oldWhole]
  exact broken_of_followed newWhole newMore _
    (List.mem_append_right _ (List.mem_append_right _ List.mem_cons_self))

/-! ## Hunks that are closed -/

/-- The hunk of some entries that stand after a number of old and of new lines. -/
def hunkOf (used made : Nat) (entries : List Entry) : Hunk where
  oldStart := used + 1
  oldCount := (oldSide entries).length
  newStart := made + 1
  newCount := (newSide entries).length
  lines := entries.flatMap Entry.text

/-- A hunk is printed as the part that stands for it, with the same numbers and entries. -/
theorem hunk_text (used made : Nat) (entries : List Entry) :
    (hunkOf used made entries).text = (Part.behind used made entries).text := by
  have range (before count : Nat) : rangeText (before + 1) count = (Range.behind before count).text := by
    rw [rangeText, Nat.add_sub_cancel]
    rfl
  simp only [Hunk.text, hunkOf, range]
  rfl

/-- Hunks that are read as ones that make the new lines of the old ones from some places on, if they are
printed right, and that do not apply otherwise. -/
def Yields (oldText newText : String) (right : Bool) (hunks : List Hunk) (used made : Nat) : Prop :=
  ∃ parts : List Part, hunks.flatMap Hunk.text = parts.flatMap Part.text ∧
    (∀ part ∈ parts, ∀ entry ∈ part.entries, '\n' ∉ (bare entry.line).toList) ∧
    applyParts parts used made (linesFrom oldText used) = if right then some (linesFrom newText made) else none

/-- Where both sides are the same from here on, no hunk is needed. -/
theorem Yields.nil (same : linesFrom oldText used = linesFrom newText made) :
    Yields oldText newText true [] used made :=
  ⟨[], rfl, fun _ none => absurd none List.not_mem_nil, congrArg some same⟩

/-- A hunk whose sides are the next lines, in front of hunks for the rest. The lines between the last
hunk and this one are skipped in both texts alike. -/
theorem Yields.cons (rest : Yields oldText newText right hunks i j)
    (inOld : linesFrom oldText used = skipped ++ (oldSide entries ++ linesFrom oldText i))
    (inNew : linesFrom newText made = skipped ++ (newSide entries ++ linesFrom newText j))
    (oldPlace : used + skipped.length + (oldSide entries).length = i)
    (newPlace : made + skipped.length + (newSide entries).length = j) :
    Yields oldText newText right (hunkOf (used + skipped.length) (made + skipped.length) entries :: hunks)
      used made := by
  obtain ⟨parts, printed, inner, applies⟩ := rest
  refine ⟨.behind (used + skipped.length) (made + skipped.length) entries :: parts, ?_, ?_, ?_⟩
  · rw [List.flatMap_cons, List.flatMap_cons, hunk_text, printed]
  · refine List.forall_mem_cons.mpr ⟨fun entry isEntry => ?_, inner⟩
    rcases mem_sides isEntry with isOld | isNew
    · exact line_inner (inOld ▸ List.mem_append_right _ (List.mem_append_left _ isOld))
    · exact line_inner (inNew ▸ List.mem_append_right _ (List.mem_append_left _ isNew))
  · rw [inOld, apply_parts_cons, oldPlace, newPlace, applies, inNew]
    cases right with
    | true => rw [if_pos rfl, if_pos rfl, Option.map_some, List.append_assoc]
    | false => rw [if_neg Bool.false_ne_true, if_neg Bool.false_ne_true, Option.map_none]

/-- A hunk that is read with another old side than the lines have does not apply. -/
theorem Yields.misread {others : List Entry} (misread : Misread entries others)
    (inOld : linesFrom oldText used = skipped ++ oldSide entries) :
    Yields oldText newText false [hunkOf (used + skipped.length) (made + skipped.length) others] used made := by
  refine ⟨[.behind (used + skipped.length) (made + skipped.length) others], ?_,
    List.forall_mem_singleton.mpr misread.inner, ?_⟩
  · rw [List.flatMap_singleton, List.flatMap_singleton, hunk_text]
  · rw [inOld, apply_parts_none _ _ _ _ _ _ (old_side_length others misread.alike) misread.differ]
    rfl

/-! ## One step of the collection -/

/-- A run of kept lines between hunks adds nothing to the output; it is remembered, as the next hunk may
begin with its last lines. -/
theorem hunks_keep_between (kept : List String) (rest : List Block) (oldLine newLine : Nat) :
    hunksFrom oldText newText context (⟨.keep, kept⟩ :: rest) previous none oldLine newLine =
      hunksFrom oldText newText context rest (some kept) none (oldLine + kept.length) (newLine + kept.length) :=
  rfl

/-- A short run of kept lines within a hunk is written into it when another change follows: the hunks
around it would touch. -/
theorem hunks_keep_inside {rest : List Block} (hunk : OpenHunk) (oldLine newLine : Nat)
    (short : kept.length ≤ context * 2) (more : rest ≠ []) :
    hunksFrom oldText newText context (⟨.keep, kept⟩ :: rest) previous (some hunk) oldLine newLine =
      hunksFrom oldText newText context rest (some kept)
        (some { hunk with lines := hunk.lines ++ kept.map (Change.keep.sign ++ ·) })
        (oldLine + kept.length) (newLine + kept.length) := by
  rw [hunksFrom]
  simp only [List.isEmpty_eq_false_iff.mpr more, short, decide_true, Bool.not_false, Bool.and_self, if_true]
  rfl

/-- A long run of kept lines, or the last run, closes the hunk: its first lines are written as context,
and the hunk is given out with its counts. -/
theorem hunks_keep_close {rest : List Block} (hunk : OpenHunk) (oldLine newLine : Nat)
    (ends : rest = [] ∨ context * 2 < kept.length) :
    hunksFrom oldText newText context (⟨.keep, kept⟩ :: rest) previous (some hunk) oldLine newLine =
      { oldStart := hunk.oldStart, oldCount := oldLine - hunk.oldStart + min kept.length context
        newStart := hunk.newStart, newCount := newLine - hunk.newStart + min kept.length context
        lines :=
          if rest = [] ∧ kept.length ≤ context then
            markEnd oldText newText kept.length (oldLine - hunk.oldStart + min kept.length context)
              (hunk.lines ++ (kept.take (min kept.length context)).map (Change.keep.sign ++ ·))
          else hunk.lines ++ (kept.take (min kept.length context)).map (Change.keep.sign ++ ·) } ::
        hunksFrom oldText newText context rest (some kept) none (oldLine + kept.length)
          (newLine + kept.length) := by
  have notInside : ¬(decide (kept.length ≤ context * 2) && !rest.isEmpty) = true := by
    rcases ends with rfl | long
    · simp
    · simp [Nat.not_le_of_lt long]
  rw [hunksFrom]
  simp only [if_neg notInside]
  simp only [Bool.and_eq_true, List.isEmpty_iff, decide_eq_true_eq]
  rfl

/-- The hunk that a change belongs to: the one that has begun, or one that begins with the lines before. -/
def opened (context : Nat) (previous : Option (List String)) (oldLine newLine : Nat) :
    Option OpenHunk → OpenHunk
  | some hunk => hunk
  | none =>
    let before := lastOf context (previous.getD [])
    { oldStart := oldLine - before.length, newStart := newLine - before.length
      lines := before.map (Change.keep.sign ++ ·) }

/-- A run of changed lines goes into the hunk that is open, or opens one with the last kept lines before
it. -/
theorem hunks_change {change : Change} (changes : change ≠ .keep) (rest : List Block)
    (current : Option OpenHunk) (oldLine newLine : Nat) :
    hunksFrom oldText newText context (⟨change, changed⟩ :: rest) previous current oldLine newLine =
      hunksFrom oldText newText context rest (some changed)
        (some { opened context previous oldLine newLine current with
          lines := (opened context previous oldLine newLine current).lines ++ changed.map (change.sign ++ ·) })
        (if change = .add then oldLine else oldLine + changed.length)
        (if change = .add then newLine + changed.length else newLine) := by
  cases change with
  | keep => exact absurd rfl changes
  | remove => cases current <;> rfl
  | add => cases current <;> rfl

/-! ## What is known on the way -/

/-- Since the last hunk, the lines on both sides are the same, and the last of them may be shown. If they
reach the end of the old text and new lines follow, the old text ends with a break; if nothing follows, no mark
stands wrong. -/
structure Between (oldText newText : String) (context : Nat) (right : Bool) (runs : List Run)
    (previous : Option (List String)) (used made i j : Nat) (skipped recent : List String) : Prop where
  inOld : linesFrom oldText used = skipped ++ (recent ++ linesFrom oldText i)
  inNew : linesFrom newText made = skipped ++ (recent ++ linesFrom newText j)
  oldPlace : used + skipped.length + recent.length = i
  newPlace : made + skipped.length + recent.length = j
  shown : runs ≠ [] → lastOf context (previous.getD []) = recent.map bare
  held : linesFrom oldText i = [] → linesFrom newText j ≠ [] → oldText ≠ "" → endsWithBreak oldText = true
  ended : runs = [] → right = true

/-- The entries of a hunk so far say what became of the lines since it began. -/
structure Gathered (oldText newText : String) (added : Bool) (used made i j : Nat) (skipped : List String)
    (entries : List Entry) : Prop where
  inOld : linesFrom oldText used = skipped ++ (oldSide entries ++ linesFrom oldText i)
  inNew : linesFrom newText made = skipped ++ (newSide entries ++ linesFrom newText j)
  oldPlace : used + skipped.length + (oldSide entries).length = i
  newPlace : made + skipped.length + (newSide entries).length = j
  adds : (∃ entry ∈ entries, entry.change = .add) ↔ added = true

/-- How the entries of a hunk stand that has reached the end of an old text without a last break. -/
def Ordered (right : Bool) (entries : List Entry) : Prop :=
  if right then Tidy entries else Untidy entries

/-- A hunk that has begun. If it is the last and the new text has no last break, it ends with an insertion. -/
structure Collecting (oldText newText : String) (runs : List Run) (added right : Bool) (used made i j : Nat)
    (skipped : List String) (entries : List Entry) : Prop
    extends Gathered oldText newText added used made i j skipped entries where
  nonempty : entries ≠ []
  ordered : linesFrom oldText i = [] → oldText ≠ "" → endsWithBreak oldText = false → Ordered right entries
  ending : runs = [] → newText ≠ "" → endsWithBreak newText = false →
    ∃ front last, entries = front ++ [last] ∧ last.change = .add

/-- What is known of the runs that are left: they lead to the ends, and they tell whether the marks will stand
right as long as there are old lines. -/
structure Remaining (oldText newText : String) (context : Nat) (runs : List Run) (added right : Bool)
    (i j : Nat) : Prop where
  leads : Leads (linesOf oldText).toList (linesOf newText).toList runs i j
  whole : oldText = "" ∨ endsWithBreak oldText = true →
    (right = false ↔ newText = "" ∧ endsWithBreak oldText = true)
  order : oldText ≠ "" → endsWithBreak oldText = false → linesFrom oldText i ≠ [] →
    right = !removesAfterAdding context runs added
  final : newText ≠ "" → endsWithBreak newText = false → ∀ last ∈ runs.getLast?, last.change ≠ .remove

/-- The hunk that has begun, as it is collected. -/
def gatheredHunk (used made : Nat) (skipped : List String) (entries : List Entry) : OpenHunk where
  oldStart := used + skipped.length + 1
  newStart := made + skipped.length + 1
  lines := plain entries

/-! ## Runs that are left -/

/-- A last run stays the last one when a run is put before it. -/
theorem last_run_cons {run last : Run} (isLast : last ∈ runs.getLast?) : last ∈ (run :: runs).getLast? := by
  rw [List.getLast?_cons, Option.mem_def.mp isLast]
  rfl

/-- Insertions at the end are no removals. -/
theorem removes_none (all : runs.all (·.change = .add) = true) (context : Nat) (added : Bool) :
    removesAfterAdding context runs added = false := by
  induction runs generalizing added with
  | nil => rfl
  | cons run runs inductionHypothesis =>
    rw [List.all_cons, Bool.and_eq_true] at all
    obtain ⟨isAdd, others⟩ := all
    rw [removesAfterAdding, of_decide_eq_true isAdd]
    exact inductionHypothesis others true

/-- When a run of kept lines comes next, both sides go on with the same lines, and the rest of the script
is a script for what comes after them. -/
theorem Remaining.keep {count : Nat}
    (remaining : Remaining oldText newText context (⟨.keep, count⟩ :: runs) added right i j) :
    ∃ kept, (linesFrom newText j).take count = kept ∧ kept.length = count ∧ kept ≠ [] ∧
      linesFrom oldText i = kept ++ linesFrom oldText (i + count) ∧
      linesFrom newText j = kept ++ linesFrom newText (j + count) ∧ (runs = [] → right = true) ∧
      Remaining oldText newText context runs (added && count ≤ context * 2) right (i + count) (j + count) := by
  cases remaining.leads with
  | keep some same inOld inNew rest =>
    obtain ⟨length, whole⟩ := next_lines inNew
    have oldWhole := (next_lines inOld).2
    rw [linesFrom, same, ← linesFrom, ← linesFrom] at oldWhole
    have nonempty := some_lines some inNew
    have more : linesFrom oldText i ≠ [] := oldWhole ▸ List.append_ne_nil_of_left_ne_nil nonempty _
    refine ⟨_, rfl, length, nonempty, oldWhole, whole, fun isLast => ?_, rest, remaining.whole,
      fun oldSome ends _ => remaining.order oldSome ends more,
      fun newSome ends last isLast => remaining.final newSome ends last (last_run_cons isLast)⟩
    subst isLast
    by_cases known : oldText = "" ∨ endsWithBreak oldText = true
    · refine eq_true_of_ne_false fun wrong => ?_
      obtain ⟨rfl, _⟩ := (remaining.whole known).mp wrong
      exact nonempty (by rw [linesFrom, lines_eq_nil_iff.mpr rfl, List.drop_nil, List.take_nil])
    · obtain ⟨oldSome, ends⟩ := not_or.mp known
      exact remaining.order oldSome (eq_false_of_ne_true ends) more

/-- What the test comes to at a removal, by its definition. -/
theorem removes_after_adding_remove (context count : Nat) (runs : List Run) (added : Bool) :
    removesAfterAdding context (⟨.remove, count⟩ :: runs) added =
      (added && runs.all (·.change = .add) || removesAfterAdding context runs added) :=
  rfl

/-- When a run of removed lines comes next, the old side goes on with them. If they are the last of an
old text without a break at its end, the mark stands right exactly if nothing was added before. -/
theorem Remaining.remove {count : Nat}
    (remaining : Remaining oldText newText context (⟨.remove, count⟩ :: runs) added right i j) :
    ∃ removed, (linesFrom oldText i).take count = removed ∧ removed.length = count ∧ removed ≠ [] ∧
      linesFrom oldText i = removed ++ linesFrom oldText (i + count) ∧
      (linesFrom oldText (i + count) = [] → oldText ≠ "" → endsWithBreak oldText = false → right = !added) ∧
      (runs = [] → newText ≠ "" → endsWithBreak newText = true) ∧
      Remaining oldText newText context runs added right (i + count) j := by
  cases remaining.leads with
  | remove some inOld rest =>
    obtain ⟨length, whole⟩ := next_lines inOld
    have nonempty := some_lines some inOld
    have more : linesFrom oldText i ≠ [] := whole ▸ List.append_ne_nil_of_left_ne_nil nonempty _
    refine ⟨_, rfl, length, nonempty, whole, fun oldEnd oldSome ends => ?_, fun isLast newSome => ?_, rest,
      remaining.whole, fun oldSome ends oldMore => ?_,
      fun newSome ends last isLast => remaining.final newSome ends last (last_run_cons isLast)⟩
    · have all := rest.all_add_iff.mpr (lines_from_eq_nil oldEnd inOld)
      rw [remaining.order oldSome ends more, removes_after_adding_remove, all, removes_none all, Bool.and_true,
        Bool.or_false]
    · subst isLast
      refine eq_true_of_ne_false fun ends => ?_
      exact remaining.final newSome ends _ rfl rfl
    · have notAll : runs.all (·.change = .add) = false := by
        refine eq_false_of_ne_true fun all => oldMore ?_
        rw [rest.all_add_iff.mp all, lines_from_end]
      rw [remaining.order oldSome ends more, removes_after_adding_remove, notAll, Bool.and_false, Bool.false_or]

/-- When a run of added lines comes next, the new side goes on with them, and from here on something was
added. -/
theorem Remaining.add {count : Nat}
    (remaining : Remaining oldText newText context (⟨.add, count⟩ :: runs) added right i j) :
    ∃ inserted, (linesFrom newText j).take count = inserted ∧ inserted.length = count ∧ inserted ≠ [] ∧
      linesFrom newText j = inserted ++ linesFrom newText (j + count) ∧
      Remaining oldText newText context runs true right i (j + count) := by
  cases remaining.leads with
  | add some inNew rest =>
    obtain ⟨length, whole⟩ := next_lines inNew
    have nonempty := some_lines some inNew
    exact ⟨_, rfl, length, nonempty, whole, rest, remaining.whole, remaining.order,
      fun newSome ends last isLast => remaining.final newSome ends last (last_run_cons isLast)⟩

/-- After a hunk is closed, there is no insertion in it. -/
theorem Remaining.closed (remaining : Remaining oldText newText context runs
      (added && kept.length ≤ context * 2) right i j) (long : runs = [] ∨ context * 2 < kept.length) :
    Remaining oldText newText context runs false right i j := by
  rcases long with rfl | longer
  · refine ⟨remaining.leads, remaining.whole, fun _ _ more => ?_, remaining.final⟩
    rw [remaining.leads.ended.1, lines_from_end] at more
    exact absurd rfl more
  · rwa [decide_eq_false (Nat.not_le_of_lt longer), Bool.and_false] at remaining

/-- A script to a text without a last break does not end with a removal: before it a line would be kept that
ends the new text, but not the old one. -/
theorem final_run (leads : Leads (linesOf oldText).toList (linesOf newText).toList runs 0 0)
    (settled : Settled runs) (newSome : newText ≠ "") (unbroken : endsWithBreak newText = false) :
    ∀ last ∈ runs.getLast?, last.change ≠ .remove := by
  intro last isLast removes
  obtain ⟨earlier, rfl⟩ := List.getLast?_eq_some_iff.mp isLast
  obtain ⟨change, count⟩ := last
  subst removes
  rcases settled earlier _ rfl rfl with rfl | ⟨front, ⟨change, keptCount⟩, rfl, rfl⟩
  · cases leads with
    | remove some inOld rest =>
      exact newSome (lines_eq_nil_iff.mp (List.length_eq_zero_iff.mp rest.ended.2.symm))
  · rw [List.append_assoc] at leads
    obtain ⟨i, j, last⟩ := leads.split
    cases last with
    | keep some same inOld inNew rest =>
      cases rest with
      | remove more inside ends =>
        have newWhole := (next_lines inNew).2
        have oldWhole := (next_lines inOld).2
        rw [linesFrom, same, ← linesFrom, ← linesFrom] at oldWhole
        rw [kept_broken (some_lines some inNew) newWhole oldWhole (List.drop_eq_nil_iff.mpr ends.ended.2.ge)
          (mt List.drop_eq_nil_iff.mp (by omega))] at unbroken
        cases unbroken

/-! ## Steps over a run -/

/-- The last lines of a run without their breaks are those of the run, without breaks. -/
theorem last_of_map (count : Nat) : lastOf count (kept.map bare) = (lastOf count kept).map bare := by
  rw [lastOf, lastOf, List.length_map, List.map_drop]

/-- Between hunks, a run of kept lines moves both sides on: the lines that are recent now are the last of
it, and those before them are skipped for good. -/
theorem Between.keep (between : Between oldText newText context right (⟨.keep, kept.length⟩ :: runs) previous
      used made i j skipped recent) (nonempty : kept ≠ []) (ended : runs = [] → right = true)
    (inOld : linesFrom oldText i = kept ++ linesFrom oldText (i + kept.length))
    (inNew : linesFrom newText j = kept ++ linesFrom newText (j + kept.length)) :
    Between oldText newText context right runs (some (kept.map bare)) used made (i + kept.length)
      (j + kept.length) (skipped ++ recent ++ kept.take (kept.length - context)) (lastOf context kept) := by
  have split : kept.take (kept.length - context) ++ lastOf context kept = kept := List.take_append_drop _ _
  have joined (rest : List String) :
      kept.take (kept.length - context) ++ (lastOf context kept ++ rest) = kept ++ rest := by
    rw [← List.append_assoc, split]
  have length := congrArg List.length split
  rw [List.length_append] at length
  have oldPlace := between.oldPlace
  have newPlace := between.newPlace
  refine ⟨?_, ?_, ?_, ?_, fun _ => last_of_map context,
    fun oldEnd newMore _ => kept_broken nonempty inOld inNew oldEnd newMore, ended⟩
  · rw [between.inOld, inOld]
    simp only [List.append_assoc, joined]
  · rw [between.inNew, inNew]
    simp only [List.append_assoc, joined]
  · simp only [List.length_append]
    omega
  · simp only [List.length_append]
    omega

/-- An entry for some change is of that change. -/
theorem change_of_mem {change : Change} {entry : Entry} {lines : List String}
    (isEntry : entry ∈ entriesOf change lines) : entry.change = change := by
  obtain ⟨_, _, rfl⟩ := List.mem_map.mp isEntry
  rfl

/-- The lines in front of a hunk are its first entries. -/
theorem Between.gathered
    (between : Between oldText newText context right runs previous used made i j skipped recent) :
    Gathered oldText newText false used made i j skipped (entriesOf .keep recent) := by
  refine ⟨?_, ?_, ?_, ?_, ?_, fun none => by cases none⟩
  · rw [(sides_keep _).1, between.inOld]
  · rw [(sides_keep _).2, between.inNew]
  · rw [(sides_keep _).1, between.oldPlace]
  · rw [(sides_keep _).2, between.newPlace]
  · rintro ⟨entry, isEntry, isAdd⟩
    rw [change_of_mem isEntry] at isAdd
    cases isAdd

/-- A hunk that is opened between hunks begins with the lines that are recent, as context. -/
theorem Between.opened
    (between : Between oldText newText context right runs previous used made i j skipped recent)
    (more : runs ≠ []) :
    opened context previous (i + 1) (j + 1) none = gatheredHunk used made skipped (entriesOf .keep recent) := by
  have oldPlace := between.oldPlace
  have newPlace := between.newPlace
  rw [Patch.opened, between.shown more, gatheredHunk, plain_entries]
  simp only [List.length_map, List.map_map, OpenHunk.mk.injEq]
  exact ⟨by omega, by omega, rfl⟩

/-- More entries say what became of the next lines. They come behind the entries that are there, and each
side grows by its own part of them. -/
theorem Gathered.append {more : List Entry} {after : Bool}
    (gathered : Gathered oldText newText added used made i j skipped entries)
    (inOld : linesFrom oldText i = oldSide more ++ linesFrom oldText oldNext)
    (inNew : linesFrom newText j = newSide more ++ linesFrom newText newNext)
    (oldPlace : i + (oldSide more).length = oldNext) (newPlace : j + (newSide more).length = newNext)
    (adds : after = true ↔ added = true ∨ ∃ entry ∈ more, entry.change = .add) :
    Gathered oldText newText after used made oldNext newNext skipped (entries ++ more) := by
  have oldBefore := gathered.oldPlace
  have newBefore := gathered.newPlace
  refine ⟨?_, ?_, ?_, ?_, ?_⟩
  · rw [gathered.inOld, inOld, old_side_append, List.append_assoc]
  · rw [gathered.inNew, inNew, new_side_append, List.append_assoc]
  · rw [old_side_append, List.length_append]
    omega
  · rw [new_side_append, List.length_append]
    omega
  · rw [adds, ← gathered.adds]
    simp only [List.mem_append, or_and_right, exists_or]

/-- Removed and kept lines add nothing, so what was added stays what it was. -/
theorem no_add {change : Change} (other : change ≠ .add) (lines : List String) (added : Bool) :
    added = true ↔ added = true ∨ ∃ entry ∈ entriesOf change lines, entry.change = .add := by
  refine ⟨.inl, fun either => either.resolve_right ?_⟩
  rintro ⟨entry, isEntry, isAdd⟩
  rw [change_of_mem isEntry] at isAdd
  exact other isAdd

/-- Kept lines within a hunk are gathered on both sides. -/
theorem Gathered.keep (gathered : Gathered oldText newText added used made i j skipped entries)
    (inOld : linesFrom oldText i = kept ++ linesFrom oldText oldNext)
    (inNew : linesFrom newText j = kept ++ linesFrom newText newNext)
    (oldPlace : i + kept.length = oldNext) (newPlace : j + kept.length = newNext) :
    Gathered oldText newText added used made oldNext newNext skipped (entries ++ entriesOf .keep kept) := by
  obtain ⟨oldKept, newKept⟩ := sides_keep kept
  exact gathered.append (oldKept.symm ▸ inOld) (newKept.symm ▸ inNew) (oldKept.symm ▸ oldPlace)
    (newKept.symm ▸ newPlace) (no_add (by decide) kept added)

/-- Lines that are kept inside of a hunk do not reach the end of an old text without a last break. A
change still comes after them, and so the new text has more lines if the old one has none. -/
theorem Collecting.keep (collecting : Collecting oldText newText (⟨.keep, kept.length⟩ :: runs) added right used
      made i j skipped entries) (nonempty : kept ≠ []) (more : runs ≠ [])
    (inOld : linesFrom oldText i = kept ++ linesFrom oldText (i + kept.length))
    (inNew : linesFrom newText j = kept ++ linesFrom newText (j + kept.length))
    (rest : Remaining oldText newText context runs added right (i + kept.length) (j + kept.length)) :
    Collecting oldText newText runs added right used made (i + kept.length) (j + kept.length) skipped
      (entries ++ entriesOf .keep kept) := by
  refine ⟨collecting.toGathered.keep inOld inNew rfl rfl, ?_, fun oldEnd _ unbroken => ?_,
    fun none => absurd none more⟩
  · exact List.append_ne_nil_of_left_ne_nil collecting.nonempty _
  · have newMore : linesFrom newText (j + kept.length) ≠ [] := by
      intro newEnd
      have within := rest.leads.within
      have leads := rest.leads
      rw [lines_from_eq_nil oldEnd within.1, lines_from_eq_nil newEnd within.2] at leads
      exact more leads.none_left
    rw [kept_broken nonempty inOld inNew oldEnd newMore] at unbroken
    cases unbroken

/-- Removed lines that reach the end of an old text without a last break come after an insertion if the mark
will stand wrong, and only then. -/
theorem Gathered.remove (gathered : Gathered oldText newText added used made i j skipped entries)
    (nonempty : changed ≠ []) (inOld : linesFrom oldText i = changed ++ linesFrom oldText (i + changed.length))
    (order : linesFrom oldText (i + changed.length) = [] → oldText ≠ "" → endsWithBreak oldText = false →
      right = !added)
    (final : runs = [] → newText ≠ "" → endsWithBreak newText = true) :
    Collecting oldText newText runs added right used made (i + changed.length) j skipped
      (entries ++ entriesOf .remove changed) := by
  obtain ⟨oldRemoved, newRemoved⟩ := sides_remove changed
  have some : entries ++ entriesOf .remove changed ≠ [] :=
    List.append_ne_nil_of_right_ne_nil _ fun none => nonempty (List.map_eq_nil_iff.mp none)
  have stillGathered : Gathered oldText newText added used made (i + changed.length) j skipped
      (entries ++ entriesOf .remove changed) :=
    gathered.append (oldRemoved.symm ▸ inOld) (newRemoved.symm ▸ rfl) (oldRemoved.symm ▸ rfl)
      (newRemoved.symm ▸ rfl) (no_add (by decide) changed added)
  refine ⟨stillGathered, some, fun oldEnd oldSome unbroken => ?_, fun isLast newSome ends => ?_⟩
  · rw [order oldEnd oldSome unbroken]
    cases added with
    | false =>
      refine ⟨entries ++ entriesOf .remove changed, [], (List.append_nil _).symm, some,
        fun entry isEntry isAdd => ?_⟩
      cases stillGathered.adds.mp ⟨entry, isEntry, isAdd⟩
    | true =>
      rcases List.eq_nil_or_concat changed with rfl | ⟨front, last, rfl⟩
      · exact absurd rfl nonempty
      · obtain ⟨entry, isEntry, isAdd⟩ := gathered.adds.mpr rfl
        refine ⟨entries ++ entriesOf .remove front, last, [], ?_, entry, List.mem_append_left _ isEntry, isAdd⟩
        rw [List.concat_eq_append, entriesOf, entriesOf, List.map_append, List.append_assoc]
        rfl
  · rw [final isLast newSome] at ends
    cases ends

/-- Inserted lines leave the old ones in their order. -/
theorem Ordered.add (ordered : Ordered right entries) (lines : List String) :
    Ordered right (entries ++ entriesOf .add lines) := by
  cases right with
  | true =>
    obtain ⟨front, inserted, rfl, nonempty, noAdd⟩ := ordered
    refine ⟨front, inserted ++ lines, ?_, nonempty, noAdd⟩
    rw [entriesOf, entriesOf, entriesOf, List.map_append, List.append_assoc]
  | false =>
    obtain ⟨front, removed, inserted, rfl, adds⟩ := ordered
    refine ⟨front, removed, inserted ++ lines, ?_, adds⟩
    rw [entriesOf, entriesOf, entriesOf, List.map_append, List.append_assoc, List.cons_append]

/-- Added lines within a hunk are gathered on the new side, and the marks of the hunk stay in order if
they were so for the old side. -/
theorem Gathered.add (gathered : Gathered oldText newText added used made i j skipped entries)
    (nonempty : changed ≠ []) (inNew : linesFrom newText j = changed ++ linesFrom newText (j + changed.length))
    (ordered : linesFrom oldText i = [] → linesFrom newText j ≠ [] → oldText ≠ "" →
      endsWithBreak oldText = false → Ordered right entries) :
    Collecting oldText newText runs true right used made i (j + changed.length) skipped
      (entries ++ entriesOf .add changed) := by
  obtain ⟨oldAdded, newAdded⟩ := sides_add changed
  obtain ⟨entry, isEntry⟩ := List.exists_mem_of_ne_nil (entriesOf .add changed)
    fun none => nonempty (List.map_eq_nil_iff.mp none)
  have some : entries ++ entriesOf .add changed ≠ [] :=
    List.append_ne_nil_of_right_ne_nil _ (List.ne_nil_of_mem isEntry)
  have stillGathered : Gathered oldText newText true used made i (j + changed.length) skipped
      (entries ++ entriesOf .add changed) :=
    gathered.append (oldAdded.symm ▸ rfl) (newAdded.symm ▸ inNew) (oldAdded.symm ▸ rfl) (newAdded.symm ▸ rfl)
      ⟨fun _ => .inr ⟨entry, isEntry, change_of_mem isEntry⟩, fun _ => rfl⟩
  refine ⟨stillGathered, some, fun oldEnd oldSome unbroken => ?_, fun _ _ _ => ?_⟩
  · have newMore : linesFrom newText j ≠ [] := inNew ▸ List.append_ne_nil_of_left_ne_nil nonempty _
    exact (ordered oldEnd newMore oldSome unbroken).add changed
  · rcases List.eq_nil_or_concat changed with rfl | ⟨front, last, rfl⟩
    · exact absurd rfl nonempty
    · refine ⟨entries ++ entriesOf .add front, ⟨.add, last⟩, ?_, rfl⟩
      rw [List.concat_eq_append, entriesOf, entriesOf, List.map_append, List.append_assoc]
      rfl

/-! ## Closing a hunk -/

/-- Before both ends all lines of a hunk have breaks. -/
theorem Gathered.broken (gathered : Gathered oldText newText added used made i j skipped entries)
    (oldMore : linesFrom oldText i ≠ []) (newMore : linesFrom newText j ≠ []) :
    ∀ entry ∈ entries, endsWithBreak entry.line = true := by
  intro entry isEntry
  have oldWhole := lines_whole gathered.inOld
  have newWhole := lines_whole gathered.inNew
  rw [← List.append_assoc, ← List.append_assoc] at oldWhole newWhole
  rcases mem_sides isEntry with isOld | isNew
  · exact broken_of_followed oldWhole oldMore _ (List.mem_append_right _ isOld)
  · exact broken_of_followed newWhole newMore _ (List.mem_append_right _ isNew)

/-- The rest of the lines after the shown ones stands between two hunks. Of these lines the last are kept
in mind as context for the next hunk, and the others are skipped. -/
theorem between_closed (nonempty : kept ≠ []) (long : runs = [] ∨ context * 2 < kept.length)
    (ended : runs = [] → right = true)
    (inOld : linesFrom oldText i = kept ++ linesFrom oldText (i + kept.length))
    (inNew : linesFrom newText j = kept ++ linesFrom newText (j + kept.length)) :
    ∃ skipped recent, Between oldText newText context right runs (some (kept.map bare))
      (i + min kept.length context) (j + min kept.length context) (i + kept.length) (j + kept.length) skipped
      recent := by
  have inside : min kept.length context ≤ kept.length := Nat.min_le_left _ _
  refine ⟨(kept.drop (min kept.length context)).take (kept.length - context - min kept.length context),
    (kept.drop (min kept.length context)).drop (kept.length - context - min kept.length context), ?_, ?_, ?_, ?_,
    fun more => ?_, fun oldEnd newMore _ => kept_broken nonempty inOld inNew oldEnd newMore, ended⟩
  · rw [← List.append_assoc, List.take_append_drop, (lines_shown inOld inside).1]
  · rw [← List.append_assoc, List.take_append_drop, (lines_shown inNew inside).1]
  · simp only [List.length_take, List.length_drop]
    omega
  · simp only [List.length_take, List.length_drop]
    omega
  · have longer := long.resolve_left more
    rw [List.drop_drop, show min kept.length context + (kept.length - context - min kept.length context) =
      kept.length - context by omega]
    exact last_of_map context

/-- A hunk that kept lines close is printed with its marks. In the last hunk the marks are put for lines
kept to the ends of both texts; in any other every line has a break, since more lines follow. -/
theorem Gathered.close_text (gathered : Gathered oldText newText added used made i j skipped entries)
    (leads : Leads (linesOf oldText).toList (linesOf newText).toList runs (i + kept.length) (j + kept.length))
    (nonempty : kept ≠ []) (long : runs = [] ∨ context * 2 < kept.length)
    (inOld : linesFrom oldText i = kept ++ linesFrom oldText (i + kept.length))
    (inNew : linesFrom newText j = kept ++ linesFrom newText (j + kept.length)) (oldCount : Nat) :
    (if runs = [] ∧ kept.length ≤ context then
        markEnd oldText newText kept.length oldCount
          (plain (entries ++ entriesOf .keep (kept.take (min kept.length context))))
      else plain (entries ++ entriesOf .keep (kept.take (min kept.length context)))) =
      (entries ++ entriesOf .keep (kept.take (min kept.length context))).flatMap Entry.text := by
  split
  · rename_i last
    obtain ⟨rfl, short⟩ := last
    have oldWhole := lines_whole gathered.inOld
    have newWhole := lines_whole gathered.inNew
    rw [inOld, leads.ended.1, lines_from_end, List.append_nil, ← List.append_assoc] at oldWhole
    rw [inNew, leads.ended.2, lines_from_end, List.append_nil, ← List.append_assoc] at newWhole
    rw [Nat.min_eq_left short, List.take_length]
    exact mark_end_keep nonempty oldWhole newWhole oldCount
  · rename_i notLast
    have some := List.length_pos_iff.mpr nonempty
    have before : min kept.length context < kept.length := by
      rcases long with rfl | longer
      · have := mt (And.intro rfl) notLast
        omega
      · omega
    obtain ⟨oldAfter, oldShown⟩ := lines_shown inOld (Nat.le_of_lt before)
    obtain ⟨newAfter, newShown⟩ := lines_shown inNew (Nat.le_of_lt before)
    have length : (kept.take (min kept.length context)).length = min kept.length context := by
      rw [List.length_take]
      omega
    have left : kept.drop (min kept.length context) ≠ [] := by
      rw [ne_eq, List.drop_eq_nil_iff]
      omega
    have closed := gathered.keep oldShown newShown (by rw [length]) (by rw [length])
    refine (text_of_broken (closed.broken ?_ ?_)).symm
    · rw [oldAfter]
      exact List.append_ne_nil_of_left_ne_nil left _
    · rw [newAfter]
      exact List.append_ne_nil_of_left_ne_nil left _

/-- From some places on, a script is printed as hunks that apply, or as ones that do not. -/
def Prints (oldText newText : String) (context : Nat) (right : Bool) (runs : List Run)
    (previous : Option (List String)) (current : Option OpenHunk) (used made i j : Nat) : Prop :=
  Yields oldText newText right
    (hunksFrom oldText newText context (blocks (linesOf oldText) (linesOf newText) runs i j) previous current
      (i + 1) (j + 1)) used made

/-- How a hunk is printed that reaches the ends with a change. The marks stand right unless everything is
removed from a text that ends with a break, or an insertion comes before the last removal of one that
does not. -/
theorem Collecting.last_text (collecting : Collecting oldText newText [] added right used made
      (linesOf oldText).toList.length (linesOf newText).toList.length skipped entries)
    (whole : oldText = "" ∨ endsWithBreak oldText = true →
      (right = false ↔ newText = "" ∧ endsWithBreak oldText = true)) :
    ∃ others, markEnd oldText newText 0 (oldSide entries).length (plain entries) = others.flatMap Entry.text ∧
      if right then others = entries else Misread entries others := by
  have oldWhole := lines_whole collecting.inOld
  have newWhole := lines_whole collecting.inNew
  rw [lines_from_end, List.append_nil, ← List.append_assoc] at oldWhole newWhole
  have ordered := collecting.ordered (lines_from_end oldText)
  have ending := collecting.ending rfl
  cases right with
  | true =>
    have emptied : newText = "" → endsWithBreak oldText = false := by
      intro isEmpty
      refine eq_false_of_ne_true fun ends => ?_
      cases (whole (.inr ends)).mpr ⟨isEmpty, ends⟩
    exact ⟨entries, mark_end_change oldWhole newWhole collecting.nonempty emptied ordered ending, rfl⟩
  | false =>
    by_cases known : oldText = "" ∨ endsWithBreak oldText = true
    · obtain ⟨rfl, ends⟩ := (whole known).mp rfl
      have noNew : newSide entries = [] := (List.append_eq_nil_iff.mp (newWhole.symm.trans rfl)).2
      exact mark_end_emptied oldWhole noNew collecting.nonempty ends
    · obtain ⟨oldSome, ends⟩ := not_or.mp known
      have unbroken := eq_false_of_ne_true ends
      have untidy : Untidy entries := ordered oldSome unbroken
      refine mark_end_untidy untidy oldWhole newWhole unbroken (ending ?_)
      rintro rfl
      obtain ⟨front, removed, inserted, rfl, entry, isEntry, isAdd⟩ := untidy
      have isNew : entry.line ∈ newSide (front ++ ⟨.remove, removed⟩ :: entriesOf .add inserted) :=
        mem_new_side (List.mem_append_left _ isEntry) isAdd
      rw [(List.append_eq_nil_iff.mp (newWhole.symm.trans rfl)).2] at isNew
      cases isNew

/-- At the ends of both texts a hunk is closed with its marks. The sides of the hunk are the lines that
it covers in both texts, so that it yields the new ones of the old ones when its marks stand right, and
is refused when they do not. -/
theorem Collecting.done (collecting : Collecting oldText newText [] added right used made
      (linesOf oldText).toList.length (linesOf newText).toList.length skipped entries)
    (whole : oldText = "" ∨ endsWithBreak oldText = true →
      (right = false ↔ newText = "" ∧ endsWithBreak oldText = true)) :
    Prints oldText newText context right [] previous (some (gatheredHunk used made skipped entries)) used made
      (linesOf oldText).toList.length (linesOf newText).toList.length := by
  have oldPlace := collecting.oldPlace
  have newPlace := collecting.newPlace
  have oldCount : (linesOf oldText).toList.length + 1 - (used + skipped.length + 1) =
      (oldSide entries).length := by
    omega
  have newCount : (linesOf newText).toList.length + 1 - (made + skipped.length + 1) =
      (newSide entries).length := by
    omega
  obtain ⟨others, text, isRight⟩ := collecting.last_text whole
  simp only [Prints, blocks, hunksFrom, gatheredHunk, oldCount, newCount, text]
  cases right with
  | true =>
    subst isRight
    have noMore : Yields oldText newText true [] (linesOf oldText).toList.length
        (linesOf newText).toList.length :=
      .nil (by rw [lines_from_end, lines_from_end])
    exact noMore.cons collecting.inOld collecting.inNew oldPlace newPlace
  | false =>
    have inOld := collecting.inOld
    rw [lines_from_end, List.append_nil] at inOld
    have misread : Misread entries others := isRight
    rw [← old_side_length others misread.alike, ← new_side_length others misread.alike]
    exact .misread misread inOld

/-! ## The whole patch -/

/-- There is a block for each run, so there are none when there are no runs. -/
theorem blocks_eq_nil_iff {old new : Array String} : blocks old new runs i j = [] ↔ runs = [] := by
  cases runs with
  | nil => exact ⟨fun _ => rfl, fun _ => rfl⟩
  | cons run runs =>
    obtain ⟨change, count⟩ := run
    cases change <;> simp [blocks]

/-- Writing changed lines into a hunk is gathering an entry for each of them. -/
theorem gathered_hunk_append (change : Change) (changed : List String) :
    { gatheredHunk used made skipped entries with
      lines := (gatheredHunk used made skipped entries).lines ++ (changed.map bare).map (change.sign ++ ·) } =
      gatheredHunk used made skipped (entries ++ entriesOf change changed) := by
  simp only [gatheredHunk, plain_append, plain_entries, List.map_map]
  rfl

/-- Where a run of lines ends, counted from one as hunks count. -/
theorem line_after (place : Nat) (lines : List String) :
    place + 1 + (lines.map bare).length = place + lines.length + 1 := by
  rw [List.length_map]
  omega

/-- A removal is printed right when what comes after it is: its lines are gathered in the hunk. The
numbers of the old lines go on and those of the new lines stay. -/
theorem prints_remove {current : Option OpenHunk}
    (isHunk : opened context previous (i + 1) (j + 1) current = gatheredHunk used made skipped entries)
    (isChanged : (linesFrom oldText i).take changed.length = changed)
    (rest : Prints oldText newText context right runs (some (changed.map bare))
      (some (gatheredHunk used made skipped (entries ++ entriesOf .remove changed))) used made
      (i + changed.length) j) :
    Prints oldText newText context right (⟨.remove, changed.length⟩ :: runs) previous current used made i j := by
  rw [linesFrom] at isChanged
  simp only [Prints, blocks, isChanged]
  rw [hunks_change (by decide), isHunk, gathered_hunk_append, if_neg (by decide), if_neg (by decide),
    line_after]
  exact rest

/-- The same of an addition, which moves the new side on. -/
theorem prints_add {current : Option OpenHunk}
    (isHunk : opened context previous (i + 1) (j + 1) current = gatheredHunk used made skipped entries)
    (isChanged : (linesFrom newText j).take changed.length = changed)
    (rest : Prints oldText newText context right runs (some (changed.map bare))
      (some (gatheredHunk used made skipped (entries ++ entriesOf .add changed))) used made
      i (j + changed.length)) :
    Prints oldText newText context right (⟨.add, changed.length⟩ :: runs) previous current used made i j := by
  rw [linesFrom] at isChanged
  simp only [Prints, blocks, isChanged]
  rw [hunks_change (by decide), isHunk, gathered_hunk_append, if_pos rfl, if_pos rfl, line_after]
  exact rest

/-- The same of kept lines between hunks, of which nothing is printed. -/
theorem prints_keep_between (isKept : (linesFrom newText j).take kept.length = kept)
    (rest : Prints oldText newText context right runs (some (kept.map bare)) none used made (i + kept.length)
      (j + kept.length)) :
    Prints oldText newText context right (⟨.keep, kept.length⟩ :: runs) previous none used made i j := by
  rw [linesFrom] at isKept
  simp only [Prints, blocks, isKept]
  rw [hunks_keep_between, line_after, line_after]
  exact rest

/-- The same of a few kept lines within a hunk with a change after them, which stay in it. There are too
few of them for the hunk to be closed between the two changes. -/
theorem prints_keep_inside (isKept : (linesFrom newText j).take kept.length = kept)
    (short : kept.length ≤ context * 2) (more : runs ≠ [])
    (rest : Prints oldText newText context right runs (some (kept.map bare))
      (some (gatheredHunk used made skipped (entries ++ entriesOf .keep kept))) used made (i + kept.length)
      (j + kept.length)) :
    Prints oldText newText context right (⟨.keep, kept.length⟩ :: runs) previous
      (some (gatheredHunk used made skipped entries)) used made i j := by
  rw [linesFrom] at isKept
  simp only [Prints, blocks, isKept]
  rw [hunks_keep_inside _ _ _ (by rwa [List.length_map]) (mt blocks_eq_nil_iff.mp more), gathered_hunk_append,
    line_after, line_after]
  exact rest

/-- The same of kept lines that close a hunk. The hunk applies to what both sides are there, and what
comes after it is printed from where its context ends. -/
theorem prints_keep_close (gathered : Gathered oldText newText added used made i j skipped entries)
    (leads : Leads (linesOf oldText).toList (linesOf newText).toList runs (i + kept.length) (j + kept.length))
    (isKept : (linesFrom newText j).take kept.length = kept)
    (nonempty : kept ≠ []) (long : runs = [] ∨ context * 2 < kept.length)
    (inOld : linesFrom oldText i = kept ++ linesFrom oldText (i + kept.length))
    (inNew : linesFrom newText j = kept ++ linesFrom newText (j + kept.length))
    (rest : Prints oldText newText context right runs (some (kept.map bare)) none (i + min kept.length context)
      (j + min kept.length context) (i + kept.length) (j + kept.length)) :
    Prints oldText newText context right (⟨.keep, kept.length⟩ :: runs) previous
      (some (gatheredHunk used made skipped entries)) used made i j := by
  have inside : min kept.length context ≤ kept.length := Nat.min_le_left _ _
  have length : (kept.take (min kept.length context)).length = min kept.length context := by
    rw [List.length_take]
    omega
  have whole := gathered.keep (lines_shown inOld inside).2 (lines_shown inNew inside).2 (by rw [length])
    (by rw [length])
  have closed := Yields.cons rest whole.inOld whole.inNew whole.oldPlace whole.newPlace
  have oldCount : i + 1 - (used + skipped.length + 1) + min kept.length context =
      (oldSide (entries ++ entriesOf .keep (kept.take (min kept.length context)))).length := by
    have before := gathered.oldPlace
    have after := whole.oldPlace
    omega
  have newCount : j + 1 - (made + skipped.length + 1) + min kept.length context =
      (newSide (entries ++ entriesOf .keep (kept.take (min kept.length context)))).length := by
    have before := gathered.newPlace
    have after := whole.newPlace
    omega
  have shown : plain entries ++ ((kept.map bare).take (min kept.length context)).map (Change.keep.sign ++ ·) =
      plain (entries ++ entriesOf .keep (kept.take (min kept.length context))) := by
    rw [plain_append, plain_entries, ← List.map_take, List.map_map]
    rfl
  rw [hunkOf, ← gathered.close_text leads nonempty long inOld inNew _, ← oldCount, ← newCount] at closed
  rw [linesFrom] at isKept
  simp only [Prints, blocks, isKept]
  rw [hunks_keep_close _ _ _ (by rwa [List.length_map, blocks_eq_nil_iff]), line_after, line_after]
  simp only [gatheredHunk, List.length_map, blocks_eq_nil_iff, shown]
  exact closed

/-- The runs that are left are printed as they should be, between two hunks as well as inside one. The
induction is on the runs, for both states at once, since a change opens a hunk and enough kept lines
close it. -/
theorem Remaining.prints (remaining : Remaining oldText newText context runs added right i j) :
    (∀ previous used made skipped recent, added = false →
      Between oldText newText context right runs previous used made i j skipped recent →
        Prints oldText newText context right runs previous none used made i j) ∧
    ∀ previous used made skipped entries,
      Collecting oldText newText runs added right used made i j skipped entries →
        Prints oldText newText context right runs previous (some (gatheredHunk used made skipped entries))
          used made i j := by
  induction runs generalizing added i j with
  | nil =>
    obtain ⟨rfl, rfl⟩ := remaining.leads.ended
    refine ⟨fun previous used made skipped recent _ between => ?_,
      fun previous used made skipped entries collecting => collecting.done remaining.whole⟩
    rw [between.ended rfl]
    refine .nil ?_
    rw [between.inOld, between.inNew, lines_from_end, lines_from_end]
  | cons run runs inductionHypothesis =>
    obtain ⟨change, count⟩ := run
    cases change with
    | keep =>
      obtain ⟨kept, isKept, rfl, nonempty, inOld, inNew, ended, rest⟩ := remaining.keep
      constructor
      · intro previous used made skipped recent noAdd before
        rw [noAdd, Bool.false_and] at rest
        exact prints_keep_between isKept
          ((inductionHypothesis rest).1 _ _ _ _ _ rfl (before.keep nonempty ended inOld inNew))
      · intro previous used made skipped entries before
        by_cases inside : kept.length ≤ context * 2 ∧ runs ≠ []
        · rw [decide_eq_true inside.1, Bool.and_true] at rest
          exact prints_keep_inside isKept inside.1 inside.2
            ((inductionHypothesis rest).2 _ _ _ _ _ (before.keep nonempty inside.2 inOld inNew rest))
        · have long : runs = [] ∨ context * 2 < kept.length := by
            rcases not_and_or.mp inside with long | last
            · exact .inr (Nat.lt_of_not_le long)
            · exact .inl (not_not.mp last)
          obtain ⟨_, _, after⟩ := between_closed nonempty long ended inOld inNew
          exact prints_keep_close before.toGathered rest.leads isKept nonempty long inOld inNew
            ((inductionHypothesis (rest.closed long)).1 _ _ _ _ _ rfl after)
    | remove =>
      obtain ⟨removed, isRemoved, rfl, nonempty, inOld, order, final, rest⟩ := remaining.remove
      have next := (inductionHypothesis rest).2
      constructor
      · intro previous used made skipped recent noAdd before
        subst noAdd
        exact prints_remove (before.opened (List.cons_ne_nil _ _)) isRemoved
          (next _ _ _ _ _ (before.gathered.remove nonempty inOld order final))
      · intro previous used made skipped entries before
        exact prints_remove rfl isRemoved (next _ _ _ _ _ (before.toGathered.remove nonempty inOld order final))
    | add =>
      obtain ⟨inserted, isInserted, rfl, nonempty, inNew, rest⟩ := remaining.add
      have next := (inductionHypothesis rest).2
      constructor
      · intro previous used made skipped recent _ before
        refine prints_add (before.opened (List.cons_ne_nil _ _)) isInserted
          (next _ _ _ _ _ (before.gathered.add nonempty inNew fun oldEnd newMore oldSome unbroken => ?_))
        rw [before.held oldEnd newMore oldSome] at unbroken
        cases unbroken
      · intro previous used made skipped entries before
        exact prints_add rfl isInserted
          (next _ _ _ _ _ (before.toGathered.add nonempty inNew fun oldEnd _ => before.ordered oldEnd))

/-- At the start all of both texts is left, and the whole script says whether a mark will stand wrong.
What is known of the script is that it leads from the one text to the other, that removals come first in
it, and whether one still comes after an insertion. -/
theorem remaining_start (different : oldText ≠ newText)
    (verdict : right = false ↔ Misprinted oldText newText context) :
    Remaining oldText newText context (script (linesOf oldText) (linesOf newText)) false right 0 0 := by
  obtain ⟨leads, settled⟩ := script_leads (lines_ne different)
  refine ⟨leads, fun whole => verdict.trans (or_iff_left ?_), fun oldSome ends _ => ?_, final_run leads settled⟩
  · rintro ⟨oldSome, ends, _⟩
    rcases whole with isEmpty | broken
    · exact oldSome isEmpty
    · rw [ends] at broken
      cases broken
  · have emptied : ¬(newText = "" ∧ endsWithBreak oldText = true) := by
      rintro ⟨_, broken⟩
      rw [ends] at broken
      cases broken
    have misprinted : right = false ↔
        removesAfterAdding context (script (linesOf oldText) (linesOf newText)) false = true := by
      rw [verdict, Misprinted, or_iff_right emptied]
      exact ⟨fun wrong => wrong.2.2, fun removes => ⟨oldSome, ends, removes⟩⟩
    cases right with
    | true => exact (congrArg not (eq_false_of_ne_true fun removes => by cases misprinted.mpr removes)).symm
    | false => exact (congrArg not (misprinted.mp rfl)).symm

/-- A printed patch makes the new text of the old one, or does not apply where a mark stands wrong. The
patch is read back hunk by hunk, and the lines that the hunks yield are those of the new text. -/
theorem apply_unified {name : String} (oneLine : '\n' ∉ name.toList) (different : oldText ≠ newText)
    (verdict : right = false ↔ Misprinted oldText newText context) :
    apply (unified name oldText newText context) oldText = if right then some newText else none := by
  have remaining := remaining_start different verdict
  have start : Between oldText newText context right (script (linesOf oldText) (linesOf newText)) none 0 0 0 0
      [] [] := by
    refine ⟨rfl, rfl, rfl, rfl, fun _ => List.drop_nil, fun oldEnd _ oldSome => ?_, fun none => ?_⟩
    · exact absurd (lines_eq_nil_iff.mp oldEnd) oldSome
    · have leads := remaining.leads
      rw [none] at leads
      have oldNone := lines_eq_nil_iff.mp (List.length_eq_zero_iff.mp leads.ended.1.symm)
      have newNone := lines_eq_nil_iff.mp (List.length_eq_zero_iff.mp leads.ended.2.symm)
      exact absurd (oldNone.trans newNone.symm) different
  obtain ⟨parts, printed, inner, applies⟩ := remaining.prints.1 none 0 0 [] [] rfl start
  have read := read_patch oneLine parts inner
  rw [← printed] at read
  rw [apply, unified, hunks, ← namesText, read, Option.bind_some, ← lines_from_zero, applies]
  cases right with
  | true => exact congrArg some (join_lines newText)
  | false => rfl

end Codemod.Patch

namespace Codemod.Outcome

open Patch

/-- The difference that an outcome prints is a patch that makes the new text of the old one exactly
where no mark for a missing last break stands wrong. -/
theorem diff_applies_iff {outcome : Outcome} {name : String} (changed : outcome.changed = true)
    (different : outcome.oldText ≠ outcome.newText) (oneLine : '\n' ∉ name.toList) (context : Nat) :
    apply (outcome.diff name context) outcome.oldText = some outcome.newText ↔
      ¬Misprinted outcome.oldText outcome.newText context := by
  rw [diff, if_pos changed]
  by_cases misprinted : Misprinted outcome.oldText outcome.newText context
  · have wrong : false = false ↔ Misprinted outcome.oldText outcome.newText context := iff_of_true rfl misprinted
    rw [apply_unified oneLine different wrong, if_neg Bool.false_ne_true]
    exact iff_of_false (fun none => by cases none) (not_not_intro misprinted)
  · have right : true = false ↔ Misprinted outcome.oldText outcome.newText context :=
      iff_of_false (by decide) misprinted
    rw [apply_unified oneLine different right, if_pos rfl]
    exact iff_of_true rfl misprinted

/-- A changed last line of a text that does not end with a break, and one that gets a break. The script
of the two texts is computed; no removal comes after an insertion. -/
theorem diff_of_last_line_applies :
    apply (Outcome.diff ⟨"/f.ts", "a\nb", "a\nc\n", ["net-dial"], true, [], none⟩ "f.ts" 3) "a\nb" =
      some "a\nc\n" := by
  have tidy : removesAfterAdding 3 (script (linesOf "a\nb") (linesOf "a\nc\n")) false = false := by
    decide +kernel
  have marked : ¬Misprinted "a\nb" "a\nc\n" 3 := by
    rintro (⟨isEmpty, _⟩ | ⟨_, _, removes⟩)
    · exact absurd isEmpty (by decide)
    · rw [tidy] at removes
      cases removes
  exact (diff_applies_iff rfl (by decide) (by decide) 3).mpr marked

/-- A patch that changes a line and, close after it, the last one of a text without a last break does not
apply. -/
theorem diff_of_two_lines_fails :
    apply (Outcome.diff ⟨"/f.ts", "a\nk\nb", "x\nk\nb\n", ["net-dial"], true, [], none⟩ "f.ts" 3) "a\nk\nb" =
      none := by
  have mixed : removesAfterAdding 3 (script (linesOf "a\nk\nb") (linesOf "x\nk\nb\n")) false = true := by
    decide +kernel
  have misprinted : Misprinted "a\nk\nb" "x\nk\nb\n" 3 := .inr ⟨by decide, by decide, mixed⟩
  have wrong : false = false ↔ Misprinted "a\nk\nb" "x\nk\nb\n" 3 := iff_of_true rfl misprinted
  rw [diff, if_pos rfl, apply_unified (by decide) (by decide) wrong, if_neg Bool.false_ne_true]

end Codemod.Outcome
