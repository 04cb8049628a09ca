import Codemod.Proofs.Applying

/-!
# The marks of the last hunk

The entries of a hunk print its lines, and a line without a break is followed by the mark. In a last hunk
the marks are put otherwise: one at the end, and one where the old lines would end if they all came first.
Where the hunk ends with lines kept on both sides, and where its inserted lines come last, these are the
right places. If an insertion comes before the last removal, the mark for the old text stands before it, and
if everything is removed from a text that ends with a break, there is a mark too many. What is read then has
another old side than the hunk had.
-/
namespace Codemod.Patch

/-! ## Entries that print a run -/

/-- The entries that treat some lines alike. -/
def entriesOf (change : Change) (lines : List String) : List Entry :=
  lines.map (Entry.mk change)

variable {entries others : List Entry} {lines : List String}

/-- The old side of entries put together is the old sides put together. -/
theorem old_side_append : oldSide (entries ++ others) = oldSide entries ++ oldSide others := by
  rw [oldSide, List.filter_append, List.map_append]
  rfl

/-- The new side of entries put together is the new sides put together. -/
theorem new_side_append : newSide (entries ++ others) = newSide entries ++ newSide others := by
  rw [newSide, List.filter_append, List.map_append]
  rfl

/-- The lines of entries put together are the lines of the one and then of the other. -/
theorem plain_append : plain (entries ++ others) = plain entries ++ plain others :=
  List.map_append

/-- Kept lines stand on both sides. -/
theorem sides_keep (lines : List String) :
    oldSide (entriesOf .keep lines) = lines ∧ newSide (entriesOf .keep lines) = lines := by
  simp [oldSide, newSide, entriesOf, List.filter_map, Function.comp_def]

/-- Removed lines stand on the old side only. -/
theorem sides_remove (lines : List String) :
    oldSide (entriesOf .remove lines) = lines ∧ newSide (entriesOf .remove lines) = [] := by
  simp [oldSide, newSide, entriesOf, List.filter_map, Function.comp_def]

/-- Added lines stand on the new side only. -/
theorem sides_add (lines : List String) :
    oldSide (entriesOf .add lines) = [] ∧ newSide (entriesOf .add lines) = lines := by
  simp [oldSide, newSide, entriesOf, List.filter_map, Function.comp_def]

/-- Lines that are treated alike are printed with the same sign before each. -/
theorem plain_entries (change : Change) :
    plain (entriesOf change lines) = lines.map (change.sign ++ bare ·) := by
  rw [plain, entriesOf, List.map_map]
  rfl

/-- What an entry adds stands on the new side. -/
theorem mem_new_side {entry : Entry} (isEntry : entry ∈ entries) (added : entry.change = .add) :
    entry.line ∈ newSide entries := by
  refine List.mem_map_of_mem (List.mem_filter.mpr ⟨isEntry, ?_⟩)
  rw [added]
  rfl

/-- Each entry stands on one of the sides. -/
theorem mem_sides {entry : Entry} (isEntry : entry ∈ entries) :
    entry.line ∈ oldSide entries ∨ entry.line ∈ newSide entries := by
  by_cases added : entry.change = .add
  · exact .inr (mem_new_side isEntry added)
  · exact .inl (List.mem_map_of_mem (List.mem_filter.mpr ⟨isEntry, decide_eq_true added⟩))

/-- Entries whose lines have breaks print no mark. -/
theorem text_of_broken (broken : ∀ entry ∈ entries, endsWithBreak entry.line = true) :
    entries.flatMap Entry.text = plain entries := by
  induction entries with
  | nil => rfl
  | cons entry entries inductionHypothesis =>
    obtain ⟨here, others⟩ := List.forall_mem_cons.mp broken
    rw [List.flatMap_cons, inductionHypothesis others, Entry.text, if_pos here]
    rfl

/-- Entries of which only the last line has no break print the mark at the end. -/
theorem text_of_last {last : Entry} (broken : ∀ entry ∈ entries, endsWithBreak entry.line = true)
    (unbroken : endsWithBreak last.line = false) :
    (entries ++ [last]).flatMap Entry.text = plain (entries ++ [last]) ++ [noBreakMark] := by
  rw [List.flatMap_append, text_of_broken broken, List.flatMap_singleton, Entry.text,
    if_neg (unbroken ▸ Bool.false_ne_true), plain_append, List.append_assoc]
  rfl

/-! ## The marks of the last hunk -/

variable {oldText newText : String}

/-- All lines of a text that ends with a break have one. -/
theorem all_broken {text : String} (ends : endsWithBreak text = true) :
    ∀ line ∈ (linesOf text).toList, endsWithBreak line = true := by
  intro line isLine
  rcases List.eq_nil_or_concat (linesOf text).toList with none | ⟨front, last, whole⟩
  · rw [none] at isLine
    cases isLine
  · rw [List.concat_eq_append] at whole
    rw [whole] at isLine
    rcases List.mem_append.mp isLine with inFront | isLast
    · exact broken_of_followed whole (List.cons_ne_nil _ _) line inFront
    · rw [List.mem_singleton.mp isLast, ends_with_break_last whole, ends]

/-- Where nothing is added, the old side is all there is. -/
theorem old_side_of_no_add (none : ∀ entry ∈ entries, entry.change ≠ .add) :
    oldSide entries = entries.map (·.line) := by
  rw [oldSide, List.filter_eq_self.mpr]
  exact fun entry isEntry => decide_eq_true (none entry isEntry)

/-- Some entries of which only the last can stand at the end of the text. All lines but the last one of a
text end with a break, and the last one does if the text does. -/
theorem text_of_end {text : String} {before front : List String} {last : Entry}
    (whole : (linesOf text).toList = before ++ (front ++ [last.line]))
    (inFront : ∀ entry ∈ entries, entry.line ∈ front) :
    (entries ++ [last]).flatMap Entry.text =
      plain (entries ++ [last]) ++ if endsWithBreak text then [] else [noBreakMark] := by
  rw [← List.append_assoc] at whole
  have broken (entry : Entry) (isEntry : entry ∈ entries) : endsWithBreak entry.line = true :=
    broken_of_followed whole (List.cons_ne_nil _ _) _ (List.mem_append_right _ (inFront entry isEntry))
  have ends := ends_with_break_last whole
  cases atEnd : endsWithBreak text with
  | true =>
    rw [if_pos rfl, List.append_nil]
    refine text_of_broken fun entry isEntry => ?_
    rcases List.mem_append.mp isEntry with inFront | isLast
    · exact broken entry inFront
    · rw [List.mem_singleton.mp isLast, ends, atEnd]
  | false => exact text_of_last broken (ends.trans atEnd)

/-- After an old text without a last break, the mark stands where as many lines end as are old. The count
of old lines says where the mark is put, and a second mark closes the new text. -/
theorem mark_end_unbroken (before after : List String) (unbroken : endsWithBreak oldText = false)
    (some : oldText ≠ "") :
    markEnd oldText newText 0 before.length (before ++ after) =
      before ++ [noBreakMark] ++ (after ++ if after = [] ∨ endsWithBreak newText then [] else [noBreakMark]) := by
  have nonempty : oldText.isEmpty = false := by
    rwa [Bool.eq_false_iff, ne_eq, String.isEmpty_iff]
  cases after with
  | nil => simp [markEnd, unbroken]
  | cons line after =>
    cases ends : endsWithBreak newText with
    | true => simp [markEnd, unbroken, nonempty, ends]
    | false => simp [markEnd, unbroken, nonempty, ends]

/-- Inserted lines at the end of a text print the mark where it lacks a break. Only the last of them can
lack its break, since the others are followed by a line. -/
theorem text_of_added {text : String} {before added : List String}
    (whole : (linesOf text).toList = before ++ added) :
    (entriesOf .add added).flatMap Entry.text =
      plain (entriesOf .add added) ++ if added = [] ∨ endsWithBreak text then [] else [noBreakMark] := by
  rcases List.eq_nil_or_concat added with rfl | ⟨front, last, rfl⟩
  · rfl
  · rw [List.concat_eq_append] at whole ⊢
    have isLast : entriesOf .add (front ++ [last]) = entriesOf .add front ++ [⟨.add, last⟩] := List.map_append
    have inFront (entry : Entry) (isEntry : entry ∈ entriesOf .add front) : entry.line ∈ front := by
      obtain ⟨_, isLine, rfl⟩ := List.mem_map.mp isEntry
      exact isLine
    have printed : (entriesOf .add front ++ [Entry.mk .add last]).flatMap Entry.text =
        plain (entriesOf .add front ++ [Entry.mk .add last]) ++
          if endsWithBreak text then [] else [noBreakMark] :=
      text_of_end whole inFront
    rw [isLast, printed]
    simp

/-- Old lines, then inserted ones. -/
def Tidy (entries : List Entry) : Prop :=
  ∃ front added, entries = front ++ entriesOf .add added ∧ front ≠ [] ∧ ∀ entry ∈ front, entry.change ≠ .add

/-- In a last hunk of old lines and then inserted ones, the marks stand right. The old lines end before
the inserted ones begin, and the mark is put between the two. -/
theorem mark_end_tidy {before after : List String} (tidy : Tidy entries)
    (inOld : (linesOf oldText).toList = before ++ oldSide entries)
    (inNew : (linesOf newText).toList = after ++ newSide entries) (unbroken : endsWithBreak oldText = false) :
    markEnd oldText newText 0 (oldSide entries).length (plain entries) = entries.flatMap Entry.text := by
  obtain ⟨front, added, rfl, some, noAdd⟩ := tidy
  rcases List.eq_nil_or_concat front with rfl | ⟨front, last, rfl⟩
  · exact absurd rfl some
  rw [List.concat_eq_append] at noAdd inOld inNew ⊢
  rw [old_side_append, (sides_add _).1, List.append_nil, old_side_of_no_add noAdd] at inOld ⊢
  rw [new_side_append, (sides_add _).2, ← List.append_assoc] at inNew
  have nonempty : oldText ≠ "" := by
    rw [ne_eq, ← lines_eq_nil_iff, inOld]
    simp
  have count : ((front ++ [last]).map (·.line)).length = (plain (front ++ [last])).length := by
    rw [plain, List.length_map, List.length_map]
  rw [plain_append, count, mark_end_unbroken _ _ unbroken nonempty, List.flatMap_append, text_of_added inNew]
  rw [List.map_append] at inOld
  rw [text_of_end inOld fun entry isEntry => List.mem_map_of_mem isEntry, unbroken, if_neg Bool.false_ne_true]
  simp only [plain_entries, List.map_eq_nil_iff]

/-- After an old text that is empty or ends with a break, only a last new line can need the mark. No mark
is needed for the old text, and the one for the new text comes at the end. -/
theorem mark_end_whole {before : List String} (inOld : (linesOf oldText).toList = before ++ oldSide entries)
    (some : entries ≠ []) (whole : endsWithBreak oldText = true ∨ oldText = "") :
    markEnd oldText newText 0 (oldSide entries).length (plain entries) =
      plain entries ++ if endsWithBreak newText then [] else [noBreakMark] := by
  rcases whole with ends | isEmpty
  · cases newEnds : endsWithBreak newText with
    | true => simp [markEnd, ends, newEnds]
    | false => simp [markEnd, ends, newEnds]
  · have noOld : oldSide entries = [] := by
      rw [lines_eq_nil_iff.mpr isEmpty] at inOld
      exact (List.append_eq_nil_iff.mp inOld.symm).2
    have atLeast : 0 < (plain entries).length := by
      rw [plain, List.length_map]
      exact List.length_pos_iff.mpr some
    cases newEnds : endsWithBreak newText with
    | true => simp [markEnd, newEnds, noOld, atLeast, isEmpty]
    | false => simp [markEnd, newEnds, noOld, atLeast, isEmpty]

/-- The marks stand right in a last hunk that ends with a change. If the old text lacks its last break,
the mark for it stands where the old lines end, since no insertion comes before; else all old lines have
breaks, and the only mark is that of the last insertion. -/
theorem mark_end_change {before after : List String}
    (inOld : (linesOf oldText).toList = before ++ oldSide entries)
    (inNew : (linesOf newText).toList = after ++ newSide entries) (some : entries ≠ [])
    (emptied : newText = "" → endsWithBreak oldText = false)
    (tidy : oldText ≠ "" → endsWithBreak oldText = false → Tidy entries)
    (ending : newText ≠ "" → endsWithBreak newText = false →
      ∃ front last, entries = front ++ [last] ∧ last.change = .add) :
    markEnd oldText newText 0 (oldSide entries).length (plain entries) = entries.flatMap Entry.text := by
  by_cases unbroken : oldText ≠ "" ∧ endsWithBreak oldText = false
  · exact mark_end_tidy (tidy unbroken.1 unbroken.2) inOld inNew unbroken.2
  have whole : endsWithBreak oldText = true ∨ oldText = "" := by
    by_cases isEmpty : oldText = ""
    · exact .inr isEmpty
    · exact .inl (eq_true_of_ne_false fun ends => unbroken ⟨isEmpty, ends⟩)
  have oldBroken : ∀ line ∈ oldSide entries, endsWithBreak line = true := by
    intro line isLine
    have isOld : line ∈ (linesOf oldText).toList := inOld ▸ List.mem_append_right _ isLine
    rcases whole with ends | isEmpty
    · exact all_broken ends line isOld
    · rw [lines_eq_nil_iff.mpr isEmpty] at isOld
      cases isOld
  rw [mark_end_whole inOld some whole]
  cases ends : endsWithBreak newText with
  | true =>
    rw [if_pos rfl, List.append_nil, text_of_broken]
    intro entry isEntry
    rcases mem_sides isEntry with isOld | isNew
    · exact oldBroken _ isOld
    · exact all_broken ends _ (inNew ▸ List.mem_append_right _ isNew)
  | false =>
    have newSome : newText ≠ "" := by
      intro isEmpty
      obtain ⟨entry, isEntry⟩ := List.exists_mem_of_ne_nil entries some
      rcases mem_sides isEntry with isOld | isNew
      · have isIn : entry.line ∈ (linesOf oldText).toList := inOld ▸ List.mem_append_right _ isOld
        rcases whole with oldEnds | oldEmpty
        · rw [emptied isEmpty] at oldEnds
          cases oldEnds
        · rw [lines_eq_nil_iff.mpr oldEmpty] at isIn
          cases isIn
      · have isIn : entry.line ∈ (linesOf newText).toList := inNew ▸ List.mem_append_right _ isNew
        rw [lines_eq_nil_iff.mpr isEmpty] at isIn
        cases isIn
    obtain ⟨front, last, rfl, isAdd⟩ := ending newSome ends
    have isLast : newSide [last] = [last.line] := by simp [newSide, isAdd]
    rw [new_side_append, isLast, ← List.append_assoc] at inNew
    rw [text_of_last (fun entry isEntry => ?_) ((ends_with_break_last inNew).trans ends),
      if_neg Bool.false_ne_true]
    rcases mem_sides isEntry with isOld | isNew
    · rw [old_side_append] at oldBroken
      exact oldBroken _ (List.mem_append_left _ isOld)
    · exact broken_of_followed inNew (List.cons_ne_nil _ _) _ (List.mem_append_right _ isNew)

/-- The marks stand right in a last hunk that ends with lines kept to the ends of both texts. Both texts
end with the last of these lines, with a break or without one. -/
theorem mark_end_keep {before after lines : List String} (some : lines ≠ [])
    (inOld : (linesOf oldText).toList = before ++ (oldSide entries ++ lines))
    (inNew : (linesOf newText).toList = after ++ (newSide entries ++ lines)) (oldCount : Nat) :
    markEnd oldText newText lines.length oldCount (plain (entries ++ entriesOf .keep lines)) =
      (entries ++ entriesOf .keep lines).flatMap Entry.text := by
  rcases List.eq_nil_or_concat lines with rfl | ⟨front, last, rfl⟩
  · exact absurd rfl some
  rw [List.concat_eq_append] at inOld inNew ⊢
  have isLast : entries ++ entriesOf .keep (front ++ [last]) =
      entries ++ entriesOf .keep front ++ [⟨.keep, last⟩] := by
    rw [entriesOf, List.map_append, ← List.append_assoc]
    rfl
  rw [← List.append_assoc, ← List.append_assoc] at inOld inNew
  have oldEnds := ends_with_break_last inOld
  have newEnds := ends_with_break_last inNew
  have broken (entry : Entry) (isEntry : entry ∈ entries ++ entriesOf .keep front) :
      endsWithBreak entry.line = true := by
    rcases List.mem_append.mp isEntry with isEntry | isKept
    · rcases mem_sides isEntry with isOld | isNew
      · exact broken_of_followed inOld (List.cons_ne_nil _ _) _
          (List.mem_append_left _ (List.mem_append_right _ isOld))
      · exact broken_of_followed inNew (List.cons_ne_nil _ _) _
          (List.mem_append_left _ (List.mem_append_right _ isNew))
    · obtain ⟨line, isLine, rfl⟩ := List.mem_map.mp isKept
      exact broken_of_followed inOld (List.cons_ne_nil _ _) _ (List.mem_append_right _ isLine)
  rw [isLast]
  cases ends : endsWithBreak last with
  | true =>
    rw [ends] at oldEnds newEnds
    rw [text_of_broken]
    · simp [markEnd, ← oldEnds, ← newEnds]
    · intro entry isEntry
      rcases List.mem_append.mp isEntry with inFront | isLast
      · exact broken entry inFront
      · rw [List.mem_singleton.mp isLast, ends]
  | false =>
    rw [ends] at oldEnds newEnds
    have lastEnds : endsWithBreak (⟨.keep, last⟩ : Entry).line = false := ends
    rw [text_of_last broken lastEnds]
    simp [markEnd, ← oldEnds, ← newEnds]

/-! ## Marks that stand wrong -/

/-- Entries as other ones are read that print the same lines with other marks: they make other old lines. -/
structure Misread (entries others : List Entry) : Prop where
  alike : others.map (·.change) = entries.map (·.change)
  inner : ∀ entry ∈ others, '\n' ∉ (bare entry.line).toList
  differ : oldSide others ≠ oldSide entries

/-- How many lines are old depends on what is done to the lines, and not on what they say. -/
theorem old_side_length (others : List Entry) (alike : others.map (·.change) = entries.map (·.change)) :
    (oldSide others).length = (oldSide entries).length := by
  have count (entries : List Entry) :
      (oldSide entries).length = ((entries.map (·.change)).filter (· ≠ .add)).length := by
    rw [oldSide, List.length_map, List.filter_map, List.length_map]
    rfl
  rw [count, count, alike]

/-- How many lines are new depends on what is done to the lines, and not on what they say. -/
theorem new_side_length (others : List Entry) (alike : others.map (·.change) = entries.map (·.change)) :
    (newSide others).length = (newSide entries).length := by
  have count (entries : List Entry) :
      (newSide entries).length = ((entries.map (·.change)).filter (· ≠ .remove)).length := by
    rw [newSide, List.length_map, List.filter_map, List.length_map]
    rfl
  rw [count, count, alike]

/-- The line that is read when a mark follows, and the one that is read when none does. -/
theorem bare_unbroken {line : String} (inner : '\n' ∉ (bare line).toList) :
    endsWithBreak (bare line) = false := by
  rw [Bool.eq_false_iff, ne_eq, ends_with_break_iff]
  exact fun last => inner (List.mem_of_getLast? last)

/-- A line to which a break was added ends with one. -/
theorem restored_broken (line : String) : endsWithBreak (line ++ "\n") = true := by
  rw [ends_with_break_iff, String.toList_append]
  exact List.getLast?_concat

/-- Taking away the break that was added to a line gives the line. -/
theorem bare_restored (line : String) : bare (line ++ "\n") = line := by
  rw [← String.toList_inj]
  have whole := bare_of_broken (restored_broken line)
  rw [String.toList_append] at whole
  exact List.append_cancel_right whole

/-- An insertion somewhere before the last removal, and only insertions after it. -/
def Untidy (entries : List Entry) : Prop :=
  ∃ front removed added, entries = front ++ ⟨.remove, removed⟩ :: entriesOf .add added ∧
    ∃ entry ∈ front, entry.change = .add

/-- Entries of which the last is read without its break. -/
theorem text_of_cut {last : Entry} (broken : ∀ entry ∈ entries, endsWithBreak entry.line = true)
    (inner : '\n' ∉ (bare last.line).toList) :
    (entries ++ [Entry.mk last.change (bare last.line)]).flatMap Entry.text =
      plain (entries ++ [last]) ++ [noBreakMark] := by
  have same : plain (entries ++ [Entry.mk last.change (bare last.line)]) = plain (entries ++ [last]) := by
    simp [plain, bare_of_unbroken (bare_unbroken inner)]
  have unbroken : endsWithBreak (Entry.mk last.change (bare last.line)).line = false := bare_unbroken inner
  rw [text_of_last broken unbroken, same]

/-- When everything is removed from a text that ends with a break, the mark is one too many: it is put
for the new text, which is empty and has no last break, and read as that of the last removal. -/
theorem mark_end_emptied {before : List String} (inOld : (linesOf oldText).toList = before ++ oldSide entries)
    (inNew : newSide entries = []) (some : entries ≠ []) (ends : endsWithBreak oldText = true) :
    ∃ others, markEnd oldText "" 0 (oldSide entries).length (plain entries) = others.flatMap Entry.text ∧
      Misread entries others := by
  have isOld (entry : Entry) (isEntry : entry ∈ entries) : entry.line ∈ (linesOf oldText).toList := by
    rcases mem_sides isEntry with isOld | isNew
    · exact inOld ▸ List.mem_append_right _ isOld
    · rw [inNew] at isNew
      cases isNew
  rw [mark_end_whole inOld some (.inl ends)]
  rcases List.eq_nil_or_concat entries with rfl | ⟨front, last, rfl⟩
  · exact absurd rfl some
  rw [List.concat_eq_append] at inNew isOld ⊢
  obtain ⟨frontOld, lastOld⟩ := List.forall_mem_append.mp isOld
  have inner := bare_inner (lastOld last List.mem_cons_self)
  refine ⟨front ++ [⟨last.change, bare last.line⟩], ?_, ?_, ?_, ?_⟩
  · rw [text_of_cut (fun entry isEntry => all_broken ends _ (frontOld entry isEntry)) inner]
    rfl
  · simp
  · refine List.forall_mem_append.mpr ⟨fun entry isEntry => bare_inner (frontOld entry isEntry), ?_⟩
    rintro entry (_ | ⟨_, ⟨⟩⟩)
    rwa [bare_of_unbroken (bare_unbroken inner)]
  · rw [new_side_append] at inNew
    have removes : last.change = .remove := by
      have := (List.append_eq_nil_iff.mp inNew).2
      simpa [newSide] using this
    intro same
    have lines : last.line = bare last.line := by
      simpa [old_side_append, oldSide, removes] using same.symm
    have broken := all_broken ends _ (lastOld last List.mem_cons_self)
    rw [lines, bare_unbroken inner] at broken
    cases broken

/-- The sides of a hunk in which a removal comes right before the lines that are added at the end. -/
theorem sides_untidy (front : List Entry) (removed : String) (added : List String) :
    oldSide (front ++ ⟨.remove, removed⟩ :: entriesOf .add added) = oldSide front ++ [removed] ∧
      newSide (front ++ ⟨.remove, removed⟩ :: entriesOf .add added) = newSide front ++ added := by
  rw [← List.singleton_append, old_side_append, old_side_append, new_side_append, new_side_append,
    (sides_add _).1, (sides_add _).2]
  exact ⟨rfl, rfl⟩

/-- The mark for the old text stands among the entries before the last removal. An insertion in front
makes the entries more than the old lines, and so as many entries as there are old lines end before the
last removal. -/
theorem mark_inside {front : List Entry} (removed : String) (added : List String)
    (adds : ∃ entry ∈ front, entry.change = .add) :
    ∃ before last between, front = before ++ last :: between ∧
      (oldSide (front ++ ⟨.remove, removed⟩ :: entriesOf .add added)).length =
        (plain (before ++ [last])).length := by
  have fewer : (oldSide front).length < front.length := by
    rw [oldSide, List.length_map, List.length_filter_lt_length_iff_exists]
    simpa using adds
  refine ⟨front.take (oldSide front).length, front[(oldSide front).length],
    front.drop ((oldSide front).length + 1), ?_, ?_⟩
  · rw [← List.drop_eq_getElem_cons fewer, List.take_append_drop]
  · rw [(sides_untidy _ _ _).1, plain, List.length_map, List.length_append, List.length_append,
      List.length_take]
    have inside := Nat.le_of_lt fewer
    simp only [List.length_singleton]
    omega

/-- The last removal is read with a break when no mark follows it, and prints the same line. The line is
printed without its break either way, and the mark is what the break decides. -/
theorem text_of_restored {after added : List String} {between : List Entry} {removed : String}
    (broken : ∀ entry ∈ between, endsWithBreak entry.line = true) (unbroken : endsWithBreak removed = false)
    (inNew : (linesOf newText).toList = after ++ added) (ended : added = [] → endsWithBreak newText = true) :
    (between ++ Entry.mk .remove (removed ++ "\n") :: entriesOf .add added).flatMap Entry.text =
      plain (between ++ ⟨.remove, removed⟩ :: entriesOf .add added) ++
        if endsWithBreak newText then [] else [noBreakMark] := by
  have restored : (Entry.mk .remove (removed ++ "\n")).text = plain [⟨.remove, removed⟩] := by
    rw [Entry.text, if_pos (restored_broken removed), bare_restored, plain, List.map_singleton,
      bare_of_unbroken unbroken]
  have mark : (if added = [] ∨ endsWithBreak newText then [] else [noBreakMark]) =
      if endsWithBreak newText then [] else [noBreakMark] := by
    by_cases none : added = []
    · simp [ended none]
    · simp [none]
  rw [List.flatMap_append, List.flatMap_cons, text_of_broken broken, restored, text_of_added inNew, mark]
  simp [plain]

/-- With the mark before them, an entry loses its break and the last removal is given one. What is read
has the same entries, but the last removal now ends with a break, so that its old side is another one. -/
theorem misread_inside {start between : List Entry} {last : Entry} {removed : String} {added : List String}
    (inner : ∀ entry ∈ start ++ last :: between, '\n' ∉ (bare entry.line).toList)
    (unbroken : endsWithBreak removed = false) (removedInner : '\n' ∉ (bare removed).toList)
    (addedInner : ∀ line ∈ added, '\n' ∉ (bare line).toList) :
    Misread (start ++ last :: between ++ ⟨.remove, removed⟩ :: entriesOf .add added)
      (start ++ [⟨last.change, bare last.line⟩] ++ (between ++
        ⟨.remove, removed ++ "\n"⟩ :: entriesOf .add added)) where
  alike := by simp
  inner := by
    have lastInner := inner last (List.mem_append_right _ List.mem_cons_self)
    intro entry isEntry
    simp only [List.mem_append, List.mem_cons, List.not_mem_nil, or_false] at isEntry
    rcases isEntry with (isStart | rfl) | isBetween | rfl | isAdded
    · exact inner entry (List.mem_append_left _ isStart)
    · rwa [bare_of_unbroken (bare_unbroken lastInner)]
    · exact inner entry (List.mem_append_right _ (List.mem_cons_of_mem _ isBetween))
    · rwa [bare_restored, ← bare_of_unbroken unbroken]
    · obtain ⟨line, isLine, rfl⟩ := List.mem_map.mp isAdded
      exact addedInner line isLine
  differ := by
    intro same
    rw [← List.append_assoc, (sides_untidy _ _ _).1, (sides_untidy _ _ _).1] at same
    have lines : removed ++ "\n" = removed := List.head_eq_of_cons_eq (List.append_inj' same rfl).2
    rw [← lines, restored_broken] at unbroken
    cases unbroken

/-- When an insertion comes before the last removal, the mark for the old text stands before it: it is
put behind as many entries as there are old lines, and with an insertion among them these do not include
the removal. -/
theorem mark_end_untidy {before after : List String} (untidy : Untidy entries)
    (inOld : (linesOf oldText).toList = before ++ oldSide entries)
    (inNew : (linesOf newText).toList = after ++ newSide entries) (unbroken : endsWithBreak oldText = false)
    (ending : endsWithBreak newText = false → ∃ front last, entries = front ++ [last] ∧ last.change = .add) :
    ∃ others, markEnd oldText newText 0 (oldSide entries).length (plain entries) = others.flatMap Entry.text ∧
      Misread entries others := by
  obtain ⟨front, removed, added, rfl, adds⟩ := untidy
  rw [(sides_untidy _ _ _).1, ← List.append_assoc] at inOld
  rw [(sides_untidy _ _ _).2, ← List.append_assoc] at inNew
  have removedLast : endsWithBreak removed = false := (ends_with_break_last inOld).trans unbroken
  have oldSome : oldText ≠ "" := by
    rw [ne_eq, ← lines_eq_nil_iff, inOld]
    simp
  have insertedLast : added = [] → endsWithBreak newText = true := by
    rintro rfl
    refine eq_true_of_ne_false fun newUnbroken => ?_
    obtain ⟨_, last, same, isAdd⟩ := ending newUnbroken
    cases (List.append_inj' same rfl).2
    cases isAdd
  have frontBroken : ∀ entry ∈ front, endsWithBreak entry.line = true := by
    intro entry isEntry
    rcases mem_sides isEntry with isOld | isNew
    · exact broken_of_followed inOld (List.cons_ne_nil _ _) _ (List.mem_append_right _ isOld)
    · by_cases none : added = []
      · exact all_broken (insertedLast none) _ (inNew ▸ List.mem_append_left _ (List.mem_append_right _ isNew))
      · exact broken_of_followed inNew none _ (List.mem_append_right _ isNew)
  have inner (entry : Entry) (isEntry : entry ∈ front) : '\n' ∉ (bare entry.line).toList := by
    rcases mem_sides isEntry with isOld | isNew
    · exact bare_inner (inOld ▸ List.mem_append_left _ (List.mem_append_right _ isOld))
    · exact bare_inner (inNew ▸ List.mem_append_left _ (List.mem_append_right _ isNew))
  have removedInner := bare_inner (inOld ▸ List.mem_append_right _ List.mem_cons_self)
  have addedInner (line : String) (isLine : line ∈ added) : '\n' ∉ (bare line).toList :=
    bare_inner (inNew ▸ List.mem_append_right _ isLine)
  obtain ⟨start, last, between, rfl, count⟩ := mark_inside removed added adds
  obtain ⟨startBroken, restBroken⟩ := List.forall_mem_append.mp frontBroken
  have betweenBroken := (List.forall_mem_cons.mp restBroken).2
  have lastInner := inner last (List.mem_append_right _ List.mem_cons_self)
  refine ⟨_, ?_, misread_inside inner removedLast removedInner addedInner⟩
  have whole : plain (start ++ last :: between ++ ⟨.remove, removed⟩ :: entriesOf .add added) =
      plain (start ++ [last]) ++ plain (between ++ ⟨.remove, removed⟩ :: entriesOf .add added) := by
    rw [← plain_append]
    simp
  rw [whole, count, mark_end_unbroken _ _ unbroken oldSome, List.flatMap_append,
    text_of_cut startBroken lastInner, text_of_restored betweenBroken removedLast inNew insertedLast]
  simp [plain]

end Codemod.Patch
