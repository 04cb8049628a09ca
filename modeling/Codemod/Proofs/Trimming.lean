import Codemod.Text.Blank
import Mathlib.Data.List.DropRight

/-!
# Blanks at the ends of a text, and the pieces between marks

Trimming leaves out the blanks at both ends of a text and nothing else, so blanks added there make no
difference to it. Splitting takes a text apart at every mark: at each of them the pieces of what stands
before it end, and those of what stands after it begin.
-/
namespace Codemod.Text

/-- Only blanks are left out at the ends. -/
theorem trim_list_cases (chars : List Char) :
    ∃ before after, chars = before ++ trimList chars ++ after ∧
      (∀ c ∈ before, isBlank c = true) ∧ ∀ c ∈ after, isBlank c = true := by
  refine ⟨chars.takeWhile isBlank, ((chars.dropWhile isBlank).reverse.takeWhile isBlank).reverse, ?_,
    fun c within => List.mem_takeWhile_imp within,
    fun c within => List.mem_takeWhile_imp (List.mem_reverse.mp within)⟩
  rw [trimList, trimEndList, List.append_assoc, ← List.reverse_append, List.takeWhile_append_dropWhile,
    List.reverse_reverse, List.takeWhile_append_dropWhile]

/-- Characters without a blank at either end. -/
structure Trimmed (chars : List Char) : Prop where
  first : ∀ c ∈ chars.head?, isBlank c = false
  last : ∀ c ∈ chars.getLast?, isBlank c = false

/-- A blank at the start makes no difference. -/
theorem trim_list_cons {c : Char} (blank : isBlank c = true) (chars : List Char) :
    trimList (c :: chars) = trimList chars := by
  rw [trimList, trimList, List.dropWhile_cons_of_pos blank]

/-- A blank at the end makes no difference. -/
theorem trim_list_concat {c : Char} (blank : isBlank c = true) (chars : List Char) :
    trimList (chars ++ [c]) = trimList chars := by
  rw [trimList, trimList, List.dropWhile_append]
  split
  · rename_i nothing
    rw [List.isEmpty_iff.mp nothing, List.dropWhile_cons_of_pos blank]
    rfl
  · exact List.rdropWhile_concat_pos isBlank _ c blank

/-- Blanks around characters make no difference. The induction is on the blanks before, and then on the
blanks after. -/
theorem trim_list_padded {before after : List Char} (blankBefore : ∀ c ∈ before, isBlank c = true)
    (blankAfter : ∀ c ∈ after, isBlank c = true) (chars : List Char) :
    trimList (before ++ chars ++ after) = trimList chars := by
  induction before with
  | nil =>
    induction after generalizing chars with
    | nil => rw [List.append_nil, List.nil_append]
    | cons c after inductionHypothesis =>
      obtain ⟨first, rest⟩ := List.forall_mem_cons.mp blankAfter
      rw [List.append_cons, ← trim_list_concat first chars, ← inductionHypothesis rest (chars ++ [c])]
      rfl
  | cons c before inductionHypothesis =>
    obtain ⟨first, rest⟩ := List.forall_mem_cons.mp blankBefore
    exact (trim_list_cons first _).trans (inductionHypothesis rest)

/-- Characters none of which is a blank are trimmed. -/
theorem trimmed_of_solid {chars : List Char} (solid : ∀ c ∈ chars, isBlank c = false) :
    Trimmed chars where
  first c isFirst := solid c (List.mem_of_head? isFirst)
  last c isLast := solid c (List.mem_of_getLast? isLast)

/-- Characters that are trimmed are left as they are. -/
theorem trim_list_of_trimmed {chars : List Char} (trimmed : Trimmed chars) : trimList chars = chars := by
  have front : chars.dropWhile isBlank = chars := by
    cases chars with
    | nil => rfl
    | cons c chars => exact List.dropWhile_cons_of_neg (by simp [trimmed.first c rfl])
  rw [trimList, front]
  refine List.rdropWhile_eq_self_iff.mpr fun nonempty => ?_
  rw [trimmed.last _ (List.getLast?_eq_some_getLast nonempty)]
  exact Bool.false_ne_true

/-- Trimming leaves no blank at either end. Blanks are dropped as long as there are any, first at the
start and then at the end. -/
theorem trimmed_trim (chars : List Char) : Trimmed (trimList chars) where
  first := by
    intro c isFirst
    obtain ⟨rest, whole⟩ := List.rdropWhile_prefix isBlank (l := chars.dropWhile isBlank)
    have started : (chars.dropWhile isBlank).head? = some c := by
      rw [← whole, List.head?_append]
      exact congrArg (Option.or · rest.head?) isFirst
    have head := List.head?_dropWhile_not isBlank chars
    rw [started] at head
    exact head
  last := by
    intro c isLast
    have nonempty : trimList chars ≠ [] := by
      rintro nothing
      rw [nothing] at isLast
      cases isLast
    rw [List.getLast?_eq_some_getLast nonempty] at isLast
    cases isLast
    exact Bool.eq_false_iff.mpr (List.rdropWhile_last_not isBlank _ nonempty)

/-- What is trimmed is exactly what trimming leaves as it is. -/
theorem trimmed_iff {chars : List Char} : Trimmed chars ↔ trimList chars = chars :=
  ⟨trim_list_of_trimmed, fun left => left ▸ trimmed_trim chars⟩

instance (chars : List Char) : Decidable (Trimmed chars) :=
  decidable_of_iff _ trimmed_iff.symm

/-- There is always a first piece. -/
theorem split_list_cons (mark : Char) (chars : List Char) :
    ∃ piece pieces, splitList mark chars = piece :: pieces := by
  cases chars with
  | nil => exact ⟨[], [], rfl⟩
  | cons c rest =>
    rw [splitList]
    split
    · exact ⟨_, _, rfl⟩
    · split <;> exact ⟨_, _, rfl⟩

/-- A character that is no mark goes into the first piece. -/
theorem split_list_step {mark c : Char} {chars piece : List Char} {pieces : List (List Char)}
    (plain : c ≠ mark) (divided : splitList mark chars = piece :: pieces) :
    splitList mark (c :: chars) = (c :: piece) :: pieces := by
  rw [splitList, if_neg plain, divided]

/-- At a mark the pieces of what stands before it end, and those of what stands after it begin. -/
theorem split_list_append (mark : Char) (front back : List Char) :
    splitList mark (front ++ mark :: back) = splitList mark front ++ splitList mark back := by
  induction front with
  | nil => simp [splitList]
  | cons c front inductionHypothesis =>
    by_cases isMark : c = mark
    · simp [splitList, isMark, inductionHypothesis]
    · obtain ⟨piece, pieces, divided⟩ := split_list_cons mark front
      rw [split_list_step isMark divided, List.cons_append, List.cons_append]
      apply split_list_step isMark
      rw [inductionHypothesis, divided, List.cons_append]

/-- A character that is no mark goes into the last piece. The induction is on the characters before it. -/
theorem split_list_concat {mark c : Char} (plain : c ≠ mark) (chars : List Char) :
    ∃ pieces piece, splitList mark chars = pieces ++ [piece] ∧
      splitList mark (chars ++ [c]) = pieces ++ [piece ++ [c]] := by
  induction chars with
  | nil => exact ⟨[], [], rfl, split_list_step plain rfl⟩
  | cons d chars inductionHypothesis =>
    obtain ⟨pieces, piece, without, added⟩ := inductionHypothesis
    by_cases isMark : d = mark
    · refine ⟨[] :: pieces, piece, ?_, ?_⟩ <;> simp [splitList, isMark, without, added]
    · cases pieces with
      | nil => exact ⟨[], d :: piece, split_list_step isMark without, split_list_step isMark added⟩
      | cons first pieces =>
        exact ⟨(d :: first) :: pieces, piece, split_list_step isMark without,
          split_list_step isMark added⟩

/-- Characters without a mark are one piece. -/
theorem split_list_plain {mark : Char} {chars : List Char} (plain : mark ∉ chars) :
    splitList mark chars = [chars] := by
  induction chars with
  | nil => rfl
  | cons c chars inductionHypothesis =>
    rw [List.mem_cons, not_or] at plain
    exact split_list_step (Ne.symm plain.1) (inductionHypothesis plain.2)

/-- No piece holds a mark. -/
theorem split_list_undivided (mark : Char) (chars : List Char) :
    ∀ piece ∈ splitList mark chars, mark ∉ piece := by
  induction chars with
  | nil => simp [splitList]
  | cons c chars inductionHypothesis =>
    by_cases isMark : c = mark
    · simpa [splitList, isMark] using inductionHypothesis
    · obtain ⟨piece, pieces, divided⟩ := split_list_cons mark chars
      rw [divided] at inductionHypothesis
      rw [split_list_step isMark divided]
      simpa [Ne.symm isMark] using inductionHypothesis

end Codemod.Text
