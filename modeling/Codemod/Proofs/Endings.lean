import Codemod.Files.Discover

/-!
# The pattern of the endings

The endings of the files taken from a directory make one pattern with braces. It stands for one pattern
for each ending.
-/
namespace Codemod.Glob

/-- A text in which the first character of a separator does not occur is not divided by it. The search
goes over the text position by position and never finds a separator to begin; the induction is on what is
left of the text. -/
theorem split_on_unmet {text separator : String} (size : Nat) (given : (separator == "") = false)
    (unmet : ∀ index < size, String.Pos.Raw.atEnd text ⟨index⟩ = false ∧
      (String.Pos.Raw.get text ⟨index⟩ == String.Pos.Raw.get separator 0) = false ∧
      String.Pos.Raw.next text ⟨index⟩ = ⟨index + 1⟩)
    (ended : String.Pos.Raw.atEnd text ⟨size⟩ = true) :
    text.splitOn separator = [String.Pos.Raw.extract text 0 ⟨size⟩] := by
  have behind (left : Nat) (enough : left ≤ size) :
      text.splitOnAux separator 0 ⟨size - left⟩ 0 [] = [String.Pos.Raw.extract text 0 ⟨size⟩] := by
    induction left with
    | zero =>
      rw [String.splitOnAux, Nat.sub_zero, if_pos ended]
      rfl
    | succ left inductionHypothesis =>
      obtain ⟨inside, other, next⟩ := unmet (size - (left + 1)) (by omega)
      have place : String.Pos.Raw.unoffsetBy ⟨size - (left + 1)⟩ 0 = ⟨size - (left + 1)⟩ := rfl
      have onward : size - (left + 1) + 1 = size - left := by omega
      rw [String.splitOnAux]
      simp only [inside, other, place, next, onward, Bool.false_eq_true, if_false]
      exact inductionHypothesis (by omega)
  have whole := behind size (Nat.le_refl size)
  rw [Nat.sub_self] at whole
  simp only [String.splitOn, given, Bool.false_eq_true, if_false]
  exact whole

/-- Braces around a list stand for its members. They hold no sequence of numbers, and there are at least
two members, so that each takes the place of the braces in turn. -/
theorem expand_list (fuel : Nat) {marks : List Mark} {braced : Braced}
    (first : braced? [] marks = some braced) (bare : braced.before.getLast?.any (·.is '$') = false)
    (noSequence : sequenceOf? braced.body = none) (list : braced.body.any (·.is ',') = true)
    (several : (alternatives 0 [] braced.body).length ≠ 1) :
    expand (fuel + 1) marks =
      combine braced.before ((alternatives 0 [] braced.body).flatMap (expand fuel))
        (expand fuel braced.after) := by
  rw [expand, first]
  dsimp only
  rw [bare, noSequence, list]
  simp only [Bool.false_eq_true, if_false, Bool.not_true]
  split
  · rename_i only same
    exact absurd (congrArg List.length same) several
  · rfl

/-- The pattern of the default endings stands for one pattern for each of them. The list in braces holds
no dots, so that it is no range, and each of its members gives a pattern. -/
theorem expand_default_endings :
    expandBraces (Files.endingPattern Config.defaultExtensions) =
      Config.defaultExtensions.map fun ending => "**/*" ++ ending := by
  have undivided : "ts,tsx,mts,cts,js,jsx,mjs,cjs".splitOn ".." = ["ts,tsx,mts,cts,js,jsx,mjs,cjs"] :=
    (split_on_unmet 29 (by decide +kernel) (by decide +kernel) (by decide +kernel)).trans
      (by decide +kernel)
  have noSequence : sequenceOf? (Mark.plain "ts,tsx,mts,cts,js,jsx,mjs,cjs") = none := by
    have text : Mark.text (Mark.plain "ts,tsx,mts,cts,js,jsx,mjs,cjs") =
        "ts,tsx,mts,cts,js,jsx,mjs,cjs" := by decide +kernel
    rw [sequenceOf?, text, sequence?, undivided]
    simp
  have braces : hasBraces (Files.endingPattern Config.defaultExtensions).toList = true := by
    decide +kernel
  have marks : guardLeading (Mark.ofChars (Files.endingPattern Config.defaultExtensions).toList) =
      Mark.plain "**/*.\x7bts,tsx,mts,cts,js,jsx,mjs,cjs\x7d" := by decide +kernel
  have first : braced? [] (Mark.plain "**/*.\x7bts,tsx,mts,cts,js,jsx,mjs,cjs\x7d") =
      some ⟨Mark.plain "**/*.", Mark.plain "ts,tsx,mts,cts,js,jsx,mjs,cjs", []⟩ := by rfl
  rw [expandBraces]
  simp only [braces, if_true, marks]
  rw [expand_list _ first (by decide +kernel) noSequence (by decide +kernel) (by decide +kernel)]
  decide +kernel

end Codemod.Glob
