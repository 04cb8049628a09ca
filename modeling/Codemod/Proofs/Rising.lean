import Codemod.Proofs.Importing
import Codemod.Proofs.Mending

/-!
# Which variables rise out of a body

The search for variables that rise goes down from a body through everything but functions and classes
and looks at the lists of variables that it meets. It finds a name exactly if one of the lists at the
places that are reached so is declared with `var` and binds the name, in a pattern at any depth.
-/
namespace Codemod.Imports

open Syntax Node

/-- A target of a declaration that binds a name: the name itself, or a pattern with a member whose
target binds it. A gap in a pattern is no member. -/
inductive Targets (name : String) : Node → Prop where
  | itself {target : Node} (isIdentifier : target.kind = .identifier) (spelled : target.text = name) :
      Targets name target
  | member {pattern element inner : Node}
      (isPattern : pattern.kind = .objectBindingPattern ∨ pattern.kind = .arrayBindingPattern)
      (present : element ∈ pattern.children) (isElement : element.kind = .bindingElement)
      (part : element.child? .name = some inner) (inside : Targets name inner) : Targets name pattern

/-- Neither a function nor a class, which keep the variables in them to themselves. -/
def LetsThrough (node : Node) : Prop :=
  isFunctionLike node.kind = false ∧ isClassLike node.kind = false

/-- A list of variables at a place below a body that binds a name for the body: it is declared with
`var`, and every node between the body and the list lets its variables through. -/
structure RisesFrom (name : String) (body : Node) (place : List Nat) (list : Node) : Prop where
  below : place ≠ []
  found : body.below? place = some list
  through : ∀ node ∈ (body.pathTo place).tail, LetsThrough node
  isList : list.kind = .variableDeclarationList
  isVar : list.info.word = .varKeyword
  binds : ∃ declaration ∈ list.items .declarations, ∃ target,
    declaration.child? .name = some target ∧ Targets name target

/-- An identifier binds the name that it is. -/
theorem binds_identifier {name : String} {node : Node} (isIdentifier : node.kind = .identifier) :
    binds name node = (node.text == name) := by
  obtain ⟨info, children⟩ := node
  have kind : info.kind = .identifier := isIdentifier
  rw [binds, kind]
  rfl

/-- A pattern binds what one of its elements declares. -/
theorem binds_pattern {name : String} {node : Node}
    (isPattern : node.kind = .objectBindingPattern ∨ node.kind = .arrayBindingPattern) :
    binds name node =
      node.children.any fun element => element.kind == .bindingElement && declares name element := by
  obtain ⟨info, children⟩ := node
  have kind : info.kind = .objectBindingPattern ∨ info.kind = .arrayBindingPattern := isPattern
  rw [binds, ← elements_bind_iff]
  rcases kind with kind | kind <;> rw [kind] <;> rfl

/-- Whatever binds a name is found to, at any depth of patterns. -/
theorem binds_of_targets {name : String} {target : Node} (bound : Targets name target) :
    binds name target = true := by
  induction bound with
  | itself isIdentifier spelled => rw [binds_identifier isIdentifier, spelled, beq_self_eq_true]
  | @member pattern element inner isPattern present isElement part inside inductionHypothesis =>
    rw [binds_pattern isPattern]
    refine List.any_eq_true.mpr ⟨element, present, ?_⟩
    simp [isElement, declares, part, inductionHypothesis]

/-- Whatever is found to bind a name does. The induction follows the pattern down through its members. -/
theorem targets_of_binds {name : String} (target : Node) (found : binds name target = true) :
    Targets name target := by
  by_cases isIdentifier : target.kind = .identifier
  · rw [binds_identifier isIdentifier] at found
    exact .itself isIdentifier (eq_of_beq found)
  by_cases isPattern : target.kind = .objectBindingPattern ∨ target.kind = .arrayBindingPattern
  · rw [binds_pattern isPattern, List.any_eq_true] at found
    obtain ⟨element, present, found⟩ := found
    rw [Bool.and_eq_true, beq_iff_eq, declares, Option.any_eq_true] at found
    obtain ⟨isElement, inner, part, bound⟩ := found
    have smaller : inner.size < target.size :=
      Nat.lt_trans (size_lt_of_mem (mem_of_child part)) (size_lt_of_mem present)
    exact .member isPattern present isElement part (targets_of_binds inner bound)
  · obtain ⟨info, children⟩ := target
    rw [binds] at found
    split at found
    · rename_i kind
      exact absurd kind isIdentifier
    · rename_i kind
      exact absurd (.inl kind) isPattern
    · rename_i kind
      exact absurd (.inr kind) isPattern
    · cases found
termination_by target.size

/-- A list of variables is found to rise if it is declared with `var` and a target of one of its
declarations binds the name. -/
theorem is_hoisted_list_iff {name : String} {list : Node} :
    isHoistedList name list = true ↔ list.kind = .variableDeclarationList ∧
      list.info.word = .varKeyword ∧ ∃ declaration ∈ list.items .declarations, ∃ target,
        declaration.child? .name = some target ∧ Targets name target := by
  have same (target : Node) : binds name target = true ↔ Targets name target :=
    ⟨targets_of_binds target, binds_of_targets⟩
  simp only [isHoistedList, listDeclares, declares, Bool.and_eq_true, beq_iff_eq, List.any_eq_true,
    Option.any_eq_true, same, and_assoc]

/-- A list of variables lets variables through, being no function and no class. -/
theorem lets_through_list {name : String} {list : Node} (hoisted : isHoistedList name list = true) :
    LetsThrough list := by
  have kind := (is_hoisted_list_iff.mp hoisted).1
  rw [LetsThrough, kind]
  exact ⟨rfl, rfl⟩

/-- A name is found below a node if a child is a list that binds it, or lets variables through and the
name is found below that child. -/
theorem hoists_step_iff {name : String} {body : Node} : hoists name body = true ↔
    ∃ child ∈ body.children,
      isHoistedList name child = true ∨ LetsThrough child ∧ hoists name child = true := by
  have step (child : Node) : hoistsIn name child = true ↔
      isHoistedList name child = true ∨ LetsThrough child ∧ hoists name child = true := by
    have split : hoistsIn name child = true ↔
        LetsThrough child ∧ (isHoistedList name child = true ∨ hoists name child = true) := by
      rw [Fix.Rule.hoists_in_eq, hoists, hoists_in_list]
      simp [LetsThrough]
    -- A list holds nothing back itself, so nothing is asked of it.
    rw [split, and_or_left, and_iff_right_of_imp lets_through_list]
  rw [hoists, hoists_in_list, List.any_eq_true]
  simp only [step]

/-- The way down to a place below a node starts at the node. -/
theorem path_to_eq_cons {node target : Node} {place : List Nat} (below : place ≠ [])
    (found : node.below? place = some target) : node.pathTo place = node :: (node.pathTo place).tail := by
  cases place with
  | nil => exact absurd rfl below
  | cons index rest =>
    obtain ⟨child, numbered, _⟩ := Option.bind_eq_some_iff.mp found
    rw [pathTo, numbered, List.tail_cons]

namespace RisesFrom

variable {name : String} {body child list : Node} {index : Nat} {rest : List Nat}

/-- A child that is a list of variables binds its names for the body. -/
theorem here (numbered : body.children[index]? = some list) (hoisted : isHoistedList name list = true) :
    RisesFrom name body [index] list := by
  obtain ⟨isList, isVar, binds⟩ := is_hoisted_list_iff.mp hoisted
  refine ⟨List.cons_ne_nil _ _, ?_, ?_, isList, isVar, binds⟩
  · rw [below_cons, numbered]
    rfl
  · rw [pathTo, numbered]
    exact fun _ passed => absurd passed List.not_mem_nil

/-- What rises from a child that lets variables through rises from the body. -/
theorem further (numbered : body.children[index]? = some child) (through : LetsThrough child)
    (deeper : RisesFrom name child rest list) : RisesFrom name body (index :: rest) list := by
  refine ⟨List.cons_ne_nil _ _, ?_, ?_, deeper.isList, deeper.isVar, deeper.binds⟩
  · rw [below_cons, numbered]
    exact deeper.found
  · rw [pathTo, numbered, List.tail_cons, path_to_eq_cons deeper.below deeper.found]
    exact List.forall_mem_cons.mpr ⟨through, deeper.through⟩

/-- What rises from a body rises from one of its children that lets variables through, or is such a
child itself. -/
theorem inward (rises : RisesFrom name body (index :: rest) list) :
    ∃ child, body.children[index]? = some child ∧
      (isHoistedList name child = true ∨ LetsThrough child ∧ RisesFrom name child rest list) := by
  obtain ⟨child, numbered, listBelow⟩ := Option.bind_eq_some_iff.mp rises.found
  refine ⟨child, numbered, ?_⟩
  by_cases below : rest = []
  · subst below
    cases listBelow
    exact .inl (is_hoisted_list_iff.mpr ⟨rises.isList, rises.isVar, rises.binds⟩)
  · have through := rises.through
    rw [pathTo, numbered, List.tail_cons, path_to_eq_cons below listBelow] at through
    obtain ⟨here, deeper⟩ := List.forall_mem_cons.mp through
    exact .inr ⟨here, below, listBelow, deeper, rises.isList, rises.isVar, rises.binds⟩

end RisesFrom

/-- What is found below a body rises from it. The induction is on the tree. -/
theorem rises_of_hoists {name : String} (body : Node) (found : hoists name body = true) :
    ∃ place list, RisesFrom name body place list := by
  obtain ⟨child, present, found⟩ := hoists_step_iff.mp found
  obtain ⟨index, numbered⟩ := List.mem_iff_getElem?.mp present
  rcases found with hoisted | ⟨through, deeper⟩
  · exact ⟨[index], child, .here numbered hoisted⟩
  · have smaller : child.size < body.size := size_lt_of_mem present
    obtain ⟨place, list, rises⟩ := rises_of_hoists child deeper
    exact ⟨index :: place, list, .further numbered through rises⟩
termination_by body.size

/-- What rises from a body is found below it. The induction is on the place. -/
theorem hoists_of_rises_from {name : String} {body list : Node} {place : List Nat}
    (rises : RisesFrom name body place list) : hoists name body = true := by
  induction place generalizing body with
  | nil => exact absurd rfl rises.below
  | cons index rest inductionHypothesis =>
    obtain ⟨child, numbered, inward⟩ := rises.inward
    refine hoists_step_iff.mpr ⟨child, List.mem_of_getElem? numbered, ?_⟩
    rcases inward with hoisted | ⟨through, deeper⟩
    · exact .inl hoisted
    · exact .inr ⟨through, inductionHypothesis deeper⟩

/-- A name is found among the variables that rise out of a body exactly if, somewhere below the body, a
list of variables that is declared with `var` binds it, in whatever pattern, with no function and no
class in between. -/
theorem hoists_iff (name : String) (body : Node) :
    hoists name body = true ↔ ∃ place list, RisesFrom name body place list :=
  ⟨rises_of_hoists body, fun ⟨_, _, rises⟩ => hoists_of_rises_from rises⟩

example : ((Grammar.parse (Grammar.Dialect.ofPath "/a.ts")
    "function f()\x7bfor(var\x7ba:[b]\x7dof c);let e\x7d").toOption.bind fun parsed =>
      (parsed.root.below? [0]).map fun scope =>
        (scope.items .body).map fun body => ["a", "b", "e"].filter (hoists · body)) =
    some [["b"]] := by
  decide +kernel

end Codemod.Imports
