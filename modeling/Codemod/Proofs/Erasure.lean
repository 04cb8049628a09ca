import Codemod.Proofs.Places

/-!
# Trees up to positions

What a tree is, apart from where it stood in a text: erasing the positions of a tree forgets
the spans and origins of its nodes and lists, and whether a part below was replaced. Erasing
trivia as well forgets what only shows how the text was laid out: line breaks after an opening
bracket, separators between digits, a comma after the last member of a list. Two trees are the
same up to positions, or up to positions and trivia, when erasing that makes them equal. Least is forgotten
of a tree that only does not say any more where a part below was replaced.

Giving the nodes of a tree their places changes nothing up to positions.
-/
namespace Codemod.Syntax

/-- The marks that do not only show how the text was laid out. -/
def Marks.plain (marks : Marks) : Marks :=
  { marks with multiLine := false, separated := false, blankText := false }

/-- A list without its position, and without its trivia if these are to be erased. -/
def ListInfo.bare (trivia : Bool) (list : ListInfo) : ListInfo :=
  { span := none, trailingComma := !trivia && list.trailingComma }

/-- The data of a node without its position, and without its trivia if these are to be erased. -/
def Info.bare (trivia : Bool) (info : Info) : Info :=
  { info with
    marks := if trivia then info.marks.plain else info.marks
    span := none, origin := none, rebuilt := false
    lists := info.lists.map fun entry => (entry.1, entry.2.bare trivia) }

/-! ## Comparing trees

Trees are compared field by field, so that the comparison can be evaluated on trees that are still to
be read. -/

/-- Whether two nodes have the same marks. -/
def Marks.sameAs (marks other : Marks) : Bool :=
  marks.typeOnly == other.typeOnly && marks.multiLine == other.multiLine &&
    marks.chain == other.chain && marks.exportEquals == other.exportEquals &&
    marks.typeOf == other.typeOf && marks.separated == other.separated &&
    marks.blankText == other.blankText

/-- Whether the lists of two nodes are the same. -/
def sameLists : List (Role × ListInfo) → List (Role × ListInfo) → Bool
  | [], [] => true
  | (role, list) :: rest, (otherRole, otherList) :: others =>
    role == otherRole && list.span == otherList.span &&
      list.trailingComma == otherList.trailingComma && sameLists rest others
  | _, _ => false

/-- Whether two nodes have the same data; texts are compared character by character, which is evaluated
much faster than their equality. -/
def Info.sameAs (info other : Info) : Bool :=
  info.kind == other.kind && info.text.toList == other.text.toList && info.word == other.word &&
    info.marks.sameAs other.marks && info.span == other.span && info.origin == other.origin &&
    info.rebuilt == other.rebuilt && info.layout == other.layout && sameLists info.lists other.lists

/-- Marks that pass the test of being the same are equal: it compares every one of them. -/
theorem Marks.eq_of_same_as {marks other : Marks} (same : marks.sameAs other = true) :
    marks = other := by
  obtain ⟨_, _, _, _, _, _, _⟩ := marks
  obtain ⟨_, _, _, _, _, _, _⟩ := other
  simp only [Marks.sameAs, Bool.and_eq_true, beq_iff_eq] at same
  simp only [same]

/-- So are records of lists, compared one by one. -/
theorem eq_of_same_lists {lists others : List (Role × ListInfo)}
    (same : sameLists lists others = true) : lists = others := by
  induction lists generalizing others with
  | nil =>
    cases others with
    | nil => rfl
    | cons other others => simp [sameLists] at same
  | cons first rest inductionHypothesis =>
    cases others with
    | nil => simp [sameLists] at same
    | cons other others =>
      obtain ⟨role, span, comma⟩ := first
      obtain ⟨otherRole, otherSpan, otherComma⟩ := other
      simp only [sameLists, Bool.and_eq_true, beq_iff_eq] at same
      obtain ⟨⟨⟨rfl, rfl⟩, rfl⟩, later⟩ := same
      rw [inductionHypothesis later]

/-- So is the data of nodes, field by field. -/
theorem Info.eq_of_same_as {info other : Info} (same : info.sameAs other = true) : info = other := by
  obtain ⟨_, _, _, _, _, _, _, _, _⟩ := info
  obtain ⟨_, _, _, _, _, _, _, _, _⟩ := other
  simp only [Info.sameAs, Bool.and_eq_true, beq_iff_eq, String.toList_inj] at same
  obtain ⟨⟨⟨⟨⟨⟨⟨⟨rfl, rfl⟩, rfl⟩, marks⟩, rfl⟩, rfl⟩, rfl⟩, rfl⟩, lists⟩ := same
  rw [Marks.eq_of_same_as marks, eq_of_same_lists lists]

namespace Node

mutual

/-- Whether two trees are the same. -/
def sameAs : Node → Node → Bool
  | .mk info children, .mk other others => info.sameAs other && sameAll children others

/-- Whether trees are the same one by one. -/
def sameAll : List Node → List Node → Bool
  | [], [] => true
  | node :: rest, other :: others => sameAs node other && sameAll rest others
  | _, _ => false

end

mutual

/-- Trees that pass the test of being the same are equal, by induction on the trees. -/
theorem eq_of_same_as : ∀ {a b : Node}, sameAs a b = true → a = b
  | .mk info children, .mk other others, same => by
    rw [sameAs, Bool.and_eq_true] at same
    rw [Info.eq_of_same_as same.1, eq_of_same_all same.2]

/-- The same of several trees. -/
theorem eq_of_same_all : ∀ {as bs : List Node}, sameAll as bs = true → as = bs
  | [], [], _ => rfl
  | node :: rest, other :: others, same => by
    rw [sameAll, Bool.and_eq_true] at same
    rw [eq_of_same_as same.1, eq_of_same_all same.2]
  | [], _ :: _, impossible => by simp [sameAll] at impossible
  | _ :: _, [], impossible => by simp [sameAll] at impossible

end

mutual

/-- A tree without positions, and without trivia if these are to be erased. -/
def bare (trivia : Bool) : Node → Node
  | .mk info children => .mk (info.bare trivia) (bareList trivia children)

/-- Several trees without positions, and without trivia if these are to be erased. -/
def bareList (trivia : Bool) : List Node → List Node
  | [] => []
  | node :: rest => bare trivia node :: bareList trivia rest

end

variable {trivia : Bool}

/-- Several trees lose their positions one by one. -/
theorem bare_list (nodes : List Node) : bareList trivia nodes = nodes.map (bare trivia) := by
  induction nodes with
  | nil => rfl
  | cons node rest inductionHypothesis => rw [bareList, inductionHypothesis, List.map_cons]

/-- A node loses its positions in its data and in its children. -/
@[simp] theorem bare_mk (info : Info) (children : List Node) :
    (Node.mk info children).bare trivia = .mk (info.bare trivia) (children.map (bare trivia)) := by
  rw [bare, bare_list]

/-- What is left of the data of a node has nothing to do with its children. -/
@[simp] theorem info_bare (node : Node) : (node.bare trivia).info = node.info.bare trivia := by
  obtain ⟨info, children⟩ := node
  rw [bare_mk]
  rfl

/-- The children of a node lose their positions one by one. -/
@[simp] theorem children_bare (node : Node) :
    (node.bare trivia).children = node.children.map (bare trivia) := by
  obtain ⟨info, children⟩ := node
  rw [bare_mk]
  rfl

/-- The kind of a node is no position. -/
@[simp] theorem kind_bare (node : Node) : (node.bare trivia).kind = node.kind := by
  rw [kind, info_bare]
  rfl

/-- Nor is its text. -/
@[simp] theorem text_bare (node : Node) : (node.bare trivia).text = node.text := by
  rw [text, info_bare]
  rfl

/-- The roles of children are no positions. -/
@[simp] theorem layout_bare (info : Info) : (info.bare trivia).layout = info.layout :=
  rfl

/-- Nor is the kind in the data of a node. -/
@[simp] theorem kind_info_bare (info : Info) : (info.bare trivia).kind = info.kind :=
  rfl

/-- Nor is the word that tells nodes of one kind apart. -/
@[simp] theorem word_bare (info : Info) : (info.bare trivia).word = info.word :=
  rfl

/-- Nor is the mark of an import of types. -/
@[simp] theorem type_only_bare (info : Info) :
    (info.bare trivia).marks.typeOnly = info.marks.typeOnly := by
  cases trivia <;> rfl

/-- Nor is the mark of a chain. -/
@[simp] theorem chain_bare (info : Info) : (info.bare trivia).marks.chain = info.marks.chain := by
  cases trivia <;> rfl

/-- The parts of a node keep their roles and lose their positions. -/
@[simp] theorem parts_bare (node : Node) :
    (node.bare trivia).parts = node.parts.map fun part => (part.1, part.2.bare trivia) := by
  rw [parts, info_bare, children_bare, layout_bare, List.zip_map_right]
  rfl

/-- So do all children in a role. -/
@[simp] theorem items_bare (node : Node) (role : Role) :
    (node.bare trivia).items role = (node.items role).map (bare trivia) := by
  simp only [items, parts_bare, List.filter_map, List.map_map]
  rfl

/-- Whether a node has a list does not depend on where the list stood. -/
@[simp] theorem listed_bare (node : Node) (role : Role) :
    ((node.bare trivia).list? role).isSome = (node.list? role).isSome := by
  simp only [list?, info_bare, Info.bare, Option.isSome_map]
  induction node.info.lists with
  | nil => rfl
  | cons first rest inductionHypothesis =>
    obtain ⟨other, list⟩ := first
    rw [List.map_cons, List.lookup_cons, List.lookup_cons]
    cases role == other with
    | true => rfl
    | false => exact inductionHypothesis

/-- Data without positions loses no more of them, and loses its trivia when that is asked. -/
theorem bare_info_bare (info : Info) : (info.bare false).bare trivia = info.bare trivia := by
  simp only [Info.bare, ListInfo.bare, List.map_map, Function.comp_def, Bool.not_false,
    Bool.true_and, Bool.false_eq_true, if_false]

mutual

/-- A tree that does not say where parts were replaced. -/
def unmarked : Node → Node
  | .mk info children => .mk { info with rebuilt := false } (unmarkedList children)

/-- Several trees that do not say where parts were replaced. -/
def unmarkedList : List Node → List Node
  | [] => []
  | node :: rest => unmarked node :: unmarkedList rest

end

/-- A node loses the mark of what was rebuilt, and so do its children. -/
@[simp] theorem unmarked_mk (info : Info) (children : List Node) :
    (Node.mk info children).unmarked = .mk { info with rebuilt := false } (children.map unmarked) := by
  have each (nodes : List Node) : unmarkedList nodes = nodes.map unmarked := by
    induction nodes with
    | nil => rfl
    | cons node rest inductionHypothesis => rw [unmarkedList, inductionHypothesis, List.map_cons]
  rw [unmarked, each]

/-- Erasing positions forgets what was replaced. -/
theorem bare_unmarked : ∀ node : Node, node.unmarked.bare trivia = node.bare trivia
  | .mk info children => by
    rw [unmarked_mk, bare_mk, bare_mk, List.map_map]
    congr 1
    refine List.map_congr_left fun child present => ?_
    have smaller : child.size < (Node.mk info children).size := size_lt_of_mem present
    exact bare_unmarked child
termination_by node => node.size

/-- Trees that differ only in what they say was replaced are the same up to positions. -/
theorem bare_of_unmarked {a b : Node} (same : a.unmarked = b.unmarked) :
    a.bare trivia = b.bare trivia := by
  rw [← bare_unmarked a, same, bare_unmarked]

mutual

/-- Giving the nodes of a tree their places changes nothing up to positions. -/
@[simp] theorem bare_locate (path : List Nat) : ∀ node : Node,
    (node.locate path).bare trivia = node.bare trivia
  | .mk info children => by
    rw [locate, bare, bare, bare_locate_list]
    rfl

/-- Numbering several trees changes nothing but positions. -/
theorem bare_locate_list (path : List Nat) (index : Nat) : ∀ nodes : List Node,
    bareList trivia (locateList path index nodes) = bareList trivia nodes
  | [] => rfl
  | node :: rest => by
    rw [locateList, bareList, bareList, bare_locate, bare_locate_list]

end

mutual

/-- Erasing positions takes no node away. -/
@[simp] theorem size_bare : ∀ node : Node, (node.bare trivia).size = node.size
  | .mk info children => by
    rw [bare, size, size, size_bare_list]

/-- Several trees keep their sizes without positions. -/
theorem size_bare_list : ∀ nodes : List Node, sizeList (bareList trivia nodes) = sizeList nodes
  | [] => rfl
  | node :: rest => by
    rw [bareList, sizeList, sizeList, size_bare, size_bare_list]

end

end Node

end Codemod.Syntax
