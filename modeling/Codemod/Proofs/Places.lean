import Codemod.Grammar.SourceFile

/-!
# Places in a tree

A place is the list of child numbers that lead down to a node. In a tree that was
read every node holds its own place, innermost number first, so that the nodes
around it can be found again from the node alone. What stands strictly around a
place is exactly what the way down to it passes.
-/
namespace Codemod.Syntax.Node

/-- The node that a place leads to. -/
def below? (node : Node) : List Nat → Option Node
  | [] => some node
  | index :: rest => (node.children[index]?).bind (below? · rest)

/-- A place begins with the number of a child and goes on below that child. -/
theorem below_cons (node : Node) (index : Nat) (rest : List Nat) :
    node.below? (index :: rest) = (node.children[index]?).bind (below? · rest) :=
  rfl

/-- A place below a place. -/
theorem below_append (root : Node) (outer inner : List Nat) :
    root.below? (outer ++ inner) = (root.below? outer).bind (below? · inner) := by
  induction outer generalizing root with
  | nil => rfl
  | cons index rest inductionHypothesis =>
    simp only [List.cons_append, below_cons]
    cases child : root.children[index]? with
    | none => rfl
    | some next => exact inductionHypothesis next

/-- A child is smaller than its parent. The size of a node counts itself and all of its children. The
induction is on the children. -/
theorem size_lt_of_mem {node child : Node} (present : child ∈ node.children) :
    child.size < node.size := by
  obtain ⟨info, children⟩ := node
  simp only [Node.children] at present
  rw [size, Nat.lt_succ_iff]
  induction children with
  | nil => exact absurd present List.not_mem_nil
  | cons first rest inductionHypothesis =>
    rw [sizeList]
    rcases List.mem_cons.mp present with rfl | later
    · exact Nat.le_add_right _ _
    · exact Nat.le_trans (inductionHypothesis later) (Nat.le_add_left _ _)

/-- A child with a role is a child. -/
theorem mem_of_child {node child : Node} {role : Role} (has : node.child? role = some child) :
    child ∈ node.children := by
  obtain ⟨⟨_, _⟩, found, rfl⟩ := Option.map_eq_some_iff.mp has
  exact (List.of_mem_zip (List.mem_of_find?_eq_some found)).2

/-- What the way down to a place passes stands in the tree. The induction is on the way down: a node that
is passed is the root or is passed further below. -/
theorem below_of_mem_path {root scope : Node} {place : List Nat} (passed : scope ∈ root.pathTo place) :
    ∃ outer, root.below? outer = some scope := by
  induction place generalizing root with
  | nil => exact absurd passed List.not_mem_nil
  | cons index rest inductionHypothesis =>
    rw [pathTo] at passed
    cases child : root.children[index]? with
    | none =>
      rw [child] at passed
      exact absurd passed List.not_mem_nil
    | some next =>
      rw [child] at passed
      rcases List.mem_cons.mp passed with rfl | deeper
      · exact ⟨[], rfl⟩
      · obtain ⟨outer, found⟩ := inductionHypothesis deeper
        exact ⟨index :: outer, by rw [below_cons, child]; exact found⟩

/-- Numbering a list of trees numbers each of them by its position. The induction is on the list, over
the number of the first tree. -/
theorem locate_list_get (path : List Nat) (start : Nat) (nodes : List Node) (index : Nat) :
    (locateList path start nodes)[index]? =
      (nodes[index]?).map (locate ((start + index) :: path)) := by
  induction nodes generalizing start index with
  | nil => simp [locateList]
  | cons node rest inductionHypothesis =>
    cases index with
    | zero => simp [locateList]
    | succ index =>
      simp only [locateList, List.getElem?_cons_succ, inductionHypothesis]
      congr 3
      omega

/-- The children of a node whose places were noted are its children, each with its place noted. -/
theorem children_locate (path : List Nat) (node : Node) :
    (node.locate path).children = locateList path 0 node.children := by
  cases node
  rfl

/-- Noting places keeps the kind of a node. -/
theorem kind_locate (path : List Nat) (node : Node) : (node.locate path).kind = node.kind := by
  cases node
  rfl

/-- A node whose places were noted has its own noted as that which was begun with. -/
theorem origin_locate (path : List Nat) (node : Node) :
    (node.locate path).info.origin = some path := by
  cases node
  rfl

/-- In a tree whose nodes were given their places every node holds the place where it is found. The
induction is on the place, over the place of the root. -/
theorem origin_of_below {root node : Node} {path place : List Nat}
    (found : (root.locate path).below? place = some node) :
    node.info.origin = some (place.reverse ++ path) := by
  induction place generalizing root path with
  | nil =>
    cases found
    exact origin_locate path root
  | cons index rest inductionHypothesis =>
    rw [below_cons, children_locate, locate_list_get, Nat.zero_add] at found
    cases child : root.children[index]? with
    | none => simp [child] at found
    | some next =>
      rw [child] at found
      rw [inductionHypothesis found]
      simp

end Codemod.Syntax.Node

namespace Codemod.Grammar

open Syntax

/-- What was read is the text itself and the tree that its reader gave, with every node's place in
it. -/
theorem parse_runs {dialect : Dialect} {text : String} {parsed : Parsed}
    (read : parse dialect text = .ok parsed) :
    parsed.source = Source.ofString text ∧
      parsed.root =
        (parseSourceFile (reader (depthBound (Source.ofString text).size))
          (State.initial dialect (Source.ofString text))).1.locate [] := by
  unfold parse at read
  dsimp only at read
  split at read
  rename_i root state ran
  rw [ran]
  split at read
  · cases read
  · split at read
    · cases read
    · split at read <;> cases read
      exact ⟨rfl, rfl⟩

/-- The tree of a text that was read is one whose nodes were given their places. -/
theorem parse_located {dialect : Dialect} {text : String} {parsed : Parsed}
    (read : parse dialect text = .ok parsed) : ∃ root : Node, parsed.root = root.locate [] :=
  ⟨_, (parse_runs read).2⟩

/-- Whatever the statements of a text are, they are put into a whole file. -/
theorem kind_of_parse_file (parse : Goal → P Node) (state : State) :
    (parseSourceFile parse state).1.kind = .sourceFile := by
  unfold parseSourceFile
  simp only [bind, StateT.bind]
  split
  split
  split
  split <;> rfl

/-- The tree of a text that was read is a whole file. -/
theorem kind_of_parse {dialect : Dialect} {text : String} {parsed : Parsed}
    (read : parse dialect text = .ok parsed) : parsed.root.kind = .sourceFile := by
  rw [(parse_runs read).2, Node.kind_locate]
  exact kind_of_parse_file _ _

/-- A node of a tree that was read holds the place where it is found. -/
theorem origin_of_parse {dialect : Dialect} {text : String} {parsed : Parsed}
    (read : parse dialect text = .ok parsed) {place : List Nat} {node : Node}
    (found : parsed.root.below? place = some node) : node.info.origin = some place.reverse := by
  obtain ⟨root, located⟩ := parse_located read
  rw [located] at found
  simpa using Node.origin_of_below found

/-- A node stands at one place of a tree that was read. -/
theorem place_unique {dialect : Dialect} {text : String} {parsed : Parsed}
    (read : parse dialect text = .ok parsed) {first second : List Nat} {node : Node}
    (atFirst : parsed.root.below? first = some node)
    (atSecond : parsed.root.below? second = some node) : first = second := by
  have same := (origin_of_parse read atFirst).symm.trans (origin_of_parse read atSecond)
  simpa using same

end Codemod.Grammar
