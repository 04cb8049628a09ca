import Codemod.Proofs.Mended

/-!
# Transforming is mending

The transformation that a fix runs goes from the root down, looks names up in the tree that was
read, and is bounded. What it comes to is the mended tree: a node that stands in the file
finds what is bound around it on the way down, a replacement adds three nodes at most to the way
down to what it holds, and going on below a replacement is replacing what is below first. Only
a node that lacks a part stops it.
-/
namespace Codemod.Imports

open Syntax Node

/-- The names bound anew around a place of a file. -/
def shadeAt (file : Node) (place : List Nat) : Shade :=
  fun name => (file.pathTo place).any (scopeDeclares name)

/-- The way down to a child is the way down to its parent, and then the parent. The induction is on the
way down to the parent. -/
theorem path_to_concat {root node child : Node} {place : List Nat} {index : Nat}
    (found : root.below? place = some node) (numbered : node.children[index]? = some child) :
    root.pathTo (place ++ [index]) = root.pathTo place ++ [node] := by
  induction place generalizing root with
  | nil =>
    cases found
    simp [pathTo, numbered]
  | cons first rest inductionHypothesis =>
    rw [below_cons] at found
    obtain ⟨next, nextAt, deeper⟩ := Option.bind_eq_some_iff.mp found
    rw [List.cons_append, pathTo, pathTo, nextAt]
    dsimp only
    rw [inductionHypothesis deeper, List.cons_append]

/-- A node that stands in a file where a shade is bound around it. -/
def At (file : Node) (shade : Shade) (node : Node) : Prop :=
  ∃ place, file.below? place = some node ∧ shadeAt file place = shade

variable {file node : Node} {shade : Shade} {bindings : Bindings}

/-- The root stands in its own file, with nothing bound around it. -/
theorem At.root (file : Node) : At file (fun _ => false) file :=
  ⟨[], rfl, rfl⟩

/-- What stands in a node has the names bound around it that the node adds. -/
theorem At.child (stands : At file shade node) {part : Node} (present : part ∈ node.children) :
    At file (shade.under node) part := by
  obtain ⟨place, found, rfl⟩ := stands
  obtain ⟨index, numbered⟩ := List.getElem?_of_mem present
  refine ⟨place ++ [index], ?_, ?_⟩
  · rw [below_append, found, Option.bind_some, below_cons, numbered]
    rfl
  · funext name
    rw [shadeAt, path_to_concat found numbered, List.any_append, Shade.under, shadeAt]
    simp

/-- An identifier that stands in a file is shadowed when its name is bound around it. The place that the
node holds leads through the scopes around it, and the file itself binds nothing in this sense. -/
theorem At.shadowed {root : Node} (stands : At (root.locate []) shade node) :
    isShadowed (root.locate []) node = shade node.text := by
  obtain ⟨place, found, rfl⟩ := stands
  have origin := origin_of_below found
  rw [List.append_nil] at origin
  rw [isShadowed, origin]
  dsimp only
  rw [enclosing, List.reverse_reverse, List.any_filter, List.any_reverse, shadeAt]
  refine any_of_mem fun scope _ => ?_
  by_cases isFile : scope.kind = .sourceFile
  · rw [scope_declares_of_kind (by rw [isFile]; rfl), Bool.and_false]
  · simp [isFile]

/-- What parentheses hold stands in the file as they do, with the same names bound around it, since
parentheses bind none. -/
theorem At.unwrap {node : Node} (stands : At file shade node) : At file shade node.unwrap := by
  by_cases single : node.kind = .parenthesizedExpression ∧ ∃ inner, node.children = [inner]
  · obtain ⟨isParenthesis, inner, only⟩ := single
    have present : inner ∈ node.children := by rw [only]; exact List.mem_cons_self
    have smaller : inner.size < node.size := size_lt_of_mem present
    have inside := stands.child present
    rw [Fix.Rule.under_plain (by rw [isParenthesis]; rfl)] at inside
    rw [unwrap_parenthesized isParenthesis only]
    exact inside.unwrap
  · rwa [unwrap_of_not_single single]
termination_by node.size

/-- An expression that stands in a file refers to what it refers to under the names bound around it. The
names before the dots stand in the file themselves, with the same names bound around them. -/
theorem At.resolve {root : Node} (stands : At (root.locate []) shade node) :
    resolve (root.locate []) bindings node = resolveIn shade bindings node := by
  have callee := stands.unwrap
  rw [Imports.resolve, resolveIn]
  dsimp only
  split
  · rename_i isAccess
    cases before : node.unwrap.child? .expression with
    | none => rfl
    | some object =>
      have target := callee.child (mem_of_child before)
      rw [Fix.Rule.under_plain (by rw [eq_of_beq isAccess]; rfl)] at target
      cases node.unwrap.child? .name with
      | none => rfl
      | some member =>
        dsimp only
        rw [target.unwrap.shadowed]
  · rw [callee.shadowed]

end Codemod.Imports

namespace Codemod.Fix.Rule

open Syntax Node Imports

variable (rule : Rule) (file : Node) (bindings : Bindings)

/-- A tree in which looking names up in a file comes to looking at what is bound on the way down, where a
transformation by the rule gets with so many nodes within one another. -/
def Ready : Nat → Shade → Node → Prop
  | 0, _, _ => False
  | fuel + 1, shade, node =>
    rule.renewal (resolve file bindings) node = rule.renewal (resolveIn shade bindings) node ∧
      ∀ part ∈ (rule.applied bindings shade node).parts, part.1.isVisited node.kind = true →
        Ready fuel (shade.under node) part.2

variable {rule file bindings} {shade : Shade} {node : Node} {fuel : Nat}

/-- A transformation that gets by with some nodes within one another gets by with one more. -/
theorem ready_raise (ready : rule.Ready file bindings fuel shade node) :
    rule.Ready file bindings (fuel + 1) shade node := by
  induction fuel generalizing shade node with
  | zero => exact ready.elim
  | succ fuel inductionHypothesis =>
    rw [Ready] at ready ⊢
    exact ⟨ready.1, fun part present visited => inductionHypothesis (ready.2 part present visited)⟩

/-- A plain node is ready when its parts are: no rule renews it and it binds no names. -/
theorem ready_plain (lawful : rule.Lawful) (plain : Plain node)
    (parts : ∀ part ∈ node.parts, rule.Ready file bindings fuel shade part.2) :
    rule.Ready file bindings (fuel + 1) shade node := by
  obtain ⟨notApplied, notScope, _⟩ := of_plain plain
  have none := renewal_plain lawful notApplied
  rw [Ready, none, none, applied_none (none _), under_plain notScope]
  exact ⟨rfl, fun part present _ => parts part present⟩

/-- Parentheses, keys and object literals each add a node to the way down. Each of these is a plain node,
which is ready when its parts are. -/
theorem ready_graded (lawful : rule.Lawful) (file : Node) (bindings : Bindings) (shade : Shade) :
    Graded fun fuel node => rule.Ready file bindings fuel shade node where
  raise := ready_raise
  placed ready := by
    refine ready_plain lawful ⟨.inl rfl, rfl, rfl⟩ fun part present => ?_
    rw [List.mem_singleton.mp present]
    exact ready
  keyed {grade value} name ready := by
    refine ready_plain lawful ⟨.inr (.inr (.inr (.inl rfl))), rfl, rfl⟩ fun part present => ?_
    rcases List.mem_cons.mp present with rfl | later
    · cases grade with
      | zero => exact ready.elim
      | succ grade =>
        refine ready_plain lawful ⟨.inr (.inr (.inr (.inr (.inl rfl)))), rfl, rfl⟩ fun part none => ?_
        cases none
    · rw [List.mem_singleton.mp later]
      exact ready
  object {grade properties} ready := by
    refine ready_plain lawful (plain_object properties) fun part present => ?_
    rw [parts_object] at present
    obtain ⟨member, listed, rfl⟩ := List.mem_map.mp present
    exact ready member listed

/-- What stands in a node is less deep than the node. -/
theorem depth_lt_of_mem {node part : Node} (present : part ∈ node.children) : part.depth < node.depth := by
  obtain ⟨info, children⟩ := node
  simp only [Node.children] at present
  rw [depth, Nat.lt_succ_iff]
  induction children with
  | nil => exact absurd present List.not_mem_nil
  | cons first rest inductionHypothesis =>
    rw [depthList]
    rcases List.mem_cons.mp present with rfl | later
    · exact Nat.le_max_left _ _
    · exact Nat.le_trans (inductionHypothesis later) (Nat.le_max_right _ _)

/-- The name before the arguments of what stands in a file refers to what it refers to under the names
bound around it. -/
theorem callee_at (isApplied : isApplication node.kind = true) {root : Node}
    (stands : At (root.locate []) shade node) :
    (node.child? .expression).bind (resolve (root.locate []) bindings) =
      (node.child? .expression).bind (resolveIn shade bindings) := by
  cases before : node.child? .expression with
  | none => rfl
  | some callee =>
    have standsThere := stands.child (mem_of_child before)
    rw [under_application isApplied] at standsThere
    exact standsThere.resolve

/-- Looking names up in the file gives a rule what it has for what stands there. -/
theorem renewal_at (lawful : rule.Lawful) {root : Node} (stands : At (root.locate []) shade node) :
    rule.renewal (resolve (root.locate []) bindings) node =
      rule.renewal (resolveIn shade bindings) node := by
  by_cases isApplied : isApplication node.kind = true
  · rw [renewal, renewal, callee_at isApplied stands]
  · rw [Bool.not_eq_true] at isApplied
    rw [renewal_plain lawful isApplied, renewal_plain lawful isApplied]

/-- What stands in a file that was read is ready for a transformation with four times its depth. A node
that a rule renews adds three nodes at most to the way down, and everything that stands in the file is
looked up there by the names bound on the way. The induction is on the bound. -/
theorem ready_at (lawful : rule.Lawful) {root : Node} (stands : At (root.locate []) shade node)
    (deep : 4 * node.depth ≤ fuel) : rule.Ready (root.locate []) bindings fuel shade node := by
  induction fuel using Nat.strongRecOn generalizing shade node with
  | ind fuel inductionHypothesis =>
  have some : 0 < node.depth := by
    obtain ⟨info, children⟩ := node
    exact Nat.succ_pos _
  obtain ⟨fuel, rfl⟩ : ∃ less, fuel = less + 1 := ⟨fuel - 1, by omega⟩
  have inside {inner : Node} (present : inner ∈ node.children) (less : Nat) (lower : less < fuel + 1)
      (enough : fuel + 1 ≤ less + 4) :
      rule.Ready (root.locate []) bindings less (shade.under node) inner := by
    have shallower := depth_lt_of_mem present
    exact inductionHypothesis less lower (stands.child present) (by omega)
  by_cases isApplied : isApplication node.kind = true
  · refine ⟨renewal_at lawful stands, fun part present visited => ?_⟩
    cases renews : rule.renewal (resolveIn shade bindings) node with
    | none =>
      rw [applied_none renews] at present
      exact inside (mem_of_part present) fuel (Nat.lt_succ_self _) (by omega)
    | some arguments =>
      rw [applied_some renews, parts_given] at present
      rcases List.mem_append.mp present with kept | new
      · exact inside (mem_of_part (List.mem_of_mem_filter kept)) fuel (Nat.lt_succ_self _) (by omega)
      · obtain ⟨argument, listed, rfl⟩ := List.mem_map.mp new
        obtain ⟨exported, _, renewed⟩ := renew_of_renewal renews
        -- The arguments have four levels of fuel more than they need; what is built of them takes three.
        have shallow : 3 ≤ fuel := by omega
        have items : ∀ item ∈ node.items .arguments,
            rule.Ready (root.locate []) bindings (fuel - 3) shade item := by
          intro item given
          have ready := inside (mem_children_of_items given) (fuel - 3) (by omega) (by omega)
          rwa [under_application isApplied] at ready
        have built := lawful.built (ready_graded lawful (root.locate []) bindings shade) items
          renewed argument listed
        rw [under_application isApplied]
        rwa [Nat.sub_add_cancel shallow] at built
  · rw [Bool.not_eq_true] at isApplied
    rw [Ready, applied_none (renewal_plain lawful isApplied _)]
    exact ⟨renewal_at lawful stands, fun part present _ =>
      inside (mem_of_part present) fuel (Nat.lt_succ_self _) (by omega)⟩

/-- What a transformation of a tree comes to: it fails at a gap, and otherwise gives a tree that is
the expected one up to what it says was replaced, the tree itself when nothing is to be replaced. -/
structure Remade (gap hit : Bool) (before after : Node) (result : Except Thrown Transformed) : Prop where
  fails : gap = true → result = .error incomplete
  gives : gap = false → ∃ remade, result = .ok remade ∧
    remade.node.unmarked = after.unmarked ∧ (remade.replaced = 0 ↔ hit = false) ∧
      (hit = false → remade.node = before)

/-- A part that is visited is remade when its node is; another is kept. The count, the gap and the result
all come from the node in the one case and are empty in the other. -/
theorem remade_part {kind : Kind} {one : Node → Except Thrown Transformed} {part : Role × Node}
    (each : part.1.isVisited kind = true → Remade part.2.hasGap (rule.hits bindings shade part.2)
      part.2 (rule.mend bindings shade part.2) (one part.2)) :
    Remade (part.1.isVisited kind && part.2.hasGap)
      (part.1.isVisited kind && rule.hits bindings shade part.2) part.2
      (rule.part bindings shade kind part)
      (if part.1.isVisited kind then one part.2 else .ok { node := part.2, replaced := 0 }) := by
  rw [Rule.part]
  cases visited : part.1.isVisited kind with
  | true => simpa using each visited
  | false =>
    exact ⟨fun impossible => (by cases impossible), fun _ => ⟨_, rfl, rfl, by simp, fun _ => rfl⟩⟩

/-- What transforming the children of a node comes to, given what transforming each comes to. The
induction is on the roles: the first child that lacks a part stops it, and else the results come one for
each child. -/
theorem transform_children_remade {kind : Kind} {one : Node → Except Thrown Transformed}
    {roles : List Role} {children : List Node}
    (each : ∀ part ∈ roles.zip children, part.1.isVisited kind = true →
      Remade part.2.hasGap (rule.hits bindings shade part.2) part.2
        (rule.mend bindings shade part.2) (one part.2)) :
    ((roles.zip children).any (fun part => part.1.isVisited kind && part.2.hasGap) = true →
      transformChildren kind one roles children = .error incomplete) ∧
    ((roles.zip children).any (fun part => part.1.isVisited kind && part.2.hasGap) = false →
      ∃ results, transformChildren kind one roles children = .ok results ∧
        List.Forall₂ (fun part remade =>
            remade.node.unmarked = (rule.part bindings shade kind part).unmarked ∧
            (remade.replaced = 0 ↔
              (part.1.isVisited kind && rule.hits bindings shade part.2) = false))
          (roles.zip children) results) := by
  induction roles generalizing children with
  | nil => exact ⟨fun impossible => (by cases impossible), fun _ => ⟨[], rfl, .nil⟩⟩
  | cons role roles inductionHypothesis =>
    cases children with
    | nil => exact ⟨fun impossible => (by cases impossible), fun _ => ⟨[], rfl, .nil⟩⟩
    | cons child children =>
      obtain ⟨restFails, restGives⟩ := @inductionHypothesis children
        fun part later => each part (List.mem_cons_of_mem _ later)
      have first := remade_part (each (role, child) List.mem_cons_self)
      have unfolded : transformChildren kind one (role :: roles) (child :: children) =
          (if role.isVisited kind then one child else .ok { node := child, replaced := 0 }) >>=
            fun result => transformChildren kind one roles children >>=
              fun results => .ok (result :: results) := by
        rw [transformChildren]
        cases role.isVisited kind <;> rfl
      rw [unfolded, List.zip_cons_cons, List.any_cons]
      dsimp only at first ⊢
      cases gap : role.isVisited kind && child.hasGap with
      | true =>
        refine ⟨fun _ => ?_, fun impossible => (by cases impossible)⟩
        rw [first.fails gap]
        rfl
      | false =>
        obtain ⟨remade, done, same, counted, _⟩ := first.gives gap
        rw [done, Bool.false_or]
        refine ⟨fun later => ?_, fun complete => ?_⟩
        · rw [restFails later]
          rfl
        · obtain ⟨results, restDone, related⟩ := restGives complete
          rw [restDone]
          exact ⟨_, rfl, .cons ⟨same, counted⟩ related⟩

/-- Apart from positions, rebuilding a node puts its new parts into the parentheses that their places
demand and changes nothing else. -/
theorem unmarked_rebuild (node : Node) (results : List Node) :
    (node.rebuild results).unmarked = (node.refit results).unmarked := by
  rw [rebuild, refit, unmarked_mk, unmarked_mk]

/-- What transforming below a node comes to. It fails where the node or a visited part lacks something.
Else the node is kept if nothing was replaced in its parts, and is put together again if something was. -/
theorem transform_below_remade {one : Node → Except Thrown Transformed}
    (each : ∀ part ∈ node.parts, part.1.isVisited node.kind = true →
      Remade part.2.hasGap (rule.hits bindings (shade.under node) part.2) part.2
        (rule.mend bindings (shade.under node) part.2) (one part.2)) :
    Remade node.hasGap (rule.hitsBelow bindings shade node) node (rule.below bindings shade node)
      (transformBelow one node) := by
  obtain ⟨fails, gives⟩ := transform_children_remade each
  have unfolded : transformBelow one node =
      transformChildren node.kind one node.info.layout node.children >>= fun results =>
        if node.isIncomplete then .error incomplete else .ok (node.assemble results) := by
    rw [transformBelow]
    cases node.isIncomplete <;> rfl
  rw [has_gap_eq, parts]
  cases gap : (node.info.layout.zip node.children).any
      fun part => part.1.isVisited node.kind && part.2.hasGap with
  | true =>
    rw [Bool.or_true, unfolded, fails gap]
    exact ⟨fun _ => rfl, fun impossible => (by cases impossible)⟩
  | false =>
    obtain ⟨results, done, related⟩ := gives gap
    rw [Bool.or_false, unfolded, done]
    cases node.isIncomplete with
    | true => exact ⟨fun _ => rfl, fun impossible => (by cases impossible)⟩
    | false =>
      refine ⟨fun impossible => (by cases impossible), fun _ => ⟨_, rfl, ?_⟩⟩
      clear done unfolded gap fails gives
      have counted : (node.assemble results).replaced = 0 ↔
          rule.hitsBelow bindings shade node = false := by
        rw [replaced_assemble, hitsBelow, parts]
        generalize node.info.layout.zip node.children = parts at related ⊢
        induction related with
        | nil => simp
        | cons first _ inductionHypothesis =>
          rw [List.map_cons, List.sum_cons, Nat.add_eq_zero_iff, inductionHypothesis, first.2,
            List.any_cons, Bool.or_eq_false_iff]
      refine ⟨?_, counted, fun unhit => by rw [node_assemble, if_pos (counted.mpr unhit)]⟩
      rw [node_assemble, below]
      cases hit : rule.hitsBelow bindings shade node with
      | false => rw [if_pos (counted.mpr hit), if_neg Bool.false_ne_true]
      | true =>
        have replaced : (node.assemble results).replaced ≠ 0 := by
          rw [Ne, counted, hit]
          exact Bool.noConfusion
        rw [if_neg replaced, if_pos rfl, unmarked_rebuild]
        refine unmarked_forgets.refit node ?_
        rw [List.map_map, List.map_map, parts]
        clear counted replaced hit
        generalize node.info.layout.zip node.children = parts at related ⊢
        induction related with
        | nil => rfl
        | cons first _ inductionHypothesis =>
          rw [List.map_cons, List.map_cons, inductionHypothesis, Function.comp, Function.comp, first.1]

/-- The answers of a fix that looks names up in a file. -/
def answer (rule : Rule) (file : Node) (bindings : Bindings) (node : Node) : Option Node :=
  (rule.renewal (resolve file bindings) node).map (withArguments node)

/-- A rule that renews the arguments of a node neither adds a missing part nor takes one away: the
arguments it gives lack parts only where those it was given did. -/
theorem gap_given (lawful : rule.Lawful) {arguments : List Node}
    (renews : rule.renewal (resolveIn shade bindings) node = some arguments) :
    (withArguments node arguments).hasGap = node.hasGap := by
  have isApplied : isApplication node.kind = true := kind_of_renewal renews ▸ lawful.application
  have complete {other : Node} (same : other.kind = node.kind) : other.isIncomplete = false := by
    simp only [isApplication, Bool.or_eq_true, beq_iff_eq] at isApplied
    rw [isIncomplete, same]
    rcases isApplied with kind | kind <;> rw [kind] <;> rfl
  obtain ⟨exported, _, renewed⟩ := renew_of_renewal renews
  have replacement : (withArguments node arguments).isIncomplete = false := complete rfl
  rw [has_gap_eq, has_gap_eq node, replacement, complete rfl]
  exact congrArg (false || ·) (any_parts_given gap_transparent (·.isVisited node.kind) lawful renewed
    (visits_arguments isApplied))

/-- That a node was rebuilt does not show below it. The new arguments are the same; only the mark that
the node was rebuilt differs, and nothing below looks at it. -/
theorem below_with_arguments (isApplied : isApplication node.kind = true) (arguments : List Node) :
    (rule.below bindings shade (withArguments node arguments)).unmarked =
      (rule.below bindings shade (node.given arguments)).unmarked := by
  have outer : shade.under (withArguments node arguments) = shade := under_application isApplied
  have inner : shade.under (node.given arguments) = shade := under_application isApplied
  have hit : rule.hitsBelow bindings shade (withArguments node arguments) =
      rule.hitsBelow bindings shade (node.given arguments) := by
    rw [hitsBelow, hitsBelow, outer, inner]
    rfl
  rw [below, below, hit, outer, inner]
  split
  · rw [refit, refit, unmarked_mk, unmarked_mk]
    rfl
  · rw [withArguments, given, unmarked_mk, unmarked_mk]

/-- Where the visitor answers nothing, a transformation goes into the parts of the node. -/
theorem transform_node_kept {answer : Node → Option Node} (kept : answer node = none) :
    transformNode (m := Except Thrown) (fun node => .ok (answer node)) (fuel + 1) node =
      transformBelow (transformNode (fun node => .ok (answer node)) fuel) node := by
  rw [transformNode, kept]
  rfl

/-- Where the visitor answers with a node, a transformation goes into the parts of that node and counts
one replacement more. -/
theorem transform_node_replaced {answer : Node → Option Node} {replacement : Node}
    (given : answer node = some replacement) :
    transformNode (m := Except Thrown) (fun node => .ok (answer node)) (fuel + 1) node =
      (transformBelow (transformNode (m := Except Thrown) (fun node => .ok (answer node)) fuel)
        replacement).map
        fun result => { result with replaced := result.replaced + 1 } := by
  rw [transformNode, given]
  rfl

/-- A transformation by a rule, of a tree that is ready for it, mends the tree. The induction is on the
fuel; below a replacement the transformation goes on in what the rule put there. -/
theorem transform_ready (lawful : rule.Lawful) (ready : rule.Ready file bindings fuel shade node) :
    Remade node.hasGap (rule.hits bindings shade node) node (rule.mend bindings shade node)
      (transformNode (m := Except Thrown) (fun node => .ok (rule.answer file bindings node)) fuel node) := by
  induction fuel generalizing shade node with
  | zero => exact ready.elim
  | succ fuel inductionHypothesis =>
    obtain ⟨same, parts⟩ := ready
    have renewal := renewal_below lawful lawful bindings bindings shade node
    cases renews : rule.renewal (resolveIn shade bindings) node with
    | none =>
      rw [applied_none renews] at parts
      rw [renews, Option.map_none, Option.map_eq_none_iff] at renewal
      have kept : rule.answer file bindings node = none := by
        rw [answer, same, renews]
        rfl
      rw [transform_node_kept kept, hits_eq, renews, mend_eq, applied_none renewal]
      exact transform_below_remade fun part present visited =>
        inductionHypothesis (parts part present visited)
    | some arguments =>
      have isApplied : isApplication node.kind = true := kind_of_renewal renews ▸ lawful.application
      have given : rule.answer file bindings node = some (withArguments node arguments) := by
        rw [answer, same, renews]
        rfl
      rw [applied_some renews] at parts
      obtain ⟨more, moreRenews, belowGiven⟩ := below_given lawful lawful bindings renews
      have outer : shade.under (withArguments node arguments) = shade.under node := by
        rw [under_application isApplied]
        exact under_application isApplied
      have remade : Remade (withArguments node arguments).hasGap
          (rule.hitsBelow bindings shade (withArguments node arguments)) (withArguments node arguments)
          (rule.below bindings shade (withArguments node arguments))
          (transformBelow
            (transformNode (m := Except Thrown) (fun node => .ok (rule.answer file bindings node)) fuel)
            (withArguments node arguments)) := by
        refine transform_below_remade fun part present visited => ?_
        rw [outer]
        exact inductionHypothesis (parts part present visited)
      rw [gap_given lawful renews] at remade
      rw [transform_node_replaced given, hits_eq, renews]
      refine ⟨fun gap => ?_, fun complete => ?_⟩
      · rw [remade.fails gap]
        rfl
      · obtain ⟨result, done, same, _, _⟩ := remade.gives complete
        refine ⟨{ result with replaced := result.replaced + 1 }, ?_, ?_, by simp, by simp⟩
        · rw [done]
          rfl
        · rw [mend_eq, applied_some moreRenews, ← belowGiven, ← below_with_arguments isApplied]
          exact same

/-- A transformation of a whole file by a rule mends the file, bound by nothing around it. The file
itself is no call or construction, so that the transformation starts below it; and what it may go down is
four times its depth, which is enough. -/
theorem transform_file (lawful : rule.Lawful) {root : Node} (whole : root.kind = .sourceFile)
    (bindings : Bindings) :
    Remade (root.locate []).hasGap (rule.hits bindings (fun _ => false) (root.locate []))
      (root.locate []) (rule.mend bindings (fun _ => false) (root.locate []))
      ((root.locate []).transform (m := Except Thrown)
        fun node => .ok (rule.answer (root.locate []) bindings node)) := by
  have plain : isApplication (root.locate []).kind = false := by
    rw [kind_locate, whole]
    rfl
  have none := renewal_plain lawful plain
  have kept : rule.answer (root.locate []) bindings (root.locate []) = .none := by
    rw [answer, none]
    rfl
  have below : (rule.below bindings (fun _ => false) (root.locate [])).kind ≠ rule.kind := by
    intro same
    rw [kind_below] at same
    rw [same, lawful.application] at plain
    cases plain
  have unfolded : (root.locate []).transform (m := Except Thrown)
        (fun node => .ok (rule.answer (root.locate []) bindings node)) =
      transformBelow (transformNode (m := Except Thrown)
        (fun node => .ok (rule.answer (root.locate []) bindings node)) (root.locate []).transformBound)
        (root.locate []) := by
    rw [Node.transform, Node.transformWithin, kept]
    rfl
  rw [unfolded, hits_eq, none, mend_eq, applied_other below]
  refine transform_below_remade fun part present _ => transform_ready lawful ?_
  have inside := mem_of_part present
  refine ready_at lawful ((At.root _).child inside) ?_
  have shallower := depth_lt_of_mem inside
  rw [transformBound]
  omega

/-- Where a file binds no name of a module, no rule has anything to do. Without bindings no name refers
to an export. The induction is on the tree. -/
theorem hits_unbound (empty : bindings.isEmpty = true) : ∀ (shade : Shade) (node : Node),
    rule.hits bindings shade node = false
  | shade, node => by
    have nothing (expression : Node) : resolveIn shade bindings expression = none := by
      simp only [Bindings.isEmpty, Bool.and_eq_true, List.isEmpty_iff] at empty
      unfold resolveIn
      dsimp only
      split
      · split <;> simp [empty.1]
      · simp [empty.2]
    have here : rule.renewal (resolveIn shade bindings) node = none := by
      rw [renewal]
      split
      · cases node.child? .expression with
        | none => rfl
        | some callee => rw [Option.bind_some, nothing]; rfl
      · rfl
    rw [hits_eq, here, hitsBelow]
    refine List.any_eq_false.mpr fun part present => ?_
    have smaller : part.2.size < node.size := size_lt_of_mem (mem_of_part present)
    rw [hits_unbound empty _ part.2, Bool.and_false]
    exact Bool.false_ne_true
termination_by _ node => node.size

end Codemod.Fix.Rule
