import Codemod.Proofs.Visiting

/-!
# What a transformation asks, counts and keeps

A transformation calls its visitor on a node and then goes through the children of the node that now stands
there, one after another: those of the replacement when there is one. The visitor may do something with a
state at each call, and fail; so the calls come in an order, and a traversal leads from a state to a state.

Whether a node comes out as the very node that went in is decided from below: it does when the visitor
put nothing in its place and each of its children does. The transformation decides it by counting what was
replaced. The two come to the same, and what is not changed is left where it is.
-/
namespace Codemod.Syntax.Node

variable {σ : Type}

/-- A computation on a state that may fail. -/
abbrev Stateful (σ : Type) := ExceptT Thrown (StateM σ)

/-- A call of a visitor: the node that it was given, and what it put in the place of that, if
anything. -/
structure Call where
  node : Node
  replacement : Option Node

/-- The number of calls that put another node in the place of theirs. -/
def replacements (calls : List Call) : Nat :=
  calls.countP (·.replacement.isSome)

/-- What came out for a node, and whether it is the very node that went in. -/
structure Made where
  node : Node
  same : Bool

section

variable (visit : Visitor (Stateful σ))

mutual

/-- A traversal of a node from a state to a state: the visitor is called on the node, and then the
children of the node that stands there are traversed. -/
inductive Traverses : σ → Node → List Call → Made → σ → Prop where
  | kept {start asked stop : σ} {node : Node} {calls : List Call} {made : Made}
      (called : (visit node).run start = (.ok none, asked))
      (below : TraversesBelow asked node calls made stop) :
    Traverses start node ({ node, replacement := none } :: calls) made stop
  | replaced {start asked stop : σ} {node replacement : Node} {calls : List Call} {made : Made}
      (called : (visit node).run start = (.ok (some replacement), asked))
      (below : TraversesBelow asked replacement calls made stop) :
    Traverses start node ({ node, replacement := some replacement } :: calls)
      { node := made.node, same := false } stop

/-- A traversal of the children of a node, which is put together again unless each of them is still
the same. -/
inductive TraversesBelow : σ → Node → List Call → Made → σ → Prop where
  | shared {start stop : σ} {node : Node} {calls : List Call} {results : List Made}
      (complete : node.isIncomplete = false)
      (parts : TraversesParts start node.kind node.parts calls results stop)
      (all : ∀ result ∈ results, result.same = true) :
    TraversesBelow start node calls { node, same := true } stop
  | rebuilt {start stop : σ} {node : Node} {calls : List Call} {results : List Made}
      (complete : node.isIncomplete = false)
      (parts : TraversesParts start node.kind node.parts calls results stop)
      (changed : ∃ result ∈ results, result.same = false) :
    TraversesBelow start node calls { node := node.rebuild (results.map (·.node)), same := false } stop

/-- A traversal of the parts of a node of a kind in their order. Those that are not visited stay. -/
inductive TraversesParts : σ → Kind → List (Role × Node) → List Call → List Made → σ → Prop where
  | none (state : σ) (kind : Kind) : TraversesParts state kind [] [] [] state
  | visited {start between stop : σ} {kind : Kind} {role : Role} {node : Node}
      {parts : List (Role × Node)} {calls more : List Call} {made : Made} {results : List Made}
      (entered : role.isVisited kind = true) (first : Traverses start node calls made between)
      (rest : TraversesParts between kind parts more results stop) :
    TraversesParts start kind ((role, node) :: parts) (calls ++ more) (made :: results) stop
  | passed {start stop : σ} {kind : Kind} {role : Role} {node : Node} {parts : List (Role × Node)}
      {calls : List Call} {results : List Made} (skipped : role.isVisited kind = false)
      (rest : TraversesParts start kind parts calls results stop) :
    TraversesParts start kind ((role, node) :: parts) calls ({ node, same := true } :: results) stop

end

/-- A traversal of a whole tree with the number of nodes that were replaced. What is put in the place of
the root is taken only if it is a whole tree itself, and does not count otherwise. -/
inductive TraversesTree (start : σ) (root : Node) : List Call → Made → Nat → σ → Prop where
  | kept {asked stop : σ} {calls : List Call} {made : Made}
      (called : (visit root).run start = (.ok none, asked))
      (below : TraversesBelow visit asked root calls made stop) :
    TraversesTree start root ({ node := root, replacement := none } :: calls) made (replacements calls) stop
  | replaced {asked stop : σ} {replacement : Node} {calls : List Call} {made : Made}
      (called : (visit root).run start = (.ok (some replacement), asked))
      (whole : replacement.kind = .sourceFile)
      (below : TraversesBelow visit asked replacement calls made stop) :
    TraversesTree start root ({ node := root, replacement := some replacement } :: calls)
      { node := made.node, same := false } (replacements calls + 1) stop
  | ignored {asked stop : σ} {replacement : Node} {calls : List Call} {made : Made}
      (called : (visit root).run start = (.ok (some replacement), asked))
      (other : replacement.kind ≠ .sourceFile)
      (below : TraversesBelow visit asked root calls made stop) :
    TraversesTree start root ({ node := root, replacement := some replacement } :: calls) made
      (replacements calls) stop

end

section

variable {visit : Visitor (Stateful σ)}

mutual

/-- A node comes out as itself exactly when nothing was replaced in it, and is unchanged then. -/
theorem Traverses.accounts : ∀ {start stop : σ} {node : Node} {calls : List Call} {made : Made},
    Traverses visit start node calls made stop →
      (made.same = true ↔ replacements calls = 0) ∧ (made.same = true → made.node = node)
  | _, _, _, _, _, .kept _ below => by
    rw [replacements, List.countP_cons]
    exact below.accounts
  | _, _, _, _, _, .replaced _ _ => by
    simp [replacements]

/-- Below a node nothing was replaced exactly if the very node comes out. The account is kept by
induction along the traversal, with the one for the parts. -/
theorem TraversesBelow.accounts : ∀ {start stop : σ} {node : Node} {calls : List Call} {made : Made},
    TraversesBelow visit start node calls made stop →
      (made.same = true ↔ replacements calls = 0) ∧ (made.same = true → made.node = node)
  | _, _, _, _, _, .shared _ parts all => by
    exact ⟨iff_of_true rfl (parts.accounts.mp all), fun _ => rfl⟩
  | _, _, _, _, _, .rebuilt _ parts changed => by
    obtain ⟨result, present, other⟩ := changed
    refine ⟨iff_of_false Bool.false_ne_true fun none => ?_, fun impossible => by cases impossible⟩
    rw [parts.accounts.mpr none result present] at other
    cases other

/-- All parts come out the same exactly if nothing was replaced in any of them. -/
theorem TraversesParts.accounts : ∀ {start stop : σ} {kind : Kind} {parts : List (Role × Node)}
    {calls : List Call} {results : List Made}, TraversesParts visit start kind parts calls results stop →
      ((∀ result ∈ results, result.same = true) ↔ replacements calls = 0)
  | _, _, _, _, _, _, .none _ _ => by
    simp [replacements]
  | _, _, _, _, _, _, .visited _ first rest => by
    rw [replacements, List.countP_append, Nat.add_eq_zero_iff, List.forall_mem_cons]
    exact and_congr first.accounts.1 rest.accounts
  | _, _, _, _, _, _, .passed _ rest => by
    rw [List.forall_mem_cons]
    exact (and_iff_right rfl).trans rest.accounts

end

/-- The counted result of a node that was traversed. -/
def Made.counted (made : Made) (calls : List Call) : Transformed :=
  { node := made.node, replaced := replacements calls }

/-- The replacements of calls made one after the other add up. -/
theorem replacements_append (first second : List Call) :
    replacements (first ++ second) = replacements first + replacements second :=
  List.countP_append

/-- The results for children come from a traversal of the parts, if that holds of each child. The
induction is on the roles: a part that is not entered makes no call and comes out as it is, and the calls
of one that is entered come before those of the rest. -/
theorem traverses_of_children {one : Node → Stateful σ Transformed}
    (each : ∀ {child : Node} {start stop : σ} {result : Transformed},
      (one child).run start = (.ok result, stop) → ∃ calls made,
        Traverses visit start child calls made stop ∧ result = made.counted calls)
    {kind : Kind} {roles : List Role} {children : List Node} {start stop : σ}
    {results : List Transformed}
    (ran : (transformChildren kind one roles children).run start = (.ok results, stop)) :
    ∃ calls mades, TraversesParts visit start kind (roles.zip children) calls mades stop ∧
      results.map (·.node) = mades.map (·.node) ∧
        (results.map (·.replaced)).sum = replacements calls := by
  induction roles generalizing children start results with
  | nil =>
    cases ran
    exact ⟨[], [], .none _ _, rfl, rfl⟩
  | cons role roles inductionHypothesis =>
    cases children with
    | nil =>
      cases ran
      exact ⟨[], [], .none _ _, rfl, rfl⟩
    | cons child rest =>
      obtain ⟨result, left, more, childRan, restRan, rfl⟩ := Edit.transform_children_ok ran
      obtain ⟨calls, mades, restTraversed, nodes, counted⟩ := inductionHypothesis restRan
      rw [List.map_cons, List.map_cons, List.sum_cons, nodes, counted]
      cases entered : role.isVisited kind with
      | true =>
        rw [if_pos entered] at childRan
        obtain ⟨first, made, childTraversed, rfl⟩ := each childRan
        exact ⟨first ++ calls, made :: mades, .visited entered childTraversed restTraversed, rfl,
          (replacements_append first calls).symm⟩
      | false =>
        rw [if_neg (by rw [entered]; exact Bool.false_ne_true)] at childRan
        cases childRan
        exact ⟨calls, _, .passed entered restTraversed, rfl, Nat.zero_add _⟩

/-- What is put together around results of children that were counted. -/
theorem assemble_counted {node : Node} {results : List Transformed} {mades : List Made} {calls : List Call}
    (nodes : results.map (·.node) = mades.map (·.node))
    (counted : (results.map (·.replaced)).sum = replacements calls) :
    node.assemble results =
      { node := if replacements calls = 0 then node else node.rebuild (mades.map (·.node))
        replaced := replacements calls } := by
  rw [← nodes, ← counted, ← replaced_assemble node results, ← node_assemble]

/-- What comes out below a node comes from a traversal of its children: the count is zero exactly when
each of them is still the same. -/
theorem traverses_of_below {one : Node → Stateful σ Transformed}
    (each : ∀ {child : Node} {start stop : σ} {result : Transformed},
      (one child).run start = (.ok result, stop) → ∃ calls made,
        Traverses visit start child calls made stop ∧ result = made.counted calls)
    {node : Node} {start stop : σ} {result : Transformed}
    (ran : (transformBelow one node).run start = (.ok result, stop)) : ∃ calls made,
      TraversesBelow visit start node calls made stop ∧ result = made.counted calls := by
  obtain ⟨results, childrenRan, complete, rfl⟩ := Edit.transform_below_ok ran
  obtain ⟨calls, mades, parts, nodes, counted⟩ := traverses_of_children each childrenRan
  rw [assemble_counted nodes counted]
  by_cases none : replacements calls = 0
  · rw [if_pos none]
    exact ⟨calls, _, .shared complete parts (parts.accounts.mpr none), rfl⟩
  · rw [if_neg none]
    refine ⟨calls, _, .rebuilt complete parts ?_, rfl⟩
    by_contra unchanged
    refine none (parts.accounts.mp fun result present => ?_)
    by_contra other
    exact unchanged ⟨result, present, Bool.not_eq_true _ ▸ other⟩

/-- What a transformation comes to for a node comes from a traversal. The induction is on the number of
nodes within one another that it may enter. -/
theorem traverses_of_run {fuel : Nat} {node : Node} {start stop : σ} {result : Transformed}
    (ran : (transformNode visit fuel node).run start = (.ok result, stop)) :
    ∃ calls made, Traverses visit start node calls made stop ∧ result = made.counted calls := by
  induction fuel generalizing node start stop result with
  | zero => cases ran
  | succ fuel inductionHypothesis =>
    rw [transformNode] at ran
    obtain ⟨answer, asked, called, continued⟩ := (Edit.bind_ok _ _ _ _ _).mp ran
    cases answer with
    | none =>
      obtain ⟨calls, made, below, rfl⟩ := traverses_of_below inductionHypothesis continued
      refine ⟨_, made, .kept called below, ?_⟩
      rw [Made.counted, Made.counted, replacements, replacements, List.countP_cons]
      rfl
    | some replacement =>
      obtain ⟨inner, left, belowRan, counted⟩ := (Edit.bind_ok _ _ _ _ _).mp continued
      obtain ⟨calls, made, below, rfl⟩ := traverses_of_below inductionHypothesis belowRan
      cases counted
      refine ⟨_, _, .replaced called below, ?_⟩
      rw [Made.counted, Made.counted, replacements, replacements, List.countP_cons]
      rfl

/-- The results for children in a row. What the first child comes to, entered or not, is put before what
the rest come to. -/
theorem run_children {kind : Kind} {one : Node → Stateful σ Transformed} {role : Role} {roles : List Role}
    {child : Node} {rest : List Node} {start left stop : σ} {result : Transformed}
    {results : List Transformed}
    (first : (if role.isVisited kind then one child
      else pure { node := child, replaced := 0 }).run start = (.ok result, left))
    (others : (transformChildren kind one roles rest).run left = (.ok results, stop)) :
    (transformChildren kind one (role :: roles) (child :: rest)).run start =
      (.ok (result :: results), stop) := by
  rw [transformChildren]
  split
  all_goals
    rename_i enters
    simp only [enters, if_true, Bool.false_eq_true, if_false] at first
    rw [Edit.run_bind, first]
    dsimp only
    rw [Edit.run_bind, others]
    rfl

mutual

/-- A node that can be traversed is transformed as it is traversed, if the number of nodes within one
another is not bounded too tightly. -/
theorem Traverses.runs : ∀ {start stop : σ} {node : Node} {calls : List Call} {made : Made},
    Traverses visit start node calls made stop → ∃ least, ∀ fuel, least ≤ fuel →
      (transformNode visit fuel node).run start = (.ok (made.counted calls), stop)
  | start, stop, node, _, made, .kept called below => by
    obtain ⟨least, runs⟩ := below.runs
    refine ⟨least + 1, fun fuel enough => ?_⟩
    obtain ⟨less, rfl⟩ := Nat.exists_eq_add_of_le' (Nat.le_trans (Nat.le_add_left 1 least) enough)
    rw [transformNode, Edit.run_bind, called]
    refine (runs less (by omega)).trans ?_
    rw [Made.counted, Made.counted, replacements, replacements, List.countP_cons]
    rfl
  | start, stop, node, _, _, .replaced called below => by
    obtain ⟨least, runs⟩ := below.runs
    refine ⟨least + 1, fun fuel enough => ?_⟩
    obtain ⟨less, rfl⟩ := Nat.exists_eq_add_of_le' (Nat.le_trans (Nat.le_add_left 1 least) enough)
    rw [transformNode, Edit.run_bind, called]
    dsimp only
    rw [Edit.run_bind, runs less (by omega)]
    rw [Made.counted, Made.counted, replacements, replacements, List.countP_cons]
    rfl

/-- Any traversal below a node is one that runs, with enough nodes allowed within one another, and what
it counts is the number of calls that replaced their node. -/
theorem TraversesBelow.runs : ∀ {start stop : σ} {node : Node} {calls : List Call} {made : Made},
    TraversesBelow visit start node calls made stop → ∃ least, ∀ fuel, least ≤ fuel →
      (transformBelow (transformNode visit fuel) node).run start = (.ok (made.counted calls), stop)
  | _, _, node, _, _, .shared complete parts all => by
    obtain ⟨least, runs⟩ := parts.runs rfl
    refine ⟨least, fun fuel enough => ?_⟩
    obtain ⟨results, childrenRan, nodes, counted⟩ := runs fuel enough
    rw [transformBelow, Edit.run_bind, childrenRan]
    dsimp only
    rw [complete, if_neg Bool.false_ne_true, assemble_counted nodes counted, if_pos (parts.accounts.mp all)]
    rfl
  | _, _, node, _, _, .rebuilt complete parts changed => by
    obtain ⟨least, runs⟩ := parts.runs rfl
    refine ⟨least, fun fuel enough => ?_⟩
    obtain ⟨results, childrenRan, nodes, counted⟩ := runs fuel enough
    have some : ¬replacements _ = 0 := fun none => by
      obtain ⟨result, present, other⟩ := changed
      rw [parts.accounts.mpr none result present] at other
      cases other
    rw [transformBelow, Edit.run_bind, childrenRan]
    dsimp only
    rw [complete, if_neg Bool.false_ne_true, assemble_counted nodes counted, if_neg some]
    rfl

/-- Any traversal of parts is one that runs. The bound has to be enough for all of the parts, so the
least bound for the first is raised to that for the rest. -/
theorem TraversesParts.runs : ∀ {start stop : σ} {kind : Kind} {parts : List (Role × Node)}
    {calls : List Call} {mades : List Made}, TraversesParts visit start kind parts calls mades stop →
      ∀ {roles : List Role} {children : List Node}, roles.zip children = parts →
        ∃ least, ∀ fuel, least ≤ fuel → ∃ results,
          (transformChildren kind (transformNode visit fuel) roles children).run start =
              (.ok results, stop) ∧
            results.map (·.node) = mades.map (·.node) ∧
              (results.map (·.replaced)).sum = replacements calls
  | state, _, kind, _, _, _, .none _ _, roles, children, zipped => by
    refine ⟨0, fun fuel _ => ⟨[], ?_, rfl, rfl⟩⟩
    rcases List.zip_eq_nil_iff.mp zipped with rfl | rfl
    · rfl
    · cases roles <;> rfl
  | _, _, _, _, _, _, .visited entered first rest, _, _, zipped => by
    obtain ⟨roles, children, rfl, rfl, others⟩ := List.zip_eq_cons_iff.mp zipped
    obtain ⟨least, runs⟩ := first.runs
    obtain ⟨more, restRuns⟩ := rest.runs others.symm
    refine ⟨max least more, fun fuel enough => ?_⟩
    obtain ⟨results, restRan, nodes, counted⟩ := restRuns fuel (by omega)
    refine ⟨_, run_children (by rw [if_pos entered]; exact runs fuel (by omega)) restRan, ?_, ?_⟩
    · rw [List.map_cons, List.map_cons, nodes]
      rfl
    · rw [List.map_cons, List.sum_cons, counted, replacements_append]
      rfl
  | _, _, _, _, _, _, .passed skipped rest, _, _, zipped => by
    obtain ⟨roles, children, rfl, rfl, others⟩ := List.zip_eq_cons_iff.mp zipped
    obtain ⟨more, restRuns⟩ := rest.runs others.symm
    refine ⟨more, fun fuel enough => ?_⟩
    obtain ⟨results, restRan, nodes, counted⟩ := restRuns fuel enough
    refine ⟨_, run_children (by rw [skipped, if_neg Bool.false_ne_true]; rfl) restRan, ?_, ?_⟩
    · rw [List.map_cons, List.map_cons, nodes]
    · rw [List.map_cons, List.sum_cons, counted, Nat.zero_add]

end

/-- A traversal of a whole tree is what a transformation of it comes to. The three cases are those of the
call for the root: it keeps the root, puts a whole file in its place, or answers with a node that is no
file, which is ignored. -/
theorem traverses_tree_of_run {bound : Nat} {root : Node} {start stop : σ} {result : Transformed}
    (ran : (root.transformWithin bound visit).run start = (.ok result, stop)) : ∃ calls made,
      TraversesTree visit start root calls made result.replaced stop ∧ made.node = result.node := by
  rw [transformWithin] at ran
  obtain ⟨answer, asked, called, continued⟩ := (Edit.bind_ok _ _ _ _ _).mp ran
  cases answer with
  | none =>
    obtain ⟨calls, made, below, rfl⟩ := traverses_of_below traverses_of_run continued
    exact ⟨_, made, .kept called below, rfl⟩
  | some replacement =>
    dsimp only at continued
    split at continued
    · rename_i whole
      obtain ⟨inner, left, belowRan, counted⟩ := (Edit.bind_ok _ _ _ _ _).mp continued
      obtain ⟨calls, made, below, rfl⟩ := traverses_of_below traverses_of_run belowRan
      cases counted
      exact ⟨_, _, .replaced called (eq_of_beq whole) below, rfl⟩
    · rename_i other
      obtain ⟨calls, made, below, rfl⟩ := traverses_of_below traverses_of_run continued
      exact ⟨_, made, .ignored called (by simpa using other) below, rfl⟩

/-- A whole tree that can be traversed is transformed as it is traversed, if the number of nodes within
one another is not bounded too tightly. -/
theorem TraversesTree.runs {root : Node} {start stop : σ} {calls : List Call} {made : Made}
    {replaced : Nat} (traverses : TraversesTree visit start root calls made replaced stop) :
    ∃ least, ∀ bound, least ≤ bound →
      (root.transformWithin bound visit).run start = (.ok { node := made.node, replaced }, stop) := by
  cases traverses with
  | kept called below =>
    obtain ⟨least, runs⟩ := below.runs
    refine ⟨least, fun bound enough => ?_⟩
    rw [transformWithin, Edit.run_bind, called]
    exact runs bound enough
  | replaced called whole below =>
    obtain ⟨least, runs⟩ := below.runs
    refine ⟨least, fun bound enough => ?_⟩
    rw [transformWithin, Edit.run_bind, called]
    dsimp only
    rw [whole, if_pos (beq_self_eq_true _), Edit.run_bind, runs bound enough]
    rfl
  | ignored called other below =>
    obtain ⟨least, runs⟩ := below.runs
    refine ⟨least, fun bound enough => ?_⟩
    rw [transformWithin, Edit.run_bind, called]
    dsimp only
    rw [if_neg (by simpa using other)]
    exact runs bound enough

/-- A whole tree comes out as itself exactly when nothing was replaced, and is unchanged then. -/
theorem TraversesTree.accounts {root : Node} {start stop : σ} {calls : List Call} {made : Made}
    {replaced : Nat} (traverses : TraversesTree visit start root calls made replaced stop) :
    (made.same = true ↔ replaced = 0) ∧ (made.same = true → made.node = root) := by
  cases traverses with
  | kept called below => exact below.accounts
  | replaced called whole below => simp
  | ignored called other below => exact below.accounts

end

/-- A transformation of a whole tree that comes to an end calls its visitor as a traversal does: on the root
first, and after a node on the children of the node that stands there then, in their order. A bound that
is great enough does not matter. The number that it gives is that of the calls which put another node in the
place of theirs. The root comes out as the very root that went in exactly when this number is zero, and every
node in which nothing was replaced comes out as itself. -/
theorem transform_accounts (visit : Visitor (Stateful σ)) (root : Node) :
    (∀ start stop result,
      (∃ bound, (root.transformWithin bound visit).run start = (.ok result, stop)) ↔
        ∃ calls same, TraversesTree visit start root calls { node := result.node, same }
          result.replaced stop) ∧
    (∀ start stop calls made replaced, TraversesTree visit start root calls made replaced stop →
      (∃ least, ∀ bound, least ≤ bound →
        (root.transformWithin bound visit).run start = (.ok { node := made.node, replaced }, stop)) ∧
      (made.same = true ↔ replaced = 0) ∧ (made.same = true → made.node = root)) ∧
    ∀ start stop node calls made, Traverses visit start node calls made stop →
      (made.same = true ↔ replacements calls = 0) ∧ (made.same = true → made.node = node) := by
  refine ⟨fun start stop result => ⟨?_, ?_⟩, ?_, ?_⟩
  · rintro ⟨bound, ran⟩
    obtain ⟨calls, ⟨node, same⟩, traverses, rfl⟩ := traverses_tree_of_run ran
    exact ⟨calls, same, traverses⟩
  · rintro ⟨calls, same, traverses⟩
    obtain ⟨least, runs⟩ := traverses.runs
    exact ⟨least, runs least (Nat.le_refl least)⟩
  · intro start stop calls made replaced traverses
    exact ⟨traverses.runs, traverses.accounts⟩
  · intro start stop node calls made traverses
    exact traverses.accounts

/-- A visitor that gives a name in place of another, and counts its calls. -/
def relabelling : Visitor (Stateful Nat) := fun node => do
  modify (· + 1)
  return node.renamed "x" "y"

/-- A file with two names. -/
def twoNames : Node :=
  make { kind := .sourceFile } [
    .one .statements (make { kind := .expressionStatement } [.one .expression (identifier "a")]),
    .one .statements (make { kind := .expressionStatement } [.one .expression (identifier "x")]),
    .one .endOfFileToken (leaf { kind := .endOfFileToken })]

/-- In that file five nodes are visited, the token at its end is not, and one node is replaced; so the root
does not come out as itself. -/
theorem two_names_accounted : ∃ calls made,
    (twoNames.transform relabelling).run 0 = (.ok { node := made.node, replaced := 1 }, 5) ∧
      TraversesTree relabelling 0 twoNames calls made 1 5 ∧ made.same = false := by
  have counted : ((twoNames.transform relabelling).run 0).2 = 5 ∧
      ((twoNames.transform relabelling).run 0).1.toOption.map (·.replaced) = some 1 := by
    decide +kernel
  rcases ran : (twoNames.transform relabelling).run 0 with ⟨thrown | ⟨node, replaced⟩, stop⟩
  · rw [ran] at counted
    cases counted.2
  · rw [ran] at counted
    obtain ⟨rfl, once⟩ := counted
    cases once
    obtain ⟨traversed, accounted, _⟩ := transform_accounts relabelling twoNames
    obtain ⟨calls, same, traverses⟩ := (traversed 0 5 _).mp ⟨twoNames.transformBound, ran⟩
    obtain ⟨_, unchanged, _⟩ := accounted _ _ _ _ _ traverses
    exact ⟨calls, _, rfl, traverses, Bool.eq_false_iff.mpr fun kept => Nat.one_ne_zero (unchanged.mp kept)⟩

end Codemod.Syntax.Node

namespace Codemod.Edit

open Syntax Node

/-- Transforming the tree of a draft puts another tree in its place exactly when the root does not come
out as itself, and this is what is answered. -/
theorem transform_tells {visit : Visitor Edit} {draft left : Draft} {answer : Bool}
    (ran : (Edit.transform visit).run draft = (.ok answer, left)) :
    ∃ calls made replaced middle, TraversesTree visit draft draft.root calls made replaced middle ∧
      answer = !made.same ∧ left = if made.same then middle else middle.replaceRoot made.node := by
  rw [Edit.transform, run_reading] at ran
  obtain ⟨result, middle, rootRan, continued⟩ := (bind_ok _ _ _ _ _).mp ran
  obtain ⟨calls, made, traverses, node⟩ := traverses_tree_of_run rootRan
  have same := traverses.accounts.1
  refine ⟨calls, made, result.replaced, middle, traverses, ?_⟩
  by_cases none : result.replaced = 0
  · rw [if_pos none] at continued
    cases continued
    rw [same.mpr none]
    exact ⟨rfl, rfl⟩
  · rw [if_neg none] at continued
    cases continued
    rw [Bool.eq_false_iff.mpr fun kept => none (same.mp kept), node]
    exact ⟨rfl, rfl⟩

end Codemod.Edit
