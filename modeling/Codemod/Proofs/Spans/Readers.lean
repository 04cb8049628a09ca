import Codemod.Grammar.Bindings

/-!
# Readers that give spans

A node that was read has a span, and so has every node below it: a reader makes
nodes only where the tokens in hand say where they start and stop. It puts arguments
after all other parts of a node, as they stand in the text. A reader that
is put together from others spans what it gives when the others do, so the facts
about readers are instances, each named for its reader and found along its text. A
long reader is gone through step by step, and where two ways through it meet again,
what comes after is looked at once for both.

What holds no node has nothing to span. Tests, skipped tokens and complaints
therefore need no instance of their own.
-/
namespace Codemod.Syntax

/-- After arguments come only arguments. -/
def ArgumentsLast (layout : List Role) : Prop :=
  layout.Pairwise fun first second => first = .arguments → second = .arguments

/-- A node with a span, its arguments last, all of whose descendants are such nodes. -/
inductive Node.Spanned : Node → Prop where
  | mk {info : Info} {children : List Node} (own : info.span.isSome = true)
      (arranged : ArgumentsLast info.layout) (below : ∀ child ∈ children, Spanned child) :
    Spanned (.mk info children)

/-- A node all of whose nodes have spans has one itself. -/
theorem Node.Spanned.own {node : Node} (spanned : node.Spanned) : node.info.span.isSome = true := by
  obtain ⟨own, -, -⟩ := spanned
  exact own

/-- A node all of whose nodes have spans has its arguments last. -/
theorem Node.Spanned.arranged {node : Node} (spanned : node.Spanned) : ArgumentsLast node.info.layout := by
  obtain ⟨-, arranged, -⟩ := spanned
  exact arranged

/-- What stands in a node all of whose nodes have spans is such a node. -/
theorem Node.Spanned.child {node child : Node} (spanned : node.Spanned)
    (present : child ∈ node.children) : child.Spanned := by
  obtain ⟨-, -, below⟩ := spanned
  exact below child present

end Codemod.Syntax

namespace Codemod.Grammar

open Syntax

/-! ## Values -/

/-- Values that hold nodes. -/
class HasNodes (α : Type) where
  /-- The nodes that a value holds. -/
  nodes : α → List Node

open HasNodes

instance : HasNodes Node := ⟨fun node => [node]⟩
instance : HasNodes NodeList := ⟨NodeList.nodes⟩
instance : HasNodes Part := ⟨Part.nodes⟩
instance {α : Type} [HasNodes α] : HasNodes (Option α) := ⟨fun found => found.toList.flatMap nodes⟩
instance {α : Type} [HasNodes α] : HasNodes (List α) := ⟨fun values => values.flatMap nodes⟩
instance {α β : Type} [HasNodes α] [HasNodes β] : HasNodes (α × β) :=
  ⟨fun pair => nodes pair.1 ++ nodes pair.2⟩
instance {α β : Type} [HasNodes α] [HasNodes β] : HasNodes (α ⊕ β) := ⟨Sum.elim nodes nodes⟩

instance : HasNodes Unit := ⟨fun _ => []⟩
instance : HasNodes Bool := ⟨fun _ => []⟩
instance : HasNodes Nat := ⟨fun _ => []⟩
instance : HasNodes String := ⟨fun _ => []⟩
instance : HasNodes Kind := ⟨fun _ => []⟩
instance : HasNodes Span := ⟨fun _ => []⟩
instance : HasNodes State := ⟨fun _ => []⟩

/-- Values that hold no nodes. -/
class Nodeless (α : Type) [HasNodes α] : Prop where
  none : ∀ value : α, nodes value = []

instance nodeless_unit : Nodeless Unit := ⟨fun _ => rfl⟩
instance nodeless_bool : Nodeless Bool := ⟨fun _ => rfl⟩
instance nodeless_nat : Nodeless Nat := ⟨fun _ => rfl⟩
instance nodeless_string : Nodeless String := ⟨fun _ => rfl⟩
instance nodeless_kind : Nodeless Kind := ⟨fun _ => rfl⟩
instance nodeless_span : Nodeless Span := ⟨fun _ => rfl⟩
instance nodeless_state : Nodeless State := ⟨fun _ => rfl⟩
instance nodeless_option {α : Type} [HasNodes α] [Nodeless α] : Nodeless (Option α) :=
  ⟨fun found => by cases found <;> simp [nodes, Nodeless.none]⟩

/-- A value all of whose nodes have spans. -/
class Spanned {α : Type} [HasNodes α] (value : α) : Prop where
  spans : ∀ node ∈ nodes value, node.Spanned

/-- A node by itself. -/
theorem Spanned.node {node : Node} (spanned : Spanned node) : node.Spanned :=
  spanned.spans node (List.mem_singleton.mpr rfl)

/-- As a value, a node holds itself and nothing else. -/
theorem Spanned.of_node {node : Node} (spanned : node.Spanned) : Spanned node :=
  ⟨fun _ same => by cases List.mem_singleton.mp same; exact spanned⟩

/-- A list of nodes holds its members. -/
theorem mem_nodes_list {values : List Node} {node : Node} : node ∈ nodes values ↔ node ∈ values := by
  simp [nodes]

/-- The members of a list with spans have spans. -/
theorem Spanned.mem {values : List Node} (spanned : Spanned values) {node : Node}
    (present : node ∈ values) : Spanned node :=
  .of_node (spanned.spans node (mem_nodes_list.mpr present))

/-- A list has spans when its members do. -/
theorem Spanned.of_mem {values : List Node} (spanned : ∀ node ∈ values, Spanned node) :
    Spanned values :=
  ⟨fun node present => (spanned node (mem_nodes_list.mp present)).node⟩

section

variable {α β : Type} [HasNodes α] [HasNodes β]

instance spanned_nodeless [Nodeless α] (value : α) : Spanned value :=
  ⟨by simp [Nodeless.none]⟩

instance spanned_value (value : { value : α // Spanned value }) : Spanned value.1 :=
  value.2

instance spanned_none : Spanned (none : Option α) :=
  ⟨by simp [nodes]⟩

instance spanned_some (value : α) [spanned : Spanned value] : Spanned (some value) :=
  ⟨by simpa [nodes] using spanned.spans⟩

/-- What an optional value holds has spans when the optional value does. -/
theorem Spanned.of_some {value : α} (spanned : Spanned (some value)) : Spanned value :=
  ⟨by simpa [nodes] using spanned.spans⟩

instance spanned_get_default (found : Option α) (value : α) [present : Spanned found]
    [absent : Spanned value] :
    Spanned (found.getD value) := by
  cases found with
  | none => exact absent
  | some _ => exact ⟨by simpa [nodes] using present.spans⟩

instance spanned_nil : Spanned ([] : List α) :=
  ⟨by simp [nodes]⟩

instance spanned_cons (value : α) (rest : List α) [first : Spanned value] [later : Spanned rest] :
    Spanned (value :: rest) :=
  ⟨by
    intro node present
    rcases List.mem_append.mp present with here | there
    · exact first.spans node here
    · exact later.spans node there⟩

instance spanned_reverse (values : List α) [spanned : Spanned values] : Spanned values.reverse :=
  ⟨by simpa [nodes] using spanned.spans⟩

instance spanned_pair (first : α) (second : β) [left : Spanned first] [right : Spanned second] :
    Spanned (first, second) :=
  ⟨by
    intro node present
    rcases List.mem_append.mp present with here | there
    · exact left.spans node here
    · exact right.spans node there⟩

instance Spanned.fst (pair : α × β) [spanned : Spanned pair] : Spanned pair.1 :=
  ⟨fun node present => spanned.spans node (List.mem_append_left _ present)⟩

instance Spanned.snd (pair : α × β) [spanned : Spanned pair] : Spanned pair.2 :=
  ⟨fun node present => spanned.spans node (List.mem_append_right _ present)⟩

instance spanned_inl (value : α) [spanned : Spanned value] : Spanned (.inl value : α ⊕ β) :=
  ⟨spanned.spans⟩

instance spanned_inr (value : β) [spanned : Spanned value] : Spanned (.inr value : α ⊕ β) :=
  ⟨spanned.spans⟩

instance spanned_ite (condition : Prop) [Decidable condition] (first second : α) [Spanned first]
    [Spanned second] : Spanned (if condition then first else second) := by
  split <;> infer_instance

instance spanned_id (value : α) [Spanned value] : Spanned (id value) :=
  inferInstanceAs (Spanned value)

end

instance spanned_one (role : Role) (node : Node) [spanned : Spanned node] :
    Spanned (Part.one role node) :=
  ⟨spanned.spans⟩

instance spanned_opt (role : Role) (found : Option Node) [spanned : Spanned found] :
    Spanned (Part.opt role found) := by
  cases found with
  | none => exact ⟨nofun⟩
  | some node => exact ⟨spanned.of_some.spans⟩

instance spanned_many (role : Role) (list : NodeList) [spanned : Spanned list] :
    Spanned (Part.many role list) :=
  ⟨spanned.spans⟩

instance spanned_opt_many (role : Role) (found : Option NodeList) [spanned : Spanned found] :
    Spanned (Part.optMany role found) := by
  cases found with
  | none => exact ⟨nofun⟩
  | some list => exact ⟨spanned.of_some.spans⟩

/-- A question that is answered no. -/
class Denied (answer : Bool) : Prop where
  denied : answer = false

instance denied_false : Denied false := ⟨rfl⟩

/-- Whether a role is that of arguments. Instances see through this test. -/
@[reducible] def isArguments : Role → Bool
  | .arguments => true
  | _ => false

/-- Parts of a node with the arguments last. -/
class Arranged (parts : List Part) : Prop where
  last : ArgumentsLast (parts.flatMap fun part => part.nodes.map fun _ => part.role)

/-- The children of one part share a role. -/
theorem arguments_last_part (part : Part) : ArgumentsLast (part.nodes.map fun _ => part.role) :=
  List.pairwise_map.mpr (List.pairwise_of_forall fun _ _ => id)

/-- Parts before others keep the arguments last unless they are arguments themselves. -/
theorem Arranged.cons {part : Part} {rest : List Part} (other : isArguments part.role = false)
    (arranged : Arranged rest) : Arranged (part :: rest) := by
  refine ⟨?_⟩
  rw [List.flatMap_cons]
  refine List.pairwise_append.mpr ⟨arguments_last_part part, arranged.last, ?_⟩
  intro first here second _ same
  obtain ⟨_, _, rfl⟩ := List.mem_map.mp here
  rw [same] at other
  cases other

instance arranged_nil : Arranged [] :=
  ⟨.nil⟩

instance arranged_arguments (list : NodeList) : Arranged [.many .arguments list] :=
  ⟨by simpa using arguments_last_part (.many .arguments list)⟩

instance arranged_opt_arguments (list : Option NodeList) : Arranged [.optMany .arguments list] :=
  ⟨by simpa using arguments_last_part (.optMany .arguments list)⟩

section

variable (role : Role) [other : Denied (isArguments role)] (rest : List Part) [arranged : Arranged rest]

instance arranged_one (node : Node) : Arranged (.one role node :: rest) :=
  .cons other.denied arranged

instance arranged_opt (found : Option Node) : Arranged (.opt role found :: rest) :=
  .cons other.denied arranged

instance arranged_many (list : NodeList) : Arranged (.many role list :: rest) :=
  .cons other.denied arranged

instance arranged_opt_many (list : Option NodeList) : Arranged (.optMany role list :: rest) :=
  .cons other.denied arranged

end

/-- A node with a span that is made of parts with spans, the arguments last. -/
theorem spanned_make {info : Info} {parts : List Part} (own : info.span.isSome = true)
    [arranged : Arranged parts] [spanned : Spanned parts] : Spanned (Node.make info parts) :=
  .of_node (.mk own arranged.last fun child present => spanned.spans child present)

/-- A node without children needs only its own span. -/
theorem spanned_leaf {info : Info} (own : info.span.isSome = true) (none : info.layout = [] := by rfl) :
    Spanned (Node.leaf info) :=
  .of_node (.mk own (none ▸ .nil) fun _ present => absurd present List.not_mem_nil)

/-- What stands under a role has spans when the whole has. -/
instance spanned_child (node : Node) (role : Role) [spanned : Spanned node] :
    Spanned (node.child? role) := by
  cases has : node.child? role with
  | none => infer_instance
  | some child =>
    obtain ⟨⟨_, _⟩, found, rfl⟩ := Option.map_eq_some_iff.mp has
    have present := (List.of_mem_zip (List.mem_of_find?_eq_some found)).2
    have := Spanned.of_node (spanned.node.child present)
    infer_instance

instance spanned_items (node : Node) (role : Role) [spanned : Spanned node] :
    Spanned (node.items role) :=
  .of_mem fun child listed => by
    obtain ⟨⟨_, _⟩, kept, rfl⟩ := List.mem_map.mp listed
    exact .of_node (spanned.node.child (List.of_mem_zip (List.mem_filter.mp kept).1).2)

instance spanned_list (node : Node) (role : Role) [Spanned node] : Spanned (node.list? role) := by
  unfold Node.list?
  cases node.info.lists.lookup role with
  | none => exact inferInstanceAs (Spanned none)
  | some info =>
    have : Spanned ({ nodes := node.items role, info } : NodeList) :=
      ⟨fun child listed =>
        (inferInstance : Spanned (node.items role)).spans child (mem_nodes_list.mpr listed)⟩
    exact inferInstanceAs (Spanned (some _))

/-! ## Combining readers -/

/-- A reader that gives values all of whose nodes have spans. -/
class Spanning {α : Type} [HasNodes α] (p : P α) : Prop where
  run : ∀ state, Spanned (p state).1

section

variable {α β : Type} [HasNodes α] [HasNodes β]

instance spanning_nodeless [Nodeless α] (p : P α) : Spanning p :=
  ⟨fun _ => inferInstance⟩

instance spanning_pure (value : α) [Spanned value] : Spanning (pure value : P α) :=
  ⟨fun _ => inferInstanceAs (Spanned value)⟩

/-- A reader that goes on from what another one gives needs to be spanning only after values with spans. -/
theorem Spanning.bind {p : P α} {next : α → P β} (gives : Spanning p)
    (after : ∀ value, Spanned value → Spanning (next value)) : Spanning (p >>= next) :=
  ⟨fun state => (after _ (gives.run state)).run _⟩

/-- After a reader of an optional value the two answers are looked at separately. -/
theorem Spanning.bind_option {p : P (Option α)} {next : Option α → P β} (gives : Spanning p)
    (absent : Spanning (next none))
    (present : ∀ value, Spanned value → Spanning (next (some value))) : Spanning (p >>= next) :=
  gives.bind fun found spanned =>
    match found with
    | none => absent
    | some value => present value spanned.of_some

/-- After a reader of a pair both halves have spans. -/
theorem Spanning.bind_pair {γ : Type} [HasNodes γ] {p : P (α × β)} {next : α × β → P γ}
    (gives : Spanning p)
    (after : ∀ first second, Spanned first → Spanned second → Spanning (next (first, second))) :
    Spanning (p >>= next) :=
  gives.bind fun pair spanned => after pair.1 pair.2 spanned.fst spanned.snd

instance spanning_bind (p : P α) (next : α → P β) [gives : Spanning p]
    [after : ∀ value : { value : α // Spanned value }, Spanning (next value.1)] :
    Spanning (p >>= next) :=
  gives.bind fun value spanned => after ⟨value, spanned⟩

instance spanning_map (p : P α) (f : α → β) [gives : Spanning p]
    [after : ∀ value : { value : α // Spanned value }, Spanned (f value.1)] : Spanning (f <$> p) :=
  ⟨fun state => after ⟨_, gives.run state⟩⟩

instance spanning_ite (condition : Prop) [Decidable condition] (first second : P α) [Spanning first]
    [Spanning second] : Spanning (if condition then first else second) := by
  split <;> infer_instance

instance Spanning.withAllowance (change : Allowance → Allowance) (p : P α) [gives : Spanning p] :
    Spanning (withAllowance change p) :=
  ⟨fun _ => gives.run _⟩

instance spanning_allow_in (p : P α) [Spanning p] : Spanning (allowIn p) :=
  inferInstanceAs (Spanning (withAllowance _ p))

instance spanning_disallow_in (p : P α) [Spanning p] : Spanning (disallowIn p) :=
  inferInstanceAs (Spanning (withAllowance _ p))

instance spanning_allow_conditional (p : P α) [Spanning p] : Spanning (allowConditional p) :=
  inferInstanceAs (Spanning (withAllowance _ p))

instance spanning_disallow_conditional (p : P α) [Spanning p] : Spanning (disallowConditional p) :=
  inferInstanceAs (Spanning (withAllowance _ p))

instance spanning_in_list (kind : ListKind) (p : P α) [gives : Spanning p] : Spanning (inList kind p) :=
  ⟨fun _ => gives.run _⟩

instance spanning_try_parse (p : P (Option α)) [gives : Spanning p] : Spanning (tryParse p) :=
  ⟨fun state => by
    have ran := gives.run state
    unfold tryParse
    split
    next same => rwa [same] at ran
    next => infer_instance⟩

/-- A repetition spans what it gives when its step does, by induction on the repetitions left. -/
instance spanning_repeat_until {σ : Type} [HasNodes σ] (step : σ → P (σ ⊕ α)) (last : σ → α)
    (fuel : Nat) (start : σ)
    [spanned : Spanned start]
    [steps : ∀ state : { state : σ // Spanned state }, Spanning (step state.1)]
    [stops : ∀ state : { state : σ // Spanned state }, Spanned (last state.1)] :
    Spanning (repeatUntil step last fuel start) := by
  induction fuel generalizing start with
  | zero => exact ⟨fun _ => stops ⟨start, spanned⟩⟩
  | succ fuel inductionHypothesis =>
    refine (steps ⟨start, spanned⟩).bind fun next held => ?_
    cases next with
    | inl more => exact @inductionHypothesis more ⟨held.spans⟩
    | inr result => exact ⟨fun _ => ⟨held.spans⟩⟩

end

/-! ## Tokens and lists -/

-- An instance has a part for each step of a reader and each part of a node that it makes.
set_option synthInstance.maxSize 2000

instance spanning_finish (info : Info) (pos : Nat) (parts : List Part) [Arranged parts] [Spanned parts] :
    Spanning (finish info pos parts) :=
  ⟨fun _ => spanned_make rfl⟩

instance spanning_finish_kind (kind : Kind) (pos : Nat) (parts : List Part) [Arranged parts]
    [Spanned parts] :
    Spanning (finishKind kind pos parts) :=
  inferInstanceAs (Spanning (finish _ pos parts))

instance spanning_finish_list (pos : Nat) (values : List Node) (comma : Bool)
    [spanned : Spanned values] :
    Spanning (finishList pos values comma) :=
  ⟨fun _ => ⟨fun _ present => (spanned.mem present).node⟩⟩

instance spanning_token_node : Spanning parseTokenNode := by
  unfold parseTokenNode
  infer_instance

instance spanning_optional_token (kind : Kind) : Spanning (parseOptionalToken kind) := by
  unfold parseOptionalToken
  infer_instance

instance spanning_missing (kind : Kind) (message : Option String) : Spanning (missing kind message) := by
  unfold missing
  cases message <;> infer_instance

instance spanning_expected_token (kind : Kind) : Spanning (parseExpectedToken kind) := by
  unfold parseExpectedToken
  refine .bind_option inferInstance ?_ fun node _ => ?_
  · dsimp only
    infer_instance
  · dsimp only
    infer_instance

instance spanning_missing_list : Spanning missingList := by
  unfold missingList
  infer_instance

instance spanning_parse_list (kind : ListKind) (element : P Node) [Spanning element] :
    Spanning (parseList kind element) := by
  dsimp only [parseList]
  infer_instance

instance spanning_delimited_with (kind : ListKind) (element : P (Option Node)) (semicolons : Bool)
    [Spanning element] :
    Spanning (parseDelimitedWith kind element semicolons) := by
  unfold parseDelimitedWith
  extract_lets message step
  have steps (state : { state : List Node × Bool // Spanned state }) : Spanning (step state.1) := by
    obtain ⟨⟨gathered, comma⟩, spanned⟩ := state
    have : Spanned gathered := spanned.fst
    dsimp only [step]
    refine .bind inferInstance fun starts _ => ?_
    split
    · refine .bind inferInstance fun start _ => ?_
      refine .bind_option inferInstance ?_ fun node _ => ?_
      · infer_instance
      · dsimp only
        refine .bind inferInstance fun comma _ => ?_
        split
        · infer_instance
        · refine .bind inferInstance fun ended _ => ?_
          split <;> infer_instance
    · infer_instance
  refine .bind inferInstance fun pos _ => ?_
  refine .bind_option inferInstance ?_ fun gathered _ => ?_
  · infer_instance
  · infer_instance

instance spanning_delimited_list (kind : ListKind) (element : P Node) [Spanning element] :
    Spanning (parseDelimitedList kind element) := by
  unfold parseDelimitedList
  refine .bind_option inferInstance ?_ fun list _ => ?_
  · infer_instance
  · infer_instance

instance spanning_bracketed_list (kind : ListKind) (element : P Node) (openKind closeKind : Kind)
    [Spanning element] :
    Spanning (parseBracketedList kind element openKind closeKind) := by
  unfold parseBracketedList
  infer_instance

end Codemod.Grammar
