import Codemod.Proofs.Kinship

/-!
# The parentheses of a rebuilt node

When a node is rebuilt, each of its children stays as it is or is put into one pair of
parentheses, as its seat among the children demands. What decides is little: the kind of the
child, how tightly it binds, its operator. How a type ends decides only for members of tuple types
and for optional types. Children that are alike in what decides get the same parentheses in the same
seat, and a child that has its parentheses gets no more.
-/
namespace Codemod.Syntax.Node

open Imports

/-- What may be put around a child. -/
inductive Frame where
  | none | placed | loose | type

/-- The node in a frame. -/
def Frame.put : Frame → Node → Node
  | .none, node => node
  | .placed, node => node.parenthesized
  | .loose, node => node.wrapped
  | .type, node => node.parenthesizedType

/-- Whether it decides about the parentheses of a part whether it ends in a question mark. -/
def asksQuestion (kind : Kind) (role : Role) : Bool :=
  (kind == .tupleType && role == .elements) || (kind == .optionalType && role == .type)

/-- Nodes that agree in what decides about their parentheses, and in how they end if that is asked. -/
structure Alike (asked : Bool) (a b : Node) : Prop where
  kind : a.kind = b.kind
  strength : a.strength = b.strength
  operator : a.operator = b.operator
  link : a.isLink = b.isLink
  lacking : a.lacksArguments = b.lacksArguments
  question : asked = true → a.endsInQuestion = b.endsInQuestion
  generic : (a.items .typeParameters).isEmpty = (b.items .typeParameters).isEmpty

variable {asked : Bool}

/-- Every node is alike itself in what decides. -/
theorem Alike.refl (node : Node) : Alike asked node node :=
  ⟨rfl, rfl, rfl, rfl, rfl, fun _ => rfl, rfl⟩

/-- Like nodes are alike in what decides about parentheses when they end in the same way, if that is asked. -/
theorem alike_of_like {R : Node → Node → Prop} (like : Likeness R) {a b : Node} (related : R a b)
    (question : asked = true → a.endsInQuestion = b.endsInQuestion) : Alike asked a b where
  kind := like.kind related
  strength := like.strength related
  operator := like.operator related
  link := like.is_link related
  lacking := like.lacks_arguments related
  question := question
  generic := by
    rw [Bool.eq_iff_iff, List.isEmpty_iff, List.isEmpty_iff, ← List.length_eq_zero_iff,
      ← List.length_eq_zero_iff, (like.items related (rfl : isClosed a.kind .typeParameters = true)).length_eq]

/-- A way of putting nodes into frames: nodes that are alike get the same frame, and what has its
frame gets no other. -/
structure Fitting (asked : Bool) (fit : Node → Node) : Prop where
  frame {a b : Node} : Alike asked a b → ∃ frame : Frame, fit a = frame.put a ∧ fit b = frame.put b
  settled (node : Node) : fit (fit node) = fit node

namespace Fitting

/-- Every node gets some frame. -/
theorem framed {fit : Node → Node} (fitting : Fitting asked fit) (node : Node) :
    ∃ frame : Frame, fit node = frame.put node := by
  obtain ⟨frame, put, _⟩ := fitting.frame (Alike.refl node)
  exact ⟨frame, put⟩

/-- Leaving every node as it is puts all of them in the frame that is none. -/
theorem kept : Fitting asked fun node => node :=
  ⟨fun _ => ⟨.none, rfl, rfl⟩, fun _ => rfl⟩

/-- Putting a frame around the nodes that do not fit is a fitting. Alike nodes fit alike, so they get the
frame together; and a node in the frame fits, so it gets no second one. -/
theorem framed_unless {fit : Node → Node} (frame : Frame) (fits : Node → Bool)
    (same : ∀ node, fit node = if fits node then node else frame.put node)
    (agree : ∀ {a b}, Alike asked a b → fits a = fits b)
    (enough : ∀ node, fits (frame.put node) = true) : Fitting asked fit where
  frame {a b} alike := by
    rw [same, same, agree alike]
    split
    · exact ⟨.none, rfl, rfl⟩
    · exact ⟨frame, rfl, rfl⟩
  settled node := by
    cases decided : fits node <;> simp [same, decided, enough]

/-- Parentheses for a place in an expression are put around what does not fit there. -/
theorem parens_unless (fits : Node → Bool) (agree : ∀ {a b}, Alike asked a b → fits a = fits b)
    (enough : ∀ node, fits (parenthesized node) = true) :
    Fitting asked fun node => node.inParensUnless (fits node) :=
  framed_unless .placed fits (fun _ => rfl) agree enough

/-- The same of parentheses without a position of their own. -/
theorem wrapped_unless (fits : Node → Bool) (agree : ∀ {a b}, Alike asked a b → fits a = fits b)
    (enough : ∀ node, fits (wrapped node) = true) :
    Fitting asked fun node => node.wrappedUnless (fits node) :=
  framed_unless .loose fits (fun _ => rfl) agree enough

/-- Parentheses of a type are put around what needs them. -/
theorem type_if (needed : Node → Bool) (agree : ∀ {a b}, Alike asked a b → needed a = needed b)
    (enough : ∀ node, needed (parenthesizedType node) = false) :
    Fitting asked fun node => node.inTypeParensIf (needed node) :=
  framed_unless .type (!needed ·)
    (fun node => by rw [inTypeParensIf]; cases needed node <;> rfl)
    (fun alike => congrArg _ (agree alike)) fun node => congrArg _ (enough node)

/-- Members of a list get their parentheses by how tightly they bind, and what is in parentheses binds
most tightly. -/
theorem as_member : Fitting asked asMember :=
  parens_unless ((decide <| ·.strength > 0)) (fun alike => by rw [alike.strength]) fun _ => rfl

/-- Whether an operand mixes operators that may not stand side by side depends on its kind and its
operator. -/
theorem mixes_with_alike {a b : Node} (alike : Alike asked a b) (operator : Kind) :
    mixesWith operator a = mixesWith operator b := by
  rw [mixesWith, mixesWith, alike.kind, alike.operator]

/-- No operator binds as tightly as what is in parentheses. -/
theorem operator_strength_lt (operator : Kind) : operator.operatorStrength < 20 := by
  unfold Kind.operatorStrength
  split
  all_goals first | decide | (split <;> decide)

/-- Left operands get their parentheses by how tightly they bind and by their operator. What is in
parentheses binds more tightly than any operator, so it gets no second pair. -/
theorem as_left (operator : Kind) : Fitting asked (asLeft operator) := by
  refine wrapped_unless (fun node => !mixesWith operator node &&
    (node.strength - operator.operatorStrength > 0 ||
      (node.strength - operator.operatorStrength == 0 && !operator.groupsRight))) ?_ ?_
  · intro a b alike
    rw [mixes_with_alike alike, alike.strength]
  · intro node
    have bound := operator_strength_lt operator
    have strength : node.wrapped.strength = 20 := rfl
    simp only [strength, mixesWith]
    simpa [wrapped, make, kind, info] using .inl bound

/-- So do right operands. They are told apart in more steps, but each step asks only for the kind, the
operator and the strength, and all of them end in one pair of parentheses or in none. -/
theorem as_right (operator : Kind) : Fitting asked (asRight operator) := by
  have wrapped_stays (node : Node) : node.wrapped.asRight operator = node.wrapped := by
    have bound := operator_strength_lt operator
    have above : (20 : Int) - operator.operatorStrength > 0 := by omega
    have strength : node.wrapped.strength = 20 := rfl
    have notArrow : (node.wrapped.kind == .arrowFunction) = false := rfl
    have unmixed : mixesWith operator node.wrapped = false := rfl
    simp only [asRight, strength, notArrow, unmixed, above, Bool.false_and, Bool.false_eq_true,
      if_false, if_true]
  have either {a b : Node} (alike : Alike asked a b) :
      a.asRight operator = a ∧ b.asRight operator = b ∨
        a.asRight operator = a.wrapped ∧ b.asRight operator = b.wrapped := by
    simp only [asRight, groupsOnRight, wrappedUnless, alike.kind, alike.strength, alike.operator,
      mixes_with_alike alike]
    repeat' split
    all_goals first | exact .inl ⟨rfl, rfl⟩ | exact .inr ⟨rfl, rfl⟩
  constructor
  · intro a b alike
    rcases either alike with same | put
    · exact ⟨.none, same⟩
    · exact ⟨.loose, put⟩
  · intro node
    rcases either (Alike.refl node) with ⟨same, _⟩ | ⟨put, _⟩
    · rw [same, same]
    · rw [put, wrapped_stays]

/-- The first of the type arguments gets its parentheses by its kind and by whether it has type
parameters of its own. -/
theorem as_first_argument : Fitting asked asFirstArgument :=
  type_if (fun node => (node.kind == .functionType || node.kind == .constructorType) &&
      !(node.items .typeParameters).isEmpty)
    (fun alike => by rw [alike.kind, alike.generic]) fun _ => rfl

/-- What is called or tagged gets its parentheses by whether it is a link of a chain or a construction
without arguments. -/
theorem as_applied : Fitting asked asApplied :=
  parens_unless (fun node => !node.isLink && !node.lacksArguments)
    (fun alike => by rw [alike.link, alike.lacking]) fun _ => rfl

/-- Operands of operators on types get their parentheses by their kind. -/
theorem type_operand : Fitting asked fun node => node.inTypeParensIf node.isLooseType :=
  type_if isLooseType (fun alike => by
    simp only [isLooseType, isArrowOrConditional, alike.kind]) fun _ => rfl

/-- Types before brackets do so too. -/
theorem type_postfix : Fitting asked fun node => node.inTypeParensIf node.isLoosePostfix :=
  type_if isLoosePostfix (fun alike => by
    simp only [isLoosePostfix, isLooseType, isArrowOrConditional, alike.kind]) fun _ => rfl

/-- Types that must not end in a question mark get their parentheses by how they end, which is why that
is asked at such places. -/
theorem type_if_question (isAsked : asked = true) :
    Fitting asked fun node => node.inTypeParensIf node.endsInQuestion :=
  type_if endsInQuestion (fun alike => alike.question isAsked) fun node => by
    unfold parenthesizedType make endsInQuestion
    rfl

/-- What is done to a part of a node is a fitting; how the part ends is asked in few places. Each place
demands one of a few kinds of parentheses, and all of these are fittings: whether they are needed shows
in what the part is, and once they are put they are needed no more. -/
theorem fitted (info : Info) (operator : Kind) (role : Role)
    (asks : asksQuestion info.kind role = true → asked = true) :
    Fitting asked (fitted info operator role) := by
  unfold Node.fitted
  split
  all_goals first
    | with_reducible exact kept
    | with_reducible exact as_member
    | with_reducible exact as_left operator
    | with_reducible exact as_right operator
    | with_reducible exact as_applied
    | with_reducible exact type_operand
    | with_reducible exact type_postfix
    | (rename_i kind; exact type_if_question (asks (by rw [kind]; rfl)))
    | skip
  · split
    · exact as_right .equalsToken
    · exact kept
  · exact wrapped_unless ((decide <| ·.strength > 4))
      (fun alike => by rw [alike.strength]) fun _ => rfl
  · exact wrapped_unless ((·.operator != .commaToken))
      (fun alike => by rw [alike.operator]) fun _ => rfl
  · exact wrapped_unless ((!·.lacksArguments))
      (fun alike => by rw [alike.lacking]) fun _ => rfl
  · exact parens_unless (fun node => !(node.isLink && !info.marks.chain))
      (fun alike => by rw [alike.link]) fun _ => rfl
  · exact type_if (fun node => node.isLooseType ||
        (info.word == .readonlyKeyword && node.kind == .typeOperator))
      (fun alike => by simp only [isLooseType, isArrowOrConditional, alike.kind])
      fun _ => Bool.and_false _
  · rename_i kind
    have isAsked : asked = true := asks (by rw [kind]; rfl)
    exact type_if (fun node => node.isLoosePostfix || node.endsInQuestion)
      (fun alike => by
        simp only [isLoosePostfix, isLooseType, isArrowOrConditional, alike.kind,
          alike.question isAsked])
      fun _ => by
        unfold parenthesizedType make endsInQuestion
        rfl
  · exact type_if (isArrowOrConditional)
      (fun alike => by simp only [isArrowOrConditional, alike.kind]) fun _ => rfl
  · exact type_if ((·.kind == .conditionalType))
      (fun alike => by rw [alike.kind]) fun _ => rfl

end Fitting

/-- Which of the children with these roles is the first of the type arguments. -/
def firstArguments : List Role → List Bool
  | [] => []
  | role :: rest =>
    if role == .typeArguments then true :: rest.map fun _ => false else false :: firstArguments rest

/-- Each role is marked as the first of the type arguments or as another one. -/
theorem length_first_arguments (roles : List Role) :
    (firstArguments roles).length = roles.length := by
  induction roles with
  | nil => rfl
  | cons role rest inductionHypothesis =>
    rw [firstArguments]
    split <;> simp [inductionHypothesis]

/-- The roles of the children of a node, each with whether no generic function type may stand
there. -/
def seats (info : Info) : List (Role × Bool) :=
  info.layout.zip
    (if refusesGenericFirst info.kind then firstArguments info.layout
      else info.layout.map fun _ => false)

/-- The seats of a node are its roles in order, each with a mark. -/
theorem roles_of_seats (info : Info) : (seats info).map (·.1) = info.layout := by
  rw [seats]
  refine List.map_fst_zip (Nat.le_of_eq ?_)
  split
  · rw [length_first_arguments]
  · rw [List.length_map]

/-- Only the first of the type arguments is marked, and only where it matters. Before the first of the
type arguments no seat is marked, and behind it none is; the induction is on the layout. -/
theorem first_of_seat (info : Info) : ∀ seat ∈ seats info, seat.2 = true →
    seat.1 = .typeArguments ∧ refusesGenericFirst info.kind = true := by
  have unmarked {roles others : List Role} {seat : Role × Bool}
      (present : seat ∈ roles.zip (others.map fun _ => false)) (first : seat.2 = true) : False := by
    obtain ⟨_, plain, same⟩ := List.mem_map.mp (List.of_mem_zip present).2
    rw [← same] at first
    cases first
  intro seat present first
  unfold seats at present
  generalize info.layout = roles at present
  split at present
  · rename_i refuses
    refine ⟨?_, refuses⟩
    induction roles with
    | nil => cases present
    | cons role roles inductionHypothesis =>
      rw [firstArguments] at present
      split at present
      · rename_i same
        rcases List.mem_cons.mp present with rfl | later
        · exact eq_of_beq same
        · exact (unmarked later first).elim
      · rcases List.mem_cons.mp present with rfl | later
        · cases first
        · exact inductionHypothesis later
  · exact (unmarked present first).elim

/-- A child in the frame that its seat demands. -/
def seated (info : Info) (operator : Kind) (seat : Role × Bool) (node : Node) : Node :=
  if seat.2 then node.asFirstArgument else fitted info operator seat.1 node

/-- The operator among the children of a node. -/
def operatorAmong (info : Info) (children : List Node) : Kind :=
  (((info.layout.zip children).find? (·.1 == .operator)).map (·.2.kind)).getD .unknown

/-- What is done to a child in its seat is a fitting, in either case of the mark. -/
theorem seated_fitting (info : Info) (operator : Kind) (seat : Role × Bool)
    (asks : asksQuestion info.kind seat.1 = true → asked = true) :
    Fitting asked (seated info operator seat) := by
  unfold seated
  cases seat.2 with
  | true => exact .as_first_argument
  | false => exact .fitted info operator seat.1 asks

/-- Where no generic function type may come first, type arguments have no other frame. -/
theorem fitted_type_argument {info : Info} (refuses : refusesGenericFirst info.kind = true)
    (operator : Kind) (node : Node) : fitted info operator .typeArguments node = node := by
  unfold refusesGenericFirst at refuses
  unfold fitted
  split at refuses
  case h_5 => cases refuses
  all_goals
    rename_i kind
    rw [kind]

/-- The children of a rebuilt node are the new ones, each in the frame that its seat demands. The
children are gone through with their roles, and only the first type argument of some nodes is treated
otherwise; behind it the induction needs to be made once more. -/
theorem fit_eq (info : Info) (children : List Node) :
    fit info children =
      List.zipWith (seated info (operatorAmong info children)) (seats info) children := by
  unfold fit seats
  dsimp only
  rw [← operatorAmong]
  generalize operatorAmong info children = operator
  generalize info.layout = roles
  by_cases refuses : refusesGenericFirst info.kind = true
  · rw [if_pos refuses, if_pos refuses]
    -- After the first of the type arguments no child has another frame.
    have later (rest : List Role) (nodes : List Node) :
        ((rest.zip nodes).map fun part => (part.1, fitted info operator part.1 part.2)).map (·.2) =
          List.zipWith (seated info operator) (rest.zip (rest.map fun _ => false)) nodes := by
      induction rest generalizing nodes with
      | nil => rfl
      | cons role rest inductionHypothesis =>
        cases nodes with
        | nil => rfl
        | cons node nodes => simpa [seated] using inductionHypothesis nodes
    induction roles generalizing children with
    | nil => rfl
    | cons role roles inductionHypothesis =>
      cases children with
      | nil => simp [fitFirstArgument]
      | cons child children =>
        rw [firstArguments]
        by_cases first : role = .typeArguments
        · subst first
          have rest := later roles children
          simp only [List.zip_cons_cons, List.map_cons, fitFirstArgument, beq_self_eq_true, if_true,
            List.zipWith_cons_cons, seated, fitted_type_argument refuses] at rest ⊢
          rw [rest]
        · have rest := inductionHypothesis children
          simp only [List.zip_cons_cons, List.map_cons, fitFirstArgument, beq_false_of_ne first,
            Bool.false_eq_true, if_false, List.zipWith_cons_cons, seated] at rest ⊢
          rw [rest]
  · rw [if_neg refuses, if_neg refuses]
    induction roles generalizing children with
    | nil => rfl
    | cons role roles inductionHypothesis =>
      cases children with
      | nil => rfl
      | cons child children => simpa [seated] using inductionHypothesis children

/-- The node around new results for its parts, in the parentheses that their places demand. -/
def refit (node : Node) (results : List Node) : Node :=
  mk node.info (fit node.info results ++ node.children.drop node.info.layout.length)

/-- The node with other arguments. -/
def given (node : Node) (arguments : List Node) : Node :=
  let kept := node.parts.filter (·.1 != .arguments)
  mk
    { node.info with
      layout := kept.map (·.1) ++ arguments.map fun _ => .arguments
      lists := node.info.lists.filter (·.1 != .arguments)
        ++ [(.arguments, { span := none, trailingComma := false })] }
    (kept.map (·.2) ++ arguments.map asMember ++ node.children.drop node.info.layout.length)

/-- A node is made of its data, its parts and what has no role. -/
theorem children_eq (node : Node) :
    node.children = node.parts.map (·.2) ++ node.children.drop node.info.layout.length := by
  have front (roles : List Role) (children : List Node) :
      children = (roles.zip children).map (·.2) ++ children.drop roles.length := by
    induction roles generalizing children with
    | nil => rfl
    | cons role roles inductionHypothesis =>
      cases children with
      | nil => rfl
      | cons child children => simpa using inductionHypothesis children
  exact front node.info.layout node.children

/-- A node that is put together again keeps its data. -/
@[simp] theorem info_refit (node : Node) (results : List Node) :
    (node.refit results).info = node.info :=
  rfl

/-- It keeps its kind in particular. -/
@[simp] theorem kind_refit (node : Node) (results : List Node) :
    (node.refit results).kind = node.kind :=
  rfl

/-- The parts of a node that was put together again. Each of them has the role of its seat and is put in
the frame that the seat demands. The induction is on the seats, of which there are as many as new parts. -/
theorem parts_refit {node : Node} {results : List Node}
    (complete : results.length = node.parts.length) :
    (node.refit results).parts = List.zipWith
      (fun seat result => (seat.1, seated node.info (operatorAmong node.info results) seat result))
      (seats node.info) results := by
  have fits : results.length = min (seats node.info).length node.children.length := by
    rw [complete, parts, List.length_zip, ← roles_of_seats, List.length_map]
  rw [parts, info_refit, refit, children, fit_eq, ← roles_of_seats, List.length_map]
  generalize operatorAmong node.info results = operator
  generalize seats node.info = all at fits ⊢
  generalize node.children = children at fits ⊢
  clear complete
  induction all generalizing children results with
  | nil => rfl
  | cons seat all inductionHypothesis =>
    cases results with
    | nil =>
      cases children with
      | nil => rfl
      | cons child children => simp at fits
    | cons result results =>
      cases children with
      | nil => simp at fits
      | cons child children =>
        have rest := @inductionHypothesis results children (by simpa using fits)
        simpa using rest

/-- What has no role stays when a node is put together again. There are as many new parts as the node has
parts, and what comes after them is taken over. -/
theorem rest_refit {node : Node} {results : List Node}
    (complete : results.length = node.parts.length) :
    (node.refit results).children.drop node.info.layout.length =
      node.children.drop node.info.layout.length := by
  have length : (fit node.info results).length = min node.info.layout.length node.children.length := by
    rw [fit_eq, List.length_zipWith, complete, parts, List.length_zip]
    have roles := congrArg List.length (roles_of_seats node.info)
    rw [List.length_map] at roles
    omega
  rw [refit, children]
  rcases Nat.le_total node.info.layout.length node.children.length with short | long
  · exact List.drop_left' (by omega)
  · rw [List.drop_eq_nil_of_le long, List.append_nil]
    exact List.drop_eq_nil_of_le (by omega)

/-- A relation between the parts of a node and its new parts. What has to be shown of each part is shown
for whatever operator the node has and for the only seat that may be marked. -/
theorem rel_parts_refit {P : Role × Node → Role × Node → Prop} (node : Node) (f : Role × Node → Node)
    (each : ∀ part ∈ node.parts, ∀ operator first,
      (first = true → part.1 = .typeArguments ∧ refusesGenericFirst node.kind = true) →
      P part (part.1, seated node.info operator (part.1, first) (f part))) :
    List.Forall₂ P node.parts (node.refit (node.parts.map f)).parts := by
  rw [parts_refit (by rw [List.length_map])]
  generalize operatorAmong node.info (node.parts.map f) = operator
  have first := first_of_seat node.info
  simp only [parts, Node.kind, ← roles_of_seats] at each ⊢
  generalize node.info = info at each first ⊢
  generalize seats info = all at each first ⊢
  generalize node.children = children at each ⊢
  induction all generalizing children with
  | nil => exact .nil
  | cons seat all inductionHypothesis =>
    cases children with
    | nil => exact .nil
    | cons child children =>
      simp only [List.map_cons, List.zip_cons_cons, List.mem_cons, forall_eq_or_imp,
        List.zipWith_cons_cons] at each first ⊢
      exact .cons (each.1 operator seat.2 first.1) (inductionHypothesis first.2 children each.2)

/-- Outside of type arguments, the frame of a new part depends on its role only. The first type argument
is the one place where the neighbours of a part matter too. The induction is on the roles with the
children that have them. -/
theorem parts_refit_plain {node : Node} (plain : refusesGenericFirst node.kind = false)
    (f : Role × Node → Node) :
    (node.refit (node.parts.map f)).parts = node.parts.map fun part =>
      (part.1, fitted node.info (operatorAmong node.info (node.parts.map f)) part.1 (f part)) := by
  have refuses : refusesGenericFirst node.info.kind = false := plain
  rw [parts_refit (by rw [List.length_map])]
  generalize operatorAmong node.info (node.parts.map f) = operator
  rw [seats, if_neg (by rw [refuses]; exact Bool.false_ne_true), parts]
  generalize node.info.layout = roles
  generalize node.children = children
  induction roles generalizing children with
  | nil => rfl
  | cons role roles inductionHypothesis =>
    cases children with
    | nil => rfl
    | cons child children => simpa [seated] using inductionHypothesis children

section

variable (node : Node) (arguments : List Node)

/-- Other arguments change the roles of the children and the record of the list of arguments, and nothing
else in the data of a node. -/
theorem info_given : (node.given arguments).info =
    { node.info with
      layout := (node.parts.filter (·.1 != .arguments)).map (·.1) ++ arguments.map fun _ => .arguments
      lists := node.info.lists.filter (·.1 != .arguments)
        ++ [(.arguments, { span := none, trailingComma := false })] } :=
  rfl

/-- A node with other arguments has the kind that it had. -/
@[simp] theorem kind_given : (node.given arguments).kind = node.kind :=
  rfl

/-- The parts of a node with other arguments are its other parts, and then the new arguments with the
parentheses that a list demands. -/
@[simp] theorem parts_given : (node.given arguments).parts =
    node.parts.filter (·.1 != .arguments) ++ arguments.map fun argument => (.arguments, argument.asMember) := by
  have front (kept : List (Role × Node)) : (kept.map (·.1)).zip (kept.map (·.2)) = kept := by
    rw [List.zip_map', List.map_id']
  have back (rest : List Node) : (arguments.map fun _ => Role.arguments).zip
      (arguments.map asMember ++ rest) =
        arguments.map fun argument => (.arguments, argument.asMember) := by
    induction arguments with
    | nil => rfl
    | cons argument arguments inductionHypothesis => simpa using inductionHypothesis
  simp only [given]
  rw [parts, info, children, List.append_assoc, List.zip_append (by simp), front, back]

/-- What has no role stays when a node is given other arguments. -/
theorem rest_given : (node.given arguments).children.drop (node.given arguments).info.layout.length =
    node.children.drop node.info.layout.length := by
  simp only [given]
  rw [info, children]
  exact List.drop_left' (by simp)

/-- The new arguments of a node are the members of its list. -/
@[simp] theorem arguments_given :
    (node.given arguments).items .arguments = arguments.map asMember := by
  have kept : (node.parts.filter (·.1 != .arguments)).filter (·.1 == .arguments) = [] := by
    simp [List.filter_filter]
  have new : (arguments.map fun argument => (Role.arguments, argument.asMember)).filter
      (·.1 == .arguments) = arguments.map fun argument => (Role.arguments, argument.asMember) := by
    simp
  rw [items, parts_given, List.filter_append, kept, new, List.nil_append, List.map_map]
  rfl

/-- What a node has in any other role stays when it is given arguments. -/
theorem items_given {role : Role} (other : role ≠ .arguments) :
    (node.given arguments).items role = node.items role := by
  have kept : (node.parts.filter (·.1 != .arguments)).filter (·.1 == role) =
      node.parts.filter (·.1 == role) := by
    rw [List.filter_filter]
    refine List.filter_congr fun part _ => ?_
    by_cases same : part.1 = role <;> simp [same, other]
  have new : (arguments.map fun argument => (Role.arguments, argument.asMember)).filter
      (·.1 == role) = [] := by
    simp [Ne.symm other]
  rw [items, parts_given, List.filter_append, kept, new, List.append_nil, items]

/-- A node that was given arguments has a list of them. -/
theorem listed_given : ((node.given arguments).list? .arguments).isSome = true := by
  simp only [given]
  rw [list?, info, Option.isSome_map]
  simp [List.lookup_append]

end

section

variable {trivia : Bool}

mutual

/-- How a type ends does not depend on positions. -/
theorem ends_in_question_bare : ∀ node : Node,
    endsInQuestion (node.bare trivia) = endsInQuestion node
  | .mk info children => by
    have last := last_ends_in_question_bare children
    rw [bare, endsInQuestion, endsInQuestion, last, kind_info_bare]
    rfl

/-- The same of the last of several types. -/
theorem last_ends_in_question_bare : ∀ nodes : List Node,
    lastEndsInQuestion (bareList trivia nodes) = lastEndsInQuestion nodes
  | [] => rfl
  | [node] => by
    rw [bareList, bareList, lastEndsInQuestion, lastEndsInQuestion, ends_in_question_bare node]
  | node :: second :: rest => by
    have later := last_ends_in_question_bare (second :: rest)
    exact later

end

/-- A node is alike itself without its positions, as no position decides about parentheses. -/
theorem alike_bare (node : Node) : Alike asked node (node.bare trivia) :=
  alike_of_like bare_like rfl fun _ => (ends_in_question_bare node).symm

/-- Being alike goes both ways. -/
theorem Alike.symm {a b : Node} (alike : Alike asked a b) : Alike asked b a :=
  ⟨alike.kind.symm, alike.strength.symm, alike.operator.symm, alike.link.symm, alike.lacking.symm,
    fun isAsked => (alike.question isAsked).symm, alike.generic.symm⟩

/-- Being alike is passed on. -/
theorem Alike.trans {a b c : Node} (first : Alike asked a b) (second : Alike asked b c) :
    Alike asked a c :=
  ⟨first.kind.trans second.kind, first.strength.trans second.strength,
    first.operator.trans second.operator, first.link.trans second.link,
    first.lacking.trans second.lacking,
    fun isAsked => (first.question isAsked).trans (second.question isAsked),
    first.generic.trans second.generic⟩

/-- Trees that are the same up to positions are alike. -/
theorem alike_of_bare {a b : Node} (same : a.bare trivia = b.bare trivia) : Alike asked a b :=
  (alike_bare a).trans (same ▸ (alike_bare b).symm)

/-- What is forgotten of nodes matters neither to the frames of parts nor in them. -/
structure Forgets (erase : Node → Node) : Prop where
  node (info : Info) {xs ys : List Node} :
    xs.map erase = ys.map erase → erase (.mk info xs) = erase (.mk info ys)
  alike {asked : Bool} {a b : Node} : erase a = erase b → Alike asked a b
  put (frame : Frame) {a b : Node} : erase a = erase b → erase (frame.put a) = erase (frame.put b)

/-- Nor do the marks of what was changed. Parentheses take over the position of what they are put around,
which is the same for nodes that are the same but for marks. -/
theorem unmarked_forgets : Forgets unmarked where
  node info xs ys same := by rw [unmarked_mk, unmarked_mk, same]
  alike {asked a b} same := by
    have bare : a.bare false = b.bare false := bare_of_unmarked same
    exact alike_of_bare bare
  put frame {a b} same := by
    have span : a.info.span = b.info.span := by
      obtain ⟨info, children⟩ := a
      obtain ⟨data, others⟩ := b
      rw [unmarked_mk, unmarked_mk] at same
      exact congrArg (·.info.span) same
    cases frame with
    | none => exact same
    | placed => simp [Frame.put, parenthesized, make, Part.nodes, Part.role, Part.lists, same, span]
    | loose => simp [Frame.put, wrapped, make, Part.nodes, Part.role, Part.lists, same]
    | type => simp [Frame.put, parenthesizedType, make, Part.nodes, Part.role, Part.lists, same]

variable {erase : Node → Node}

/-- What is done to a part of a node does not depend on what is forgotten. -/
theorem Forgets.fitting (forgets : Forgets erase) {fit : Node → Node} (fitting : Fitting asked fit)
    {a b : Node} (same : erase a = erase b) : erase (fit a) = erase (fit b) := by
  obtain ⟨frame, first, second⟩ := fitting.frame (forgets.alike same)
  rw [first, second, forgets.put frame same]

/-- Which operator stands among the children of a node depends on their kinds only. -/
theorem operator_of_kinds (info : Info) {xs ys : List Node} (kinds : xs.map kind = ys.map kind) :
    operatorAmong info xs = operatorAmong info ys := by
  have byKind (nodes : List Node) : operatorAmong info nodes =
      (((info.layout.zip (nodes.map kind)).find? (·.1 == .operator)).map (·.2)).getD .unknown := by
    rw [operatorAmong, List.zip_map_right, List.find?_map, Option.map_map]
    rfl
  rw [byKind, byKind, kinds]

/-- New children are put in the same frames up to what is forgotten, if they are the same up to that. The
frame of a child is decided by its seat, by the kinds of its siblings and by what it is, all of which
survive the forgetting. -/
theorem Forgets.fit (forgets : Forgets erase) (info : Info) {xs ys : List Node}
    (same : xs.map erase = ys.map erase) :
    (Node.fit info xs).map erase = (Node.fit info ys).map erase := by
  have kinds : xs.map kind = ys.map kind := by
    induction xs generalizing ys with
    | nil =>
      cases ys with
      | nil => rfl
      | cons y ys => cases same
    | cons x xs inductionHypothesis =>
      cases ys with
      | nil => cases same
      | cons y ys =>
        rw [List.map_cons, List.map_cons, List.cons.injEq] at same
        have alike : Alike false x y := forgets.alike same.1
        rw [List.map_cons, List.map_cons, alike.kind, inductionHypothesis same.2]
  rw [fit_eq, fit_eq, operator_of_kinds info kinds]
  generalize operatorAmong info ys = operator
  generalize seats info = all
  clear kinds
  induction all generalizing xs ys with
  | nil => rfl
  | cons seat all inductionHypothesis =>
    cases xs with
    | nil =>
      cases ys with
      | nil => rfl
      | cons y ys => cases same
    | cons x xs =>
      cases ys with
      | nil => cases same
      | cons y ys =>
        rw [List.map_cons, List.map_cons, List.cons.injEq] at same
        rw [List.zipWith_cons_cons, List.zipWith_cons_cons, List.map_cons, List.map_cons,
          forgets.fitting (seated_fitting info operator seat fun _ => rfl) same.1,
          inductionHypothesis same.2]

/-- Putting a node together again from results that are the same up to what is forgotten gives the same
up to that. -/
theorem Forgets.refit (forgets : Forgets erase) (node : Node) {xs ys : List Node}
    (same : xs.map erase = ys.map erase) : erase (node.refit xs) = erase (node.refit ys) := by
  refine forgets.node node.info ?_
  rw [List.map_append, List.map_append, forgets.fit node.info same]

end

end Codemod.Syntax.Node
