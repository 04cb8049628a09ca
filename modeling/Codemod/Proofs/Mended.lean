import Codemod.Proofs.Mending

/-!
# What mending leaves

A mended tree has nothing left for the rule it was mended by, and it has for another rule what it
had before: mending goes past parentheses and keys, and does not change what a name refers to.
Neither does it open or close a gap, or depend on positions.
-/
namespace Codemod.Fix.Rule

open Syntax Node Imports

variable {rule other : Rule} {bindings bound : Bindings} {shade : Shade} {node : Node}

/-- A rule has nothing for a node that is neither a call nor a construction. -/
theorem renewal_plain (lawful : rule.Lawful) (plain : isApplication node.kind = false)
    (resolve : Node → Option String) : rule.renewal resolve node = none := by
  refine if_neg fun same => ?_
  rw [eq_of_beq same, lawful.application] at plain
  cases plain

/-- A node that is no scope binds nothing. -/
theorem under_plain (plain : isScope node.kind = false) : shade.under node = shade := by
  funext name
  rw [Shade.under, scope_declares_of_kind plain, Bool.or_false]

/-- What frames, keys and literals are made of is no call or construction and binds nothing. -/
theorem of_plain (plain : Plain node) : isApplication node.kind = false ∧ isScope node.kind = false ∧
    node.isIncomplete = false := by
  rcases plain.kinds with kind | kind | kind | kind | kind | kind | kind | kind
  all_goals
    simp only [isIncomplete, kind]
    exact ⟨rfl, rfl, rfl⟩

/-- What frames, keys and literals are made of is hit where its parts are. -/
theorem hits_plain (lawful : rule.Lawful) (plain : Plain node) : rule.hits bindings shade node =
    node.parts.any fun part => rule.hits bindings shade part.2 := by
  obtain ⟨notApplied, notScope, _⟩ := of_plain plain
  rw [hits_eq, renewal_plain lawful notApplied, hitsBelow, under_plain notScope]
  refine (Bool.false_or _).trans (any_of_mem fun part present => ?_)
  rw [List.all_eq_true.mp plain.visited part present, Bool.true_and]

/-- What a rule hits shows through frames, keys and literals. -/
theorem hits_transparent (lawful : rule.Lawful) (bindings : Bindings) (shade : Shade) :
    Transparent (rule.hits bindings shade) :=
  transparent_of_parts fun _ => hits_plain lawful

/-- What they are made of has a gap where its parts have one. -/
theorem gap_plain (plain : Plain node) : node.hasGap = node.parts.any fun part => part.2.hasGap := by
  rw [has_gap_eq, (of_plain plain).2.2]
  refine (Bool.false_or _).trans (any_of_mem fun part present => ?_)
  rw [List.all_eq_true.mp plain.visited part present, Bool.true_and]

/-- Missing parts show through frames, keys and literals. -/
theorem gap_transparent : Transparent hasGap :=
  transparent_of_parts fun _ => gap_plain

/-- The arguments of a call or construction are visited. -/
theorem visits_arguments {kind : Kind} (isApplied : isApplication kind = true) :
    Role.isVisited kind .arguments = true := by
  simp only [isApplication, Bool.or_eq_true, beq_iff_eq] at isApplied
  rcases isApplied with rfl | rfl <;> rfl

/-- A node that is hit below and is neither a call nor a construction is put together again. All its
parts are visited, and it binds no names for them. -/
theorem mend_plain (lawful : rule.Lawful) (plain : Plain node) :
    rule.mend bindings shade node =
      if node.parts.any (fun part => rule.hits bindings shade part.2) then
        node.refit (node.parts.map fun part => rule.mend bindings shade part.2)
      else node := by
  obtain ⟨notApplied, notScope, _⟩ := of_plain plain
  have visited := List.all_eq_true.mp plain.visited
  have hit : rule.hitsBelow bindings shade node =
      node.parts.any fun part => rule.hits bindings shade part.2 := by
    rw [hitsBelow, under_plain notScope]
    refine any_of_mem fun part present => ?_
    rw [visited part present, Bool.true_and]
  have parts : node.parts.map (rule.part bindings (shade.under node) node.kind) =
      node.parts.map fun part => rule.mend bindings shade part.2 := by
    refine List.map_congr_left fun part present => ?_
    rw [Rule.part, if_pos (visited part present), under_plain notScope]
  have other : (rule.below bindings shade node).kind ≠ rule.kind := by
    intro same
    have kind : node.kind = rule.kind := kind_below.symm.trans same
    rw [kind, lawful.application] at notApplied
    cases notApplied
  rw [mend_eq, applied_other other, below, hit, parts]

/-- The parentheses around a part hold its replacement as they held the part. -/
theorem refit_placed {x y : Node} (span : y.info.span = x.info.span) :
    x.parenthesized.refit [y] = y.parenthesized := by
  rw [parenthesized, parenthesized, span]
  rfl

/-- A property holds a new value as one made of that value would. -/
theorem refit_property (name : String) (x y : Node) :
    (property name x).refit [Node.identifier name, y.asMember] = property name y := by
  have fits : (property name x).refit [Node.identifier name, y.asMember] =
      property name y.asMember := rfl
  rw [fits, property_as_member]

/-- No property of an object literal is ever put in parentheses. Their role has no frame. The induction
is on the items. -/
theorem fit_properties {info : Info} {results : List Node} (kind : info.kind = .objectLiteralExpression)
    (layout : info.layout = results.map fun _ => .properties) : fit info results = results := by
  have stays (operator : Kind) (result : Node) :
      seated info operator (.properties, false) result = result := by
    simp only [seated, fitted, kind, Bool.false_eq_true, if_false]
  have plain : refusesGenericFirst info.kind = false := by
    rw [kind]
    rfl
  rw [fit_eq, seats, plain, if_neg Bool.false_ne_true, layout]
  generalize operatorAmong info results = operator
  clear layout
  induction results with
  | nil => rfl
  | cons result results inductionHypothesis =>
    rw [List.map_cons, List.map_cons, List.zip_cons_cons, List.zipWith_cons_cons, stays,
      inductionHypothesis]

/-- An object literal holds new properties as one made of them would. -/
theorem refit_object {properties results : List Node} (complete : results.length = properties.length) :
    (objectOf properties).refit results = objectOf results := by
  have roles : properties.map (fun _ => Role.properties) = results.map fun _ => .properties := by
    rw [List.map_const', List.map_const', complete]
  rw [object_eq, object_eq, refit, info, children, fit_properties rfl roles, roles,
    List.drop_eq_nil_of_le (Nat.le_of_eq (by rw [List.length_map, complete])), List.append_nil]

/-- Mending goes into parentheses and keyed values. Frames and keys are put together again as they were,
around what their parts become; zero values and empty texts have no parts and stay. -/
theorem mend_faithful (lawful : rule.Lawful) (bindings : Bindings) (shade : Shade) :
    Faithful (rule.mend bindings shade) := by
  have kin := mended_kin bindings lawful
  have transparent := hits_transparent lawful bindings shade
  have mended (node : Node) : Mended rule bindings node (rule.mend bindings shade node) :=
    .inr ⟨shade, rfl⟩
  have placed (node : Node) : rule.mend bindings shade node.parenthesized =
      (rule.mend bindings shade node).parenthesized := by
    refine (mend_plain lawful ⟨.inl rfl, rfl, rfl⟩).trans ?_
    change (if (rule.hits bindings shade node || false) = true then
      node.parenthesized.refit [rule.mend bindings shade node] else node.parenthesized) = _
    rw [Bool.or_false]
    split
    · exact refit_placed span_mend
    · rename_i unhit
      rw [mend_unhit (Bool.not_eq_true _ ▸ unhit)]
  have strength (node : Node) : (rule.mend bindings shade node).strength = node.strength :=
    (kin.strength (mended node)).symm
  have member (node : Node) : rule.mend bindings shade node.asMember =
      (rule.mend bindings shade node).asMember := by
    rw [asMember, asMember, inParensUnless, inParensUnless, strength]
    split
    · rfl
    · exact placed node
  refine ⟨placed, ?_, ?_, fun _ => kind_mend, strength, ?_, ?_⟩
  · intro name value
    have key : rule.hits bindings shade (Node.identifier name) = false :=
      by rw [hits_eq, renewal_plain lawful rfl]; rfl
    refine (mend_plain lawful ⟨.inr (.inr (.inr (.inl rfl))), rfl, rfl⟩).trans ?_
    change (if (rule.hits bindings shade (Node.identifier name) ||
        (rule.hits bindings shade value.asMember || false)) = true then
      (property name value).refit [rule.mend bindings shade (Node.identifier name),
        rule.mend bindings shade value.asMember] else property name value) = _
    rw [key, test_as_member transparent, Bool.false_or, Bool.or_false, mend_unhit key, member]
    split
    · exact refit_property name value _
    · rename_i unhit
      rw [mend_unhit (Bool.not_eq_true _ ▸ unhit)]
  · intro properties
    rw [mend_plain lawful (plain_object properties), parts_object, List.any_map, List.map_map]
    split
    · exact refit_object (List.length_map _)
    · rename_i unhit
      rw [Bool.not_eq_true, List.any_eq_false] at unhit
      have same : properties.map (rule.mend bindings shade) = properties := by
        refine (List.map_congr_left fun property present => ?_).trans (List.map_id _)
        exact mend_unhit (Bool.not_eq_true _ ▸ unhit property present)
      rw [same]
  · intro node
    exact (kin.is_empty_text (mended node)).symm
  · intro node
    exact (kin.is_zero (mended node)).symm

/-- Where a name before the arguments may be put in parentheses, it refers to what it did. The only frame
that is put there is a pair of parentheses, which is looked through. -/
theorem resolve_seated {info : Info} {operator : Kind} {first : Bool} {callee : Node}
    (isApplied : isApplication info.kind = true)
    (marked : first = true → Role.expression = .typeArguments ∧ refusesGenericFirst info.kind = true) :
    resolveIn shade bindings (seated info operator (.expression, first) callee) =
      resolveIn shade bindings callee := by
  have unmarked : first = false := by
    rw [← Bool.not_eq_true]
    intro isFirst
    cases (marked isFirst).1
  have wrapped : resolveIn shade bindings callee.wrapped = resolveIn shade bindings callee := by
    have inside : callee.wrapped.unwrap = callee.unwrap := unwrap_parenthesized rfl rfl
    rw [resolveIn, resolveIn, inside]
  rw [seated, unmarked, if_neg Bool.false_ne_true]
  simp only [isApplication, Bool.or_eq_true, beq_iff_eq] at isApplied
  rcases isApplied with kind | kind
  · simp only [fitted, kind]
  · simp only [fitted, kind, wrappedUnless]
    split
    · rfl
    · exact wrapped

/-- The name before the arguments refers to the same export after mending below. It is mended like any
part, which keeps what it refers to, and may be put in parentheses. -/
theorem callee_below (lawful : other.Lawful) (isApplied : isApplication node.kind = true) :
    ((other.below bound shade node).child? .expression).bind (resolveIn shade bindings) =
      (node.child? .expression).bind (resolveIn shade bindings) := by
  have related : List.Forall₂ (fun p q : Role × Node => p.1 = q.1 ∧
      (p.1 == .expression → resolveIn shade bindings p.2 = resolveIn shade bindings q.2))
      node.parts (other.below bound shade node).parts := by
    rw [below]
    split
    · refine rel_parts_refit node _ fun part _ operator first marked => ⟨rfl, fun same => ?_⟩
      rw [eq_of_beq same] at marked ⊢
      rw [resolve_seated isApplied marked, Rule.part]
      split
      · exact (mended_kin bound lawful).resolve_in (.inr ⟨_, rfl⟩) shade bindings
      · rfl
    · exact List.forall₂_same.mpr fun part _ => ⟨rfl, fun _ => rfl⟩
  have items := items_of_parts (R := fun x y => resolveIn shade bindings x = resolveIn shade bindings y)
    (· == .expression) related (beq_self_eq_true _)
  rw [child_eq_head, child_eq_head]
  generalize node.items .expression = xs at items ⊢
  generalize (other.below bound shade node).items .expression = ys at items ⊢
  cases items with
  | nil => rfl
  | cons first _ => exact first.symm

/-- When nothing is hit below a call or construction, no argument is. -/
theorem unhit_argument (isApplied : isApplication node.kind = true)
    (unhit : rule.hitsBelow bindings shade node = false) {argument : Node}
    (present : argument ∈ node.items .arguments) : rule.hits bindings shade argument = false := by
  obtain ⟨part, listed, rfl⟩ := List.mem_map.mp present
  obtain ⟨inside, isArgument⟩ := List.mem_filter.mp listed
  have kept := List.any_eq_false.mp unhit part inside
  rw [eq_of_beq isArgument, visits_arguments isApplied, Bool.true_and,
    under_application isApplied, Bool.not_eq_true] at kept
  exact kept

/-- What a rule has for a node mended below is what it has for the node, mended. The callee refers to
what it did, and each argument became its mended self, up to parentheses that a list demands; the rule is
carried along by such a change. -/
theorem renewal_below (lawful : rule.Lawful) (otherLawful : other.Lawful) (bindings bound : Bindings)
    (shade : Shade) (node : Node) :
    (rule.renewal (resolveIn shade bindings) (other.below bound shade node)).map (·.map asMember) =
      (rule.renewal (resolveIn shade bindings) node).map
        (·.map fun argument => (other.mend bound shade argument).asMember) := by
  by_cases same : node.kind = rule.kind
  · have isApplied : isApplication node.kind = true := same ▸ lawful.application
    have related : List.Forall₂ (fun x y => y.asMember = (other.mend bound shade x).asMember)
        (node.items .arguments) ((other.below bound shade node).items .arguments) := by
      rw [arguments_below other bound shade isApplied]
      split
      · rw [List.forall₂_map_right_iff]
        exact List.forall₂_same.mpr fun _ _ => as_member_as_member _
      · rename_i unhit
        refine List.forall₂_same.mpr fun argument present => ?_
        rw [mend_unhit (unhit_argument isApplied (Bool.not_eq_true _ ▸ unhit) present)]
    rw [renewal, renewal, kind_below, if_pos (by rw [same, beq_self_eq_true]),
      if_pos (by rw [same, beq_self_eq_true]), callee_below otherLawful isApplied, listed_below]
    rcases (node.child? .expression).bind (resolveIn shade bindings) with _ | exported
    · rfl
    · exact lawful.carried (mend_faithful otherLawful bound shade) related
  · rw [renewal, renewal, kind_below, if_neg (by simpa using same), if_neg (by simpa using same)]
    rfl

/-- The data, the parts and what has no role make up a node. -/
theorem node_ext {a b : Node} (info : a.info = b.info) (parts : a.parts = b.parts)
    (rest : a.children.drop a.info.layout.length = b.children.drop b.info.layout.length) : a = b := by
  have children : a.children = b.children := by rw [children_eq a, children_eq b, parts, rest]
  obtain ⟨_, _⟩ := a
  obtain ⟨_, _⟩ := b
  cases info
  cases children
  rfl

/-- In calls and constructions only the kind and the role decide about parentheses. -/
theorem fitted_application {info data : Info} (isApplied : isApplication info.kind = true)
    (same : data.kind = info.kind) (first second : Kind) (role : Role) (child : Node) :
    fitted data first role child = fitted info second role child := by
  simp only [isApplication, Bool.or_eq_true, beq_iff_eq] at isApplied
  unfold fitted
  rcases isApplied with kind | kind
  · rw [same, kind]
    cases role <;> rfl
  · rw [same, kind]
    cases role <;> rfl

/-- An argument is given the parentheses of a list member, whatever it is an argument of. -/
theorem fitted_argument {info : Info} (isApplied : isApplication info.kind = true) (operator : Kind)
    (argument : Node) : fitted info operator .arguments argument = argument.asMember := by
  simp only [isApplication, Bool.or_eq_true, beq_iff_eq] at isApplied
  rcases isApplied with kind | kind <;> simp only [fitted, kind]

/-- The parts of a call or construction mended below. -/
theorem parts_below_application (isApplied : isApplication node.kind = true)
    (hit : other.hitsBelow bound shade node = true) :
    (other.below bound shade node).parts = node.parts.map fun part =>
      (part.1, fitted node.info .unknown part.1 (other.part bound shade node.kind part)) := by
  have plain : refusesGenericFirst node.kind = false := by
    simp only [isApplication, Bool.or_eq_true, beq_iff_eq] at isApplied
    rcases isApplied with kind | kind <;> rw [kind] <;> rfl
  rw [below, if_pos hit, under_application isApplied, parts_refit_plain plain]
  refine List.map_congr_left fun part _ => ?_
  rw [fitted_application isApplied rfl]

/-- Mending below a node keeps the data of the node. -/
theorem info_below : (rule.below bindings shade node).info = node.info := by
  unfold below
  split <;> rfl

/-- Going on below a node that was given arguments comes to the same as giving the node its arguments
when all below it is mended. -/
theorem below_given (lawful : rule.Lawful) (otherLawful : other.Lawful) (bound : Bindings)
    {arguments : List Node}
    (renews : rule.renewal (resolveIn shade bindings) node = some arguments) :
    ∃ more, rule.renewal (resolveIn shade bindings) (other.below bound shade node) = some more ∧
      other.below bound shade (node.given arguments) = (other.below bound shade node).given more := by
  have isApplied : isApplication node.kind = true := kind_of_renewal renews ▸ lawful.application
  have renewal := renewal_below lawful otherLawful bindings bound shade node
  rw [renews, Option.map_some, Option.map_eq_some_iff] at renewal
  obtain ⟨more, moreRenews, members⟩ := renewal
  refine ⟨more, moreRenews, ?_⟩
  obtain ⟨exported, _, renewed⟩ := renew_of_renewal renews
  have faithful := mend_faithful otherLawful bound shade
  have hit : other.hitsBelow bound shade (node.given arguments) = other.hitsBelow bound shade node := by
    rw [hitsBelow, hitsBelow, under_application (by rwa [kind_given]), under_application isApplied,
      kind_given]
    exact any_parts_given (hits_transparent otherLawful bound shade) (·.isVisited node.kind) lawful
      renewed (visits_arguments isApplied)
  by_cases unhit : other.hitsBelow bound shade node = true
  · have length : more.length = arguments.length := by simpa using congrArg List.length members
    have belowNode := parts_below_application isApplied unhit
    have givenApplied : isApplication (node.given arguments).kind = true := isApplied
    have belowGiven := parts_below_application givenApplied (hit.trans unhit)
    have kept : ((other.below bound shade node).parts.filter (·.1 != .arguments)).map (·.1) =
        (node.parts.filter (·.1 != .arguments)).map (·.1) := by
      rw [belowNode, List.filter_map, List.map_map]
      rfl
    have data : (node.given arguments).info = ((other.below bound shade node).given more).info := by
      rw [info_given, info_given, info_below, kept, List.map_const', List.map_const', length]
    have renewedParts : (arguments.map fun argument => (Role.arguments, argument.asMember)).map
        (fun part => (part.1, fitted (node.given arguments).info .unknown part.1
          (other.part bound shade (node.given arguments).kind part))) =
        more.map fun argument => (Role.arguments, argument.asMember) := by
      have paired := congrArg (List.map (Prod.mk Role.arguments)) members
      rw [List.map_map, List.map_map] at paired
      rw [List.map_map]
      refine Eq.trans (List.map_congr_left fun argument _ => ?_) paired.symm
      simp only [Function.comp, Rule.part, kind_given, visits_arguments isApplied, if_true]
      have applied : isApplication (node.given arguments).info.kind = true := isApplied
      rw [fitted_argument applied, faithful.as_member, as_member_as_member]
    refine node_ext (info_below.trans data) ?_ ?_
    · rw [belowGiven, parts_given, parts_given, belowNode, List.map_append, renewedParts,
        List.filter_map]
      congr 1
    · rw [rest_below, rest_given, rest_given, rest_below]
  · rw [below, hit, if_neg unhit]
    rw [below, if_neg unhit, renews] at moreRenews
    rw [below, if_neg unhit, Option.some.inj moreRenews]

section

variable {trivia : Bool}

end

end Codemod.Fix.Rule
