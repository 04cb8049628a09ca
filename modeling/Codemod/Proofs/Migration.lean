import Codemod.Proofs.Importing
import Codemod.Proofs.Visiting

/-!
# What the fixes leave behind

A file that was processed without failure holds no old construction or call that the
fixes should have changed, at the places that a transformation visits: the last pass asked
each fix about the tree that is left, and neither replaced anything. Where an expression
reaches an export of the module through a name that nothing else declares, a construction of
an address has no arguments, too many, or one that is not positional, and a call of `dial` with
three arguments has a local address that is not empty, and was reported.

Places that a transformation does not visit are excluded. The type after the parameters of a
constructor is such a place: it can be read, and what stands there is left as it was.
-/
namespace Codemod

open Syntax Node Imports FixedPoint

namespace Fix

/-- An expression refers to something only when the file binds something. Without a namespace and without
names every lookup comes to nothing. -/
theorem bound_of_resolve {file expression : Node} {bindings : Bindings} {exported : String}
    (refers : resolve file bindings expression = some exported) : bindings.isEmpty = false := by
  rw [Bool.eq_false_iff]
  intro empty
  simp only [Bindings.isEmpty, Bool.and_eq_true, List.isEmpty_iff] at empty
  have nothing : resolve file bindings expression = none := by
    unfold resolve
    dsimp only
    split
    · split <;> simp [empty.1]
    · simp [empty.2]
  rw [nothing] at refers
  cases refers

/-- A construction of an address that is left alone has no list of arguments, or an empty or a long
one, or one with an argument that is not given by its position. -/
theorem of_keyed_none {file node callee : Node} {bindings : Bindings} {exported : String}
    (kept : keyed file bindings node = none) (isNew : node.kind = .newExpression)
    (called : node.child? .expression = some callee)
    (refers : resolve file bindings callee = some exported)
    (isAddress : exported = "IPAddr" ∨ exported = "TCPAddr" ∨ exported = "UDPAddr") :
    node.list? .arguments = none ∨ node.items .arguments = [] ∨
      2 < (node.items .arguments).length ∨
      ∃ argument ∈ node.items .arguments, argument.kind = .objectLiteralExpression ∨
        argument.kind = .spreadElement := by
  obtain ⟨fields, known⟩ : ∃ fields, addressFields exported = some fields := by
    rcases isAddress with rfl | rfl | rfl <;> exact ⟨_, rfl⟩
  unfold keyed at kept
  split at kept
  · rename_i unlisted
    left
    simpa [isNew] using unlisted
  · right
    simp only [called, Option.bind_some, refers, known] at kept
    split at kept
    · rename_i excluded
      simp only [Bool.or_eq_true, decide_eq_true_eq, List.isEmpty_iff, Bool.not_eq_true',
        List.all_eq_false] at excluded
      rcases excluded with (empty | long) | ⟨argument, present, unpositional⟩
      · exact .inl empty
      · exact .inr (.inl long)
      · refine .inr (.inr ⟨argument, present, ?_⟩)
        simpa [isPositional, Classical.or_iff_not_imp_left] using unpositional
    · cases kept

section

variable {draft last : Draft} {place : List Nat} {node callee : Node} {exported : String}

/-- When the fix for addresses does not fire on a file that loads the module, it has nothing to put in
the place of any node that is visited and whose name before the arguments refers to something. -/
theorem quiet_construction (quiet : (runFix netAddrKeyed).run draft = (.ok false, last))
    (loads : importsModule draft.root netModule = true) (visited : draft.root.Visits place node)
    (strictly : place ≠ [])
    (refers : resolve draft.parsed.root (collect draft.root netModule) callee = some exported) :
    keyed draft.parsed.root (collect draft.root netModule) node = none := by
  have tested := run_precondition (show netAddrKeyed ∈ builtin by simp [builtin])
    (draft.running netAddrKeyed.name)
  obtain ⟨left, ran, rfl⟩ := quiet_run (tested.trans (by rw [← loads]; rfl)) quiet
  rw [run_net_addr_keyed, if_neg (by simp [Draft.running, bound_of_resolve refers])] at ran
  obtain ⟨earlier, _, _, visitRan, _⟩ :=
    Edit.quiet_transform (fun node => Edit.Notes.silent _) ran visited strictly
  exact Except.ok.inj (congrArg Prod.fst visitRan)

/-- When the fix for calls does not fire on a file that loads the module, every call of `dial` that is
visited keeps its three arguments because its local address is not empty, and is reported. -/
theorem quiet_call (quiet : (runFix netDial).run draft = (.ok false, last))
    (loads : importsModule draft.root netModule = true) (visited : draft.root.Visits place node)
    (strictly : place ≠ [])
    (dials : isDial draft.parsed.root (collect draft.root netModule) node = true) :
    redialled draft.parsed.root (collect draft.root netModule) node = none ∧
      draft.remark netDial.name node dialMessage ∈ last.warnings := by
  have tested := run_precondition (show netDial ∈ builtin by simp [builtin])
    (draft.running netDial.name)
  obtain ⟨left, ran, rfl⟩ := quiet_run (tested.trans (by rw [← loads]; rfl)) quiet
  rw [run_net_dial] at ran
  obtain ⟨earlier, middle, later, visitRan, rfl⟩ :=
    Edit.quiet_transform (undialled_notes _ _) ran visited strictly
  rw [run_undialled] at visitRan
  have kept : redialled draft.parsed.root (collect draft.root netModule) node = none :=
    Except.ok.inj (congrArg Prod.fst visitRan)
  refine ⟨kept, ?_⟩
  have warned := congrArg Prod.snd visitRan
  dsimp only at warned
  rw [if_pos ⟨dials, kept⟩] at warned
  subst warned
  refine List.mem_append_left _ (List.mem_append_right _ (List.mem_singleton.mpr ?_))
  rfl

end

end Fix

/-- A call of `dial` that keeps its three arguments has a local address that is not empty. -/
theorem Fix.of_redialled_none {file node : Node} {bindings : Bindings}
    {network localAddress address : Node} (kept : redialled file bindings node = none)
    (dials : isDial file bindings node = true)
    (given : node.items .arguments = [network, localAddress, address]) :
    localAddress.isEmptyText = false := by
  simpa [redialled, dials, given] using kept

/-- Processing completes the migration. When a text was processed by the fixes that come with the
program without failure, then in the tree that is left, at every place that a transformation visits,
what reaches an export through an imported name that nothing else in the file declares is migrated.
A construction of an address has no list of arguments, or none or more than two of them, or an
object literal or a spread among them. A call of `dial` with three arguments has a local address that
is not the empty text, and there is a warning about it.

The last pass applied nothing. So each fix was asked about every visited node of the tree that is left,
which is the one that its text is read as, and had nothing to put in its place. -/
theorem process_migrates (path text : String) (fixes : List Fix) (cap : Int)
    (known : ∀ fix ∈ fixes, fix ∈ Fix.builtin) (keys : Fix.netAddrKeyed ∈ fixes)
    (dials : Fix.netDial ∈ fixes) (succeeded : (processSource path text fixes cap).error = none) :
    ∃ opened driven after, Draft.parse path text = .ok opened ∧
      (drive fixes cap).run opened = (.ok driven, after) ∧
      processSource path text fixes cap = .settled path text driven after ∧
      ∀ (declaration : Node) (name : String) (meaning : Meaning),
        Imported "net" after.root declaration name meaning →
        (∀ other, Introduces name after.root other → other = declaration) →
        ∀ (place : List Nat) (node callee : Node) (exported : String),
          after.root.Visits place node → node.child? .expression = some callee →
          Reaches name exported meaning callee →
          (node.kind = .newExpression →
            (exported = "IPAddr" ∨ exported = "TCPAddr" ∨ exported = "UDPAddr") →
            node.list? .arguments = none ∨ node.items .arguments = [] ∨
              2 < (node.items .arguments).length ∨
              ∃ argument ∈ node.items .arguments,
                argument.kind = .objectLiteralExpression ∨ argument.kind = .spreadElement) ∧
          (node.kind = .callExpression → exported = "dial" →
            ∀ network localAddress address,
              node.items .arguments = [network, localAddress, address] →
              localAddress.isEmptyText = false ∧
                after.remark "net-dial" node "call to net.dial with non-empty local address" ∈
                  (processSource path text fixes cap).warnings) := by
  obtain ⟨opened, driven, after, parsed, ran, outcome⟩ := process_ok succeeded
  refine ⟨opened, driven, after, parsed, ran, outcome, ?_⟩
  intro declaration name meaning imported only place node callee exported visited called reaches
  have dependent : ∀ fix ∈ fixes, fix.DependsOn Draft.view :=
    fun fix member => Fix.builtin_depends fix (known fix member)
  obtain ⟨openedFresh, openedPath⟩ := Draft.fresh_of_parse parsed
  have fresh := (drive_fresh dependent ran openedFresh).1
  obtain ⟨rounds, before, _, _, quiet, _⟩ := (passes_ok fixes cap _ _ _ _ _ _ _).mp ran
  have kept : after.view = before.cleared.view := (quiet_pass Draft.view_sees dependent quiet).1
  have read := parse_of_file fresh.reads
  rw [fresh.root] at imported only visited
  have loads := imported.loads
  have refers := resolve_reached read imported only reaches
    (Inside.trans ⟨place, below_of_visits visited⟩ (.part called))
  have strictly (notFile : node.kind ≠ .sourceFile) : place ≠ [] := by
    rintro rfl
    cases visited
    exact notFile (Grammar.kind_of_parse read)
  -- Both fixes were asked about the tree that is left, by a draft that agrees with the last one.
  have asked {fix : Fix} (member : fix ∈ fixes) : ∃ start left,
      (runFix fix).run start = (.ok false, left) ∧ start.view = after.view ∧
        start.root = after.parsed.root ∧ start.parsed = after.parsed ∧
        left.warnings ⊆ after.warnings := by
    obtain ⟨start, left, same, fixQuiet, noted⟩ := Fix.quiet_pass_member known member quiet
    have agrees : start.view = after.view := same.trans kept.symm
    exact ⟨start, left, fixQuiet, agrees, (congrArg Draft.View.root agrees).trans fresh.root,
      congrArg Draft.View.parsed agrees, noted⟩
  constructor
  · intro isNew isAddress
    obtain ⟨start, left, fixQuiet, _, root, tree, _⟩ := asked keys
    have idle := Fix.quiet_construction fixQuiet (root ▸ loads) (root ▸ visited)
      (strictly (by rw [isNew]; decide)) (by rw [root, tree]; exact refers)
    rw [root, tree] at idle
    exact Fix.of_keyed_none idle isNew called refers isAddress
  · rintro isCall rfl network localAddress address given
    have isDial : Fix.isDial after.parsed.root (collect after.parsed.root Fix.netModule) node = true := by
      have refersDial : resolve after.parsed.root (collect after.parsed.root Fix.netModule) callee =
          some "dial" := refers
      simp [Fix.isDial, isCall, given, called, refersDial]
    obtain ⟨start, left, fixQuiet, agrees, root, tree, noted⟩ := asked dials
    obtain ⟨idle, warned⟩ := Fix.quiet_call fixQuiet (root ▸ loads) (root ▸ visited)
      (strictly (by rw [isCall]; decide)) (by rw [root, tree]; exact isDial)
    rw [root, tree] at idle
    refine ⟨Fix.of_redialled_none idle isDial given, ?_⟩
    rw [outcome]
    exact noted (Draft.remark_of_view agrees _ _ _ ▸ warned)

/-- A node of a tree that reaches an export through a name `n`, which the tree imports as the whole
module and which nothing else in it declares. -/
structure Uses (root : Node) (exported : String) (declaration node callee : Node) : Prop where
  imported : Imported "net" root declaration "n" .whole
  only : ∀ other, Introduces "n" root other → other = declaration
  called : node.child? .expression = some callee
  reaches : Reaches "n" exported .whole callee

/-- The import and the name before the arguments, when a node reaches an export through the name that
the first statement imports. -/
def uses? (root node : Node) (exported : String) : Option (Node × Node) :=
  (root.items .statements).head?.bind fun statement =>
  (statement.child? .moduleSpecifier).bind fun specifier =>
  (statement.child? .importClause).bind fun clause =>
  (clause.child? .name).bind fun name =>
  (node.child? .expression).bind fun callee =>
  (callee.child? .expression).bind fun object =>
  (callee.child? .name).bind fun member =>
    if statement.kind = .importDeclaration ∧ specifier.kind = .stringLiteral ∧
        specifier.text = "net" ∧ clause.kind = .importClause ∧
        clause.info.marks.typeOnly = false ∧ name.text = "n" ∧
        callee.kind = .propertyAccessExpression ∧ object.kind = .identifier ∧ object.text = "n" ∧
        member.kind = .identifier ∧ member.text = exported ∧
        everywhere (fun other => nameOf other .name != some "n" ||
          other.info.origin == clause.info.origin) root = true
    then some (clause, callee) else none

/-- A use that passes the check is one, with the import and the callee that the check gives. That the
name is introduced at no other place is tested at every place of the tree, by the way down to it. -/
theorem uses_of_check {path text : String} {parsed : Grammar.Parsed}
    (reads : parseFile path text = .ok parsed) {node clause callee : Node} {exported : String}
    (checked : uses? parsed.root node exported = some (clause, callee)) :
    Uses parsed.root exported clause node callee := by
  simp only [uses?, Option.bind_eq_some_iff, Option.ite_none_right_eq_some, Option.some.injEq,
    Prod.mk.injEq] at checked
  obtain ⟨statement, first, specifier, source, _, has, name, named, _, called, object, before, member,
    after, ⟨isImport, isText, isNet, isClause, ofValues, isN, isAccess, isName, spelled, isMember,
      names, alone⟩, rfl, rfl⟩ := checked
  have top : statement ∈ parsed.root.items .statements := List.mem_of_head? first
  have imports : ImportsFrom "net" parsed.root statement _ :=
    ⟨top, isImport, ⟨specifier, source, isText, isNet⟩, has, isClause, ofValues⟩
  have inside : Inside parsed.root _ := (Inside.item top).trans (.part has)
  refine ⟨isN ▸ .default imports named, ?_, called,
    .member .bare isAccess before .bare isName spelled after isMember names⟩
  intro other introduces
  obtain ⟨place, clauseAt⟩ := inside
  obtain ⟨further, otherAt⟩ := introduces.1.inside
  have same := test_of_everywhere alone introduces.1.inside
  simp only [introduces.2, bne_self_eq_false, Bool.false_or, beq_iff_eq] at same
  rw [Grammar.origin_of_parse (parse_of_file reads) clauseAt,
    Grammar.origin_of_parse (parse_of_file reads) otherAt] at same
  have samePlace : further = place := by simpa using same
  exact Option.some.inj ((samePlace ▸ otherAt).symm.trans clauseAt)

/-- Whether a text is driven to an end by the fixes that come with the program, and a draft that passes
a test is left. -/
def drivenTo (text : String) (test : Draft → Option Unit) : Option Unit :=
  match Draft.parse "/a.ts" text with
  | .error _ => none
  | .ok opened =>
    match (drive Fix.builtin 8).run opened with
    | (.error _, _) => none
    | (.ok _, after) => test after

/-- A text that passes the check is driven to an end, without failure, and to a fresh draft. The check
runs the same functions, and the cases in which it says no are those of a failure. -/
theorem driven_of_check {text : String} {test : Draft → Option Unit}
    (checked : drivenTo text test = some ()) :
    ∃ opened driven after, Draft.parse "/a.ts" text = .ok opened ∧
      (drive Fix.builtin 8).run opened = (.ok driven, after) ∧ test after = some () ∧
      (processSource "/a.ts" text Fix.builtin 8).error = none ∧ after.Fresh := by
  unfold drivenTo at checked
  split at checked
  · cases checked
  · rename_i opened parsed
    split at checked
    · cases checked
    · rename_i driven after ran
      refine ⟨opened, driven, after, parsed, ran, checked, ?_,
        (drive_fresh Fix.builtin_depends ran (Draft.fresh_of_parse parsed).1).1⟩
      rw [process_opened Fix.builtin 8 parsed, ran]
      rfl

/-- A file with a call that cannot be changed and a construction that can. -/
def migrating : String :=
  "import n from\"net\";n.dial(a,b,c);new n.IPAddr(d)"

/-- In the tree that is left of that file the call is reported and the construction takes an object
literal. -/
theorem migrating_migrated :
    ∃ opened driven after importing call dial other construction address,
      Draft.parse "/a.ts" migrating = .ok opened ∧
      (drive Fix.builtin 8).run opened = (.ok driven, after) ∧
      after.root.Visits [1, 0] call ∧ Uses after.root "dial" importing call dial ∧
      after.root.Visits [2, 0] construction ∧ Uses after.root "IPAddr" other construction address ∧
      after.remark "net-dial" call "call to net.dial with non-empty local address" ∈
        (processSource "/a.ts" migrating Fix.builtin 8).warnings ∧
      (construction.list? .arguments = none ∨ construction.items .arguments = [] ∨
        2 < (construction.items .arguments).length ∨
        ∃ argument ∈ construction.items .arguments, argument.kind = .objectLiteralExpression ∨
          argument.kind = .spreadElement) := by
  obtain ⟨opened, driven, after, parsed, ran, checked, succeeded, fresh⟩ :=
    driven_of_check (show drivenTo migrating (fun after =>
      (after.root.visited? [1, 0]).bind fun call =>
      (after.root.visited? [2, 0]).bind fun construction =>
      (uses? after.root call "dial").bind fun _ =>
      (uses? after.root construction "IPAddr").bind fun _ =>
        if call.kind = .callExpression ∧ (call.items .arguments).length = 3 ∧
            construction.kind = .newExpression then some () else none) = some () by decide +kernel)
  simp only [Option.bind_eq_some_iff, Option.ite_none_right_eq_some, and_true] at checked
  obtain ⟨call, callAt, construction, constructionAt, ⟨importing, dial⟩, callUses, ⟨other, address⟩,
    constructionUses, isCall, three, isNew⟩ := checked
  have first : Uses after.root "dial" importing call dial :=
    fresh.root ▸ uses_of_check fresh.reads (fresh.root ▸ callUses)
  have second : Uses after.root "IPAddr" other construction address :=
    fresh.root ▸ uses_of_check fresh.reads (fresh.root ▸ constructionUses)
  obtain ⟨opened', driven', after', parsed', ran', _, migrated⟩ :=
    process_migrates "/a.ts" migrating Fix.builtin 8 (fun fix member => member)
      (by simp [Fix.builtin]) (by simp [Fix.builtin]) succeeded
  cases parsed.symm.trans parsed'
  cases ran.symm.trans ran'
  obtain ⟨network, localAddress, remote, given⟩ := List.length_eq_three.mp three
  have callVisited := visits_of_visited callAt
  have constructionVisited := visits_of_visited constructionAt
  have reported := (migrated importing "n" .whole first.imported first.only [1, 0] call dial "dial"
    callVisited first.called first.reaches).2 isCall rfl network localAddress remote given
  have keyed := (migrated other "n" .whole second.imported second.only [2, 0] construction address
    "IPAddr" constructionVisited second.called second.reaches).1 isNew (.inl rfl)
  exact ⟨opened, driven, after, importing, call, dial, other, construction, address, parsed, ran,
    callVisited, first, constructionVisited, second, reported.2, keyed⟩

/-- A file with a construction in the type after the parameters of a constructor. -/
def unvisited : String :=
  "import n from\"net\";class C\x7bconstructor():\x7b[new n.IPAddr(a)]:T\x7d\x7b\x7d\x7d"

/-- That file is processed without failure by the fixes that come with the program, and the tree that
is left still holds the construction with its one argument given by its position. -/
theorem unvisited_unmigrated :
    ∃ opened driven after importing construction address argument,
      Draft.parse "/a.ts" unvisited = .ok opened ∧
      (drive Fix.builtin 8).run opened = (.ok driven, after) ∧
      (processSource "/a.ts" unvisited Fix.builtin 8).error = none ∧
      after.root.below? [1, 1, 0, 0, 0, 0] = some construction ∧
      construction.kind = .newExpression ∧
      Uses after.root "IPAddr" importing construction address ∧
      construction.items .arguments = [argument] ∧ Fix.isPositional argument = true := by
  obtain ⟨opened, driven, after, parsed, ran, checked, succeeded, fresh⟩ :=
    driven_of_check (show drivenTo unvisited (fun after =>
      (after.root.below? [1, 1, 0, 0, 0, 0]).bind fun construction =>
      (uses? after.root construction "IPAddr").bind fun _ =>
        if construction.kind = .newExpression ∧ (construction.items .arguments).length = 1 ∧
            (construction.items .arguments).all Fix.isPositional then some () else none) =
      some () by decide +kernel)
  simp only [Option.bind_eq_some_iff, Option.ite_none_right_eq_some, and_true] at checked
  obtain ⟨construction, constructionAt, ⟨importing, address⟩, constructionUses, isNew, single,
    positional⟩ := checked
  obtain ⟨argument, given⟩ := List.length_eq_one_iff.mp single
  have uses : Uses after.root "IPAddr" importing construction address :=
    fresh.root ▸ uses_of_check fresh.reads (fresh.root ▸ constructionUses)
  exact ⟨opened, driven, after, importing, construction, address, argument, parsed, ran, succeeded,
    constructionAt, isNew, uses, given, by simpa [given] using positional⟩

end Codemod
