import Codemod.Files.Tree
import Mathlib.Control.Monad.Basic

/-!
# Following paths

A walk takes one name at a time: it halts, enters a place, or leaps behind a
link. What a walk finds is a matter of the entries that it comes to. More links
never take an answer away, a walk goes on behind the end of another one, and
leaving the last link unfollowed changes only where a walk ends.
-/
namespace Codemod.Files

/-- What the next name does to a walk. -/
inductive Move where
  /-- The walk ends here. -/
  | halt (result : Except Cause Place)
  /-- The names that are left are followed from a place. -/
  | enter (place : Place)
  /-- Other names are followed behind a link. -/
  | leap (start : Place) (names : List String)

namespace Tree

/-- The root is a directory in every tree. -/
@[simp] theorem at_root (tree : Tree) : tree.at? [] = some .directory := rfl

/-- Without the entries of one place, the other places are looked up as before. The induction is on the
entries, of which those of the place are dropped. -/
theorem lookup_filter_ne (entries : List (Place × Entry)) (place other : Place) :
    (entries.filter (·.1 ≠ place)).lookup other =
      if other = place then none else entries.lookup other := by
  induction entries with
  | nil => simp
  | cons entry rest inductionHypothesis =>
    obtain ⟨key, value⟩ := entry
    by_cases removed : key = place
    · subst removed
      by_cases same : other = key
      · subst same
        simpa using inductionHypothesis
      · have different : (other == key) = false := by simpa using same
        simpa [same, List.lookup_cons, different] using inductionHypothesis
    · have retained : (rest.filter (·.1 ≠ place)).lookup other =
          if other = place then none else rest.lookup other := inductionHypothesis
      by_cases same : other = key
      · subst same
        simp [removed]
      · have different : (other == key) = false := by simpa using same
        simpa [removed, List.lookup_cons, different] using retained

/-- Removing leaves nothing at its place and everything else as it was. -/
theorem at_remove (tree : Tree) (place other : Place) :
    (tree.remove place).at? other =
      if other = place ∧ place ≠ [] then none else tree.at? other := by
  unfold at? remove
  by_cases root : other = []
  · by_cases place = [] <;> simp_all
  · simp only [root, if_false, lookup_filter_ne]
    by_cases same : other = place
    · subst same
      simp [root]
    · simp [same]

/-- Putting changes what stands at its place and nothing else. -/
theorem at_put (tree : Tree) (place other : Place) (entry : Entry) (below : place ≠ []) :
    (tree.put place entry).at? other = if other = place then some entry else tree.at? other := by
  by_cases same : other = place
  · subst same
    simp [at?, put, below]
  · have different : (other == place) = false := by simpa using same
    have removed := at_remove tree place other
    rw [if_neg (by simp [same])] at removed
    rw [if_neg same, ← removed]
    simp [at?, put, List.lookup_cons, different]

/-- A place where no directory stands is not the root. -/
theorem ne_root {tree : Tree} {place : Place} (other : tree.at? place ≠ some .directory) :
    place ≠ [] := by
  rintro rfl
  exact other tree.at_root

/-- The place from which the target of a link is followed. -/
def behind (done : Place) (target : String) : Place :=
  if Path.isAbsolute target then [] else done

/-- Whether a name stands for an entry of the directory that it is met in. -/
def isOrdinary (name : String) : Bool :=
  name ≠ "" && name ≠ "." && name ≠ ".." && name.utf8ByteSize ≤ maxNameSize

/-- What any other name does in a directory. -/
def steer (done : Place) (name : String) : Move :=
  if name = "" || name = "." then .enter done
  else if name = ".." then .enter done.dropLast
  else .halt (.error .nameTooLong)

/-- A name that is no ordinary one leads on or is too long. -/
theorem steer_cases (done : Place) (name : String) :
    (∃ place, steer done name = .enter place) ∨
      steer done name = .halt (.error .nameTooLong) := by
  unfold steer
  split
  · exact .inl ⟨_, rfl⟩
  · split
    · exact .inl ⟨_, rfl⟩
    · exact .inr rfl

/-- What an ordinary name does, given what stands at its place and the names that follow it. -/
def meet (met : Option Entry) (followLast : Bool) (done : Place) (name : String)
    (rest : List String) : Move :=
  match met with
  | none => .halt (if rest.isEmpty then .ok (done ++ [name]) else .error .noEntry)
  | some (.link target) =>
    if rest.isEmpty && !followLast then .halt (.ok (done ++ [name]))
    else .leap (behind done target) (Path.parts target ++ rest)
  | some _ => .enter (done ++ [name])

/-- What the next name does, given the names that follow it. -/
def move (tree : Tree) (followLast : Bool) (done : Place) (name : String) (rest : List String) :
    Move :=
  match tree.at? done with
  | none => .halt (.error .noEntry)
  | some .directory =>
    if isOrdinary name then meet (tree.at? (done ++ [name])) followLast done name rest
    else steer done name
  | some _ => .halt (.error .notDirectory)

section Follow

variable {tree : Tree} {followLast : Bool} {links : Nat} {done : Place} {name : String}
  {rest : List String}

/-- Where no names are left, the walk has arrived. -/
theorem follow_nil (tree : Tree) (followLast : Bool) (links : Nat) (done : Place) :
    tree.follow followLast links done [] = .ok done := by
  cases links <;> rfl

/-- Behind a link one link fewer is left. -/
def leapt (tree : Tree) (followLast : Bool) : Nat → Place → List String → Except Cause Place
  | 0, _, _ => .error .tooManyLinks
  | links + 1, start, names => tree.follow followLast links start names

/-- A walk is its next move and then the rest of the walk. The cases are those of what stands where the
walk is, and of the name: empty, a dot, two dots, too long, or ordinary. -/
theorem follow_cons (tree : Tree) (followLast : Bool) (links : Nat) (done : Place) (name : String)
    (rest : List String) :
    tree.follow followLast links done (name :: rest) =
      match tree.move followLast done name rest with
      | .halt result => result
      | .enter place => tree.follow followLast links place rest
      | .leap start names => tree.leapt followLast links start names := by
  have unfolded : ∀ jump : Place → List String → Except Cause Place,
      tree.walkNames followLast jump done (name :: rest) =
        match tree.move followLast done name rest with
        | .halt result => result
        | .enter place => tree.walkNames followLast jump place rest
        | .leap start names => jump start names := by
    intro jump
    rw [walkNames, move]
    cases tree.at? done with
    | none => rfl
    | some entry =>
      cases entry with
      | file => rfl
      | link => rfl
      | directory =>
        dsimp only
        by_cases here : (name = "" || name = ".") = true
        · have odd : isOrdinary name = false := by grind [isOrdinary]
          rw [odd, if_pos here, if_neg (by decide), steer, if_pos here]
        · by_cases up : name = ".."
          · have odd : isOrdinary name = false := by grind [isOrdinary]
            rw [odd, if_neg here, if_pos up, if_neg (by decide), steer, if_neg here, if_pos up]
          · by_cases long : name.utf8ByteSize > maxNameSize
            · have odd : isOrdinary name = false := by grind [isOrdinary]
              rw [odd, if_neg here, if_neg up, if_pos long, if_neg (by decide), steer, if_neg here,
                if_neg up]
            · have ordinary : isOrdinary name = true := by grind [isOrdinary]
              rw [ordinary, if_neg here, if_neg up, if_neg long, if_pos rfl]
              unfold meet
              cases tree.at? (done ++ [name]) with
              | none => rfl
              | some entry =>
                cases entry with
                | file => rfl
                | directory => rfl
                | link target =>
                  dsimp only
                  by_cases last : (rest.isEmpty && !followLast) = true
                  · rw [if_pos last, if_pos last]
                  · rw [if_neg last, if_neg last]
                    rfl
  cases links with
  | zero => exact unfolded _
  | succ links => exact unfolded _

/-- A walk ends where its next move ends it. -/
theorem follow_halt {result : Except Cause Place}
    (moved : tree.move followLast done name rest = .halt result) :
    tree.follow followLast links done (name :: rest) = result := by
  rw [follow_cons, moved]

/-- A walk goes on from the place that its next move enters. -/
theorem follow_enter {place : Place} (moved : tree.move followLast done name rest = .enter place) :
    tree.follow followLast links done (name :: rest) =
      tree.follow followLast links place rest := by
  rw [follow_cons, moved]

/-- A walk goes on behind the link that its next move comes to, with one link fewer left. -/
theorem follow_leap {start : Place} {names : List String}
    (moved : tree.move followLast done name rest = .leap start names) :
    tree.follow followLast links done (name :: rest) =
      tree.leapt followLast links start names := by
  rw [follow_cons, moved]

end Follow

/-- Induction along a walk: a walk with more names may use what holds for fewer names, and for fewer
links what holds for any names. -/
theorem follow_induction {motive : Nat → Place → List String → Prop}
    (arrived : ∀ links done, motive links done [])
    (onward : ∀ links done name rest, (∀ place, motive links place rest) →
      (∀ fewer, links = fewer + 1 → ∀ start names, motive fewer start names) →
      motive links done (name :: rest))
    (links : Nat) (done : Place) (names : List String) : motive links done names := by
  induction links generalizing done names with
  | zero =>
    induction names generalizing done with
    | nil => exact arrived 0 done
    | cons name rest shorter =>
      refine onward 0 done name rest (fun place => shorter place) ?_
      intro fewer impossible
      cases impossible
  | succ links inductionHypothesis =>
    induction names generalizing done with
    | nil => exact arrived (links + 1) done
    | cons name rest shorter =>
      refine onward (links + 1) done name rest (fun place => shorter place) ?_
      intro fewer same start names
      cases same
      exact inductionHypothesis start names

/-- Induction along the moves of a walk. A move that enters leaves fewer names, and one that leaps leaves
fewer links. -/
theorem walk_induction (tree : Tree) (followLast : Bool)
    {motive : Nat → Place → List String → Prop}
    (arrived : ∀ links done, motive links done [])
    (halt : ∀ links done name rest result, tree.move followLast done name rest = .halt result →
      motive links done (name :: rest))
    (enter : ∀ links done name rest place, tree.move followLast done name rest = .enter place →
      motive links place rest → motive links done (name :: rest))
    (exhausted : ∀ done name rest start names,
      tree.move followLast done name rest = .leap start names → motive 0 done (name :: rest))
    (leap : ∀ links done name rest start names,
      tree.move followLast done name rest = .leap start names → motive links start names →
      motive (links + 1) done (name :: rest))
    (links : Nat) (done : Place) (names : List String) : motive links done names := by
  induction links, done, names using follow_induction with
  | arrived links done => exact arrived links done
  | onward links done name rest shorter fewer =>
    cases moved : tree.move followLast done name rest with
    | halt result => exact halt links done name rest result moved
    | enter place => exact enter links done name rest place moved (shorter place)
    | leap start names =>
      cases links with
      | zero => exact exhausted done name rest start names moved
      | succ links =>
        exact leap links done name rest start names moved (fewer links rfl start names)

/-- A path that is not empty leads where its names lead from the root. -/
theorem locate_eq {path : String} (named : path ≠ "") (tree : Tree) (followLast : Bool) :
    tree.locate path followLast = tree.follow followLast maxLinks [] (Path.parts path) :=
  if_neg named

/-- The empty path leads nowhere. -/
theorem locate_empty (tree : Tree) (followLast : Bool) : tree.locate "" followLast = .error .noEntry :=
  if_pos rfl

/-- A path leads to a place exactly if it has names that lead there: the empty path leads to none, not even
to the root. -/
theorem locate_ok {tree : Tree} {path : String} {followLast : Bool} {place : Place} :
    tree.locate path followLast = .ok place ↔
      path ≠ "" ∧ tree.follow followLast maxLinks [] (Path.parts path) = .ok place := by
  by_cases empty : path = ""
  · rw [empty, locate_empty]
    exact iff_of_false (fun impossible => by cases impossible) fun both => both.1 rfl
  · rw [locate_eq empty]
    exact (and_iff_right empty).symm

/-- A path finds what stands at its place, and fails where it leads to no place or to nothing. -/
theorem find_eq (tree : Tree) (path : String) (followLast : Bool) :
    tree.find path followLast =
      match tree.locate path followLast with
      | .error cause => .error cause
      | .ok place => match tree.at? place with
        | some entry => .ok (place, entry)
        | none => .error .noEntry := by
  unfold find
  cases tree.locate path followLast with
  | error cause => rfl
  | ok place => rfl

/-- What a path is found to lead to stands at the place where it leads. To find is to follow the path and
to look at the place where it ends. -/
theorem find_ok {tree : Tree} {path : String} {followLast : Bool} {place : Place} {entry : Entry}
    (found : tree.find path followLast = .ok (place, entry)) :
    tree.locate path followLast = .ok place ∧ tree.at? place = some entry := by
  rw [find_eq] at found
  cases located : tree.locate path followLast with
  | error cause =>
    rw [located] at found
    cases found
  | ok ended =>
    rw [located] at found
    dsimp only at found
    cases standing : tree.at? ended with
    | none =>
      rw [standing] at found
      cases found
    | some other =>
      rw [standing] at found
      cases found
      exact ⟨rfl, standing⟩

/-! ## More links, more names -/

/-- With more links a walk that did not run out of them ends the same way. The induction follows the
walk, which uses a link less with each leap. -/
theorem more_links (tree : Tree) (followLast : Bool) (more links : Nat) (done : Place)
    (names : List String)
    (enough : tree.follow followLast links done names ≠ .error .tooManyLinks) :
    tree.follow followLast (links + more) done names =
      tree.follow followLast links done names := by
  induction links, done, names using walk_induction tree followLast with
  | arrived links done => rw [follow_nil, follow_nil]
  | halt links done name rest result moved => rw [follow_halt moved, follow_halt moved]
  | enter links done name rest place moved inductionHypothesis =>
    rw [follow_enter moved] at enough ⊢
    rw [follow_enter moved]
    exact inductionHypothesis enough
  | exhausted done name rest start names moved => exact absurd (follow_leap moved) enough
  | leap links done name rest start names moved inductionHypothesis =>
    rw [follow_leap moved] at enough ⊢
    rw [Nat.succ_add, follow_leap moved]
    exact inductionHypothesis enough

/-- Two walks along the same names that did not run out of links end the same way. -/
theorem follow_agrees {tree : Tree} {followLast : Bool} {first second : Nat} {done : Place}
    {names : List String} (one : tree.follow followLast first done names ≠ .error .tooManyLinks)
    (other : tree.follow followLast second done names ≠ .error .tooManyLinks) :
    tree.follow followLast first done names = tree.follow followLast second done names := by
  have upOne := more_links tree followLast second first done names one
  have upOther := more_links tree followLast first second done names other
  rw [← upOne, ← upOther, Nat.add_comm]

/-- Where a walk enters, leaps or halts at nothing, so does one with more names. What comes after the
last name matters for it only when it is a link or leads to nothing. -/
theorem move_append (tree : Tree) (followLast : Bool) (done : Place) (name : String)
    (rest : List String) {more : List String} (left : more ≠ []) :
    match tree.move true done name rest with
    | .halt (.ok place) => tree.at? place = none
    | .halt (.error _) => True
    | .enter place => tree.move followLast done name (rest ++ more) = .enter place
    | .leap start names =>
      tree.move followLast done name (rest ++ more) = .leap start (names ++ more) := by
  have nonempty : (rest ++ more).isEmpty = false := by simp [left]
  unfold move
  cases tree.at? done with
  | none => trivial
  | some entry =>
    cases entry with
    | file => trivial
    | link => trivial
    | directory =>
      by_cases ordinary : isOrdinary name = true
      · simp only [ordinary, if_true]
        cases met : tree.at? (done ++ [name]) with
        | none => by_cases last : rest.isEmpty = true <;> simp [meet, last, met]
        | some entry => cases entry <;> simp [meet, nonempty]
      · simp only [ordinary]
        obtain ⟨place, entered⟩ | halted := steer_cases done name
        · simp [entered]
        · simp [halted]

/-- Beyond a file no path goes on. The walk to the file may have used any number of links; the walk with
more names makes the same moves, and stops at the file unless it runs out of links before. -/
theorem follow_beyond_file {tree : Tree} {file : Place} {content : ByteArray} {mode : Nat}
    (standing : tree.at? file = some (.file content mode)) (followLast : Bool) (links : Nat)
    {more : List String} (left : more ≠ []) (done : Place) (names : List String) {enough : Nat}
    (reached : tree.follow true enough done names = .ok file) :
    tree.follow followLast links done (names ++ more) = .error .notDirectory ∨
      tree.follow followLast links done (names ++ more) = .error .tooManyLinks := by
  -- the walk to the file may have used any number of links
  induction enough, done, names using walk_induction tree true generalizing links with
  | arrived enough done =>
    rw [follow_nil] at reached
    cases reached
    obtain ⟨name, rest, rfl⟩ := List.exists_cons_of_ne_nil left
    have blocked : tree.move followLast file name rest = .halt (.error .notDirectory) := by
      simp [move, standing]
    exact .inl (follow_halt blocked)
  | halt enough done name rest result moved =>
    have appended := move_append tree followLast done name rest left
    rw [follow_halt moved] at reached
    rw [moved, reached] at appended
    rw [appended] at standing
    cases standing
  | enter enough done name rest place moved inductionHypothesis =>
    have appended := move_append tree followLast done name rest left
    rw [moved] at appended
    rw [follow_enter moved] at reached
    rw [List.cons_append, follow_enter appended]
    exact inductionHypothesis links reached
  | exhausted done name rest start names moved =>
    rw [follow_leap moved] at reached
    cases reached
  | leap enough done name rest start names moved inductionHypothesis =>
    have appended := move_append tree followLast done name rest left
    rw [moved] at appended
    rw [follow_leap moved] at reached
    rw [List.cons_append, follow_leap appended]
    cases links with
    | zero => exact .inr rfl
    | succ links => exact inductionHypothesis links reached

/-! ## The last link -/

/-- Whether the last link is followed matters only at a link that is the last name. Every other move is
decided before the last link is looked at. -/
theorem move_unfollowed (tree : Tree) (done : Place) (name : String) (rest : List String) :
    tree.move false done name rest = tree.move true done name rest ∨
      ∃ target, tree.at? (done ++ [name]) = some (.link target) ∧
        tree.move false done name rest = .halt (.ok (done ++ [name])) ∧
        tree.move true done name rest = .leap (behind done target) (Path.parts target) := by
  unfold move
  cases tree.at? done with
  | none => exact .inl rfl
  | some entry =>
    cases entry with
    | file => exact .inl rfl
    | link => exact .inl rfl
    | directory =>
      by_cases ordinary : isOrdinary name = true
      · simp only [ordinary, if_true]
        cases tree.at? (done ++ [name]) with
        | none => exact .inl rfl
        | some entry =>
          cases entry with
          | file => exact .inl rfl
          | directory => exact .inl rfl
          | link target =>
            cases rest with
            | nil => exact .inr ⟨target, rfl, by simp [meet], by simp [meet]⟩
            | cons => exact .inl (by simp [meet])
      · simp only [ordinary]
        exact .inl rfl

/-- A walk that leaves the last link unfollowed fails as the whole walk does, ends where the whole
walk ends, or ends at a link behind which the whole walk goes on. -/
theorem follow_unfollowed (tree : Tree) (links : Nat) (done : Place) (names : List String) :
    match tree.follow false links done names with
    | .error cause => tree.follow true links done names = .error cause
    | .ok place => tree.follow true links done names = .ok place ∨
        ∃ target fewer, tree.at? place = some (.link target) ∧
          tree.follow true links done names =
            tree.leapt true fewer (behind place.dropLast target) (Path.parts target) := by
  induction links, done, names using follow_induction with
  | arrived links done =>
    rw [follow_nil, follow_nil]
    exact .inl rfl
  | onward links done name rest shorter fewer =>
    obtain same | ⟨target, standing, halted, leaping⟩ := move_unfollowed tree done name rest
    · cases moved : tree.move true done name rest with
      | halt result =>
        rw [follow_halt moved, follow_halt (same.trans moved)]
        cases result with
        | error cause => rfl
        | ok place => exact .inl rfl
      | enter place =>
        rw [follow_enter moved, follow_enter (same.trans moved)]
        exact shorter place
      | leap start names =>
        rw [follow_leap moved, follow_leap (same.trans moved)]
        cases links with
        | zero => rfl
        | succ links => exact fewer links rfl start names
    · rw [follow_halt halted, follow_leap leaping]
      refine .inr ⟨target, links, standing, ?_⟩
      rw [List.dropLast_concat]

/-- A walk to a place that is no link ends there also when the last link is followed. -/
theorem follow_last {tree : Tree} {links : Nat} {done place : Place} {names : List String}
    (ended : tree.follow false links done names = .ok place)
    (noLink : ∀ target, tree.at? place ≠ some (.link target)) :
    tree.follow true links done names = .ok place := by
  have whole := follow_unfollowed tree links done names
  rw [ended] at whole
  obtain same | ⟨target, _, standing, _⟩ := whole
  · exact same
  · exact absurd standing (noLink target)

/-- When links run out before the last name, they run out on the whole walk. -/
theorem follow_refused {tree : Tree} {followLast : Bool} {links : Nat} {done : Place}
    {names : List String} {cause : Cause}
    (refused : tree.follow followLast links done names = .error cause) :
    tree.follow true links done names = .error cause := by
  cases followLast with
  | true => exact refused
  | false =>
    have whole := follow_unfollowed tree links done names
    rw [refused] at whole
    exact whole

/-- A path that ends at no link leads to the same place when the last link is to be followed. -/
theorem locate_last {tree : Tree} {path : String} {place : Place}
    (ended : tree.locate path false = .ok place)
    (noLink : ∀ target, tree.at? place ≠ some (.link target)) :
    tree.locate path true = .ok place := by
  obtain ⟨named, led⟩ := locate_ok.mp ended
  exact locate_ok.mpr ⟨named, follow_last led noLink⟩

/-- A path that is refused before its last link is refused, for the same cause, when that is to be
followed too. -/
theorem locate_refused {tree : Tree} {path : String} {followLast : Bool} {cause : Cause}
    (refused : tree.locate path followLast = .error cause) : tree.locate path true = .error cause := by
  by_cases empty : path = ""
  · rw [empty, locate_empty] at refused ⊢
    exact refused
  · rw [locate_eq empty] at refused ⊢
    exact follow_refused refused

/-- On the way to a place no link stands. -/
def NoLinkTo (tree : Tree) (place : Place) : Prop :=
  ∀ size target, tree.at? (place.take size) ≠ some (.link target)

/-- On the way to the root there is nothing, and so no link. -/
theorem no_link_to_root (tree : Tree) : tree.NoLinkTo [] := by
  intro size target standing
  rw [List.take_nil, at_root] at standing
  cases standing

/-- On the way to the parent of a place there is no link where there is none on the way to the place. -/
theorem NoLinkTo.drop_last {tree : Tree} {place : Place} (way : tree.NoLinkTo place) :
    tree.NoLinkTo place.dropLast := by
  intro size target
  rw [List.dropLast_eq_take, List.take_take]
  exact way _ target

/-- A way without links goes on without links through what is none. -/
theorem NoLinkTo.concat {tree : Tree} {place : Place} {name : String} (way : tree.NoLinkTo place)
    (noLink : ∀ target, tree.at? (place ++ [name]) ≠ some (.link target)) :
    tree.NoLinkTo (place ++ [name]) := by
  intro size target
  by_cases short : size ≤ place.length
  · rw [List.take_append_of_le_length short]
    exact way size target
  · rw [List.take_of_length_le (by simp; omega)]
    exact noLink target

/-- A move from a place without links on the way leads on to such a place. A move that enters does so at
what is no link, one step further, or goes back up; and a leap starts again at the root or where it was. -/
theorem move_no_link {tree : Tree} {done : Place} (way : tree.NoLinkTo done) (name : String)
    (rest : List String) :
    match tree.move true done name rest with
    | .halt (.ok place) => tree.NoLinkTo place
    | .halt (.error _) => True
    | .enter place => tree.NoLinkTo place
    | .leap start _ => tree.NoLinkTo start := by
  unfold move
  cases tree.at? done with
  | none => trivial
  | some entry =>
    cases entry with
    | file => trivial
    | link => trivial
    | directory =>
      by_cases ordinary : isOrdinary name = true
      · simp only [ordinary, if_true]
        cases met : tree.at? (done ++ [name]) with
        | none =>
          have next : tree.NoLinkTo (done ++ [name]) := way.concat (by simp [met])
          by_cases last : rest.isEmpty = true <;> simp [meet, last, next]
        | some entry =>
          cases entry with
          | file => exact way.concat (by simp [met])
          | directory => exact way.concat (by simp [met])
          | link target =>
            have start : tree.NoLinkTo (behind done target) := by
              unfold behind
              split
              · exact tree.no_link_to_root
              · exact way
            simpa [meet] using start
      · simp only [ordinary, steer]
        by_cases here : (name = "" || name = ".") = true
        · simpa [here] using way
        · by_cases up : name = ".."
          · simpa [here, up] using way.drop_last
          · simp [here, up]

/-- A path whose last link is followed never ends at a link, nor does it go through one: on the way to
every place that the walk comes to there is none. The induction is along the moves. -/
theorem follow_no_link {tree : Tree} (links : Nat) (done : Place) (names : List String)
    (way : tree.NoLinkTo done) {place : Place}
    (ended : tree.follow true links done names = .ok place) : tree.NoLinkTo place := by
  induction links, done, names using walk_induction tree true with
  | arrived links done =>
    rw [follow_nil] at ended
    cases ended
    exact way
  | halt links done name rest result moved =>
    have next := move_no_link way name rest
    rw [follow_halt moved] at ended
    rw [moved, ended] at next
    exact next
  | enter links done name rest entered moved inductionHypothesis =>
    have next := move_no_link way name rest
    rw [follow_enter moved] at ended
    rw [moved] at next
    exact inductionHypothesis next ended
  | exhausted done name rest start names moved =>
    rw [follow_leap moved] at ended
    cases ended
  | leap links done name rest start names moved inductionHypothesis =>
    have next := move_no_link way name rest
    rw [follow_leap moved] at ended
    rw [moved] at next
    exact inductionHypothesis next ended

/-- No link stands where a path leads when the last link is followed too. -/
theorem locate_no_link {tree : Tree} {path : String} {place : Place} {target : String}
    (ended : tree.locate path true = .ok place) : tree.at? place ≠ some (.link target) := by
  have way := follow_no_link maxLinks [] (Path.parts path) tree.no_link_to_root (locate_ok.mp ended).2
  have whole := way place.length target
  rwa [List.take_length] at whole

end Tree

end Codemod.Files
