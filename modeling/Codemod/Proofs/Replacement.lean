import Codemod.Files.Replace
import Codemod.Proofs.Lookup

/-!
# What replacing files changes

Replacing puts a file at the place of a path, which held a file or a link that
leads to one. Paths are followed in the new tree as in the old one, but for those
that led to that file through the link, and for those that were refused for too
many links and would have gone through it. A replacement whose new file beside
the path has an unused name changes that one place or nothing.
-/
namespace Codemod.Files

namespace Tree

/-- Following what stands at a place comes to a file: that file itself, or one behind a link. -/
def LeadsOn (tree : Tree) (place file : Place) : Prop :=
  (∃ content mode, tree.at? file = some (.file content mode)) ∧
    (place = file ∨ ∃ target links, tree.at? place = some (.link target) ∧
      tree.follow true links (behind place.dropLast target) (Path.parts target) = .ok file)

/-- What stands at a place leads on to one file: a file to itself, and a link to the end of a walk, which
does not depend on the number of links that are left. -/
theorem LeadsOn.unique {tree : Tree} {place first second : Place} (one : tree.LeadsOn place first)
    (other : tree.LeadsOn place second) : first = second := by
  obtain ⟨⟨_, _, firstFile⟩, itself | ⟨target, links, standing, ended⟩⟩ := one
  · obtain ⟨_, same | ⟨_, _, linked, _⟩⟩ := other
    · exact itself.symm.trans same
    · rw [itself, firstFile] at linked
      cases linked
  · obtain ⟨⟨_, _, secondFile⟩, itself | ⟨_, more, linked, after⟩⟩ := other
    · rw [itself, secondFile] at standing
      cases standing
    · rw [standing] at linked
      cases linked
      have same : tree.follow true links _ _ = tree.follow true more _ _ :=
        follow_agrees (by rw [ended]; simp) (by rw [after]; simp)
      rw [ended, after] at same
      cases same
      rfl

/-- What leads on to a file is a file or a link. -/
theorem LeadsOn.standing {tree : Tree} {place file : Place} (leads : tree.LeadsOn place file) :
    ∃ entry, tree.at? place = some entry ∧ entry.isDirectory = false := by
  obtain ⟨⟨content, mode, isFile⟩, itself | ⟨target, _, isLink, _⟩⟩ := leads
  · exact ⟨_, itself ▸ isFile, rfl⟩
  · exact ⟨_, isLink, rfl⟩

/-- Behind a link in a directory, the file that its place leads on to is reached. -/
theorem LeadsOn.reached {tree : Tree} {done file : Place} {name target : String}
    (leads : tree.LeadsOn (done ++ [name]) file)
    (isLink : tree.at? (done ++ [name]) = some (.link target)) :
    ∃ links, tree.follow true links (behind done target) (Path.parts target) = .ok file := by
  obtain ⟨⟨_, _, standing⟩, itself | ⟨_, links, linked, ended⟩⟩ := leads
  · rw [itself, standing] at isLink
    cases isLink
  · rw [isLink] at linked
    cases linked
    rw [List.dropLast_concat] at ended
    exact ⟨links, ended⟩

/-- A walk that ends with such a link ends at the file. There are enough links for both walks, and a walk
has one end. -/
theorem LeadsOn.leap_last {tree : Tree} {done file : Place} {name target : String} {links : Nat}
    (leads : tree.LeadsOn (done ++ [name]) file)
    (isLink : tree.at? (done ++ [name]) = some (.link target))
    (enough : tree.leapt true links (behind done target) (Path.parts target) ≠
      .error .tooManyLinks) :
    tree.leapt true links (behind done target) (Path.parts target) = .ok file := by
  obtain ⟨reach, ended⟩ := leads.reached isLink
  cases links with
  | zero => exact absurd rfl enough
  | succ links =>
    have same : tree.follow true links _ _ = tree.follow true reach _ _ :=
      follow_agrees enough (by rw [ended]; simp)
    exact same.trans ended

/-- A walk that goes on behind such a link meets the file on its way. The walk stands at a file with
names left to go. -/
theorem LeadsOn.leap_beyond {tree : Tree} {done file : Place} {name target next : String}
    {rest : List String} {followLast : Bool} {links : Nat}
    (leads : tree.LeadsOn (done ++ [name]) file)
    (isLink : tree.at? (done ++ [name]) = some (.link target))
    (enough : tree.leapt followLast links (behind done target) (Path.parts target ++ next :: rest) ≠
      .error .tooManyLinks) :
    tree.leapt followLast links (behind done target) (Path.parts target ++ next :: rest) =
      .error .notDirectory := by
  obtain ⟨reach, ended⟩ := leads.reached isLink
  obtain ⟨⟨content, mode, standing⟩, _⟩ := leads
  cases links with
  | zero => exact absurd rfl enough
  | succ links =>
    obtain blocked | exhausted := follow_beyond_file standing followLast links
      (List.cons_ne_nil next rest) (behind done target) (Path.parts target) ended
    · exact blocked
    · exact absurd exhausted enough

/-- A path that leads to a file has a place, with its last link unfollowed, that leads on to it. The
walks with and without the last link followed are the same up to that link. -/
theorem locate_leads_on {tree : Tree} {path : String} {file : Place} {content : ByteArray}
    {mode : Nat} (found : tree.find path true = .ok (file, .file content mode)) :
    ∃ place, tree.locate path false = .ok place ∧ tree.LeadsOn place file := by
  obtain ⟨located, isFile⟩ := find_ok found
  obtain ⟨named, ended⟩ := locate_ok.mp located
  have whole := follow_unfollowed tree maxLinks [] (Path.parts path)
  rw [locate_eq named]
  cases unfollowed : tree.follow false maxLinks [] (Path.parts path) with
  | error cause =>
    rw [unfollowed] at whole
    rw [whole] at ended
    cases ended
  | ok place =>
    rw [unfollowed] at whole
    refine ⟨place, rfl, ⟨content, mode, isFile⟩, ?_⟩
    obtain same | ⟨target, fewer, standing, behind⟩ := whole
    · rw [same] at ended
      cases ended
      exact .inl rfl
    · rw [ended] at behind
      cases fewer with
      | zero => cases behind
      | succ fewer => exact .inr ⟨target, fewer, standing, behind.symm⟩

/-- Where a path to a file leads without its last link, no directory stands. -/
theorem placed_standing {tree : Tree} {path : String} {file place : Place} {content : ByteArray}
    {mode : Nat} (found : tree.find path true = .ok (file, .file content mode))
    (placed : tree.locate path false = .ok place) :
    ∃ entry, tree.at? place = some entry ∧ entry.isDirectory = false := by
  obtain ⟨other, located, leads⟩ := locate_leads_on found
  rw [placed] at located
  cases located
  exact leads.standing

/-! ## Files in the place of what leads to files -/

/-- Where a tree differs from another one, a file stands at a place that led on to a file. -/
def Overlaid (tree now : Tree) : Prop :=
  ∀ place, now.at? place ≠ tree.at? place →
    (∃ content mode, now.at? place = some (.file content mode)) ∧ ∃ file, tree.LeadsOn place file

/-- An ordinary name in a directory does what the entry at its place makes it do. -/
theorem move_met {tree : Tree} {done : Place} {name : String}
    (standing : tree.at? done = some .directory) (ordinary : isOrdinary name = true)
    (followLast : Bool) (rest : List String) :
    tree.move followLast done name rest =
      meet (tree.at? (done ++ [name])) followLast done name rest := by
  simp [move, standing, ordinary]

/-- Any other name, and any name met elsewhere, does the same in every tree in which the same stands
where it is met. -/
theorem move_unmet {tree now : Tree} {done : Place} (name : String)
    (here : now.at? done = tree.at? done) (followLast : Bool) (rest : List String) :
    tree.at? done = some .directory ∧ isOrdinary name = true ∨
      now.move followLast done name rest = tree.move followLast done name rest := by
  unfold move
  rw [here]
  cases tree.at? done with
  | none => exact .inr rfl
  | some entry =>
    cases entry with
    | file => exact .inr rfl
    | link => exact .inr rfl
    | directory =>
      by_cases ordinary : isOrdinary name = true
      · exact .inl ⟨rfl, ordinary⟩
      · simp only [ordinary]
        exact .inr rfl

/-- A move depends on what stands where it starts and at the name that it meets. -/
theorem move_congr {tree now : Tree} {done : Place} {name : String}
    (here : now.at? done = tree.at? done)
    (met : now.at? (done ++ [name]) = tree.at? (done ++ [name])) (followLast : Bool)
    (rest : List String) :
    now.move followLast done name rest = tree.move followLast done name rest := by
  unfold move
  rw [here, met]

/-- A move is the same in an overlaid tree, or it goes into a file in the place of a link that led
on to one. -/
theorem move_overlaid {tree now : Tree} (overlaid : tree.Overlaid now) (followLast : Bool)
    (done : Place) (name : String) (rest : List String) :
    now.move followLast done name rest = tree.move followLast done name rest ∨
      ∃ target file, now.at? (done ++ [name]) ≠ tree.at? (done ++ [name]) ∧
        tree.at? (done ++ [name]) = some (.link target) ∧ tree.LeadsOn (done ++ [name]) file ∧
        tree.move followLast done name rest =
          meet (some (.link target)) followLast done name rest ∧
        now.move followLast done name rest = .enter (done ++ [name]) := by
  by_cases here : now.at? done = tree.at? done
  · by_cases met : now.at? (done ++ [name]) = tree.at? (done ++ [name])
    · exact .inl (move_congr here met followLast rest)
    · obtain ⟨⟨content, mode, isFile⟩, file, leads⟩ := overlaid _ met
      obtain ⟨standing, ordinary⟩ | same := move_unmet name here followLast rest
      · have before := move_met standing ordinary followLast rest
        have after := move_met (here.trans standing) ordinary followLast rest
        rw [isFile] at after
        obtain ⟨⟨_, _, wasFile⟩, itself | ⟨target, _, isLink, _⟩⟩ := id leads
        · rw [itself, wasFile] at before
          rw [before, after]
          exact .inl rfl
        · rw [isLink] at before
          exact .inr ⟨target, file, met, isLink, leads, before, after⟩
      · exact .inl same
  · -- a file now, a file or a link before: no path goes through either
    obtain ⟨⟨content, mode, isFile⟩, file, leads⟩ := overlaid _ here
    obtain ⟨entry, standing, noDirectory⟩ := leads.standing
    refine .inl ?_
    unfold move
    rw [isFile, standing]
    cases entry with
    | file => rfl
    | link => rfl
    | directory => cases noDirectory

/-- A walk that did not run out of links ends in an overlaid tree as it did, unless it led to a file
through a link whose place a file has taken. -/
theorem follow_overlaid {tree now : Tree} (overlaid : tree.Overlaid now) (followLast : Bool)
    (links : Nat) (done : Place) (names : List String)
    (enough : tree.follow followLast links done names ≠ .error .tooManyLinks) :
    now.follow followLast links done names = tree.follow followLast links done names ∨
      followLast = true ∧ ∃ place file, now.at? place ≠ tree.at? place ∧
        tree.LeadsOn place file ∧ tree.follow followLast links done names = .ok file := by
  induction links, done, names using follow_induction with
  | arrived links done => exact .inl (by rw [follow_nil, follow_nil])
  | onward links done name rest shorter fewer =>
    obtain same | ⟨target, file, changed, isLink, leads, before, entering⟩ :=
      move_overlaid overlaid followLast done name rest
    · cases moved : tree.move followLast done name rest with
      | halt result => exact .inl (by rw [follow_halt moved, follow_halt (same.trans moved)])
      | enter place =>
        rw [follow_enter moved] at enough ⊢
        rw [follow_enter (same.trans moved)]
        exact shorter place enough
      | leap start names =>
        rw [follow_leap moved] at enough ⊢
        rw [follow_leap (same.trans moved)]
        cases links with
        | zero => exact absurd rfl enough
        | succ links => exact fewer links rfl start names enough
    · -- the link led on to a file, and a file stands there now
      rw [follow_enter entering]
      cases rest with
      | nil =>
        cases followLast with
        | false =>
          have halted : tree.move false done name [] = .halt (.ok (done ++ [name])) := by
            rw [before]
            simp [meet]
          exact .inl (by rw [follow_nil, follow_halt halted])
        | true =>
          have leaping : tree.move true done name [] =
              .leap (behind done target) (Path.parts target) := by
            rw [before]
            simp [meet]
          rw [follow_leap leaping] at enough ⊢
          exact .inr ⟨rfl, done ++ [name], file, changed, leads, leads.leap_last isLink enough⟩
      | cons next rest =>
        have leaping : tree.move followLast done name (next :: rest) =
            .leap (behind done target) (Path.parts target ++ next :: rest) := by
          rw [before]
          simp [meet]
        obtain ⟨⟨after, bits, isFile⟩, _⟩ := overlaid _ changed
        have blocked : now.move followLast (done ++ [name]) next rest =
            .halt (.error .notDirectory) := by
          simp [move, isFile]
        rw [follow_leap leaping] at enough ⊢
        rw [follow_halt blocked]
        exact .inl (leads.leap_beyond isLink enough).symm

/-- So does a path that is not refused for too many links. -/
theorem locate_overlaid {tree now : Tree} (overlaid : tree.Overlaid now) (path : String)
    (followLast : Bool) (enough : tree.locate path followLast ≠ .error .tooManyLinks) :
    now.locate path followLast = tree.locate path followLast ∨
      followLast = true ∧ ∃ place file, now.at? place ≠ tree.at? place ∧
        tree.LeadsOn place file ∧ tree.locate path followLast = .ok file := by
  by_cases empty : path = ""
  · rw [empty, locate_empty, locate_empty]
    exact .inl rfl
  · rw [locate_eq empty] at enough ⊢
    rw [locate_eq empty]
    exact follow_overlaid overlaid followLast _ _ _ enough

/-- Without what stood at a place a move is the same or halts. A move looks at what stands where it is
and at the next name; if the former is gone it halts, and if the latter is gone it arrives at nothing. -/
theorem move_removed (tree : Tree) (place done : Place) (followLast : Bool) (name : String)
    (rest : List String) :
    (tree.remove place).move followLast done name rest = tree.move followLast done name rest ∨
      ∃ result, (tree.remove place).move followLast done name rest = .halt result ∧
        result ≠ .error .tooManyLinks := by
  have met := at_remove tree place (done ++ [name])
  by_cases here : done = place ∧ place ≠ []
  · have absent := at_remove tree place done
    rw [if_pos here] at absent
    exact .inr ⟨.error .noEntry, by simp [move, absent], by simp⟩
  · have standing := at_remove tree place done
    rw [if_neg here] at standing
    by_cases there : done ++ [name] = place ∧ place ≠ []
    · rw [if_pos there] at met
      obtain ⟨held, ordinary⟩ | same := move_unmet name standing followLast rest
      · have halted := move_met (standing.trans held) ordinary followLast rest
        rw [met] at halted
        refine .inr ⟨_, halted, ?_⟩
        split <;> simp
      · exact .inl same
    · rw [if_neg there] at met
      exact .inl (move_congr standing met followLast rest)

/-- A move is the same in a changed tree, or it would halt without what stood at a changed place. A move
looks at two places only. If what stands there is the same in both trees, so is the move; and if not, the
move without what stood at the changed place comes to nothing there. -/
theorem move_changed (tree now : Tree) (followLast : Bool) (done : Place) (name : String)
    (rest : List String) :
    now.move followLast done name rest = tree.move followLast done name rest ∨
      ∃ place result, now.at? place ≠ tree.at? place ∧
        (tree.remove place).move true done name rest = .halt result ∧
        result ≠ .error .tooManyLinks := by
  by_cases here : now.at? done = tree.at? done
  · by_cases met : now.at? (done ++ [name]) = tree.at? (done ++ [name])
    · exact .inl (move_congr here met followLast rest)
    · have standing := at_remove tree (done ++ [name]) done
      rw [if_neg (by simp)] at standing
      have absent := at_remove tree (done ++ [name]) (done ++ [name])
      rw [if_pos (by simp)] at absent
      obtain ⟨held, ordinary⟩ | same := move_unmet name here followLast rest
      · have halted := move_met (standing.trans held) ordinary true rest
        rw [absent] at halted
        refine .inr ⟨done ++ [name], _, met, halted, ?_⟩
        split <;> simp
      · exact .inl same
  · have below : done ≠ [] := by
      rintro rfl
      exact here rfl
    have absent := at_remove tree done done
    rw [if_pos ⟨rfl, below⟩] at absent
    exact .inr ⟨done, .error .noEntry, here, by simp [move, absent], by simp⟩

/-- The next move of a walk that runs out of links, and would run out of them without what stood at
any changed place, is the same after the changes and without what stood there. -/
theorem move_still_refused {tree now : Tree} {followLast : Bool} {links : Nat} {done : Place}
    {name : String} {rest : List String}
    (refused : tree.follow followLast links done (name :: rest) = .error .tooManyLinks)
    (avoiding : ∀ place, now.at? place ≠ tree.at? place →
      (tree.remove place).follow true links done (name :: rest) = .error .tooManyLinks) :
    now.move followLast done name rest = tree.move followLast done name rest ∧
      ∀ place, now.at? place ≠ tree.at? place →
        (tree.remove place).move true done name rest = tree.move followLast done name rest := by
  have last : tree.move true done name rest = tree.move followLast done name rest := by
    cases followLast with
    | true => rfl
    | false =>
      obtain same | ⟨_, _, halted, _⟩ := move_unfollowed tree done name rest
      · exact same.symm
      · rw [follow_halt halted] at refused
        cases refused
  constructor
  · obtain same | ⟨place, result, changed, halted, other⟩ :=
      move_changed tree now followLast done name rest
    · exact same
    · have ended := avoiding place changed
      rw [follow_halt halted] at ended
      exact absurd ended other
  · intro place changed
    obtain unmoved | ⟨result, halted, other⟩ := move_removed tree place done true name rest
    · exact unmoved.trans last
    · have ended := avoiding place changed
      rw [follow_halt halted] at ended
      exact absurd ended other

/-- A walk that runs out of links runs out of them also when places change that it does not come to:
it would run out of them without what stood there. -/
theorem follow_still_refused {tree now : Tree} (followLast : Bool) (links : Nat) (done : Place)
    (names : List String)
    (refused : tree.follow followLast links done names = .error .tooManyLinks)
    (avoiding : ∀ place, now.at? place ≠ tree.at? place →
      (tree.remove place).follow true links done names = .error .tooManyLinks) :
    now.follow followLast links done names = .error .tooManyLinks := by
  induction links, done, names using walk_induction tree followLast with
  | arrived links done =>
    rw [follow_nil] at refused
    cases refused
  | halt links done name rest result moved =>
    rw [follow_halt ((move_still_refused refused avoiding).1.trans moved)]
    rw [follow_halt moved] at refused
    exact refused
  | enter links done name rest entered moved inductionHypothesis =>
    obtain ⟨same, without⟩ := move_still_refused refused avoiding
    rw [follow_enter moved] at refused
    rw [follow_enter (same.trans moved)]
    refine inductionHypothesis refused fun place changed => ?_
    rw [← follow_enter ((without place changed).trans moved)]
    exact avoiding place changed
  | exhausted done name rest start names moved =>
    rw [follow_leap ((move_still_refused refused avoiding).1.trans moved)]
    rfl
  | leap links done name rest start names moved inductionHypothesis =>
    obtain ⟨same, without⟩ := move_still_refused refused avoiding
    rw [follow_leap moved] at refused
    rw [follow_leap (same.trans moved)]
    refine inductionHypothesis refused fun place changed => ?_
    have ended := avoiding place changed
    rw [follow_leap ((without place changed).trans moved)] at ended
    exact ended

/-- So does a path that is refused for too many links. A loop of links is not broken by changes at places
that it does not pass. -/
theorem locate_still_refused {tree now : Tree} {path : String} {followLast : Bool}
    (refused : tree.locate path followLast = .error .tooManyLinks)
    (avoiding : ∀ place, now.at? place ≠ tree.at? place →
      (tree.remove place).locate path true = .error .tooManyLinks) :
    now.locate path followLast = .error .tooManyLinks := by
  by_cases empty : path = ""
  · rw [empty, locate_empty] at refused
    cases refused
  · rw [locate_eq empty] at refused ⊢
    refine follow_still_refused followLast _ _ _ refused fun place differs => ?_
    rw [← locate_eq empty]
    exact avoiding place differs

/-- A tree with one new file where nothing stood. -/
structure Grown (tree : Tree) (fresh : Place) (content : ByteArray) (mode : Nat) (now : Tree) :
    Prop where
  absent : tree.at? fresh = none
  at_eq : ∀ place, now.at? place =
    if place = fresh then some (.file content mode) else tree.at? place

section Grown

variable {tree now : Tree} {fresh : Place} {content : ByteArray} {mode : Nat}

/-- The new file stands where it was put. -/
theorem Grown.added (grown : tree.Grown fresh content mode now) :
    now.at? fresh = some (.file content mode) := by
  rw [grown.at_eq, if_pos rfl]

/-- Elsewhere a new file changes nothing. -/
theorem Grown.unchanged (grown : tree.Grown fresh content mode now) {place : Place}
    (elsewhere : place ≠ fresh) : now.at? place = tree.at? place := by
  rw [grown.at_eq, if_neg elsewhere]

/-- Where nothing stands is not the root. -/
theorem ne_root_of_absent (absent : tree.at? fresh = none) : fresh ≠ [] :=
  ne_root (by rw [absent]; simp)

/-- Putting a file where nothing stands adds this file alone. -/
theorem grown_put (absent : tree.at? fresh = none) (content : ByteArray) (mode : Nat) :
    tree.Grown fresh content mode (tree.put fresh (.file content mode)) where
  absent := absent
  at_eq place := tree.at_put fresh place (.file content mode) (ne_root_of_absent absent)

/-- Writing a new file once more, with other contents, adds it with these. -/
theorem Grown.put_again (grown : tree.Grown fresh content mode now) :
    tree.Grown fresh content mode (now.put fresh (.file content mode)) where
  absent := grown.absent
  at_eq place := by
    rw [at_put _ _ _ _ (ne_root_of_absent grown.absent)]
    by_cases same : place = fresh
    · rw [if_pos same, if_pos same]
    · rw [if_neg same, if_neg same, grown.unchanged same]

/-- A new file takes no place away that a path led to. The new file stands where nothing stood, so that a
walk that goes on does not meet it, and one that ends at that place still ends there. -/
theorem Grown.follow (grown : tree.Grown fresh content mode now) (followLast : Bool) (links : Nat)
    (done : Place) (names : List String) {place : Place}
    (ended : tree.follow followLast links done names = .ok place) :
    now.follow followLast links done names = .ok place := by
  induction links, done, names using follow_induction with
  | arrived links done =>
    rw [follow_nil] at ended ⊢
    exact ended
  | onward links done name rest shorter fewer =>
    have here : done ≠ fresh := by
      rintro rfl
      have lost : tree.move followLast done name rest = .halt (.error .noEntry) := by
        simp [move, grown.absent]
      rw [follow_halt lost] at ended
      cases ended
    by_cases met : done ++ [name] = fresh ∧ tree.at? done = some .directory ∧ isOrdinary name = true
    · obtain ⟨rfl, standing, ordinary⟩ := met
      have before := move_met standing ordinary followLast rest
      rw [grown.absent] at before
      have after := move_met ((grown.unchanged here).trans standing) ordinary followLast rest
      rw [grown.added] at after
      rw [follow_halt before] at ended
      rw [follow_enter after]
      cases rest with
      | nil =>
        rw [follow_nil]
        exact ended
      | cons => cases ended
    · have same : now.move followLast done name rest = tree.move followLast done name rest := by
        obtain ⟨standing, ordinary⟩ | same := move_unmet name (grown.unchanged here) followLast rest
        · have elsewhere : done ++ [name] ≠ fresh := fun there => met ⟨there, standing, ordinary⟩
          exact move_congr (grown.unchanged here) (grown.unchanged elsewhere) followLast rest
        · exact same
      cases moved : tree.move followLast done name rest with
      | halt result =>
        rw [follow_halt moved] at ended
        rw [follow_halt (same.trans moved)]
        exact ended
      | enter entered =>
        rw [follow_enter moved] at ended
        rw [follow_enter (same.trans moved)]
        exact shorter entered ended
      | leap start names =>
        rw [follow_leap moved] at ended
        rw [follow_leap (same.trans moved)]
        cases links with
        | zero => cases ended
        | succ links => exact fewer links rfl start names ended

/-- A path that led to a place still leads there beside a new file. -/
theorem Grown.locate (grown : tree.Grown fresh content mode now) {path : String} {followLast : Bool}
    {place : Place} (located : tree.locate path followLast = .ok place) :
    now.locate path followLast = .ok place := by
  obtain ⟨named, led⟩ := locate_ok.mp located
  exact locate_ok.mpr ⟨named, grown.follow _ _ _ _ led⟩

/-- A path that led to where the new file stands finds it there. -/
theorem Grown.find (grown : tree.Grown fresh content mode now) {path : String} {followLast : Bool}
    (located : tree.locate path followLast = .ok fresh) :
    now.find path followLast = .ok (fresh, .file content mode) := by
  rw [find_eq, grown.locate located]
  dsimp only
  rw [grown.added]

end Grown

/-- The same stands everywhere, up to what files hold. -/
def Alike (tree now : Tree) : Prop :=
  ∀ place, now.at? place = tree.at? place ∨
    (∃ content mode, tree.at? place = some (.file content mode)) ∧
      ∃ content mode, now.at? place = some (.file content mode)

/-- Trees that are alike are alike without what stands at one place. -/
theorem Alike.remove {tree now : Tree} (alike : tree.Alike now) (place : Place) :
    (tree.remove place).Alike (now.remove place) := by
  intro other
  rw [at_remove, at_remove]
  by_cases removed : other = place ∧ place ≠ []
  · rw [if_pos removed, if_pos removed]
    exact .inl rfl
  · rw [if_neg removed, if_neg removed]
    exact alike other

/-- What files hold moves no path. -/
theorem move_alike {tree now : Tree} (alike : tree.Alike now) (followLast : Bool) (done : Place)
    (name : String) (rest : List String) :
    now.move followLast done name rest = tree.move followLast done name rest := by
  unfold move
  obtain here | ⟨⟨_, _, before⟩, _, _, after⟩ := alike done
  · rw [here]
    obtain met | ⟨⟨_, _, before⟩, _, _, after⟩ := alike (done ++ [name])
    · rw [met]
    · rw [before, after]
      rfl
  · rw [before, after]

/-- Trees that differ only in what files hold are followed the same way. The induction follows the walk,
each step of which looks at kinds and links only. -/
theorem follow_alike {tree now : Tree} (alike : tree.Alike now) (followLast : Bool) (links : Nat)
    (done : Place) (names : List String) :
    now.follow followLast links done names = tree.follow followLast links done names := by
  induction links, done, names using walk_induction tree followLast with
  | arrived links done => rw [follow_nil, follow_nil]
  | halt links done name rest result moved =>
    rw [follow_halt moved, follow_halt ((move_alike alike ..).trans moved)]
  | enter links done name rest place moved inductionHypothesis =>
    rw [follow_enter moved, follow_enter ((move_alike alike ..).trans moved), inductionHypothesis]
  | exhausted done name rest start names moved =>
    rw [follow_leap moved, follow_leap ((move_alike alike ..).trans moved)]
    rfl
  | leap links done name rest start names moved inductionHypothesis =>
    rw [follow_leap moved, follow_leap ((move_alike alike ..).trans moved)]
    exact inductionHypothesis

/-- In such trees every path leads to the same place, or is refused for the same cause. -/
theorem locate_alike {tree now : Tree} (alike : tree.Alike now) (path : String) (followLast : Bool) :
    now.locate path followLast = tree.locate path followLast := by
  by_cases empty : path = ""
  · rw [empty, locate_empty, locate_empty]
  · rw [locate_eq empty, locate_eq empty, follow_alike alike]

/-! ## A replacement -/

/-- Nothing stands at a path, not even a link that leads nowhere. -/
def Unused (tree : Tree) (path : String) : Prop :=
  ∀ found, tree.find path false ≠ .ok found

/-- Where an unused path leads, nothing stands. -/
theorem Unused.absent {tree : Tree} {path : String} {place : Place} (unused : tree.Unused path)
    (located : tree.locate path false = .ok place) : tree.at? place = none := by
  cases standing : tree.at? place with
  | none => rfl
  | some entry =>
    have found : tree.find path false = .ok (place, entry) := by
      rw [find_eq, located]
      simp [standing]
    exact absurd found (unused _)

/-- An unused path ends at no link that could be followed. -/
theorem Unused.locate_eq {tree : Tree} {path : String} (unused : tree.Unused path) :
    tree.locate path true = tree.locate path false := by
  cases located : tree.locate path false with
  | error cause => exact locate_refused located
  | ok place =>
    have absent := unused.absent located
    exact locate_last located (by simp [absent])

end Tree

/-- The failure of a replacement whose new file cannot stand where it should. -/
def refusal (temporary : String) (cause : Cause) : Fault :=
  { cause, operation := if cause = .noEntry then "open" else "lstat", paths := [temporary] }

section Replace

variable {tree : Tree} {token path : String} {file : Place} {entry : Entry}

/-- Inspecting a path gives what the path finds. -/
theorem inspect_found (found : tree.find path true = .ok (file, entry)) :
    tree.inspect path = .ok entry := by
  unfold Tree.inspect
  rw [found]
  rfl

/-- A new file that cannot be made leaves the tree alone. The operation after it, which would remove the
new file, finds nothing there. -/
theorem replace_refused {cause : Cause} (unused : tree.Unused (temporaryPath token path))
    (found : tree.find path true = .ok (file, entry))
    (refused : tree.locate (temporaryPath token path) true = .error cause) (content : ByteArray) :
    (replace token path content tree).result = .error (refusal (temporaryPath token path) cause) ∧
      (replace token path content tree).final tree = tree := by
  have unwritten : tree.write (temporaryPath token path) content entry.mode =
      .error { cause, operation := "open", paths := [temporaryPath token path] } := by
    unfold Tree.write
    rw [refused]
    rfl
  have lost : tree.find (temporaryPath token path) false = .error cause := by
    rw [Tree.find_eq, ← unused.locate_eq, refused]
  simp only [replace, inspect_found found, unwritten]
  unfold cleanUp Tree.discard
  rw [lost]
  cases cause <;> exact ⟨rfl, rfl⟩

/-- The new file beside a path is made where its name leads. -/
theorem write_fresh {fresh : Place} (absent : tree.at? fresh = none)
    (free : tree.locate path true = .ok fresh) (content : ByteArray) (mode : Nat) :
    tree.write path content mode = .ok (tree.put fresh (.file content mode)) := by
  unfold Tree.write
  rw [free]
  simp only [bind, Except.bind, absent]
  rfl

/-- Setting the mode of a file keeps what it holds. -/
theorem set_mode_file {before : ByteArray} {bits : Nat}
    (found : tree.find path true = .ok (file, .file before bits)) (mode : Nat) :
    tree.setMode path mode = .ok (tree.put file (.file before mode)) := by
  unfold Tree.setMode
  rw [found]
  rfl

/-- What a path finds takes the place of another path where no directory stands. The entry is taken away
from its place and put where the other path leads. -/
theorem rename_found {old new : String} {source place : Place} {held : Entry}
    (found : tree.find old false = .ok (source, entry))
    (placed : tree.locate new false = .ok place) (standing : tree.at? place = some held)
    (noDirectory : held.isDirectory = false) :
    tree.rename old new = .ok ((tree.remove source).put place entry) := by
  unfold Tree.rename
  rw [found, placed]
  simp only [bind, Except.bind, standing]
  cases held with
  | file => rfl
  | link => rfl
  | directory => cases noDirectory

/-- A new file that can be made takes the place of the path, with the permission bits of the file
that the path led to, and nothing else changes. -/
theorem replace_replaced {before : ByteArray} {mode : Nat} {place fresh : Place}
    (unused : tree.Unused (temporaryPath token path))
    (found : tree.find path true = .ok (file, .file before mode))
    (placed : tree.locate path false = .ok place)
    (free : tree.locate (temporaryPath token path) true = .ok fresh) (content : ByteArray) :
    (replace token path content tree).result = .ok () ∧
      ∀ other, ((replace token path content tree).final tree).at? other =
        if other = place then some (.file content mode) else tree.at? other := by
  have freeUnfollowed : tree.locate (temporaryPath token path) false = .ok fresh := by
    rw [← unused.locate_eq, free]
  have absent : tree.at? fresh = none := unused.absent freeUnfollowed
  obtain ⟨held, standing, noDirectory⟩ := Tree.placed_standing found placed
  have apart : place ≠ fresh := by
    rintro rfl
    rw [absent] at standing
    cases standing
  have placeBelow : place ≠ [] := by
    have other : tree.at? place ≠ some .directory := by
      rw [standing]
      rintro ⟨⟩
      cases noDirectory
    exact Tree.ne_root other
  -- the tree with the new file, before and after its permission bits are set
  have written := Tree.grown_put absent content mode
  have ready := written.put_again
  have setting := set_mode_file (written.find free) mode
  have covered : ((tree.put fresh (.file content mode)).put fresh (.file content mode)).at? place =
      some held := by rw [ready.unchanged apart, standing]
  have taking := rename_found (ready.find freeUnfollowed)
    (ready.locate placed) covered noDirectory
  simp only [replace, inspect_found found, Entry.mode, write_fresh absent free content mode, setting,
    taking]
  refine ⟨trivial, ?_⟩
  intro other
  show (Tree.put _ place (.file content mode)).at? other = _
  rw [Tree.at_put _ _ _ _ placeBelow, Tree.at_remove, ready.at_eq]
  by_cases there : other = place
  · simp [there]
  · by_cases same : other = fresh
    · simp [same, absent, Tree.ne_root_of_absent absent]
    · simp [there, same]

end Replace

end Codemod.Files
