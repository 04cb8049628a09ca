import Codemod.Draft

/-!
# Fixes

A fix is a named, dated transformation: a cheap test whether it could apply at all, and
a transformation that says whether it replaced the tree.
-/
namespace Codemod

/-- A named, dated transformation. -/
structure Fix where
  name : String
  date : String
  description : String
  /-- Whether the fix could apply; skipping it on a false answer changes nothing. -/
  precondition : Edit Bool
  /-- Transforms the tree of the draft; true if and only if the tree was replaced. -/
  transform : Edit Bool

/-- What is shown of a fix. -/
structure Fix.Summary where
  name : String
  date : String
  description : String
  deriving DecidableEq, Repr

/-- What is shown of a fix. -/
def Fix.summary (fix : Fix) : Fix.Summary :=
  { name := fix.name, date := fix.date, description := fix.description }

end Codemod
