import Codemod.Text.Blank

/-!
# Comma-separated names

A list of names is written with commas between them; blanks around a name and
empty entries do not count.
-/
namespace Codemod.Naming

/-- The names of a comma-separated list. -/
def parseNames (value : String) : List String :=
  ((Text.split ',' value).map Text.trim).filter fun name => !name.isEmpty

end Codemod.Naming
