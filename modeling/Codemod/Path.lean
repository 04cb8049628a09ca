import Codemod.Text.Blank

/-!
# Paths

A path is a text whose parts are divided by slashes. A dot stands for the place
where it is and two dots for the place above; normalising removes both where it
can. Nothing here asks whether a file exists.
-/
namespace Codemod.Path

/-- The parts of a path between its slashes. -/
def parts (path : String) : List String :=
  Text.split '/' path

/-- Whether a path starts at the root. -/
def isAbsolute (path : String) : Bool :=
  path.toList.head? == some '/'

/-- Takes a part into account; `done` holds the parts so far, last first. Two dots that nothing
precedes are kept when the path may lead above its start. -/
def reduceStep (above : Bool) (done : List String) (part : String) : List String :=
  if part = "" || part = "." then done
  else if part = ".." then
    match done with
    | last :: rest => if last = ".." then part :: done else rest
    | [] => if above then [part] else []
  else part :: done

/-- The parts of a path without empty parts and dots. -/
def reduce (above : Bool) (path : String) : List String :=
  ((parts path).foldl (reduceStep above) []).reverse

/-- Parts as a path. -/
def ofParts (parts : List String) : String :=
  "/".intercalate parts

/-- The shortest path to the same place; a slash at the end is kept. -/
def normalize (path : String) : String :=
  if path = "" then "."
  else
    let absolute := isAbsolute path
    let trailing := path.toList.getLast? == some '/'
    let body := ofParts (reduce (!absolute) path)
    if body = "" then
      if absolute then "/" else if trailing then "./" else "."
    else
      (if absolute then "/" else "") ++ body ++ (if trailing then "/" else "")

/-- One path below another. -/
def join (base path : String) : String :=
  normalize (ofParts ([base, path].filter (· ≠ "")))

/-- The absolute path that `path` denotes at the absolute place `base`. -/
def resolve (base path : String) : String :=
  let whole := if isAbsolute path then path else base ++ "/" ++ path
  "/" ++ ofParts (reduce false whole)

/-- The path that leads where `path` does at the absolute place `base`, its dots kept. The empty path leads
nowhere from any place, and is kept too. -/
def against (base path : String) : String :=
  if path = "" || isAbsolute path then path else base ++ "/" ++ path

/-- The characters of a path without the slashes at its end. -/
def withoutTrailing (path : String) : List Char :=
  (path.toList.reverse.dropWhile (· = '/')).reverse

/-- The last part of a path. -/
def baseName (path : String) : String :=
  String.ofList ((withoutTrailing path).reverse.takeWhile (· ≠ '/')).reverse

/-- The path of the place that holds a path's last part. -/
def parent (path : String) : String :=
  let above := (withoutTrailing path).reverse.dropWhile (· ≠ '/')
  match above with
  | [] => if isAbsolute path then "/" else "."
  | _ =>
    let body := (above.dropWhile (· = '/')).reverse
    if body.isEmpty then
      if isAbsolute path then "/" else "."
    else String.ofList body

/-- The ending of a path's last part from its last dot on. A dot that nothing precedes begins no
ending, and two dots alone have none. -/
def extension (path : String) : String :=
  let name := baseName path
  if name = ".." then ""
  else
    let reversed := name.toList.reverse
    match reversed.dropWhile (· ≠ '.') with
    | [] => ""
    | [_] => ""
    | _ => String.ofList ('.' :: (reversed.takeWhile (· ≠ '.')).reverse)

/-- The common start of two lists left out. -/
def dropCommon : List String → List String → List String × List String
  | a :: as, b :: bs => if a = b then dropCommon as bs else (a :: as, b :: bs)
  | as, bs => (as, bs)

/-- The way from one absolute path to another. -/
def relative (base target : String) : String :=
  let (up, down) := dropCommon (reduce false base) (reduce false target)
  ofParts (up.map (fun _ => "..") ++ down)

end Codemod.Path
