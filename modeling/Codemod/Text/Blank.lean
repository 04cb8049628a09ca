/-!
# Blanks

The blanks that option values and names are trimmed of: the control blanks tab
to carriage return, the space, the no-break space, the byte order mark, the
space separators of the standard and its two line separators.
-/
namespace Codemod.Text

/-- Whether a character is trimmed at the ends of a value. -/
def isBlank (c : Char) : Bool :=
  let code := c.toNat
  (0x09 ≤ code && code ≤ 0x0D) || code == 0x20 || code == 0xA0 || code == 0x1680
    || (0x2000 ≤ code && code ≤ 0x200A) || code == 0x2028 || code == 0x2029
    || code == 0x202F || code == 0x205F || code == 0x3000 || code == 0xFEFF

/-- A list of characters without the blanks at its end. -/
def trimEndList (chars : List Char) : List Char :=
  (chars.reverse.dropWhile isBlank).reverse

/-- A list of characters without the blanks at its ends. -/
def trimList (chars : List Char) : List Char :=
  trimEndList (chars.dropWhile isBlank)

/-- A text without the blanks at its ends. -/
def trim (text : String) : String :=
  String.ofList (trimList text.toList)

/-- The pieces of a list between the occurrences of `mark`, at least one. -/
def splitList (mark : Char) : List Char → List (List Char)
  | [] => [[]]
  | c :: rest =>
    if c = mark then [] :: splitList mark rest
    else
      match splitList mark rest with
      | [] => [[c]]
      | piece :: pieces => (c :: piece) :: pieces

/-- The pieces of a text between the occurrences of `mark`, at least one. -/
def split (mark : Char) (text : String) : List String :=
  (splitList mark text.toList).map String.ofList

end Codemod.Text
