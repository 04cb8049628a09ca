import Codemod.Syntax.Literal

/-!
# Reading tokens

The token at a position, with the blanks and comments before it skipped. Some
characters read differently by place: a slash may begin a regular expression, a
closing brace may end a template hole, a greater-than sign may join with what
follows, and between tags everything up to the next bracket is text. The reader
of the grammar asks for such readings explicitly.
-/
namespace Codemod.Syntax

/-- What a run of blanks and comments leaves behind. -/
structure Gap where
  pos : Nat
  newline : Bool
  complaints : List Diagnostic

namespace Source

/-- The end of a block comment whose body starts at a position, whether it is closed, and whether
it holds a line break. -/
def commentEnd (source : Source) : Nat → Nat → Bool → Nat × Bool × Bool
  | 0, pos, newline => (pos, false, newline)
  | fuel + 1, pos, newline =>
    if pos ≥ source.size then (pos, false, newline)
    else if source.get pos == '*' && source.get (pos + 1) == '/' then (pos + 2, true, newline)
    else commentEnd source fuel (pos + 1) (newline || isLineBreak (source.get pos))

/-- Skips blanks, line breaks, comments and conflict markers. -/
def gap (source : Source) : Nat → Gap → Gap
  | 0, g => g
  | fuel + 1, g =>
    if g.pos ≥ source.size then g
    else
      let c := source.get g.pos
      if g.pos == 0 && c == '#' && source.get 1 == '!' then
        gap source fuel { g with pos := source.interpreterLine }
      else if isLineBreak c then gap source fuel { g with pos := g.pos + 1, newline := true }
      else if isLineBlank c then gap source fuel { g with pos := g.pos + 1 }
      else if c == '/' && source.get (g.pos + 1) == '/' then
        gap source fuel { g with pos := source.skipWhile (fun c => !isLineBreak c) (g.pos + 2) }
      else if c == '/' && source.get (g.pos + 1) == '*' then
        let (stop, closed, newline) := source.commentEnd (source.size + 1) (g.pos + 2) g.newline
        let complaints :=
          if closed then g.complaints
          else { start := stop, length := 0, message := "'*/' expected." } :: g.complaints
        gap source fuel { pos := stop, newline, complaints }
      else if (c == '<' || c == '=' || c == '>' || c == '|') && source.conflictMarker g.pos then
        let reader := ({ pos := g.pos, complaints := g.complaints } : Reader).complainMarker g.pos
        gap source fuel { g with pos := source.skipConflict g.pos, complaints := reader.complaints }
      else g

/-- The position after the blanks and comments from a position on. -/
def skipTrivia (source : Source) (pos : Nat) : Nat :=
  (source.gap (source.size + 1) { pos, newline := false, complaints := [] }).pos

/-- The position after the blanks, line breaks and conflict markers from a position on; `fuel` bounds
the steps. -/
def skipBlanks (source : Source) : Nat → Nat → Nat
  | 0, pos => pos
  | fuel + 1, pos =>
    if pos ≥ source.size then pos
    else
      let c := source.get pos
      if isBlankOrBreak c then skipBlanks source fuel (pos + 1)
      else if (c == '<' || c == '=' || c == '>' || c == '|') && source.conflictMarker pos then
        skipBlanks source fuel (source.skipConflict pos)
      else pos

/-- The longest punctuation at a position. -/
def punctuation (source : Source) (jsx : Bool) (pos : Nat) : Option (Kind × Nat) :=
  let second := source.get (pos + 1)
  let third := source.get (pos + 2)
  match source.get pos with
  | '{' => some (.openBraceToken, 1)
  | '}' => some (.closeBraceToken, 1)
  | '(' => some (.openParenToken, 1)
  | ')' => some (.closeParenToken, 1)
  | '[' => some (.openBracketToken, 1)
  | ']' => some (.closeBracketToken, 1)
  | ';' => some (.semicolonToken, 1)
  | ',' => some (.commaToken, 1)
  | ':' => some (.colonToken, 1)
  | '~' => some (.tildeToken, 1)
  | '@' => some (.atToken, 1)
  | '.' => if second == '.' && third == '.' then some (.dotDotDotToken, 3) else some (.dotToken, 1)
  | '!' =>
    if second == '=' then
      if third == '=' then some (.exclamationEqualsEqualsToken, 3) else some (.exclamationEqualsToken, 2)
    else some (.exclamationToken, 1)
  | '%' => if second == '=' then some (.percentEqualsToken, 2) else some (.percentToken, 1)
  | '&' =>
    if second == '&' then
      if third == '=' then some (.ampersandAmpersandEqualsToken, 3) else some (.ampersandAmpersandToken, 2)
    else if second == '=' then some (.ampersandEqualsToken, 2)
    else some (.ampersandToken, 1)
  | '*' =>
    if second == '=' then some (.asteriskEqualsToken, 2)
    else if second == '*' then
      if third == '=' then some (.asteriskAsteriskEqualsToken, 3) else some (.asteriskAsteriskToken, 2)
    else some (.asteriskToken, 1)
  | '+' =>
    if second == '+' then some (.plusPlusToken, 2)
    else if second == '=' then some (.plusEqualsToken, 2)
    else some (.plusToken, 1)
  | '-' =>
    if second == '-' then some (.minusMinusToken, 2)
    else if second == '=' then some (.minusEqualsToken, 2)
    else some (.minusToken, 1)
  | '/' => if second == '=' then some (.slashEqualsToken, 2) else some (.slashToken, 1)
  | '<' =>
    if second == '<' then
      if third == '=' then some (.lessThanLessThanEqualsToken, 3) else some (.lessThanLessThanToken, 2)
    else if second == '=' then some (.lessThanEqualsToken, 2)
    else if jsx && second == '/' && third != '*' then some (.lessThanSlashToken, 2)
    else some (.lessThanToken, 1)
  | '=' =>
    if second == '=' then
      if third == '=' then some (.equalsEqualsEqualsToken, 3) else some (.equalsEqualsToken, 2)
    else if second == '>' then some (.equalsGreaterThanToken, 2)
    else some (.equalsToken, 1)
  | '>' => some (.greaterThanToken, 1)
  | '?' =>
    if second == '.' && !isDigit third then some (.questionDotToken, 2)
    else if second == '?' then
      if third == '=' then some (.questionQuestionEqualsToken, 3) else some (.questionQuestionToken, 2)
    else some (.questionToken, 1)
  | '^' => if second == '=' then some (.caretEqualsToken, 2) else some (.caretToken, 1)
  | '|' =>
    if second == '|' then
      if third == '=' then some (.barBarEqualsToken, 3) else some (.barBarToken, 2)
    else if second == '=' then some (.barEqualsToken, 2)
    else some (.barToken, 1)
  | _ => none

/-- An identifier or word at the reader's position. -/
def nameAt (source : Source) (reader : Reader) : Option (Reader × String) :=
  let c := source.get reader.pos
  if Text.isIdentifierStart c then
    let stop := source.skipWhile Text.isIdentifierPart (reader.pos + 1)
    let plain := source.slice reader.pos stop
    let reader := { reader with pos := stop }
    if source.get stop == '\\' then
      let (reader, more) := source.nameTail reader
      some (reader, plain ++ more)
    else some (reader, plain)
  else if c == '\\' then
    match source.nameEscape Text.isIdentifierStart reader with
    | some (reader, first, _) =>
      let (reader, more) := source.nameTail reader
      some (reader, String.ofList first ++ more)
    | none => none
  else none

/-- The token at a position that no blank precedes, together with the complaints about it. -/
def tokenAt (source : Source) (jsx : Bool) (before : Kind) (fullStart : Nat) (g : Gap) :
    Token × List Diagnostic :=
  let start := g.pos
  let token (kind : Kind) (stop : Nat) (value : String) : Token :=
    { kind, fullStart, start, stop, value, newline := g.newline }
  let finish (reader : Reader) (kind : Kind) (value : String) : Token × List Diagnostic :=
    ({ token kind reader.pos value with
        escaped := reader.escaped, separated := reader.separated
        invalidEscape := reader.invalidEscape }, reader.complaints)
  let reader : Reader := { pos := start, complaints := g.complaints }
  if start ≥ source.size then (token .endOfFileToken start "", g.complaints)
  else
    let c := source.get start
    if c == '"' || c == '\'' then
      let (reader, value) := source.string reader false
      finish reader .stringLiteral value
    else if c == '\x60' then
      let (reader, value, kind) := source.template reader false
      finish reader kind value
    else if c == '0' && start + 2 < source.size && (source.get (start + 1)).toLower == 'x' then
      let (reader, value, kind) := source.based reader 16 (fun c => (hexValue? c).isSome) "Hexadecimal digit expected."
      finish reader kind value
    else if c == '0' && start + 2 < source.size && (source.get (start + 1)).toLower == 'b' then
      let (reader, value, kind) := source.based reader 2 (fun c => c == '0' || c == '1') "Binary digit expected."
      finish reader kind value
    else if c == '0' && start + 2 < source.size && (source.get (start + 1)).toLower == 'o' then
      let (reader, value, kind) := source.based reader 8 isOctalDigit "Octal digit expected."
      finish reader kind value
    else if isDigit c || (c == '.' && isDigit (source.get (start + 1))) then
      let (reader, value, kind) := source.decimal reader (before == .minusToken)
      finish reader kind value
    else if c == '#' then
      if start != 0 && source.get (start + 1) == '!' then
        finish ({ reader.complain start 2 "'#!' can only be used at the start of a file." with pos := start + 1 })
          .unknown ""
      else
        match source.nameAt { reader with pos := start + 1 } with
        | some (reader, name) => finish reader .privateIdentifier ("#" ++ name)
        | none =>
          finish ({ reader.complain start 1 "Invalid character." with pos := start + 1 }) .privateIdentifier "#"
    else if c == '\ufffd' then
      finish ({ reader.complain 0 0 "File appears to be binary." with pos := source.size }) .unknown ""
    else
      match source.nameAt reader with
      | some (reader, name) => finish reader (kindOfName name) name
      | none =>
        match source.punctuation jsx start with
        | some (kind, length) => (token kind (start + length) "", g.complaints)
        | none => finish ({ reader.complain start 1 "Invalid character." with pos := start + 1 }) .unknown ""

/-- The next token from a position on. -/
def scan (source : Source) (jsx : Bool) (before : Kind) (pos : Nat) : Token × List Diagnostic :=
  source.tokenAt jsx before pos
    (source.gap (source.size + 1) { pos, newline := false, complaints := [] })

/-- A greater-than sign joined with the signs that follow it. -/
def joinGreater (source : Source) (token : Token) : Token :=
  if token.kind == .greaterThanToken then
    let first := source.get token.stop
    let second := source.get (token.stop + 1)
    let third := source.get (token.stop + 2)
    let grow (kind : Kind) (count : Nat) : Token := { token with kind, stop := token.stop + count }
    if first == '>' then
      if second == '>' then
        if third == '=' then grow .greaterThanGreaterThanGreaterThanEqualsToken 3
        else grow .greaterThanGreaterThanGreaterThanToken 2
      else if second == '=' then grow .greaterThanGreaterThanEqualsToken 2
      else grow .greaterThanGreaterThanToken 1
    else if first == '=' then grow .greaterThanEqualsToken 1
    else token
  else token

/-- A slash read again as the start of a regular expression. -/
def rereadPattern (source : Source) (token : Token) : Token × List Diagnostic :=
  if token.kind == .slashToken || token.kind == .slashEqualsToken then
    let reader := source.pattern token.start
    ({ token with
        kind := .regularExpressionLiteral, stop := reader.pos
        value := source.slice token.start reader.pos }, reader.complaints)
  else (token, [])

/-- A closing brace, or the opening of a template, read again as a part of a template whose bad
escapes are errors unless a tag stands before it. -/
def rereadTemplate (source : Source) (token : Token) (tagged : Bool) : Token × List Diagnostic :=
  let (reader, value, kind) := source.template { pos := token.start } (!tagged)
  ({ token with kind, value, stop := reader.pos, invalidEscape := reader.invalidEscape }, reader.complaints)

/-- Text between tags from a position on: its end, the first complaint about it, and whether it is
blank with a line break. `seen` says what the line so far holds. -/
def tagText (source : Source) : Nat → Reader → Bool → Bool → Reader × Bool
  | 0, reader, _, broken => (reader, broken)
  | fuel + 1, reader, seen, broken =>
    if reader.pos ≥ source.size then (reader, broken)
    else
      let c := source.get reader.pos
      if c == '{' || c == '<' then (reader, broken)
      else
        let reader :=
          if c == '>' then
            reader.complain reader.pos 1 "Unexpected token. Did you mean \x60\x7b'>'\x7d\x60 or \x60&gt;\x60?"
          else if c == '}' then
            reader.complain reader.pos 1 "Unexpected token. Did you mean \x60\x7b'\x7d'\x7d\x60 or \x60&rbrace;\x60?"
          else reader
        let next := { reader with pos := reader.pos + 1 }
        if isLineBreak c && !seen && !broken then tagText source fuel next seen true
        else if isBlankOrBreak c then tagText source fuel next seen broken
        else tagText source fuel next true false

/-- The token between tags at a position. -/
def scanTagContent (source : Source) (pos : Nat) : Token × List Diagnostic :=
  let token (kind : Kind) (stop : Nat) : Token := { kind, fullStart := pos, start := pos, stop }
  if pos ≥ source.size then (token .endOfFileToken pos, [])
  else
    let c := source.get pos
    if c == '<' then
      if source.get (pos + 1) == '/' then (token .lessThanSlashToken (pos + 2), [])
      else (token .lessThanToken (pos + 1), [])
    else if c == '{' then (token .openBraceToken (pos + 1), [])
    else
      let (reader, broken) := source.tagText (source.size + 1) { pos } false false
      if source.get reader.pos == '<' && source.conflictMarker reader.pos then
        (token .unknown (source.skipConflict reader.pos), (reader.complainMarker reader.pos).complaints)
      else
        ({ token .jsxText reader.pos with value := source.slice pos reader.pos, blankText := broken },
          reader.complaints)

/-- The rest of a name inside a tag, which may go on with hyphens. -/
def tagName (source : Source) : Nat → Reader → String → Reader × String
  | 0, reader, name => (reader, name)
  | fuel + 1, reader, name =>
    if source.get reader.pos == '-' then
      tagName source fuel { reader with pos := reader.pos + 1 } (name ++ "-")
    else
      let (after, more) := source.nameTail reader
      if after.pos == reader.pos then (reader, name) else tagName source fuel after (name ++ more)

/-- A name inside a tag, read again with its hyphens. -/
def rereadTagName (source : Source) (token : Token) : Token × List Diagnostic :=
  if token.kind.isName then
    let (reader, value) :=
      source.tagName (source.size + 1) { pos := token.stop, escaped := token.escaped } token.value
    ({ token with kind := kindOfName value, value, stop := reader.pos, escaped := reader.escaped },
      reader.complaints)
  else (token, [])

/-- The value of an attribute right after its equals sign; a quoted value has no escapes. -/
def scanAttributeValue (source : Source) (jsx : Bool) (before : Token) : Token × List Diagnostic :=
  let pos := before.stop
  let c := source.get pos
  if c == '"' || c == '\'' then
    let (reader, value) := source.string { pos } true
    ({ kind := .stringLiteral, fullStart := pos, start := pos, stop := reader.pos, value }, reader.complaints)
  else source.scan jsx before.kind pos

end Source

end Codemod.Syntax
