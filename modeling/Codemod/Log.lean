/-!
# The log

Messages to the user have a level and go to the error stream, one line each.
On a terminal, unless colours are refused, each level has its colour. Debug
messages are shown only when asked for.
-/
namespace Codemod

/-- The level of a message. -/
inductive Level where
  | info
  | success
  | error
  | warn
  | debug
  deriving DecidableEq, Repr

/-- A message to the user. -/
structure Message where
  level : Level
  text : String
  deriving DecidableEq, Repr

namespace Level

/-- The word for a level. -/
def name : Level → String
  | .info => "info"
  | .success => "success"
  | .error => "error"
  | .warn => "warn"
  | .debug => "debug"

/-- The terminal sequence that starts a level's colour. -/
def colour : Level → String
  | .info => "\x1b[34m"
  | .success => "\x1b[32m"
  | .error => "\x1b[31m"
  | .warn => "\x1b[33m"
  | .debug => "\x1b[2m"

end Level

namespace Log

/-- How messages are shown. -/
structure Display where
  /-- The error stream is a terminal. -/
  terminal : Bool
  /-- Colours are refused. -/
  plain : Bool
  /-- Debug messages are shown. -/
  debug : Bool

/-- Whether colours are written. -/
def Display.coloured (display : Display) : Bool :=
  display.terminal && !display.plain

/-- Whether a message is shown at all. -/
def Display.shows (display : Display) (message : Message) : Bool :=
  message.level != .debug || display.debug

/-- The line written for a message. -/
def Display.line (display : Display) (message : Message) : String :=
  if display.coloured then message.level.colour ++ message.text ++ "\x1b[0m" else message.text

/-- The lines written for a list of messages. -/
def Display.lines (display : Display) (messages : List Message) : List String :=
  (messages.filter display.shows).map display.line

end Log

end Codemod
