/-!
# Log lines

What the program tells whoever watches it: a level, a message and named fields.
-/

namespace HomeAgents

/-- The importance of a line. -/
inductive LogLevel where
  | debug
  | info
  | warn
  | error
deriving DecidableEq, Repr, Inhabited

def LogLevel.label : LogLevel → String
  | debug => "DEBUG"
  | info => "INFO"
  | warn => "WARN"
  | error => "ERROR"

structure LogLine where
  level : LogLevel
  message : String
  fields : List (String × String)
deriving DecidableEq, Repr, Inhabited

end HomeAgents
