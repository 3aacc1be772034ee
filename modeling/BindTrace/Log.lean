/-!
# Log lines

A line of the log has a level, a target that tells who speaks, a message, and named values.
-/

namespace BindTrace

inductive Level where
  | debug
  | info
  | warn
  | error
deriving DecidableEq, Repr

namespace Level

def text : Level → String
  | debug => "DEBUG"
  | info => "INFO"
  | warn => "WARN"
  | error => "ERROR"

end Level

structure LogLine where
  level : Level
  target : String
  message : String
  fields : List (String × String) := []
deriving DecidableEq

namespace LogLine

def text (line : LogLine) : String :=
  line.fields.foldl (fun text field => text ++ " " ++ field.1 ++ "=" ++ field.2)
    (line.level.text ++ " " ++ line.target ++ ": " ++ line.message)

end LogLine

end BindTrace
