/-!
Log events. What a call did is told by the events it leaves, in order.
-/

namespace ApiCall

inductive LogLevel where
  | trace
  | debug
  | info
  | warn
  deriving DecidableEq, Repr

def LogLevel.name : LogLevel → String
  | .trace => "TRACE"
  | .debug => "DEBUG"
  | .info => "INFO"
  | .warn => "WARN"

structure LogEvent where
  level : LogLevel
  message : String
  fields : List (String × String) := []
  deriving DecidableEq, Repr

end ApiCall
