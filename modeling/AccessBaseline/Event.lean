import AccessBaseline.Text.Quoted

/-! What a run reports while it goes on. -/
namespace AccessBaseline

inductive Level where
  | error
  | warn
  | info
  | debug
  deriving DecidableEq

namespace Level

def name : Level → String
  | error => "ERROR"
  | warn => "WARN"
  | info => "INFO"
  | debug => "DEBUG"

def rank : Level → Nat
  | error => 0
  | warn => 1
  | info => 2
  | debug => 3

def includes (limit level : Level) : Bool := level.rank ≤ limit.rank

end Level

structure Event where
  level : Level
  message : String
  fields : List (String × String)
  deriving DecidableEq

namespace Event

def text (e : Event) : String :=
  let fields := e.fields.map fun f => f.1 ++ "=" ++ f.2
  " ".intercalate (if e.message.isEmpty then fields else e.message :: fields)

def error (message : String) (fields : List (String × String) := []) : Event :=
  ⟨.error, message, fields⟩

def warn (message : String) (fields : List (String × String) := []) : Event :=
  ⟨.warn, message, fields⟩

def info (message : String) (fields : List (String × String) := []) : Event :=
  ⟨.info, message, fields⟩

def debug (message : String) (fields : List (String × String) := []) : Event :=
  ⟨.debug, message, fields⟩

end Event

end AccessBaseline
