import AccessBaseline.Console.EnvFile
import AccessBaseline.Event
import AccessBaseline.Moment
import AccessBaseline.Text.Fields

/-! The log that the tools print: one line for each event of a level that is asked for. -/
namespace AccessBaseline.Console

structure Log where
  limit? : Option Level
  coloured : Bool

namespace Log

def level? (text : String) : Option (Option Level) :=
  match Text.asciiLower text with
  | "off" | "0" => some none
  | "error" | "1" => some (some .error)
  | "warn" | "2" => some (some .warn)
  | "info" | "3" => some (some .info)
  | "debug" | "4" | "trace" | "5" => some (some .debug)
  | _ => none

/-- One part of a wish: down to which level events are shown whose source's name starts in some
way. -/
structure Directive where
  source : String
  limit? : Option Level

def isSourceChar (c : Char) : Bool :=
  c.isAlphanum || c == '_' || c == '-' || c == ':' || 128 ≤ c.toNat

/-- A level alone is for all sources, and a source alone is shown in full. -/
def directive? (part : String) : Option Directive :=
  let source := String.ofList (part.toList.takeWhile (· ≠ '='))
  if !(part.toList.head?.any isSourceChar) then none
  else if source = part then
    match level? part with
    | some limit? => some ⟨"", limit?⟩
    | none => some ⟨part, some .debug⟩
  else
    let level := String.ofList (part.toList.drop (source.length + 1))
    if level.isEmpty then some ⟨source, some .debug⟩ else (level? level).map (⟨source, ·⟩)

def sourceName : String := "selfservice_rbac"

/-- Of two parts that both concern the tools, the one with the longer name counts, or else the
later one. -/
def narrower (a b : Directive) : Directive :=
  if b.source.length < a.source.length then a else b

def wished? (text : String) : Option (Option Level) := do
  let parts := ((Text.fields (· == ',') text.toList).map String.ofList).filter (· ≠ "")
  let directives ← parts.mapM directive?
  if directives.isEmpty then return some .error
  let concerning := directives.filter fun d => d.source.toList.isPrefixOf sourceName.toList
  return (concerning.foldl narrower ⟨"", none⟩).limit?

def variableName : String := "RUST_LOG"

def ofEnvironment (env : Environment) : Log where
  limit? := ((env.lookup variableName).bind wished?).getD (some .info)
  coloured := ((env.lookup "NO_COLOR").getD "").isEmpty

def detailed (log : Log) (env : Environment) : Log :=
  if (env.lookup variableName).isSome then log else { log with limit? := some .debug }

def shows (log : Log) (event : Event) : Bool := log.limit?.any (·.includes event.level)

def colour : Level → String
  | .error => "31"
  | .warn => "33"
  | .info => "32"
  | .debug => "34"

def levelText (level : Level) : String :=
  (if level.name.length < 5 then " " else "") ++ level.name

def painted (code text : String) : String := "\x1b[" ++ code ++ "m" ++ text ++ "\x1b[0m"

def line (log : Log) (time : Moment) (event : Event) : String :=
  if log.coloured then
    let fields := event.fields.map fun f => painted "3" f.1 ++ painted "2" "=" ++ f.2
    " ".intercalate
      (painted "2" time.preciseText :: painted (colour event.level) (levelText event.level) ::
        (if event.message.isEmpty then fields else event.message :: fields))
  else time.preciseText ++ " " ++ levelText event.level ++ " " ++ event.text

end Log

end AccessBaseline.Console
