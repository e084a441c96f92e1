import AccessBaseline.Console.Similar
import AccessBaseline.Console.Table

/-! The command lines of the three tools. -/
namespace AccessBaseline.Console

inductive Tool where
  | setupBaseline
  | initializeRoles
  | generateSeed
  deriving DecidableEq

namespace Tool

def all : List Tool := [setupBaseline, initializeRoles, generateSeed]

def name : Tool → String
  | setupBaseline => "setup-baseline-permissions"
  | initializeRoles => "initialize-capability-roles"
  | generateSeed => "generate-rbac-seed"

def named? (name : String) : Option Tool := all.find? (·.name == name)

def purpose : Tool → String
  | setupBaseline =>
    "Converge roles, permissions and the managed group towards the declared baseline"
  | initializeRoles =>
    "Grant capability-scoped owner and contributor roles from capability metadata"
  | generateSeed => "Export declared roles and permissions as database seed CSV files"

def version : String := "0.0.1"

end Tool

inductive Setting where
  | config
  | outDir
  deriving DecidableEq

namespace Setting

def long : Setting → String
  | config => "config"
  | outDir => "out-dir"

def short : Setting → Char
  | config => 'c'
  | outDir => 'o'

def shown : Setting → String
  | config => "--config <CONFIG>"
  | outDir => "--out-dir <OUT_DIR>"

def help (configVariable? : Option String) : Setting → String
  | config =>
    "Path to the desired-state JSON file [env: SELFSERVICE_RBAC_CONFIG=" ++
      configVariable?.getD "" ++ "] [default: config.json]"
  | outDir => "Directory the CSV files are written to [default: .]"

def configVariable : String := "SELFSERVICE_RBAC_CONFIG"

end Setting

def Tool.settings : Tool → List Setting
  | .generateSeed => [.config, .outDir]
  | _ => [.config]

inductive Misuse where
  | unexpected (argument : String) (tip? : Option String) (used : List String)
  | needlessValue (value flag : String) (used : List String)
  | valueMissing (setting : Setting)
  | repeated (setting : Setting)

inductive Stop where
  | help
  | version
  | misuse (m : Misuse)

/-- The option that waits for its value, or has it but was not looked at yet. -/
structure Pending where
  setting : Setting
  value? : Option String

structure Parsed where
  given : List (Setting × String)
  pending? : Option Pending

namespace Parsed

def usedOptions (p : Parsed) : List String := p.given.map (·.1.shown)

def give (p : Parsed) (setting : Setting) (value : String) : Except Stop Parsed :=
  if p.given.any (·.1 = setting) then .error (.misuse (.repeated setting))
  else if value = "" then .error (.misuse (.valueMissing setting))
  else .ok { p with given := p.given ++ [(setting, value)] }

def settle (p : Parsed) : Except Stop Parsed :=
  match p.pending? with
  | none => .ok p
  | some ⟨setting, none⟩ => .error (.misuse (.valueMissing setting))
  | some ⟨setting, some value⟩ => { p with pending? := none }.give setting value

def settleOrDrop (p : Parsed) : Parsed :=
  match p.settle with
  | .ok p => p
  | .error _ => { p with pending? := none }

def option (p : Parsed) (setting : Setting) (value? : Option String) : Except Stop Parsed := do
  let p ← p.settle
  match value? with
  | some value => p.give setting value
  | none => return { p with pending? := some ⟨setting, none⟩ }

def flag (p : Parsed) (stop : Stop) : Except Stop Parsed := do
  let _ ← p.settle
  throw stop

def long (tool : Tool) (p : Parsed) (name : String) (value? : Option String) :
    Except Stop Parsed :=
  match tool.settings.find? (·.long == name) with
  | some setting => p.option setting value?
  | none =>
    if name = "help" || name = "version" then
      match value? with
      | some value => .error (.misuse (.needlessValue value ("--" ++ name) p.usedOptions))
      | none => p.flag (if name = "help" then .help else .version)
    else
      let used := p.settleOrDrop.usedOptions
      let tip? := mostSimilar? name (tool.settings.map Setting.long ++ ["help", "version"])
      let tipShown := tip?.map fun tip =>
        ((tool.settings.find? (·.long == tip)).map Setting.shown).getD ("--" ++ tip)
      let more := tipShown.toList.filter (!used.contains ·)
      .error (.misuse (.unexpected ("--" ++ name) (tip?.map ("--" ++ ·)) (used ++ more)))

/-- The first letter behind a hyphen decides; what follows it is the value of an option. -/
def short (tool : Tool) (p : Parsed) : List Char → Except Stop Parsed
  | [] => .ok p
  | c :: rest =>
    match tool.settings.find? (·.short == c) with
    | some setting =>
      let value := if rest.head? = some '=' then rest.tail else rest
      p.option setting (if rest.isEmpty then none else some (String.ofList value))
    | none =>
      if c = 'h' then p.flag .help
      else if c = 'V' then p.flag .version
      else .error (.misuse (.unexpected ("-" ++ String.singleton c) none []))

def plain (p : Parsed) (argument : String) : Except Stop Parsed :=
  match p.pending? with
  | some ⟨setting, none⟩ => .ok { p with pending? := some ⟨setting, some argument⟩ }
  | _ => .error (.misuse (.unexpected argument none []))

def argument (tool : Tool) (p : Parsed) (arg : String) : Except Stop Parsed :=
  match arg.toList with
  | '-' :: '-' :: cs =>
    let name := cs.takeWhile (· ≠ '=')
    p.long tool (String.ofList name)
      (if name.length < cs.length then some (String.ofList (cs.drop (name.length + 1))) else none)
  | '-' :: c :: cs => p.short tool (c :: cs)
  | _ => p.plain arg

def arguments (tool : Tool) (p : Parsed) : List String → Except Stop Parsed
  | [] => p.settle
  | "--" :: [] => p.settle
  | "--" :: arg :: _ => .error (.misuse (.unexpected arg none []))
  | arg :: rest => do arguments tool (← p.argument tool arg) rest

end Parsed

structure Settings where
  configPath : String
  outDir : String

/-- Reads a command line; `configVariable?` is the path that the environment names. -/
def Settings.parse (tool : Tool) (configVariable? : Option String) (args : List String) :
    Except Stop Settings := do
  let p ← Parsed.arguments tool ⟨[], none⟩ args
  let configPath ←
    match p.given.lookup .config, configVariable? with
    | some path, _ => pure path
    | none, some "" => throw (.misuse (.valueMissing .config))
    | none, some path => pure path
    | none, none => pure "config.json"
  return { configPath, outDir := (p.given.lookup .outDir).getD "." }

def usage (tool : Tool) (used : List String) : String :=
  "Usage: " ++ tool.name ++ " " ++ (if used.isEmpty then "[OPTIONS]" else " ".intercalate used)

def Misuse.text (tool : Tool) (m : Misuse) : String :=
  let advice := "\n\nFor more information, try '--help'.\n"
  match m with
  | unexpected argument tip? used =>
    let tip := (tip?.map fun t => "  tip: a similar argument exists: '" ++ t ++ "'\n\n").getD ""
    "error: unexpected argument '" ++ argument ++ "' found\n\n" ++ tip ++ usage tool used ++ advice
  | needlessValue value flag used =>
    "error: unexpected value '" ++ value ++ "' for '" ++ flag ++
      "' found; no more were accepted\n\n" ++ usage tool used ++ advice
  | valueMissing setting =>
    "error: a value is required for '" ++ setting.shown ++ "' but none was supplied" ++ advice
  | repeated setting =>
    "error: the argument '" ++ setting.shown ++ "' cannot be used multiple times\n\n" ++
      usage tool [] ++ advice

def helpText (tool : Tool) (configVariable? : Option String) : String :=
  let settings := tool.settings.map fun s =>
    ("-" ++ String.singleton s.short ++ ", " ++ s.shown, s.help configVariable?)
  let rows := settings ++ [("-h, --help", "Print help"), ("-V, --version", "Print version")]
  let column := (rows.map (·.1.length)).foldl max 0
  let line (row : String × String) : String :=
    "  " ++ row.1 ++ spaces (column - row.1.length + 2) ++ row.2 ++ "\n"
  tool.purpose ++ "\n\n" ++ usage tool [] ++ "\n\nOptions:\n" ++ String.join (rows.map line)

def versionText (tool : Tool) : String := tool.name ++ " " ++ Tool.version ++ "\n"

end AccessBaseline.Console
