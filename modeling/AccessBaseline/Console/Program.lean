import AccessBaseline.Baseline
import AccessBaseline.Console.Arguments
import AccessBaseline.Console.Log
import AccessBaseline.Console.Summary
import AccessBaseline.Http.Client
import AccessBaseline.Seed

/-! The three tools, as programs over what they ask of the system: files, the network, the clock,
fresh ids and the two output streams. -/
namespace AccessBaseline.Console

inductive SystemCall where
  | readText (path : String)
  | createDirectories (path : String)
  | writeText (path text : String)
  | exchange (request : Http.Request)
  | now
  | freshIds (count : Nat)
  | print (text : String)
  | printError (text : String)

abbrev SystemCall.Answer : SystemCall → Type
  | readText _ => Except IoFault String
  | createDirectories _ | writeText _ _ => Except IoFault Unit
  | exchange _ => Http.Delivery
  | now => Moment
  | freshIds _ => List String
  | print _ | printError _ => Unit

abbrev Program := Interaction SystemCall SystemCall.Answer

def Program.call (c : SystemCall) : Program c.Answer := Interaction.request c

/-- A program that ends early for a reason: messages, outermost first. -/
abbrev Command := ExceptT (List String) Program

structure Surroundings where
  environment : Environment
  /-- Whether the output goes to a terminal. -/
  terminal : Bool

namespace Surroundings

def coloured (s : Surroundings) : Bool :=
  let wish (name : String) : Option Bool := (s.environment.lookup name).map (· ≠ "0")
  if wish "CLICOLOR_FORCE" = some true then true
  else if (wish "NO_COLOR").isSome then false
  else (wish "CLICOLOR").getD true && s.terminal

def configVariable? (s : Surroundings) : Option String :=
  s.environment.lookup Setting.configVariable

end Surroundings

namespace Command

def ask (c : SystemCall) : Command c.Answer := ExceptT.lift (Program.call c)

def note (event : Event) : Command Unit := ExceptT.mk (.note event (.done (.ok ())))

def printLine (line : String) : Command Unit := ask (.print (line ++ "\n"))

def ofExcept (e : Except Failure α) : Command α := ExceptT.mk (.done (e.mapError Failure.chain))

def tryFor (purpose : String) (e : Except IoFault α) : Command α :=
  ExceptT.mk (.done (e.mapError fun fault => [purpose, fault.message]))

def within (purpose : String) (p : Program (Except Failure α)) : Command α :=
  ExceptT.mk do return (← p).mapError fun f => purpose :: f.chain

/-- A dialogue with the service over the network, with what it was for as the outer reason. -/
def converse (library : Http.Library) (client : Http.Client) (purpose : String) (a : Attempt α) :
    Command α :=
  within purpose <|
    (client.converse a.run library.refusal?).through fun request => Program.call (.exchange request)

end Command

open Command (ask note printLine)

def loadConfig (path : String) : Command Config := do
  match Config.ofFile path (← ask (.readText path)) with
  | .ok config => return config
  | .error f => throw (("Failed to load configuration from " ++ path) :: f.chain)

def connect (library : Http.Library) (s : Surroundings) (config : Config) : Command Http.Client := do
  let token ← Command.ofExcept (AccessToken.ofValue (s.environment.lookup AccessToken.variableName))
  let base ← Command.ofExcept (config.baseUrl library.readUrl)
  note (.debug "using SelfService API" [("base_url", base.text)])
  Command.ofExcept (Http.Client.connect base token)

def setupBaseline (library : Http.Library) (s : Surroundings) (config : Config) : Command Unit := do
  let client ← connect library s config
  let report ← Command.converse library client "Baseline permissions setup failed" (Baseline.run config)
  (baselineSummary s.coloured report).forM printLine

def initializeRoles (library : Http.Library) (s : Surroundings) (config : Config) : Command Unit := do
  let client ← connect library s config
  let report ← Command.converse library client "Capability ownership bootstrap failed" (Ownership.run config)
  (ownershipSummary s.coloured report).forM printLine

def inDirectory (directory name : String) : String :=
  if directory.isEmpty || directory.endsWith "/" then directory ++ name
  else directory ++ "/" ++ name

def writeTable (path : String) (text : Except Failure String) : ExceptT Failure Program Unit := do
  let text ← ExceptT.mk (.done text)
  ExceptT.mk do return (← Program.call (.writeText path text)).mapError Failure.io

def writeSeed (directory : String) (seed : Seed) : ExceptT Failure Program (String × String) := do
  let rolesPath := inDirectory directory Seed.rolesFile
  let grantsPath := inDirectory directory Seed.grantsFile
  writeTable rolesPath seed.rolesText
  writeTable grantsPath seed.grantsText
  ExceptT.mk <| .note (.info "seed files written"
    [("roles", toString seed.roles.length), ("grants", toString seed.grants.length),
      ("dir", directory)]) (.done (.ok (rolesPath, grantsPath)))

def generateSeed (s : Surroundings) (directory : String) (config : Config) : Command Unit := do
  let made ← ask (.createDirectories directory)
  Command.tryFor ("Failed to create " ++ directory) made
  let ids ← ask (.freshIds (config.roles.length + Seed.grantCount config.roles))
  let supply := Seed.Supply.ofList config.roles.length ids
  let seed ← Command.ofExcept (Seed.ofRoles supply (← ask .now) config.roles)
  let (rolesPath, grantsPath) ←
    Command.within ("Failed to write seed files to " ++ directory) (writeSeed directory seed).run
  printLine (marked s.coloured .success ("Wrote " ++ rolesPath))
  printLine (marked s.coloured .success ("Wrote " ++ grantsPath))

def command (library : Http.Library) (tool : Tool) (s : Surroundings) (settings : Settings)
    (config : Config) : Command Unit := do
  if config.debug && (s.environment.lookup Log.variableName).isNone then
    note (.debug "debug logging enabled by configuration")
  note (.info "configuration loaded" [("path", settings.configPath)])
  match tool with
  | .setupBaseline => setupBaseline library s config
  | .initializeRoles => initializeRoles library s config
  | .generateSeed => generateSeed s settings.outDir config

def logged (log : Log) : Program α → Program α
  | .done a => .done a
  | .ask c next => .ask c fun answer => logged log (next answer)
  | .note event next =>
    if log.shows event then
      .ask .now fun time => .ask (.print (log.line time event ++ "\n")) fun _ => logged log next
    else logged log next

def finish (s : Surroundings) : Except (List String) Unit → Program Nat
  | .ok () => return 0
  | .error reasons => do
    let reason := ": ".intercalate reasons
    .note (.error "run failed" [("error", reason)]) (.done ())
    Program.call (.printError (marked s.coloured .failure reason ++ "\n"))
    return 1

def loadEnvironment (s : Surroundings) : Program Surroundings := do
  let warn (reason : String) : Program Unit :=
    Program.call (.printError ("Warning: Failed to load .env file: " ++ reason ++ "\n"))
  match ← Program.call (.readText ".env") with
  | .error fault =>
    if fault ≠ .notFound && fault ≠ .isADirectory then warn fault.message
    return s
  | .ok text =>
    let (environment, fault?) := s.environment.extended text
    if let some fault := fault? then warn fault.message
    return { s with environment }

def stop (tool : Tool) (s : Surroundings) : Stop → Program Nat
  | .help => do
    Program.call (.print (helpText tool s.configVariable?))
    return 0
  | .version => do
    Program.call (.print (versionText tool))
    return 0
  | .misuse m => do
    Program.call (.printError (m.text tool))
    return 2

/-- A tool's whole run; the result is its exit code. -/
def run (tool : Tool) (s : Surroundings) (args : List String)
    (library : Http.Library := .standard) : Program Nat := do
  let s ← loadEnvironment s
  let log := Log.ofEnvironment s.environment
  match Settings.parse tool s.configVariable? args with
  | .error reason => stop tool s reason
  | .ok settings =>
    match ← (loadConfig settings.configPath).run with
    | .error reasons => logged log (finish s (.error reasons))
    | .ok config =>
      let log := if config.debug then log.detailed s.environment else log
      logged log do finish s (← (command library tool s settings config).run)

end AccessBaseline.Console
