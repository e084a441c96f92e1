import AccessBaseline.Console.FileTree
import AccessBaseline.Proofs.Console.Redirects

/-! The start of the tools that talk to the service. Configuration, token and address are looked at in this
order; where one of them is refused nothing is sent, and else the first request asks for the roles. -/
namespace AccessBaseline.Console
open Http (Client Library Request)
open Command (note printLine)

structure Driver where
  Report : Type
  purpose : String
  run : Config → Attempt Report
  summary : Bool → Report → List String

namespace Driver

def baseline : Driver where
  Report := AccessBaseline.Report
  purpose := "Baseline permissions setup failed"
  run := Baseline.run
  summary := baselineSummary

def ownership : Driver where
  Report := Ownership.Report
  purpose := "Capability ownership bootstrap failed"
  run := Ownership.run
  summary := ownershipSummary

end Driver

/-- Why a start is refused, by the content of the configuration file and the value of the token: what was
tried, and how it failed. Later reasons hold only where there is no earlier one. -/
inductive Refusal (library : Library) (path : String) (content : Except IoFault String)
    (token? : Option String) : List String → Failure → Prop
  | unreadable (fault : IoFault) (read : content = .error fault) :
      Refusal library path content token? ["Failed to load configuration from " ++ path] (.configRead path fault)
  | unparsable (text : String) (e : Json.Error) (read : content = .ok text)
      (decoded : Json.decode Config.record.reader text = .error e) :
      Refusal library path content token? ["Failed to load configuration from " ++ path] (.configParse path e)
  | invalid (text : String) (config : Config) (fault : ConfigFault) (read : content = .ok text)
      (decoded : Json.decode Config.record.reader text = .ok config) (faulty : config.fault? = some fault) :
      Refusal library path content token? ["Failed to load configuration from " ++ path] (.invalidConfig fault)
  | noToken (config : Config) (accepted : Config.ofFile path content = .ok config)
      (missing : token? = none ∨ token? = some "") :
      Refusal library path content token? [] (.missingCredential "SELF_SERVICE_API_TOKEN")
  | noUrl (config : Config) (accepted : Config.ofFile path content = .ok config) (token : String)
      (given : token? = some token ∧ token ≠ "") (unset : config.apiUrl = "") :
      Refusal library path content token? [] (.invalidConfig .apiUrlUnset)
  | notUrl (config : Config) (accepted : Config.ofFile path content = .ok config) (token : String)
      (given : token? = some token ∧ token ≠ "") (e : UrlFault) (set : config.apiUrl ≠ "")
      (unread : library.readUrl config.apiUrl = .error e) :
      Refusal library path content token? [] (.invalidConfig (.apiUrlInvalid config.apiUrl e))
  | notHttp (config : Config) (accepted : Config.ofFile path content = .ok config) (token : String)
      (given : token? = some token ∧ token ≠ "") (url : Url) (set : config.apiUrl ≠ "")
      (read : library.readUrl config.apiUrl = .ok url)
      (scheme : url.scheme ≠ "http" ∧ url.scheme ≠ "https") :
      Refusal library path content token? [] (.invalidConfig (.apiUrlScheme url.scheme))

structure Cleared (library : Library) (path : String) (content : Except IoFault String)
    (token? : Option String) (config : Config) (token : AccessToken) (base : Url) : Prop where
  accepted : Config.ofFile path content = .ok config
  given : token? = some token.text ∧ token.text ≠ ""
  set : config.apiUrl ≠ ""
  read : library.readUrl config.apiUrl = .ok base
  scheme : base.scheme = "http" ∨ base.scheme = "https"

section
variable {library : Library} {path : String} {content : Except IoFault String} {token? : Option String}

theorem Refusal.isStartup {purpose : List String} {f : Failure}
    (h : Refusal library path content token? purpose f) : f.isStartup = true := by
  cases h <;> rfl

theorem Cleared.baseUrl {config : Config} {token : AccessToken} {base : Url}
    (h : Cleared library path content token? config token base) :
    config.baseUrl library.readUrl = .ok base := by
  simp only [Config.baseUrl, if_neg h.set, h.read, if_pos h.scheme]

theorem ofConfig_of_given {config : Config} {token : String} {f : Failure}
    (hgiven : token? = some token ∧ token ≠ "") (h : config.baseUrl library.readUrl = .error f) :
    Client.ofConfig config token? library.readUrl = .error f := by
  obtain ⟨rfl, hne⟩ := hgiven
  rw [Client.ofConfig, AccessToken.ofValue_of_ne hne]
  change (config.baseUrl library.readUrl >>= fun base => Client.connect base ⟨token⟩) = _
  rw [h]
  rfl

theorem Refusal.elim {purpose : List String} {f : Failure}
    (h : Refusal library path content token? purpose f) :
    (purpose = ["Failed to load configuration from " ++ path] ∧ Config.ofFile path content = .error f) ∨
      (purpose = [] ∧ ∃ config, Config.ofFile path content = .ok config ∧
        Client.ofConfig config token? library.readUrl = .error f) := by
  cases h with
  | unreadable fault read => exact .inl ⟨rfl, by rw [read]; rfl⟩
  | unparsable text e read decoded =>
    refine .inl ⟨rfl, ?_⟩
    simp only [read, Config.ofFile, Config.parse, decoded]
  | invalid text config fault read decoded faulty =>
    refine .inl ⟨rfl, ?_⟩
    simp only [read, Config.ofFile, Config.parse, decoded, faulty]
  | noToken config accepted missing =>
    refine .inr ⟨rfl, config, accepted, ?_⟩
    cases missing with
    | inl hnone => rw [hnone]; rfl
    | inr hempty => rw [hempty]; rfl
  | noUrl config accepted token given unset =>
    refine .inr ⟨rfl, config, accepted, ofConfig_of_given given ?_⟩
    simp only [Config.baseUrl, if_pos unset]
  | notUrl config accepted token given e set unread =>
    refine .inr ⟨rfl, config, accepted, ofConfig_of_given given ?_⟩
    simp only [Config.baseUrl, if_neg set, unread]
  | notHttp config accepted token given url set read scheme =>
    refine .inr ⟨rfl, config, accepted, ofConfig_of_given given ?_⟩
    simp only [Config.baseUrl, if_neg set, read, if_neg (not_or.2 scheme)]

theorem Cleared.client (hlibrary : library.ReadsSegments) {config : Config} {token : AccessToken} {base : Url}
    (h : Cleared library path content token? config token base) :
    Client.ofConfig config token? library.readUrl = .ok ⟨base, token⟩ := by
  obtain ⟨hgiven, hne⟩ := h.given
  rw [hgiven]
  exact Client.ofConfig_of_baseUrl h.baseUrl (hlibrary.cannotBeBase h.baseUrl) hne

end

abbrev Outcome (σ α : Type) := Interaction.Run SystemCall SystemCall.Answer σ α

/-- Whether a run ends with exit code 1, and its last act is to report the reasons. -/
def FailsWith {σ : Type} (s : Surroundings) (reasons : List String) (r : Outcome σ Nat) : Prop :=
  r.result = 1 ∧
    r.ops.getLast? = some (.printError (marked s.coloured .failure (": ".intercalate reasons) ++ "\n"))

/-- How a run goes on that is not refused; `d` is the part of it in which the driver runs, and `out` is what goes
out, redirects followed. -/
structure Driven {σ : Type} (library : Library) (redirects : Request → σ → List Request) (driver : Driver)
    (s : Surroundings) (client : Client) (d : Outcome σ (Except Failure driver.Report)) (r : Outcome σ Nat)
    (out : List Request) : Prop where
  within : ∃ front back, r.steps = front ++ d.steps ++ back ∧ requests front = [] ∧ requests back = []
  success : r.result = 0 ↔ ∃ report, d.result = .ok report
  failure : ∀ f, d.result = .error f → FailsWith s (driver.purpose :: f.chain) r
  first : library.refusal? (client.request .assignableRoles) = none → ∃ q, out.head? = some q ∧
    q.method = "GET" ∧ q.url = client.base.below ["rbac", "get-assignable-roles"]
  startup : ∀ f, d.result = .error f → f.isStartup = true →
    (∃ name, f = .missingRequiredRole name) ∧ (∀ q ∈ out, q.method = "GET") ∧
      ∃ q, Trail redirects q out ∧ q.method = "GET" ∧
        q.url = client.base.below ["rbac", "get-assignable-roles"]

section
variable {σ : Type} {library : Library} (respond : (c : SystemCall) → σ → c.Answer × σ) {s : Surroundings}

theorem FailsWith.behind {reasons : List String} {r : Outcome σ Nat} (h : FailsWith s reasons r)
    (front : Steps) : FailsWith s reasons { r with steps := front ++ r.steps } := by
  refine ⟨h.1, ?_⟩
  rw [Interaction.Run.ops, List.filterMap_append, List.getLast?_append]
  change (Interaction.Run.ops r).getLast?.or _ = _
  rw [h.2]
  rfl

theorem Driven.behind {driver : Driver} {client : Client} {d : Outcome σ (Except Failure driver.Report)}
    {r : Outcome σ Nat} (h : Driven library unredirected driver s client d r (requests r.steps))
    {lead : Steps} (hlead : requests lead = []) :
    Driven library unredirected driver s client d { r with steps := lead ++ r.steps }
      (requests (lead ++ r.steps)) := by
  have hrequests : requests (lead ++ r.steps) = requests r.steps := by
    rw [requests_append, hlead, List.nil_append]
  obtain ⟨front, back, hsteps, hfront, hback⟩ := h.within
  rw [hrequests]
  refine ⟨⟨lead ++ front, back, ?_, ?_, hback⟩, h.success, fun f hf => (h.failure f hf).behind lead, h.first,
    h.startup⟩
  · rw [hsteps]
    simp only [List.append_assoc]
  · rw [requests_append, hlead, hfront]
    rfl

def Driver.work (library : Library) (driver : Driver) (s : Surroundings) (config : Config)
    (client : Client) : Command Unit := do
  let report ← Command.converse library client driver.purpose (driver.run config)
  (driver.summary s.coloured report).forM printLine

def Driver.conclude (driver : Driver) (s : Surroundings) :
    Except Failure driver.Report → Program (Except (List String) Unit)
  | .error f => .done (.error (driver.purpose :: f.chain))
  | .ok report => ((driver.summary s.coloured report).forM printLine).run

def Driver.follow (library : Library) (driver : Driver) (s : Surroundings) (config : Config) :
    Except (List String) Client → Program Nat
  | .error reasons => finish s (.error reasons)
  | .ok client =>
    drive library client (driver.run config).run >>= fun result => driver.conclude s result >>= finish s

def configuredLog (s : Surroundings) (config : Config) : Log :=
  let log := Log.ofEnvironment s.environment
  if config.debug then log.detailed s.environment else log

def proceed (library : Library) (tool : Tool) (s : Surroundings) (settings : Settings) (config : Config) :
    Program Nat :=
  logged (configuredLog s config) ((command library tool s settings config).run >>= finish s)

end

/-- Whether a run of a tool that talks to the service is gated: `content` is the configuration file, `s` the
surroundings with what the file `.env` adds, and `out` what goes out. It is refused, and nothing goes out and it
fails with the first reason against it, or it is cleared, and what goes out is what its driver sends. -/
structure Gated {σ : Type} (library : Library) (redirects : Request → σ → List Request) (driver : Driver)
    (s : Surroundings) (path : String) (content : Except IoFault String)
    (respond : (c : SystemCall) → σ → c.Answer × σ) (r : Outcome σ Nat) (out : List Request) : Prop where
  decided :
    (∃ purpose f, Refusal library path content (s.environment.lookup "SELF_SERVICE_API_TOKEN") purpose f) ∨
    ∃ config token base,
      Cleared library path content (s.environment.lookup "SELF_SERVICE_API_TOKEN") config token base
  refused : ∀ purpose f,
    Refusal library path content (s.environment.lookup "SELF_SERVICE_API_TOKEN") purpose f →
      f.isStartup = true ∧ out = [] ∧ FailsWith s (purpose ++ f.chain) r
  driven : ∀ config token base,
    Cleared library path content (s.environment.lookup "SELF_SERVICE_API_TOKEN") config token base → ∃ m,
      Driven library redirects driver s ⟨base, token⟩ (Interaction.run respond
        (logged (configuredLog s config) (drive library ⟨base, token⟩ (driver.run config).run)) m) r out

section
variable {σ : Type} {library : Library} (hlibrary : library.ReadsSegments)
  {respond : (c : SystemCall) → σ → c.Answer × σ} {s : Surroundings}

theorem Gated.behind {driver : Driver} {path : String} {content : Except IoFault String} {r : Outcome σ Nat}
    (h : Gated library unredirected driver s path content respond r (requests r.steps)) {lead : Steps}
    (hlead : requests lead = []) :
    Gated library unredirected driver s path content respond { r with steps := lead ++ r.steps }
      (requests (lead ++ r.steps)) := by
  refine ⟨h.decided, fun purpose f hrefusal => ?_, fun config token base hcleared => ?_⟩
  · obtain ⟨hstartup, hrequests, hfails⟩ := h.refused purpose f hrefusal
    refine ⟨hstartup, ?_, hfails.behind lead⟩
    rw [requests_append, hlead, hrequests]
    rfl
  · obtain ⟨m, hdriven⟩ := h.driven config token base hcleared
    exact ⟨m, hdriven.behind hlead⟩

end

def moved (q : Request) (_ : FileTree) : List Request := [{ q with url := q.url.below ["moved"] }]

def lacking : FileTree :=
  .ofFiles [("config.json", "\x7b\"apiUrl\": \"http://localhost\", \"requiredRoles\": [\"reader\"]\x7d")]

end AccessBaseline.Console
