import AccessBaseline.Baseline
import AccessBaseline.Ownership
import AccessBaseline.Proofs.Config
import AccessBaseline.Proofs.Persistence
import AccessBaseline.Proofs.Url.Segments
import AccessBaseline.Proofs.Wire

/-! The service over HTTP against the service in memory. A server that was given, for each call of a run,
the reply with what the call returned, leads the same dialogue through the same calls to the same end. -/
namespace AccessBaseline

namespace Url

theorem isSpecial_of_scheme {u : Url} (h : u.scheme = "http" ∨ u.scheme = "https") : u.isSpecial = true := by
  unfold isSpecial
  cases h with
  | inl hhttp => rw [hhttp]; decide
  | inr hhttps => rw [hhttps]; decide

end Url

theorem Config.readUrl_of_baseUrl {config : Config} {readUrl : String → Except UrlFault Url} {base : Url}
    (h : config.baseUrl readUrl = .ok base) :
    readUrl config.apiUrl = .ok base ∧ (base.scheme = "http" ∨ base.scheme = "https") := by
  unfold baseUrl at h
  split at h
  · cases h
  · cases hread : readUrl config.apiUrl with
    | error e =>
      rw [hread] at h
      cases h
    | ok url =>
      simp only [hread] at h
      split at h
      · next hscheme =>
        cases h
        exact ⟨rfl, hscheme⟩
      · cases h

theorem Config.hierarchical_baseUrl {config : Config} {base : Url} (h : config.baseUrl = .ok base) :
    base.Hierarchical :=
  have ⟨hread, hscheme⟩ := readUrl_of_baseUrl h
  Url.hierarchical_of_parse hread (Url.isSpecial_of_scheme hscheme)

theorem Config.baseUrl_of_toOption {config : Config} {base : Url} (h : config.baseUrl.toOption = some base) :
    config.baseUrl = .ok base := by
  cases hread : config.baseUrl with
  | error e => simp [hread, Except.toOption] at h
  | ok url => simpa [hread, Except.toOption] using h

theorem AccessToken.ofValue_of_ne {text : String} (h : text ≠ "") : ofValue (some text) = .ok ⟨text⟩ := by
  unfold ofValue
  split
  · next hnone => cases hnone
  · next hempty => exact absurd (Option.some.inj hempty) h
  · next htext =>
    cases htext
    rfl

theorem Memory.Service.respond_ok {service : Memory.Service} (h : service.disruptions = []) (call : Call) :
    (service.respond call).1 = .ok (service.store.read call) ∧
      (service.respond call).2.disruptions = [] := by
  simp [respond, disruption?, h, apply_ite Memory.Service.disruptions]

namespace Http

theorem Library.ReadsSegments.cannotBeBase {library : Library} (h : library.ReadsSegments) {config : Config}
    {base : Url} (hbase : config.baseUrl library.readUrl = .ok base) : base.cannotBeBase = false :=
  have ⟨hread, hscheme⟩ := Config.readUrl_of_baseUrl hbase
  h _ _ hread hscheme

theorem Library.readsSegments_standard : Library.standard.ReadsSegments := fun _ _ hread hscheme =>
  (Url.hierarchical_of_parse hread (Url.isSpecial_of_scheme hscheme)).cannotBeBase

def Request.route (r : Request) : String × String := (r.method, r.url.path.text)

/-- The replies that wait for the requests of each route, in their order. -/
abbrev Queues := String × String → List Delivery

namespace Queues

def empty : Queues := fun _ => []

/-- The next reply of the route, which is taken from its queue. -/
def respond (request : Request) (queues : Queues) : Delivery × Queues :=
  match queues request.route with
  | [] => (.whole 404 "no route", queues)
  | d :: later => (d, fun route => if route = request.route then later else queues route)

/-- For each recorded call in turn, a reply with what it returned, behind those of its route. -/
def ofRecord (client : Client) (record : List Success) : Queues := fun route =>
  (record.filter fun s => (client.request s.1).route = route).map fun s =>
    .whole 200 (s.1.replyBody s.2)

theorem respond_ofRecord (client : Client) (call : Call) (v : call.Value) (record : List Success) :
    respond (client.request call) (ofRecord client (⟨call, v⟩ :: record)) =
      (.whole 200 (call.replyBody v), ofRecord client record) := by
  have hnext : ofRecord client (⟨call, v⟩ :: record) (client.request call).route =
      .whole 200 (call.replyBody v) :: ofRecord client record (client.request call).route := by
    simp [ofRecord]
  rw [respond, hnext]
  refine Prod.ext rfl (funext fun route => ?_)
  by_cases h : route = (client.request call).route
  · simp [h]
  · simp [h, Ne.symm h, ofRecord]

end Queues

namespace Client

theorem connect_eq {base : Url} (h : base.cannotBeBase = false) (token : AccessToken) :
    connect base token = .ok ⟨base, token⟩ := by
  simp [connect, h]

theorem ofConfig_of_baseUrl {config : Config} {readUrl : String → Except UrlFault Url} {base : Url}
    (h : config.baseUrl readUrl = .ok base) (hbase : base.cannotBeBase = false) {token : String}
    (htoken : token ≠ "") : ofConfig config (some token) readUrl = .ok ⟨base, ⟨token⟩⟩ := by
  rw [ofConfig, AccessToken.ofValue_of_ne htoken]
  change (config.baseUrl readUrl >>= fun base => connect base ⟨token⟩) = _
  rw [h]
  exact connect_eq hbase ⟨token⟩

theorem answer_replyBody (call : Call) (v : call.Value) (url : Url) :
    answer call url (.whole 200 (call.replyBody v)) = .ok v := by
  have haccepted : 200 ∈ call.accepted := by cases call <;> simp [Call.accepted]
  simp only [answer, if_pos haccepted, call.decode_replyBody v]
  rfl

section
variable {refusal? : Request → Option TransportFault} {client : Client}
  (hbase : client.base.cannotBeBase = false) {call : Call}
include hbase

theorem serve_sent (h : refusal? (client.request call) = none) :
    client.serve call refusal? = .note (.debug call.method [("url", (client.endpoint call).text)])
      (.ask (client.request call) fun delivery => .done (answer call (client.endpoint call) delivery)) := by
  simp only [serve, address_eq hbase call, h]

theorem serve_refused {fault : TransportFault} (h : refusal? (client.request call) = some fault) :
    client.serve call refusal? = .note (.debug call.method [("url", (client.endpoint call).text)])
      (.done (.error (.transport call.method (client.endpoint call).text fault))) := by
  simp only [serve, address_eq hbase call, h]

end

variable (refusal? : Request → Option TransportFault)

theorem run_converse_ask {α σ : Type} (respond : Request → σ → Delivery × σ) (client : Client) (call : Call)
    (next : call.Answer → Dialogue α) (s : σ) :
    Interaction.run respond (client.converse (.ask call next) refusal?) s =
      let r := Interaction.run respond (client.serve call refusal?) s
      let r' := Interaction.run respond (client.converse (next r.result) refusal?) r.state
      ⟨r'.result, r'.state, r.steps ++ r'.steps⟩ :=
  Interaction.run_bind respond (client.serve call refusal?)
    (fun answer => client.converse (next answer) refusal?) s

def replayed {α : Type} (client : Client) (p : Dialogue α) (service : Memory.Service) :
    Interaction.Run Request (fun _ => Delivery) Queues α :=
  Interaction.run Queues.respond (client.converse p refusal?)
    (.ofRecord client (heard (Interaction.run Memory.Service.respond p service).steps))

/-- Whether no call of a dialogue in memory makes a request that is refused. -/
def Unrefused {α : Type} (client : Client) (p : Dialogue α) (service : Memory.Service) : Prop :=
  ∀ call ∈ (Interaction.run Memory.Service.respond p service).ops, refusal? (client.request call) = none

/-- Whether a dialogue goes over HTTP as it does in memory: one request for each call, in their order,
and the same end, with every reply used up. -/
structure Mirrors {α : Type} (client : Client) (p : Dialogue α) (service : Memory.Service) : Prop where
  recorded : (heard (Interaction.run Memory.Service.respond p service).steps).map (·.1) =
    (Interaction.run Memory.Service.respond p service).ops
  requests : List.Forall₂
    (fun call q => q.method = call.method ∧ q.url = client.base.below call.resource ∧
      q.bearer = client.token.text ∧ q.body? = call.body? ∧ (q.method = "POST" → q.body?.isSome = true))
    (Interaction.run Memory.Service.respond p service).ops (client.replayed refusal? p service).ops
  result : (client.replayed refusal? p service).result = (Interaction.run Memory.Service.respond p service).result
  state : (client.replayed refusal? p service).state = Queues.empty

theorem isSome_body?_of_post {call : Call} (h : call.method = "POST") : call.body?.isSome = true := by
  cases call with
  | createRole | grantPermission | createGroup | addGroupMember | grantRole => rfl
  | assignableRoles | rolePermissions | groups | removeGroupMember | groupRoleGrants | capabilities
  | capabilityMembers => exact absurd h (by simp [Call.method])

theorem mirrors_of_unrefused {α : Type} {client : Client} (hbase : client.base.cannotBeBase = false)
    (p : Dialogue α) {service : Memory.Service} (hcalm : service.disruptions = [])
    (hunrefused : client.Unrefused refusal? p service) : client.Mirrors refusal? p service := by
  induction p generalizing service with
  | done a => exact ⟨rfl, .nil, rfl, rfl⟩
  | note event next ih =>
    obtain ⟨hrecorded, hrequests, hresult, hstate⟩ := ih hcalm hunrefused
    exact ⟨hrecorded, hrequests, hresult, hstate⟩
  | ask call next ih =>
    obtain ⟨hanswer, hcalm'⟩ := Memory.Service.respond_ok hcalm call
    let v := service.store.read call
    let after := (service.respond call).2
    have hmemory : Interaction.run Memory.Service.respond (.ask call next) service =
        let r := Interaction.run Memory.Service.respond (next (.ok v)) after
        { r with steps := .answered call (.ok v) :: r.steps } := by
      rw [Interaction.run, hanswer]
    have hheard : heard (Interaction.run Memory.Service.respond (.ask call next) service).steps =
        ⟨call, v⟩ :: heard (Interaction.run Memory.Service.respond (next (.ok v)) after).steps := by
      rw [hmemory]
      rfl
    -- The call is the first one asked in memory, and those behind it are asked of the store that it leaves.
    obtain ⟨hsent, hrest⟩ : refusal? (client.request call) = none ∧
        client.Unrefused refusal? (next (.ok v)) after := by
      refine ⟨hunrefused call ?_, fun later hlater => hunrefused later ?_⟩
      · rw [hmemory]
        exact List.mem_cons_self
      · rw [hmemory]
        exact List.mem_cons_of_mem _ hlater
    have hreplayed : client.replayed refusal? (.ask call next) service =
        let r := client.replayed refusal? (next (.ok v)) after
        { r with
          steps := .noted (.debug call.method [("url", (client.endpoint call).text)]) ::
            .answered (client.request call) (.whole 200 (call.replyBody v)) :: r.steps } := by
      rw [replayed, hheard, converse, Interaction.through, serve_sent hbase hsent]
      simp only [Interaction.bind, Interaction.run, Queues.respond_ofRecord, answer_replyBody]
      rfl
    obtain ⟨hrecorded, hrequests, hresult, hstate⟩ := ih (.ok v) hcalm' hrest
    refine ⟨?_, ?_, ?_, ?_⟩
    · rw [hheard, hmemory, List.map_cons, hrecorded]
      rfl
    · rw [hmemory, hreplayed]
      exact .cons ⟨rfl, rfl, rfl, rfl, isSome_body?_of_post⟩ hrequests
    · rw [hmemory, hreplayed]
      exact hresult
    · rw [hreplayed]
      exact hstate

end Client

/-- Over HTTP both kinds of runs go as they do in memory, however the service was filled and whatever library
carries the requests, provided that it refuses none of them: a server that has, for each call, the reply with
what the call returned is asked once for each, with the token and the call's body, and the run ends with the
same report or the same failure. -/
theorem runs_mirrored {library : Library} (hlibrary : library.ReadsSegments) {source : Config} {base : Url}
    (hbase : source.baseUrl library.readUrl = .ok base) (token : AccessToken) {service : Memory.Service}
    (hcalm : service.disruptions = []) (config : Config) :
    ∃ client, Client.connect base token = .ok client ∧ client.base = base ∧ client.token = token ∧
      (client.Unrefused library.refusal? (Baseline.run config) service →
        client.Mirrors library.refusal? (Baseline.run config) service) ∧
      (client.Unrefused library.refusal? (Ownership.run config) service →
        client.Mirrors library.refusal? (Ownership.run config) service) := by
  have hsegments := hlibrary.cannotBeBase hbase
  exact ⟨⟨base, token⟩, Client.connect_eq hsegments token, rfl, rfl,
    Client.mirrors_of_unrefused _ hsegments _ hcalm, Client.mirrors_of_unrefused _ hsegments _ hcalm⟩

def escaped : Memory.Store :=
  ⟨[⟨"r/1?", "READER", "Global"⟩, ⟨"r2", "Say \"hi\"\n\x01", "é😀"⟩],
    [("r/1?", [⟨"docs", "read\\\t", "", "*"⟩])], [⟨"..", "Ops", ["bob\r", "😀"]⟩], [], [], [], 0⟩

theorem escaped_mirrored :
    let source : Config := { Config.small with apiUrl := "http://localhost:8080/api/" }
    let base : Url := ⟨"http", "", none, some (.name "localhost"), some 8080, .segments ["api", ""], none, none⟩
    let client : Client := ⟨base, ⟨"secret"⟩⟩
    Library.standard.ReadsSegments ∧ source.baseUrl = .ok base ∧
      client.Unrefused Request.refusal? (Baseline.run Config.small) (.reliable escaped) ∧
      client.Mirrors Request.refusal? (Baseline.run Config.small) (.reliable escaped) := by
  intro source base client
  have hlibrary := Library.readsSegments_standard
  have hbase : source.baseUrl = .ok base := Config.baseUrl_of_toOption (by decide +kernel)
  have hcalm : (Memory.Service.reliable escaped).disruptions = [] := rfl
  have hunrefused : client.Unrefused Request.refusal? (Baseline.run Config.small) (.reliable escaped) := by
    have hall : ((Interaction.run Memory.Service.respond (Baseline.run Config.small)
        (.reliable escaped)).ops.all fun call => (client.request call).refusal?.isNone) = true := by
      decide +kernel
    simpa [Client.Unrefused] using hall
  obtain ⟨made, hconnect, -, -, hmirrors, -⟩ := runs_mirrored hlibrary hbase ⟨"secret"⟩ hcalm Config.small
  obtain rfl : client = made := Except.ok.inj hconnect
  exact ⟨hlibrary, hbase, hunrefused, hmirrors hunrefused⟩

/-- The host of this base can stand in a URL, and in no request. -/
theorem not_forall_mirrored :
    ¬∀ (source : Config) (base : Url) (token : AccessToken) (service : Memory.Service) (config : Config),
      source.baseUrl = .ok base → isHeaderText token.text = true → service.disruptions = [] →
        ∃ client, Client.connect base token = .ok client ∧ client.base = base ∧ client.token = token ∧
          client.Mirrors Request.refusal? (Baseline.run config) service ∧
          client.Mirrors Request.refusal? (Ownership.run config) service := by
  intro h
  let source : Config := { Config.small with apiUrl := "http://\x7btenant\x7d.api.test/" }
  let base : Url :=
    ⟨"http", "", none, some (.name "\x7btenant\x7d.api.test"), none, .segments [""], none, none⟩
  let token : AccessToken := ⟨"secret-token"⟩
  let service : Memory.Service := .reliable ⟨[], [], [], [], [], [], 0⟩
  have hbase : source.baseUrl = .ok base := Config.baseUrl_of_toOption (by decide +kernel)
  obtain ⟨client, hconnect, -, -, hmirrors, -⟩ := h source base token service source hbase (by decide) rfl
  obtain rfl : ⟨base, token⟩ = client := Except.ok.inj hconnect
  -- In memory the roles are asked for, and over HTTP nothing is.
  have hasked : (Interaction.run Memory.Service.respond (Baseline.run source) service).ops.length ≠ 0 := by
    decide +kernel
  have hsilent : (Client.replayed Request.refusal? ⟨base, token⟩ (Baseline.run source) service).ops = [] := by
    decide +kernel
  have hlength := hmirrors.requests.length_eq
  rw [hsilent] at hlength
  exact hasked hlength

end Http

end AccessBaseline
