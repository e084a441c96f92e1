import AccessBaseline.Proofs.Http.Replay

/-! One attempt for each call. A call sends one request, whose reply decides the answer and is never followed
by another request; and a dialogue sends one request for each of its calls. -/
namespace AccessBaseline

namespace Call

/-- The statuses that say that a call was carried out: 200 for all of them, 201 where something was created or
a permission granted, and 204 where a member was removed or something was granted. -/
inductive Acknowledges : Call → Nat → Prop
  | done (call : Call) : Acknowledges call 200
  | roleCreated (role : NewRole) : Acknowledges (.createRole role) 201
  | groupCreated (group : NewGroup) : Acknowledges (.createGroup group) 201
  | memberAdded (groupId user : String) : Acknowledges (.addGroupMember groupId user) 201
  | memberRemoved (groupId member : String) : Acknowledges (.removeGroupMember groupId member) 204
  | roleGranted (request : AssignmentRequest) : Acknowledges (.grantRole request) 204
  | permissionCreated (request : PermissionRequest) : Acknowledges (.grantPermission request) 201
  | permissionGranted (request : PermissionRequest) : Acknowledges (.grantPermission request) 204

theorem mem_accepted_iff {call : Call} {status : Nat} :
    status ∈ call.accepted ↔ call.Acknowledges status := by
  constructor
  · intro h
    cases call with
    | assignableRoles | rolePermissions | groups | groupRoleGrants | capabilities | capabilityMembers =>
      rw [List.mem_singleton.1 h]
      exact .done _
    | createRole | createGroup | addGroupMember | removeGroupMember | grantRole =>
      obtain rfl | rfl := List.mem_pair.1 h <;> constructor
    | grantPermission request =>
      have hstatus : status = 200 ∨ status = 201 ∨ status = 204 := by simpa [accepted] using h
      obtain rfl | rfl | rfl := hstatus <;> constructor
  · intro h
    cases h with
    | done => cases call <;> simp [accepted]
    | _ => simp [accepted]

theorem exists_decode_of_isWrite {call : Call} (h : call.isWrite = true) (body : String) :
    ∃ v, call.decode body = .ok v := by
  cases call with
  | createRole | grantPermission | createGroup | addGroupMember | removeGroupMember | grantRole =>
    exact ⟨(), rfl⟩
  | assignableRoles | rolePermissions | groups | groupRoleGrants | capabilities | capabilityMembers =>
    cases h

end Call

namespace Http.Client

/-- Whether an answer is what a reply comes to. One that is not whole is a failure of the transport, whatever
its status; of a whole one the status counts before the body, and the body counts for reads alone. -/
structure Settled (call : Call) (url : Url) (delivery : Delivery) (answer : call.Answer) : Prop where
  lost : (∃ cause, answer = .error (.transport call.method url.text cause)) ↔
    ∀ status body, delivery ≠ .whole status body
  refused : ∀ status body, answer = .error (.unexpectedStatus call.method url.text status body) ↔
    delivery = .whole status body ∧ ¬call.Acknowledges status
  written : call.isWrite = true → ((∃ v, answer = .ok v) ↔
    ∃ status body, delivery = .whole status body ∧ call.Acknowledges status)
  read : call.isWrite = false → ∀ v, answer = .ok v ↔
    ∃ status body, delivery = .whole status body ∧ call.Acknowledges status ∧ call.decode body = .ok v
  unreadable : ∀ e, answer = .error (.undecodable url.text e) ↔ call.isWrite = false ∧
    ∃ status body, delivery = .whole status body ∧ call.Acknowledges status ∧ call.decode body = .error e
  decided : (∃ v, answer = .ok v) ∨ (∃ cause, answer = .error (.transport call.method url.text cause)) ∨
    (∃ status body, answer = .error (.unexpectedStatus call.method url.text status body)) ∨
    ∃ e, answer = .error (.undecodable url.text e)

theorem settled_answer (call : Call) (url : Url) (delivery : Delivery) :
    Settled call url delivery (answer call url delivery) := by
  cases delivery with
  | whole status body =>
    by_cases hstatus : call.Acknowledges status
    · have haccepted : status ∈ call.accepted := Call.mem_accepted_iff.2 hstatus
      cases hdecode : call.decode body with
      | ok v =>
        have hanswer : answer call url (.whole status body) = .ok v := by
          simp only [answer, if_pos haccepted, hdecode]
          rfl
        rw [hanswer]
        constructor <;> simp [hstatus, hdecode]
      | error e =>
        have hanswer : answer call url (.whole status body) = .error (.undecodable url.text e) := by
          simp only [answer, if_pos haccepted, hdecode]
          rfl
        have hread : call.isWrite = false := by
          refine Bool.eq_false_iff.2 fun hwrite => ?_
          obtain ⟨v, hv⟩ := Call.exists_decode_of_isWrite hwrite body
          rw [hv] at hdecode
          cases hdecode
        rw [hanswer]
        constructor <;> simp [hstatus, hdecode, hread]
    · have hanswer : answer call url (.whole status body) =
          .error (.unexpectedStatus call.method url.text status body) := by
        simp only [answer, if_neg (mt Call.mem_accepted_iff.1 hstatus)]
      rw [hanswer]
      constructor <;> simp [hstatus]
  | cutShort | dropped | unreachable | failed => constructor <;> simp [answer]

section
variable (refusal? : Request → Option TransportFault) {α σ : Type} (client : Client)
  (respond : Request → σ → Delivery × σ)

/-- A service that answers calls, each as a client does over HTTP. -/
def asked (call : Call) (s : σ) : call.Answer × σ :=
  let r := Interaction.run respond (client.serve call refusal?) s
  (r.result, r.state)

/-- Whether a call is one attempt: its request is sent once, and the answer is what the reply comes to; or the
request is refused, none is sent, and the call fails for that reason. -/
structure Attempted (call : Call) (s : σ) : Prop where
  sent : refusal? (client.request call) = none →
    let r := Interaction.run respond (client.serve call refusal?) s
    let d := respond (client.request call) s
    r.ops = [client.request call] ∧ r.state = d.2 ∧ Settled call (client.endpoint call) d.1 r.result
  refused : ∀ fault, refusal? (client.request call) = some fault →
    let r := Interaction.run respond (client.serve call refusal?) s
    r.ops = [] ∧ r.state = s ∧
      r.result = .error (.transport call.method (client.endpoint call).text fault)

variable {client} (hbase : client.base.cannotBeBase = false)
include hbase

theorem run_serve_sent {call : Call} (hsent : refusal? (client.request call) = none) (s : σ) :
    Interaction.run respond (client.serve call refusal?) s =
      let d := respond (client.request call) s
      ⟨answer call (client.endpoint call) d.1, d.2,
        [.noted (.debug call.method [("url", (client.endpoint call).text)]),
          .answered (client.request call) d.1]⟩ := by
  rw [serve_sent hbase hsent]
  rfl

theorem attempted (call : Call) (s : σ) : client.Attempted refusal? respond call s := by
  constructor
  · intro hsent
    rw [run_serve_sent refusal? respond hbase hsent]
    exact ⟨rfl, rfl, settled_answer call _ _⟩
  · intro fault hfault
    rw [serve_refused hbase hfault]
    exact ⟨rfl, rfl, rfl⟩

/-- A dialogue over HTTP goes as with a service that answers calls, and sends one request for each, unless it
is refused. -/
theorem run_converse (p : Dialogue α) (s : σ) :
    let r := Interaction.run respond (client.converse p refusal?) s
    let r' := Interaction.run (client.asked refusal? respond) p s
    r.result = r'.result ∧ r.state = r'.state ∧
      r.ops = (r'.ops.map client.request).filter fun q => (refusal? q).isNone := by
  intro r r'
  induction p generalizing s with
  | done a => exact ⟨rfl, rfl, rfl⟩
  | note event next ih => exact ih s
  | ask call next ih =>
    let first := Interaction.run respond (client.serve call refusal?) s
    obtain ⟨hresult, hstate, hops⟩ := ih first.result first.state
    have hfirst : first.ops = [client.request call].filter fun q => (refusal? q).isNone := by
      have hattempted := attempted refusal? respond hbase call s
      cases hrefusal : refusal? (client.request call) with
      | none => simpa [hrefusal] using (hattempted.sent hrefusal).1
      | some fault => simpa [hrefusal] using (hattempted.refused fault hrefusal).1
    have hr : r = _ := run_converse_ask refusal? respond client call next s
    rw [hr]
    refine ⟨hresult, hstate, ?_⟩
    change (first.steps ++ _).filterMap Interaction.Step.op? = _
    rw [List.filterMap_append]
    change first.ops ++ Interaction.Run.ops _ = _
    rw [hfirst, hops, ← List.filter_append]
    rfl

end

theorem cannotBeBase_of_connect {base : Url} {token : AccessToken} {client : Client}
    (h : connect base token = .ok client) : client.base.cannotBeBase = false := by
  unfold connect at h
  split at h
  · cases h
  · next hbase =>
    cases h
    exact Bool.eq_false_iff.2 hbase

/-- Each call is one attempt. Whichever requests a library refuses and whatever the service replies, one request
is sent, unless it is refused, no other one follows, and the answer says what became of it; and a dialogue sends
one request for each of its calls that is not refused, in their order. -/
theorem attempts_settled (refusal? : Request → Option TransportFault) {base : Url} {token : AccessToken}
    {client : Client} (hconnect : connect base token = .ok client) {σ : Type}
    (respond : Request → σ → Delivery × σ) :
    (∀ call s, client.Attempted refusal? respond call s) ∧
    ∀ {α : Type} (p : Dialogue α) s,
      let r := Interaction.run respond (client.converse p refusal?) s
      let r' := Interaction.run (client.asked refusal? respond) p s
      r.result = r'.result ∧ r.state = r'.state ∧
        r.ops = (r'.ops.map client.request).filter fun q => (refusal? q).isNone :=
  have hbase := cannotBeBase_of_connect hconnect
  ⟨attempted refusal? respond hbase, run_converse refusal? respond hbase⟩

def onLocalhost : Client :=
  ⟨⟨"http", "", none, some (.name "localhost"), none, .segments [""], none, none⟩, ⟨"secret"⟩⟩

/-- A role that was created is not taken as granted, a reply that ends early is a failure of the transport
though its status is one of success, and with a token that no header can hold nothing is sent. -/
theorem created_settled :
    let client := onLocalhost
    let grant : Call := .grantRole ⟨"r1", .group, "g1", .global, ""⟩
    let created : Request → Unit → Delivery × Unit := fun _ _ => (.whole 201 "[]", ())
    let early : Request → Unit → Delivery × Unit := fun _ _ => (.cutShort 200, ())
    let broken : Client := ⟨client.base, ⟨"two\nlines"⟩⟩
    connect client.base client.token = .ok client ∧ connect broken.base broken.token = .ok broken ∧
      (client.request grant).refusal? = none ∧ (client.request .groups).refusal? = none ∧
      (client.endpoint grant).text = "http://localhost/rbac/role/grant" ∧
      (Interaction.run created (client.serve grant) ()).result =
        .error (.unexpectedStatus "POST" (client.endpoint grant).text 201 "[]") ∧
      (∃ cause, (Interaction.run early (client.serve .groups) ()).result =
        .error (.transport "GET" (client.endpoint .groups).text cause)) ∧
      (Interaction.run created (broken.serve grant) ()).ops = [] := by
  intro client grant created early broken
  have hconnect : connect client.base client.token = .ok client := rfl
  have hbroken : connect broken.base broken.token = .ok broken := rfl
  have hgrant : (client.request grant).refusal? = none := by decide +kernel
  have hgroups : (client.request .groups).refusal? = none := by decide +kernel
  have hunaccepted : ¬Call.Acknowledges (.grantRole ⟨"r1", .group, "g1", .global, ""⟩) 201 := nofun
  refine ⟨hconnect, hbroken, hgrant, hgroups, by decide +kernel, ?_, ?_, ?_⟩
  · obtain ⟨-, -, hsettled⟩ :=
      ((attempts_settled Request.refusal? hconnect created).1 grant ()).sent hgrant
    exact (hsettled.refused 201 "[]").2 ⟨rfl, hunaccepted⟩
  · obtain ⟨-, -, hsettled⟩ :=
      ((attempts_settled Request.refusal? hconnect early).1 .groups ()).sent hgroups
    exact hsettled.lost.2 nofun
  · exact (((attempts_settled Request.refusal? hbroken created).1 grant ()).refused
      (.malformed none "failed to parse header value") (by decide +kernel)).1

/-- An identifier can be too long for any request. -/
theorem refusal?_ne_none {client : Client} (h : client.base.Hierarchical) {id : String}
    (hid : Url.IsAddressable id) (hlong : longestUrl < id.length) :
    (client.request (.rolePermissions id)).refusal? ≠ none := by
  intro hnone
  obtain ⟨-, -, hsize, -⟩ := Request.refusal?_eq_none_iff.1 hnone
  have hnames : ∀ name ∈ ["rbac", "permission", "role", id], Url.IsAddressable name := by
    simp only [List.forall_mem_cons]
    exact ⟨by decide, by decide, by decide, hid, by simp⟩
  have hpath := h.path_below (by decide) hnames
  have hsegment := hid.length_le_segmentText client.base.isSpecial
  have htext := Url.length_le_text (client.request (.rolePermissions id)).url.withoutUserinfo hpath
    (Url.segmentText client.base.isSpecial id) (by simp)
  omega

theorem not_forall_sent :
    ¬∀ (base : Url) (token : AccessToken) (client : Client) (call : Call),
      connect base token = .ok client → base.scheme = "http" ∨ base.scheme = "https" →
        isHeaderText token.text = true → ∀ (respond : Request → Unit → Delivery × Unit),
          (Interaction.run respond (client.serve call) ()).ops = [client.request call] := by
  intro h
  let base : Url := ⟨"http", "", none, some (.name "api.test"), none, .segments [""], none, none⟩
  let client : Client := ⟨base, ⟨"secret-token"⟩⟩
  -- The text is never written out, so that what is said of it is said for every length.
  let repeated (n : Nat) : String := String.ofList (List.replicate n 'a')
  have hlength (n : Nat) : (repeated n).length = n := by simp [repeated]
  have hchars (n : Nat) : ∀ c ∈ (repeated n).toList, c = 'a' := by simp [repeated]
  let id : String := repeated 70000
  have hbase : base.Hierarchical :=
    Url.hierarchical_of_parse (show Url.parse "http://api.test" = .ok base by decide +kernel) (by decide)
  have hdotless {name : String} (hname : '.' ∈ name.toList) : id ≠ name :=
    fun hsame => absurd (hchars _ '.' (hsame ▸ hname)) (by decide)
  have hid : Url.IsAddressable id :=
    ⟨hdotless (by decide), hdotless (by decide), fun c hc => by rw [hchars _ c hc]; decide⟩
  have hlong : longestUrl < id.length := by
    rw [hlength]
    decide
  have hrefused : (client.request (.rolePermissions id)).refusal? ≠ none := refusal?_ne_none hbase hid hlong
  obtain ⟨fault, hfault⟩ := Option.ne_none_iff_exists'.1 hrefused
  have hsent := h base ⟨"secret-token"⟩ client (.rolePermissions id) rfl (.inl rfl) (by decide)
    fun _ _ => (.dropped, ())
  rw [serve_refused rfl hfault] at hsent
  cases hsent

end Http.Client

end AccessBaseline
