import AccessBaseline.Call
import AccessBaseline.Config
import AccessBaseline.Http.Library
import AccessBaseline.Url.Endpoint

/-! The access service over HTTP. Each call is one request, and its reply decides the answer. -/
namespace AccessBaseline

namespace Call

def method : Call → String
  | assignableRoles | rolePermissions _ | groups | groupRoleGrants _ | capabilities
  | capabilityMembers _ => "GET"
  | createRole _ | grantPermission _ | createGroup _ | addGroupMember _ _ | grantRole _ => "POST"
  | removeGroupMember _ _ => "DELETE"

/-- The names that lead from the base URL to the resource of a call. -/
def resource : Call → List String
  | assignableRoles => ["rbac", "get-assignable-roles"]
  | createRole _ => ["rbac", "role"]
  | rolePermissions roleId => ["rbac", "permission", "role", roleId]
  | grantPermission _ => ["rbac", "permission", "grant"]
  | groups | createGroup _ => ["rbac", "groups"]
  | addGroupMember groupId _ => ["rbac", "groups", groupId, "members"]
  | removeGroupMember groupId member => ["rbac", "groups", groupId, "members", member]
  | groupRoleGrants groupId => ["rbac", "role", "groups", groupId]
  | grantRole _ => ["rbac", "role", "grant"]
  | capabilities => ["capabilities"]
  | capabilityMembers id => ["capabilities", id, "members"]

def body? : Call → Option Json
  | createRole role => some role.toJson
  | grantPermission request => some request.toJson
  | createGroup group => some group.toJson
  | addGroupMember groupId user => some (Group.membershipJson groupId user)
  | grantRole request => some request.toJson
  | assignableRoles | rolePermissions _ | groups | groupRoleGrants _ | capabilities
  | capabilityMembers _ | removeGroupMember _ _ => none

def accepted : Call → List Nat
  | assignableRoles | rolePermissions _ | groups | groupRoleGrants _ | capabilities
  | capabilityMembers _ => [200]
  | createRole _ | createGroup _ | addGroupMember _ _ => [200, 201]
  | grantPermission _ => [200, 201, 204]
  | removeGroupMember _ _ | grantRole _ => [200, 204]

def decode : (call : Call) → String → Except Json.Error call.Value
  | assignableRoles => Json.decode (.list Role.record.reader)
  | rolePermissions _ => Json.decode (.list Permission.record.reader)
  | groups => Json.decode (.list Group.record.reader)
  | groupRoleGrants _ => Json.decode (.list Assignment.record.reader)
  | capabilities => Json.decode (Envelope.record Capability.record.reader).reader
  | capabilityMembers _ => Json.decode (Envelope.record CapabilityMember.record.reader).reader
  | createRole _ | grantPermission _ | createGroup _ | addGroupMember _ _ | removeGroupMember _ _
  | grantRole _ => fun _ => .ok ()

end Call

namespace Http

structure Client where
  base : Url
  token : AccessToken

namespace Client

def connect (base : Url) (token : AccessToken) : Except Failure Client :=
  if base.cannotBeBase then .error (.invalidConfig (.apiUrlNotBase base.text)) else .ok ⟨base, token⟩

/-- A client for a configuration. Of two faults, that of the token counts. -/
def ofConfig (config : Config) (token? : Option String)
    (readUrl : String → Except UrlFault Url := Url.parse) : Except Failure Client := do
  let token ← AccessToken.ofValue token?
  connect (← config.baseUrl readUrl) token

def endpoint (client : Client) (call : Call) : Url := client.base.below call.resource

/-- The endpoint, unless the base has no segments to which names can be appended. -/
def address (client : Client) (call : Call) : Except Failure Url :=
  if client.base.cannotBeBase then
    .error (.invalidConfig (.described "apiUrl cannot be used as a base URL"))
  else .ok (client.endpoint call)

theorem address_eq {client : Client} (h : client.base.cannotBeBase = false) (call : Call) :
    client.address call = .ok (client.endpoint call) := by
  simp [address, h]

/-- What a delivery means for a call. Of a whole reply the status is looked at before the body. -/
def answer (call : Call) (url : Url) : Delivery → call.Answer
  | .whole status body =>
    if status ∈ call.accepted then (call.decode body).mapError (Failure.undecodable url.text)
    else .error (.unexpectedStatus call.method url.text status body)
  | .cutShort _ => .error (.transport call.method url.text .cutShort)
  | .dropped => .error (.transport call.method url.text (.dropped url.withoutUserinfo.text))
  | .unreachable cause =>
    .error (.transport call.method url.text (.unreachable url.withoutUserinfo.text cause))
  | .failed message causes => .error (.transport call.method url.text (.other message causes))

def request (client : Client) (call : Call) : Request where
  method := call.method
  url := client.endpoint call
  bearer := client.token.text
  body? := call.body?

/-- One call as one request, which is not sent when it is refused. -/
def serve (client : Client) (call : Call)
    (refusal? : Request → Option TransportFault := Request.refusal?) : Exchange call.Answer :=
  match client.address call with
  | .error f => .done (.error f)
  | .ok url =>
    .note (.debug call.method [("url", url.text)]) <|
      match refusal? (client.request call) with
      | some fault => .done (.error (.transport call.method url.text fault))
      | none => .ask (client.request call) fun delivery => .done (answer call url delivery)

def converse (client : Client) (dialogue : Dialogue α)
    (refusal? : Request → Option TransportFault := Request.refusal?) : Exchange α :=
  dialogue.through fun call => client.serve call refusal?

end Client

end Http

end AccessBaseline
