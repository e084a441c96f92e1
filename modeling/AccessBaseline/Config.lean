import AccessBaseline.Access.RoleName
import AccessBaseline.Access.Scope
import AccessBaseline.Url.Parser

/-! The declared state: roles with their permissions, and a group with its roles and members. -/
namespace AccessBaseline

/-- A role and the permissions that it must carry in each namespace. Description and id serve the
seed tables only. -/
structure DeclaredRole where
  name : RoleName
  permissions : List (String × List String)
  description? : Option String
  existingId? : Option String

structure Binding where
  role : RoleName
  scope : Scope

structure Config where
  debug : Bool
  apiUrl : String
  roles : List DeclaredRole
  groupName : String
  members : List String
  bindings : List Binding
  requiredRoles : List RoleName

namespace Binding

instance : BEq Binding := ⟨fun a b => a.role == b.role && a.scope == b.scope⟩

theorem beq_iff (a b : Binding) : (a == b) = true ↔ a.role.key = b.role.key ∧ a.scope = b.scope := by
  show (a.role == b.role && a.scope == b.scope) = true ↔ _
  rw [Bool.and_eq_true, RoleName.beq_iff, beq_iff_eq]

instance : EquivBEq Binding where
  rfl := by simp [beq_iff]
  symm h := by simp_all [beq_iff]
  trans h₁ h₂ := by simp_all [beq_iff]

def record : Json.Record Binding where
  title := "GroupRoleBinding"
  fields := [
    .required "roleName" Json.Reader.text fun b s => { b with role := ⟨s⟩ },
    .required "scope" Scope.reader fun b scope => { b with scope }]
  blank := ⟨⟨""⟩, .global⟩

end Binding

namespace DeclaredRole

def record : Json.Record DeclaredRole where
  title := "DeclaredRole"
  fields := [
    .required "name" Json.Reader.text fun r s => { r with name := ⟨s⟩ },
    .defaulted "permissions" (.map (.list .text)) fun r ps => { r with permissions := ps },
    .defaulted "description" (.optional .text) fun r s => { r with description? := s },
    .defaulted "existingId" (.optional .text) fun r s => { r with existingId? := s }]
  blank := ⟨⟨""⟩, [], none, none⟩

end DeclaredRole

namespace Config

def record : Json.Record Config where
  title := "AppConfig"
  fields := [
    .defaulted "debug" .bool fun c b => { c with debug := b },
    .defaulted "apiUrl" .text fun c s => { c with apiUrl := s },
    .defaulted "roles" (.list DeclaredRole.record.reader) fun c rs => { c with roles := rs },
    .defaulted "groupName" .text fun c s => { c with groupName := s },
    .defaulted "cloudengineers" (.list .text) fun c ms => { c with members := ms },
    .defaulted "cloudengineerRoles" (.list Binding.record.reader) fun c bs => { c with bindings := bs },
    .defaulted "requiredRoles" (.list .text) fun c ns => { c with requiredRoles := ns.map (⟨·⟩) }]
  blank := ⟨false, "", [], "CloudEngineers", [], [], []⟩

/-- The first role whose name is empty or equals one before it; `seen` are the keys so far. -/
def roleFault? (seen : List String) : List DeclaredRole → Option ConfigFault
  | [] => none
  | role :: rest =>
    if role.name.key = "" then some .emptyRoleName
    else if role.name.key ∈ seen then some (.duplicateRole role.name.text)
    else roleFault? (role.name.key :: seen) rest

def fault? (config : Config) : Option ConfigFault :=
  (roleFault? [] config.roles).or (if config.groupName = "" then some .emptyGroupName else none)

def parse (text path : String) : Except Failure Config :=
  match Json.decode record.reader text with
  | .error e => .error (.configParse path e)
  | .ok config =>
    match config.fault? with
    | some fault => .error (.invalidConfig fault)
    | none => .ok config

/-- The configuration in a file, which was read with this outcome. -/
def ofFile (path : String) : Except IoFault String → Except Failure Config
  | .error e => .error (.configRead path e)
  | .ok text => parse text path

/-- The base of all requests: an absolute URL whose scheme is `http` or `https`. -/
def baseUrl (config : Config) (readUrl : String → Except UrlFault Url := Url.parse) : Except Failure Url :=
  if config.apiUrl = "" then .error (.invalidConfig .apiUrlUnset)
  else
    match readUrl config.apiUrl with
    | .error e => .error (.invalidConfig (.apiUrlInvalid config.apiUrl e))
    | .ok url =>
      if url.scheme = "http" ∨ url.scheme = "https" then .ok url
      else .error (.invalidConfig (.apiUrlScheme url.scheme))

end Config

structure AccessToken where
  text : String

namespace AccessToken

def variableName : String := "SELF_SERVICE_API_TOKEN"

def ofValue : Option String → Except Failure AccessToken
  | none | some "" => .error (.missingCredential variableName)
  | some text => .ok ⟨text⟩

def masked (_ : AccessToken) : String := "AccessToken(***)"

end AccessToken

end AccessBaseline
