import AccessBaseline.Access.Scope
import AccessBaseline.Json.Shape

/-! Roles that users and groups hold, and the request that assigns one. -/
namespace AccessBaseline

/-- A listed assignment. Scope and kind of the holder may be ones that `Scope` and `EntityKind` do
not know, so they are kept as text. -/
structure Assignment where
  roleId : String
  holderKind : String
  holderId : String
  scope : String
  resource : String
  deriving DecidableEq

namespace Assignment

def toJson (a : Assignment) : Json :=
  .object [("roleId", .string a.roleId), ("assignedEntityType", .string a.holderKind),
    ("assignedEntityId", .string a.holderId), ("type", .string a.scope),
    ("resource", .string a.resource)]

def record : Json.Record Assignment where
  title := "RoleAssignment"
  fields := [
    .required "roleId" Json.Reader.text fun a s => { a with roleId := s },
    .defaulted "assignedEntityType" Json.Reader.text fun a s => { a with holderKind := s },
    .defaulted "assignedEntityId" Json.Reader.text fun a s => { a with holderId := s },
    .defaulted "type" Json.Reader.text fun a s => { a with scope := s },
    .defaulted "resource" Json.Reader.text fun a s => { a with resource := s }]
  blank := ⟨"", "", "", "", ""⟩

/-- Whether this gives a role at a scope. Resource and holder are not compared. -/
def gives (a : Assignment) (roleId : String) (scope : Scope) : Bool :=
  a.roleId == roleId && scope.covers a.scope

end Assignment

structure AssignmentRequest where
  roleId : String
  holderKind : EntityKind
  holderId : String
  scope : Scope
  resource : String
  deriving DecidableEq

namespace AssignmentRequest

def forGroup (roleId groupId : String) (scope : Scope) : AssignmentRequest :=
  ⟨roleId, .group, groupId, scope, ""⟩

def forMember (roleId user capabilityId : String) : AssignmentRequest :=
  ⟨roleId, .user, user, .capability, capabilityId⟩

def toJson (r : AssignmentRequest) : Json :=
  .object [("roleId", .string r.roleId), ("assignedEntityType", .string r.holderKind.name),
    ("assignedEntityId", .string r.holderId), ("type", .string r.scope.name),
    ("resource", .string r.resource)]

def granted (r : AssignmentRequest) : Assignment :=
  ⟨r.roleId, r.holderKind.name, r.holderId, r.scope.name, r.resource⟩

end AssignmentRequest

end AccessBaseline
