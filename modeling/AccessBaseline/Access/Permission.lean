import AccessBaseline.Access.Scope
import AccessBaseline.Json.Shape
import AccessBaseline.KeyTable

/-! Permissions of a role, each a name in a namespace, and the request that grants one. -/
namespace AccessBaseline

/-- A permission as it is listed; `space` is its namespace. -/
structure Permission where
  space : String
  name : String
  scope : String
  resource : String
  deriving DecidableEq

namespace Permission

def toJson (p : Permission) : Json :=
  .object [("namespace", .string p.space), ("permission", .string p.name),
    ("type", .string p.scope), ("resource", .string p.resource)]

def record : Json.Record Permission where
  title := "PermissionGrant"
  fields := [
    .required "namespace" Json.Reader.text fun p s => { p with space := s },
    .required "permission" Json.Reader.text fun p s => { p with name := s },
    .defaulted "type" Json.Reader.text fun p s => { p with scope := s },
    .defaulted "resource" Json.Reader.text fun p s => { p with resource := s }]
  blank := ⟨"", "", "", ""⟩

def bySpace (ps : List Permission) : KeyTable (List String) :=
  ps.foldl (fun table p => table.alter p.space fun names => names.getD [] ++ [p.name]) []

end Permission

structure PermissionRequest where
  space : String
  name : String
  scope : Scope
  resource : String
  holderKind : EntityKind
  holderId : String
  deriving DecidableEq

namespace PermissionRequest

def forRole (roleId space name : String) : PermissionRequest :=
  ⟨space, name, .global, "*", .role, roleId⟩

def toJson (r : PermissionRequest) : Json :=
  .object [("namespace", .string r.space), ("permission", .string r.name),
    ("type", .string r.scope.name), ("resource", .string r.resource),
    ("assignedEntityType", .string r.holderKind.name), ("assignedEntityId", .string r.holderId)]

end PermissionRequest

end AccessBaseline
