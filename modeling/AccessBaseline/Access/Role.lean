import AccessBaseline.Access.RoleName
import AccessBaseline.Access.Scope
import AccessBaseline.Json.Shape

/-! Roles as the service lists them, and the request that creates one. -/
namespace AccessBaseline

structure Role where
  id : String
  name : String
  scope : String
  deriving DecidableEq

namespace Role

def roleName (role : Role) : RoleName := ⟨role.name⟩

def toJson (role : Role) : Json :=
  .object [("id", .string role.id), ("name", .string role.name), ("type", .string role.scope)]

def record : Json.Record Role where
  title := "SystemRole"
  fields := [
    .required "id" Json.Reader.text fun r s => { r with id := s },
    .required "name" Json.Reader.text fun r s => { r with name := s },
    .defaulted "type" Json.Reader.text fun r s => { r with scope := s }]
  blank := ⟨"", "", ""⟩

end Role

structure NewRole where
  name : String
  description : String
  scope : Scope
  deriving DecidableEq

namespace NewRole

def describe (name : RoleName) : String := "Automatically created role: " ++ name.text

def generated (name : RoleName) : NewRole := ⟨name.text, describe name, .global⟩

def toJson (role : NewRole) : Json :=
  .object [("name", .string role.name), ("description", .string role.description),
    ("type", .string role.scope.name)]

end NewRole

end AccessBaseline
