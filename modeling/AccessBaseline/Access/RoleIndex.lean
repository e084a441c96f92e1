import AccessBaseline.Access.Role
import AccessBaseline.KeyTable

/-! The listed roles by the keys of their names. Of several roles whose names have one key, the
first in the list is kept. -/
namespace AccessBaseline

structure RoleIndex where
  table : KeyTable Role

namespace RoleIndex

def empty : RoleIndex := ⟨[]⟩

def add (index : RoleIndex) (role : Role) : RoleIndex :=
  ⟨index.table.alter role.roleName.key (·.getD role)⟩

def ofRoles (roles : List Role) : RoleIndex := roles.foldl add empty

def get? (index : RoleIndex) (name : RoleName) : Option Role := index.table.lookup name.key

def contains (index : RoleIndex) (name : RoleName) : Bool := (index.get? name).isSome

def idOf? (index : RoleIndex) (name : RoleName) : Option String := (index.get? name).map (·.id)

def requireId (index : RoleIndex) (name : RoleName) : Except Failure String :=
  match index.idOf? name with
  | some id => .ok id
  | none => .error (.roleNotFound name.text)

def roles (index : RoleIndex) : List Role := index.table.values

def nameOfId? (index : RoleIndex) (id : String) : Option String :=
  (index.roles.find? (·.id == id)).map (·.name)

def size (index : RoleIndex) : Nat := index.table.length

/-- The roles of a list that are not kept, each with the one kept in its place. -/
def clashesFrom (index : RoleIndex) : List Role → List (Role × Role)
  | [] => []
  | role :: rest =>
    let later := clashesFrom (index.add role) rest
    match index.get? role.roleName with
    | none => later
    | some kept => (role, kept) :: later

def clashes (roles : List Role) : List (Role × Role) := clashesFrom empty roles

end RoleIndex

end AccessBaseline
