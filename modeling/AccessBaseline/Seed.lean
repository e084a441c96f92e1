import AccessBaseline.Access.Role
import AccessBaseline.Config
import AccessBaseline.Difference

/-! The declared roles and permissions as two tables, from which a database can be filled. -/
namespace AccessBaseline

structure RoleRow where
  id : String
  ownerId : String
  createdAt : String
  updatedAt : String
  name : String
  description : String
  kind : String
  deriving DecidableEq

structure GrantRow where
  id : String
  createdAt : String
  holderKind : String
  holderId : String
  space : String
  permission : String
  scope : String
  resource : String
  deriving DecidableEq

def RoleRow.cells (r : RoleRow) : List String :=
  [r.id, r.ownerId, r.createdAt, r.updatedAt, r.name, r.description, r.kind]

def RoleRow.header : List String :=
  ["Id", "OwnerId", "CreatedAt", "UpdatedAt", "Name", "Description", "Type"]

def GrantRow.cells (r : GrantRow) : List String :=
  [r.id, r.createdAt, r.holderKind, r.holderId, r.space, r.permission, r.scope, r.resource]

def GrantRow.header : List String :=
  ["Id", "CreatedAt", "AssignedEntityType", "AssignedEntityId", "Namespace", "Permission", "Type",
    "Resource"]

structure Seed where
  roles : List RoleRow
  grants : List GrantRow

namespace Seed

/-- Ids for rows that have none, by the row's place in its table. -/
structure Supply where
  roleId : Nat → String
  grantId : Nat → String

def systemOwnerId : String := "0000DFD5-0000-0000-0000-00000000000A"

def description (role : DeclaredRole) : String :=
  role.description?.getD (NewRole.describe role.name)

def permissionsOf (role : DeclaredRole) : List (String × String) :=
  role.permissions.flatMap fun (space, names) => (firsts names).map (space, ·)

def roleRow (timestamp : String) (id : String) (role : DeclaredRole) : RoleRow :=
  ⟨id, systemOwnerId, timestamp, timestamp, role.name.text, description role, "System"⟩

def grantRow (timestamp id roleId : String) (permission : String × String) : GrantRow :=
  ⟨id, timestamp, EntityKind.role.name, roleId, permission.1, permission.2, Scope.global.name, ""⟩

def build (supply : Supply) (timestamp : String) (roles : List DeclaredRole) : Seed :=
  let identified := roles.mapIdx fun i role => (role.existingId?.getD (supply.roleId i), role)
  let granted := identified.flatMap fun (id, role) => (permissionsOf role).map (id, ·)
  { roles := identified.map fun (id, role) => roleRow timestamp id role
    grants := granted.mapIdx fun i (roleId, p) => grantRow timestamp (supply.grantId i) roleId p }

def grantCount (roles : List DeclaredRole) : Nat := (roles.flatMap permissionsOf).length

def Supply.ofList (roleCount : Nat) (ids : List String) : Supply :=
  ⟨fun i => ids.getD i "", fun i => ids.getD (roleCount + i) ""⟩

def ofRoles (supply : Supply) (now : Moment) (roles : List DeclaredRole) : Except Failure Seed :=
  match now.text with
  | .error e => .error (.timeFormat e)
  | .ok timestamp => .ok (build supply timestamp roles)

def rolesFile : String := "RbacRole.csv"

def grantsFile : String := "RbacPermissionGrants.csv"

def table (header : List String) (rows : List (List String)) : Except Failure String :=
  (Csv.write header rows).mapError Failure.csv

def rolesText (seed : Seed) : Except Failure String := table RoleRow.header (seed.roles.map RoleRow.cells)

def grantsText (seed : Seed) : Except Failure String :=
  table GrantRow.header (seed.grants.map GrantRow.cells)

theorem rolesText_eq (seed : Seed) : seed.rolesText =
    .ok (String.ofList (Csv.render RoleRow.header (seed.roles.map RoleRow.cells))) := by
  have h : ∀ row ∈ seed.roles.map RoleRow.cells, row.length = RoleRow.header.length := by
    simp [RoleRow.cells, RoleRow.header]
  rw [rolesText, table, Csv.write_of_lengths h]
  rfl

theorem grantsText_eq (seed : Seed) : seed.grantsText =
    .ok (String.ofList (Csv.render GrantRow.header (seed.grants.map GrantRow.cells))) := by
  have h : ∀ row ∈ seed.grants.map GrantRow.cells, row.length = GrantRow.header.length := by
    simp [GrantRow.cells, GrantRow.header]
  rw [grantsText, table, Csv.write_of_lengths h]
  rfl

end Seed

end AccessBaseline
