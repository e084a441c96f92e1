import AccessBaseline.Access.Assignment
import AccessBaseline.Access.Capability
import AccessBaseline.Access.Group
import AccessBaseline.Access.Permission
import AccessBaseline.Access.RoleIndex
import AccessBaseline.Interaction

/-! The calls of the access service, and dialogues with it. A call is a single attempt, and its
answer may be a failure. -/
namespace AccessBaseline

inductive Call where
  | assignableRoles
  | createRole (role : NewRole)
  | rolePermissions (roleId : String)
  | grantPermission (request : PermissionRequest)
  | groups
  | createGroup (group : NewGroup)
  | addGroupMember (groupId user : String)
  | removeGroupMember (groupId member : String)
  | groupRoleGrants (groupId : String)
  | grantRole (request : AssignmentRequest)
  | capabilities
  | capabilityMembers (capabilityId : String)
  deriving DecidableEq

namespace Call

abbrev Value : Call → Type
  | assignableRoles => List Role
  | rolePermissions _ => List Permission
  | groups => List Group
  | groupRoleGrants _ => List Assignment
  | capabilities => List Capability
  | capabilityMembers _ => List CapabilityMember
  | createRole _ | grantPermission _ | createGroup _ | addGroupMember _ _ | removeGroupMember _ _
  | grantRole _ => Unit

abbrev Answer (call : Call) : Type := Except Failure call.Value

def isWrite : Call → Bool
  | assignableRoles | rolePermissions _ | groups | groupRoleGrants _ | capabilities
  | capabilityMembers _ => false
  | createRole _ | grantPermission _ | createGroup _ | addGroupMember _ _ | removeGroupMember _ _
  | grantRole _ => true

end Call

abbrev Dialogue := Interaction Call Call.Answer

abbrev Attempt := ExceptT Failure Dialogue

namespace Attempt

def call (c : Call) : Attempt c.Value := ExceptT.mk (Interaction.request c)

/-- A call whose failure is an answer like any other. -/
def outcome (c : Call) : Attempt c.Answer := ExceptT.lift (Interaction.request c)

def note (event : Event) : Attempt Unit := ExceptT.mk (.note event (.done (.ok ())))

def during (attempt : Attempt α) (action key : String) : Attempt α :=
  attempt.adapt (Failure.during action key)

def ofExcept (e : Except Failure α) : Attempt α := ExceptT.mk (.done e)

def availableRoles : Attempt RoleIndex := do
  let roles ← call .assignableRoles
  (RoleIndex.clashes roles).forM fun (role, kept) =>
    note (.warn "duplicate role name in assignable roles; ignoring later entry"
      [("name", role.name), ("id", role.id), ("kept", kept.id)])
  return .ofRoles roles

def permissionsBySpace (roleId : String) : Attempt (KeyTable (List String)) := do
  return Permission.bySpace (← call (.rolePermissions roleId))

end Attempt

end AccessBaseline
