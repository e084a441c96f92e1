import AccessBaseline.Config
import AccessBaseline.Difference
import AccessBaseline.Reconcile.Basic

/-! Roles and their permissions: what is declared and missing is created or granted; what is there
and not declared is flagged and left alone. -/
namespace AccessBaseline.Reconcile

open Attempt (call)

def createRole (name : RoleName) : Reconcile Unit := do
  note (.info "required role does not exist in the system; creating it" [("role", name.text)])
  change .roleCreated ((call (.createRole (.generated name))).during "create role" name.text)

def roles (desired : List DeclaredRole) (observed : RoleIndex) : Reconcile Unit := do
  let difference := differences (desired.map (·.name)) (observed.roles.map Role.roleName)
  difference.onlyInFirst.forM createRole
  difference.onlyInSecond.forM fun name => flag (.undeclaredRole name.text)

def grantPermission (role : RoleName) (roleId space name : String) : Reconcile Unit := do
  change .permissionGranted <|
    (call (.grantPermission (.forRole roleId space name))).during "grant permission"
      (role.text ++ "/" ++ space ++ "/" ++ name)
  note (.debug "granted missing permission"
    [("role", role.text), ("role_id", Text.quoted roleId), ("namespace", space),
      ("permission", name)])

def space (role : RoleName) (roleId space : String) (desired observed : List String) :
    Reconcile Unit := do
  let difference := differences desired observed
  difference.onlyInFirst.forM (grantPermission role roleId space)
  difference.onlyInSecond.forM fun name => flag (.undeclaredPermission role.text space name)

def permissions (role : DeclaredRole) (roleId : String) : Reconcile Unit := do
  note (.debug "verifying permissions" [("role", role.name.text)])
  let observed ←
    attempt ((Attempt.permissionsBySpace roleId).during "fetch permissions" role.name.text)
  role.permissions.forM fun (name, desired) =>
    space role.name roleId name desired ((observed.lookup name).getD [])
  (observed.filter fun e => !role.permissions.any (·.1 == e.1)).forM fun (name, names) =>
    space role.name roleId name [] names

end AccessBaseline.Reconcile
