import AccessBaseline.Reconcile.Groups
import AccessBaseline.Reconcile.Roles

/-! A baseline run: roles, their permissions, the managed group, its roles and its members, in that
order. The first call that fails ends the run. -/
namespace AccessBaseline.Baseline

open Attempt (call)
open Reconcile (note)

def showMembers (groupName : String) : Reconcile Unit := do
  match Group.named? groupName (← call .groups) with
  | none => pure ()
  | some group =>
    group.members.forM fun member =>
      note (.debug "final member" [("group", group.name), ("member", member)])

/-- Creates the missing roles; the result is the roles as they are listed afterwards. -/
def roles (config : Config) : Reconcile RoleIndex := do
  note (.debug ">> Consolidating roles list...")
  Reconcile.roles config.roles (← Attempt.availableRoles)
  let roles ← Attempt.availableRoles
  roles.roles.forM fun role => note (.debug "available role" [("name", role.name), ("id", role.id)])
  return roles

def permissions (roles : RoleIndex) (role : DeclaredRole) : Reconcile Unit := do
  Reconcile.permissions role (← Attempt.ofExcept (roles.requireId role.name))

def group (config : Config) (roles : RoleIndex) : Reconcile Unit := do
  note (.debug ">> Consolidating groups..." [("group", config.groupName)])
  let group ← Reconcile.ensureGroup config.groupName
  Reconcile.groupRoles group config.bindings roles
  Reconcile.membership group config.members

def reconcile (config : Config) : Reconcile Unit := do
  note (.info ">> Starting baseline permissions setup...")
  note (.debug "configuration loaded"
    [("api_url", config.apiUrl), ("roles", toString config.roles.length),
      ("group", config.groupName)])
  let roles ← roles config
  config.roles.forM (permissions roles)
  group config roles
  if config.debug then showMembers config.groupName
  let report ← get
  note (.info "<< Baseline permissions setup completed."
    [("changes", toString report.changes), ("anomalies", toString report.anomalies.length)])

/-- The whole run, from an empty report. -/
def run (config : Config) : Attempt Report := ExceptT.mk do
  let (result, report) ← (reconcile config).runFrom {}
  return result.map fun _ => report

end AccessBaseline.Baseline
