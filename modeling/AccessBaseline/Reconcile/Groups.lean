import AccessBaseline.Config
import AccessBaseline.Difference
import AccessBaseline.Reconcile.Basic

/-! The managed group: it is created when it is not there, given the roles and members that it
lacks, and keeps all that it has. -/
namespace AccessBaseline.Reconcile

open Attempt (call)

def ensureGroup (name : String) : Reconcile Group := do
  let before ← call .groups
  if (Group.named? name before).isNone then
    note (.info "group does not exist; creating it" [("group", Text.quoted name)])
    change .groupCreated ((call (.createGroup (.generated name))).during "create group" name)
  let after ← call .groups
  after.forM fun g =>
    note (.debug "available group"
      [("group", g.name), ("id", g.id), ("members", toString g.members.length)])
  match Group.named? name after with
  | some group => return group
  | none => throw (.groupNotFound name)

/-- A binding and the id of its role. -/
structure Resolved where
  binding : Binding
  roleId : String

namespace Resolved

def isHeld (r : Resolved) (assigned : List Assignment) : Bool :=
  assigned.any (·.gives r.roleId r.binding.scope)

def fields (r : Resolved) (group : Group) : List (String × String) :=
  [("group", group.name), ("role", r.binding.role.text), ("scope", r.binding.scope.name)]

end Resolved

def resolve (roles : RoleIndex) (bindings : List Binding) : Except Failure (List Resolved) :=
  bindings.mapM fun b => do return ⟨b, ← roles.requireId b.role⟩

def assignRole (group : Group) (assigned : List Assignment) (r : Resolved) : Reconcile Unit := do
  if r.isHeld assigned then
    note (.debug "role already assigned; no action needed" (r.fields group))
  else
    note (.info "assigning role to group" (r.fields group))
    change .groupRoleAssigned <|
      (call (.grantRole (.forGroup r.roleId group.id r.binding.scope))).during "assign group role"
        (group.name ++ "/" ++ r.binding.role.text ++ "/" ++ r.binding.scope.name)

def isDeclared (resolved : List Resolved) (a : Assignment) : Bool :=
  resolved.any fun r => a.gives r.roleId r.binding.scope

/-- Nothing is assigned unless the role of every binding is known. -/
def groupRoles (group : Group) (bindings : List Binding) (roles : RoleIndex) : Reconcile Unit := do
  let assigned ← (call (.groupRoleGrants group.id)).during "fetch role grants" group.name
  note (.debug "group currently has assigned roles"
    [("group", group.name), ("count", toString assigned.length)])
  assigned.forM fun a =>
    note (.debug "assigned role"
      [("role_id", a.roleId), ("entity_type", a.holderKind), ("entity_id", a.holderId),
        ("scope", a.scope), ("resource", a.resource)])
  let resolved ← Attempt.ofExcept (resolve roles (firsts bindings))
  resolved.forM (assignRole group assigned)
  (assigned.filter (!isDeclared resolved ·)).forM fun a =>
    flag (.undeclaredGroupRole group.name a.roleId (roles.nameOfId? a.roleId) a.scope)

def addMember (group : Group) (member : String) : Reconcile Unit := do
  note (.info "adding missing member" [("group", group.name), ("member", member)])
  change .memberAdded <|
    (call (.addGroupMember group.id member)).during "add member" (group.name ++ "/" ++ member)

def membership (group : Group) (desired : List String) : Reconcile Unit := do
  let difference := differences desired group.members
  difference.onlyInFirst.forM (addMember group)
  difference.onlyInSecond.forM fun member => flag (.unexpectedMember group.name member)

end AccessBaseline.Reconcile
