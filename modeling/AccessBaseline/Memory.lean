import AccessBaseline.Call

/-! An access service held in memory. Calls on it can be made to fail, and writes to be lost. -/
namespace AccessBaseline

/-- Lists by id; an id that does not occur has the empty list. -/
abbrev ListsById (α : Type) := List (String × List α)

namespace ListsById

def get (lists : ListsById α) (id : String) : List α := (lists.lookup id).getD []

def push (id : String) (a : α) : ListsById α → ListsById α
  | [] => [(id, [a])]
  | (k, as) :: rest => if k == id then (k, as ++ [a]) :: rest else (k, as) :: push id a rest

theorem get_push (lists : ListsById α) (id k : String) (a : α) :
    (lists.push id a).get k = if k = id then lists.get k ++ [a] else lists.get k := by
  induction lists with
  | nil => by_cases h : k = id <;> simp [push, get, List.lookup_cons, h, beq_eq_false_iff_ne.2]
  | cons e rest ih =>
    obtain ⟨k', as⟩ := e
    simp only [push]
    by_cases hk : k' = id
    · subst hk
      by_cases h : k = k' <;> simp [get, List.lookup_cons, h, beq_eq_false_iff_ne.2]
    · simp only [get, beq_iff_eq, hk, if_false, List.lookup_cons] at ih ⊢
      by_cases h : k = k'
      · subst h
        simp [hk]
      · rw [beq_eq_false_iff_ne.2 h]
        exact ih

end ListsById

namespace Memory

/-- What the service holds; `created` counts the roles and groups that it made ids for. -/
structure Store where
  roles : List Role
  permissions : ListsById Permission
  groups : List Group
  assignments : ListsById Assignment
  capabilities : List Capability
  members : ListsById CapabilityMember
  created : Nat

namespace Store

def empty : Store := ⟨[], [], [], [], [], [], 0⟩

/-- Changes the first group with an id. -/
def alterGroup (groupId : String) (f : List String → List String) : List Group → List Group
  | [] => []
  | g :: gs =>
    if g.id == groupId then { g with members := f g.members } :: gs
    else g :: alterGroup groupId f gs

def read (store : Store) : (call : Call) → call.Value
  | .assignableRoles => store.roles
  | .rolePermissions roleId => store.permissions.get roleId
  | .groups => store.groups
  | .groupRoleGrants groupId => store.assignments.get groupId
  | .capabilities => store.capabilities
  | .capabilityMembers id => store.members.get id
  | .createRole _ | .grantPermission _ | .createGroup _ | .addGroupMember _ _
  | .removeGroupMember _ _ | .grantRole _ => ()

/-- The store after a call. Assignments are listed for groups only. That a member is removed is asked for by no
run; here it takes the member out, while a backend for tests may do no more than note the call. -/
def write (store : Store) : Call → Store
  | .createRole r =>
    let n := store.created + 1
    { store with
      roles := store.roles ++ [⟨"role-" ++ toString n, r.name, r.scope.name⟩]
      created := n }
  | .grantPermission r =>
    { store with
      permissions := store.permissions.push r.holderId ⟨r.space, r.name, r.scope.name, r.resource⟩ }
  | .createGroup g =>
    let n := store.created + 1
    { store with groups := store.groups ++ [⟨"group-" ++ toString n, g.name, []⟩], created := n }
  | .addGroupMember groupId user =>
    { store with groups := alterGroup groupId (· ++ [user]) store.groups }
  | .removeGroupMember groupId member =>
    { store with groups := alterGroup groupId (·.filter (· ≠ member)) store.groups }
  | .grantRole r =>
    if r.holderKind = .group then
      { store with assignments := store.assignments.push r.holderId r.granted }
    else store
  | .assignableRoles | .rolePermissions _ | .groups | .groupRoleGrants _ | .capabilities
  | .capabilityMembers _ => store

end Store

/-- A failure of the calls of one name: of all of them, or of the one whose number it gives. -/
structure Disruption where
  name : String
  number? : Option Nat
  failure : Failure

structure Service where
  store : Store
  disruptions : List Disruption
  /-- The names of the calls that succeed without effect. -/
  forgotten : List String
  /-- The names of the calls so far. -/
  called : List String

end Memory

namespace Call

def name : Call → String
  | assignableRoles => "assignable_roles"
  | createRole _ => "create_role"
  | rolePermissions _ => "role_permissions"
  | grantPermission _ => "grant_permission"
  | groups => "groups"
  | createGroup _ => "create_group"
  | addGroupMember _ _ => "add_group_member"
  | removeGroupMember _ _ => "remove_group_member"
  | groupRoleGrants _ => "group_role_grants"
  | grantRole _ => "grant_role"
  | capabilities => "capabilities"
  | capabilityMembers _ => "capability_members"

end Call

namespace Memory.Service

/-- The first disruption that the next call of a name meets. -/
def disruption? (service : Service) (name : String) : Option Disruption :=
  let number := service.called.count name + 1
  service.disruptions.find? fun d => d.name == name && (d.number?.getD number) == number

def respond (call : Call) (service : Service) : call.Answer × Service :=
  let after := { service with called := call.name :: service.called }
  match service.disruption? call.name with
  | some d => (.error d.failure, after)
  | none =>
    (.ok (service.store.read call),
      if service.forgotten.contains call.name then after
      else { after with store := service.store.write call })

end Memory.Service

end AccessBaseline
