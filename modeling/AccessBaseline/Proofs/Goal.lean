import AccessBaseline.Proofs.Persistence
import AccessBaseline.Proofs.Reconcile.Phases

/-! What a baseline run sees to, one thing at a time, and the write that sees to it. A write meets its
own goal and leaves every other goal as it was. The writes of each part of a run are those of the goals
that the store does not meet. -/
namespace AccessBaseline
open Memory (Store)

namespace Memory.Store

def roleId? (s : Store) (name : RoleName) : Option String := (RoleIndex.ofRoles s.roles).idOf? name

def groupId? (s : Store) (name : String) : Option String := (Group.named? name s.groups).map (·.id)

theorem find?_alterGroup (id id' : String) (f : List String → List String) (groups : List Group) :
    (alterGroup id f groups).find? (·.id == id') =
      (groups.find? (·.id == id')).map fun g =>
        if id = id' then { g with members := f g.members } else g := by
  induction groups with
  | nil => rfl
  | cons g gs ih =>
    rw [alterGroup]
    by_cases h : g.id = id
    · subst h
      by_cases h' : g.id = id'
      · simp [h']
      · simp [h']
    · by_cases h' : g.id = id'
      · subst h'
        simp [h, Ne.symm h]
      · simp [h, h', ih]

theorem names_alterGroup (id : String) (f : List String → List String) (groups : List Group) :
    (alterGroup id f groups).map (fun g => (g.id, g.name)) = groups.map fun g => (g.id, g.name) := by
  induction groups with
  | nil => rfl
  | cons g gs ih =>
    rw [alterGroup]
    split
    · rfl
    · rw [List.map_cons, List.map_cons, ih]

theorem ids_of_names {gs gs' : List Group}
    (h : gs.map (fun g => (g.id, g.name)) = gs'.map fun g => (g.id, g.name)) :
    gs.map (·.id) = gs'.map (·.id) := by
  have hids := congrArg (List.map Prod.fst) h
  rwa [List.map_map, List.map_map] at hids

theorem ids_alterGroup (id : String) (f : List String → List String) (groups : List Group) :
    (alterGroup id f groups).map (·.id) = groups.map (·.id) :=
  ids_of_names (names_alterGroup id f groups)

theorem alterGroup_of_notMem {id : String} {f : List String → List String} {groups : List Group}
    (h : id ∉ groups.map (·.id)) : alterGroup id f groups = groups := by
  induction groups with
  | nil => rfl
  | cons g gs ih =>
    simp only [List.map_cons, List.mem_cons, not_or] at h
    rw [alterGroup, if_neg (by simpa using Ne.symm h.1), ih h.2]

theorem roles_writeAll_permissions (s : Store) (role : DeclaredRole) (roleId : String)
    (held : List Permission) : (s.writeAll (Missing.permissions role roleId held)).roles = s.roles := by
  refine writeAll_keeps roles (fun c hc s => ?_) s
  obtain ⟨e, -, hc⟩ := List.mem_flatMap.1 hc
  obtain ⟨name, -, rfl⟩ := List.mem_map.1 hc
  rfl

theorem roles_writeAll_group (s : Store) (name : String) (known : List Group) :
    (s.writeAll (Missing.group name known)).roles = s.roles := by
  refine writeAll_keeps roles (fun c hc s => ?_) s
  unfold Missing.group at hc
  split at hc
  · obtain rfl := List.mem_singleton.1 hc
    rfl
  · cases hc

theorem groups_writeAll_assignments (s : Store) (groupId : String) (assigned : List Assignment)
    (resolved : List Reconcile.Resolved) :
    (s.writeAll (Missing.assignments groupId assigned resolved)).groups = s.groups := by
  refine writeAll_keeps groups (fun c hc s => ?_) s
  obtain ⟨r, -, rfl⟩ := List.mem_map.1 hc
  rfl

theorem names_writeAll_members (s : Store) (group : Group) (desired : List String) :
    (s.writeAll (Missing.members group desired)).groups.map (fun g => (g.id, g.name)) =
      s.groups.map fun g => (g.id, g.name) := by
  refine writeAll_keeps (fun s => s.groups.map fun g => (g.id, g.name)) (fun c hc s => ?_) s
  obtain ⟨user, -, rfl⟩ := List.mem_map.1 hc
  exact names_alterGroup ..

theorem named?_alterGroup_self {name : String} {group : Group} {groups : List Group}
    (hname : Group.named? name groups = some group)
    (hid : groups.find? (·.id == group.id) = some group) (f : List String → List String) :
    Group.named? name (alterGroup group.id f groups) =
      some { group with members := f group.members } := by
  have hgroup : (group.name == name) = true := beq_iff_eq.2 (Group.name_of_named? hname)
  induction groups with
  | nil => cases hname
  | cons g gs ih =>
    rw [Group.named?, List.find?_cons] at hname
    rw [List.find?_cons] at hid
    rw [alterGroup]
    by_cases h : (g.id == group.id) = true
    · rw [h] at hid
      obtain rfl := Option.some.inj hid
      rw [if_pos BEq.rfl, Group.named?, List.find?_cons_of_pos]
      exact hgroup
    · have hne : (g.name == name) = false := by
        refine Bool.eq_false_iff.2 fun hg => h ?_
        rw [hg] at hname
        rw [Option.some.inj hname]
        exact BEq.rfl
      rw [hne] at hname
      rw [Bool.eq_false_iff.2 h] at hid
      rw [if_neg h, Group.named?, List.find?_cons, hne]
      exact ih hname hid

theorem mem_groupIds_iff {id : String} {groups : List Group} :
    id ∈ groups.map (·.id) ↔ ∃ g, groups.find? (·.id == id) = some g := by
  rw [← Option.isSome_iff_exists, List.find?_isSome]
  simp

/-- Groups keep their ids, and none is removed. -/
theorem groupIds_write (s : Store) (c : Call) :
    s.groups.map (·.id) <+: (s.write c).groups.map (·.id) := by
  cases c with
  | createGroup g =>
    change _ <+: (s.groups ++ [_]).map _
    rw [List.map_append]
    exact List.prefix_append _ _
  | addGroupMember id user => exact (ids_alterGroup id _ s.groups).symm ▸ List.prefix_rfl
  | removeGroupMember id user => exact (ids_alterGroup id _ s.groups).symm ▸ List.prefix_rfl
  | grantRole r =>
    simp only [write]
    split <;> exact List.prefix_rfl
  | assignableRoles | createRole | rolePermissions | grantPermission | groups | groupRoleGrants
  | capabilities | capabilityMembers => exact List.prefix_rfl

theorem groupId?_eq (s : Store) (name : String) :
    s.groupId? name = ((s.groups.map fun g => (g.id, g.name)).find? (·.2 == name)).map (·.1) := by
  rw [List.find?_map, Option.map_map]
  rfl

theorem groupId?_alterGroup (s : Store) (name id : String) (f : List String → List String) :
    { s with groups := alterGroup id f s.groups }.groupId? name = s.groupId? name := by
  rw [groupId?_eq, groupId?_eq, names_alterGroup]

end Memory.Store

inductive Goal where
  | role (name : RoleName)
  | permission (roleId space name : String)
  | group (name : String)
  | assignment (groupId roleId : String) (scope : Scope)
  | member (groupId user : String)

namespace Goal

def same : Goal → Goal → Bool
  | role name, role name' => name == name'
  | permission id space name, permission id' space' name' =>
    id == id' && (space == space' && name == name')
  | group name, group name' => name == name'
  | assignment id roleId scope, assignment id' roleId' scope' =>
    id == id' && (roleId == roleId' && scope' == scope)
  | member id user, member id' user' => id == id' && user' == user
  | _, _ => false

instance : BEq Goal := ⟨same⟩

instance : ReflBEq Goal where
  rfl := by
    intro g
    change g.same g = true
    cases g <;> simp [same]

def request : Goal → Call
  | role name => .createRole (.generated name)
  | permission id space name => .grantPermission (.forRole id space name)
  | group name => .createGroup (.generated name)
  | assignment id roleId scope => .grantRole (.forGroup roleId id scope)
  | member id user => .addGroupMember id user

/-- Whether a store has it. A member is looked for in the first group with the id. -/
def isMet (s : Store) : Goal → Bool
  | role name => (RoleIndex.ofRoles s.roles).contains name
  | permission id space name => (s.permissions.get id).any fun p => p.space == space && p.name == name
  | group name => (s.groupId? name).isSome
  | assignment id roleId scope => (s.assignments.get id).any (·.gives roleId scope)
  | member id user => (s.groups.find? (·.id == id)).any (·.members.contains user)

/-- Whether its write has an effect: a member needs a group with the id. -/
def Possible (s : Store) : Goal → Prop
  | member id _ => id ∈ s.groups.map (·.id)
  | _ => True

end Goal

namespace Memory.Store

theorem roleId?_congr {s : Store} {name name' : RoleName} (h : name.key = name'.key) :
    s.roleId? name = s.roleId? name' := by
  unfold roleId? RoleIndex.idOf? RoleIndex.get?
  rw [h]

theorem roleId?_write {s : Store} {name : RoleName} {id : String} (h : s.roleId? name = some id)
    (g : Goal) : (s.write g.request).roleId? name = some id := by
  cases g with
  | role name' =>
    obtain ⟨role, hrole, rfl⟩ := Option.map_eq_some_iff.1 h
    change ((RoleIndex.ofRoles (s.roles ++ [_])).get? name).map _ = _
    rw [RoleIndex.get?_ofRoles, List.find?_append, ← RoleIndex.get?_ofRoles, hrole]
    rfl
  | permission | group | assignment | member => exact h

theorem groupId?_write {s : Store} {name id : String} (h : s.groupId? name = some id) (g : Goal) :
    (s.write g.request).groupId? name = some id := by
  cases g with
  | group name' =>
    obtain ⟨group, hgroup, rfl⟩ := Option.map_eq_some_iff.1 h
    change (Group.named? name (s.groups ++ [_])).map _ = _
    rw [Group.named?, List.find?_append, ← Group.named?, hgroup]
    rfl
  | member id' user => exact (s.groupId?_alterGroup name id' _).trans h
  | role | permission | assignment => exact h

end Memory.Store

namespace Goal

theorem covers_name (scope scope' : Scope) : scope'.covers scope.name = (scope' == scope) := by
  cases scope <;> cases scope' <;> decide

theorem isMet_role_write (s : Store) (name : RoleName) (g : Goal) :
    g.isMet (s.write (role name).request) = (g.isMet s || role name == g) := by
  cases g with
  | role name' =>
    change (RoleIndex.ofRoles (s.roles ++ [_])).contains name' = (_ || name == name')
    rw [RoleIndex.contains_ofRoles, List.any_append, List.any_cons, List.any_nil, Bool.or_false,
      ← RoleIndex.contains_ofRoles]
    rfl
  | permission | group | assignment | member => exact (Bool.or_false _).symm

theorem isMet_permission_write (s : Store) (id space name : String) (g : Goal) :
    g.isMet (s.write (permission id space name).request) =
      (g.isMet s || permission id space name == g) := by
  cases g with
  | permission id' space' name' =>
    change ((s.permissions.push id _).get id').any _ = (_ || (id == id' && _))
    rw [ListsById.get_push]
    by_cases h : id' = id
    · subst h
      simp [isMet, PermissionRequest.forRole]
    · simp [h, Ne.symm h, isMet]
  | role | group | assignment | member => exact (Bool.or_false _).symm

theorem isMet_group_write (s : Store) (name : String) (g : Goal) (hg : g.Possible s) :
    g.isMet (s.write (group name).request) = (g.isMet s || group name == g) := by
  cases g with
  | group name' =>
    change ((Group.named? name' (s.groups ++ [_])).map _).isSome =
      (((Group.named? name' s.groups).map _).isSome || name == name')
    rw [Option.isSome_map, Option.isSome_map, Group.named?, List.isSome_find?, List.any_append,
      ← List.isSome_find?]
    simp [Group.named?, NewGroup.generated]
  | member id user =>
    obtain ⟨g, hfind⟩ := Store.mem_groupIds_iff.1 hg
    change ((s.groups ++ [(_ : Group)]).find? (·.id == id)).any _ = (_ || false)
    rw [List.find?_append, hfind, Bool.or_false, isMet, hfind]
    rfl
  | role | permission | assignment => exact (Bool.or_false _).symm

theorem isMet_assignment_write (s : Store) (id roleId : String) (scope : Scope) (g : Goal) :
    g.isMet (s.write (assignment id roleId scope).request) =
      (g.isMet s || assignment id roleId scope == g) := by
  cases g with
  | assignment id' roleId' scope' =>
    change ((s.assignments.push id _).get id').any _ = (_ || (id == id' && _))
    rw [ListsById.get_push]
    by_cases h : id' = id
    · subst h
      simp [isMet, Assignment.gives, AssignmentRequest.forGroup, AssignmentRequest.granted, covers_name]
    · simp [h, Ne.symm h, isMet]
  | role | permission | group | member => exact (Bool.or_false _).symm

theorem isMet_member_write (s : Store) (id user : String) (hid : (member id user).Possible s)
    (g : Goal) :
    g.isMet (s.write (member id user).request) = (g.isMet s || member id user == g) := by
  cases g with
  | group name =>
    exact (congrArg Option.isSome (s.groupId?_alterGroup name id _)).trans (Bool.or_false _).symm
  | member id' user' =>
    change ((Store.alterGroup id _ s.groups).find? (·.id == id')).any _ =
      (_ || (id == id' && user' == user))
    rw [Store.find?_alterGroup]
    by_cases h : id = id'
    · subst h
      obtain ⟨g, hfind⟩ := Store.mem_groupIds_iff.1 hid
      rw [hfind, isMet, hfind]
      simp [beq_eq_decide]
    · simp [isMet, h]
  | role | permission | assignment => exact (Bool.or_false _).symm

/-- A write meets its own goal and no other. -/
theorem isMet_write {s : Store} {g g' : Goal} (hg : g.Possible s) (hg' : g'.Possible s) :
    g'.isMet (s.write g.request) = (g'.isMet s || g == g') := by
  cases g with
  | role name => exact isMet_role_write s name g'
  | permission id space name => exact isMet_permission_write s id space name g'
  | group name => exact isMet_group_write s name g' hg'
  | assignment id roleId scope => exact isMet_assignment_write s id roleId scope g'
  | member id user => exact isMet_member_write s id user hg g'

theorem possible_write {s : Store} {g : Goal} (hg : g.Possible s) (c : Call) :
    g.Possible (s.write c) := by
  cases g with
  | role | permission | group | assignment => trivial
  | member id user => exact (Store.groupIds_write s c).subset hg

theorem isMet_of_isMet {s : Store} {g : Goal} (h : g.isMet s = true) (g' : Goal) :
    g.isMet (s.write g'.request) = true := by
  have hg : g.Possible s := by
    cases g with
    | role | permission | group | assignment => trivial
    | member id user =>
      obtain ⟨g, hfind, -⟩ := (Option.any_eq_true _ _).1 h
      exact Store.mem_groupIds_iff.2 ⟨g, hfind⟩
  by_cases hg' : g'.Possible s
  · rw [isMet_write hg' hg, h, Bool.true_or]
  · cases g' with
    | role | permission | group | assignment => exact absurd trivial hg'
    | member id user =>
      have hskip : s.write (member id user).request = s := by
        change { s with groups := Store.alterGroup id _ s.groups } = s
        rw [Store.alterGroup_of_notMem hg']
      rw [hskip, h]

/-- The writes of the goals that a store does not meet. -/
def unmet (s : Store) (goals : List Goal) : List Call :=
  (goals.filter fun g => !g.isMet s).map request

theorem unmet_eq_nil {s : Store} {goals : List Goal} :
    unmet s goals = [] ↔ ∀ g ∈ goals, g.isMet s = true := by
  rw [unmet, List.map_eq_nil_iff, List.filter_eq_nil_iff]
  simp

def roles (desired : List DeclaredRole) : List Goal := (firsts (desired.map (·.name))).map .role

def permissions (role : DeclaredRole) (roleId : String) : List Goal :=
  role.permissions.flatMap fun e => (firsts e.2).map (.permission roleId e.1)

def assignments (groupId : String) (resolved : List Reconcile.Resolved) : List Goal :=
  resolved.map fun r => .assignment groupId r.roleId r.binding.scope

def members (groupId : String) (desired : List String) : List Goal :=
  (firsts desired).map (.member groupId)

theorem possible_roles (s : Store) (desired : List DeclaredRole) :
    ∀ g ∈ roles desired, g.Possible s := by
  intro g hg
  obtain ⟨name, -, rfl⟩ := List.mem_map.1 hg
  trivial

theorem exists_of_mem_permissions {role : DeclaredRole} {roleId : String} {g : Goal}
    (h : g ∈ permissions role roleId) :
    ∃ e ∈ role.permissions, ∃ name ∈ e.2, g = permission roleId e.1 name := by
  obtain ⟨e, he, hg⟩ := List.mem_flatMap.1 h
  obtain ⟨name, hname, rfl⟩ := List.mem_map.1 hg
  exact ⟨e, he, name, mem_of_mem_firsts hname, rfl⟩

theorem possible_permissions (s : Store) (role : DeclaredRole) (roleId : String) :
    ∀ g ∈ permissions role roleId, g.Possible s := by
  intro g hg
  obtain ⟨e, -, name, -, rfl⟩ := exists_of_mem_permissions hg
  trivial

theorem possible_assignments (s : Store) (groupId : String) (resolved : List Reconcile.Resolved) :
    ∀ g ∈ assignments groupId resolved, g.Possible s := by
  intro g hg
  obtain ⟨r, -, rfl⟩ := List.mem_map.1 hg
  trivial

theorem possible_members {s : Store} {groupId : String} (h : groupId ∈ s.groups.map (·.id))
    (desired : List String) : ∀ g ∈ members groupId desired, g.Possible s := by
  intro g hg
  obtain ⟨user, -, rfl⟩ := List.mem_map.1 hg
  exact h

theorem unmet_map {α : Type} (s : Store) (goal : α → Goal) (as : List α) :
    unmet s (as.map goal) = (as.filter fun a => !(goal a).isMet s).map fun a => (goal a).request := by
  rw [unmet, List.filter_map, List.map_map]
  rfl

theorem missing_roles (s : Store) (desired : List DeclaredRole) :
    Missing.roles desired (.ofRoles s.roles) = unmet s (roles desired) := by
  rw [roles, unmet_map, Missing.roles, differences, without]
  simp only [RoleIndex.any_roles (RoleIndex.valid_ofRoles s.roles)]
  rfl

theorem missing_permissions (s : Store) (role : DeclaredRole) (roleId : String) :
    Missing.permissions role roleId (s.permissions.get roleId) = unmet s (permissions role roleId) := by
  have hspace (e : String × List String) :
      Missing.space roleId e.1 e.2 (Permission.namesIn e.1 (s.permissions.get roleId)) =
        unmet s ((firsts e.2).map (.permission roleId e.1)) := by
    rw [unmet_map, Missing.space, differences, without]
    congr 1
    refine List.filter_congr fun name _ => ?_
    rw [Permission.namesIn, List.any_map, List.any_filter, isMet]
    exact congrArg (!·) (List.any_congr rfl fun p => congrArg (_ && ·) Bool.beq_comm)
  rw [Missing.permissions, permissions, unmet, List.filter_flatMap, List.map_flatMap]
  simp only [hspace]
  rfl

theorem missing_group (s : Store) (name : String) :
    Missing.group name s.groups = unmet s [.group name] := by
  rw [Missing.group, unmet]
  cases h : Group.named? name s.groups with
  | none => simp [isMet, Store.groupId?, h, request]
  | some g => simp [isMet, Store.groupId?, h]

theorem missing_assignments (s : Store) (groupId : String) (resolved : List Reconcile.Resolved) :
    Missing.assignments groupId (s.assignments.get groupId) resolved =
      unmet s (assignments groupId resolved) := by
  rw [assignments, unmet_map]
  rfl

theorem missing_members {s : Store} {group : Group}
    (h : s.groups.find? (·.id == group.id) = some group) (desired : List String) :
    Missing.members group desired = unmet s (members group.id desired) := by
  rw [members, unmet_map, Missing.members, differences, without]
  simp only [isMet, h, List.contains_eq_any_beq]
  rfl

def Requests (calls : List Call) : Prop := ∀ c ∈ calls, ∃ g : Goal, c = g.request

theorem isWrite_request (g : Goal) : g.request.isWrite = true := by
  cases g <;> rfl

theorem Requests.writeAll {P : Store → Prop} (h : ∀ s (g : Goal), P s → P (s.write g.request))
    {calls : List Call} (hcalls : Requests calls) {s : Store} (hs : P s) : P (s.writeAll calls) := by
  induction calls generalizing s with
  | nil => exact hs
  | cons c calls ih =>
    obtain ⟨⟨g, rfl⟩, hrest⟩ := List.forall_mem_cons.1 hcalls
    exact ih hrest (h s g hs)

theorem requests_map {α : Type} (goal : α → Goal) (as : List α) :
    Requests (as.map fun a => (goal a).request) := by
  intro c hc
  obtain ⟨a, -, rfl⟩ := List.mem_map.1 hc
  exact ⟨goal a, rfl⟩

theorem requests_roles (desired : List DeclaredRole) (observed : RoleIndex) :
    Requests (Missing.roles desired observed) := requests_map role _

theorem requests_permissions (role : DeclaredRole) (roleId : String) (held : List Permission) :
    Requests (Missing.permissions role roleId held) := by
  intro c hc
  obtain ⟨e, -, hc⟩ := List.mem_flatMap.1 hc
  exact requests_map (permission roleId e.1) _ c hc

theorem requests_group (name : String) (known : List Group) : Requests (Missing.group name known) := by
  unfold Missing.group
  split
  · exact requests_map group [name]
  · exact requests_map group []

theorem requests_assignments (groupId : String) (assigned : List Assignment)
    (resolved : List Reconcile.Resolved) :
    Requests (Missing.assignments groupId assigned resolved) :=
  requests_map (fun r : Reconcile.Resolved => assignment groupId r.roleId r.binding.scope) _

theorem requests_members (group : Group) (desired : List String) :
    Requests (Missing.members group desired) := requests_map (member group.id) _

theorem roles_pairwise (desired : List DeclaredRole) :
    (roles desired).Pairwise fun g g' => (g == g') = false :=
  List.pairwise_map.2 (firsts_pairwise _)

theorem permissions_pairwise {role : DeclaredRole} (h : (role.permissions.map (·.1)).Nodup)
    (roleId : String) : (permissions role roleId).Pairwise fun g g' => (g == g') = false := by
  refine List.pairwise_flatMap.2 ⟨fun e _ => ?_, ?_⟩
  · refine List.pairwise_map.2 ((firsts_pairwise e.2).imp fun {name name'} hne => ?_)
    change (roleId == roleId && (e.1 == e.1 && name == name')) = false
    rw [hne, Bool.and_false, Bool.and_false]
  · refine (List.pairwise_map.1 h).imp fun {e e'} hne g hg g' hg' => ?_
    obtain ⟨name, -, rfl⟩ := List.mem_map.1 hg
    obtain ⟨name', -, rfl⟩ := List.mem_map.1 hg'
    change (roleId == roleId && (e.1 == e'.1 && name == name')) = false
    rw [beq_eq_false_iff_ne.2 hne, Bool.false_and, Bool.and_false]

theorem assignments_pairwise {index : RoleIndex} (hindex : index.Separates) {bindings : List Binding}
    {resolved : List Reconcile.Resolved}
    (hresolve : Reconcile.resolve index (firsts bindings) = .ok resolved) (groupId : String) :
    (assignments groupId resolved).Pairwise fun g g' => (g == g') = false := by
  obtain ⟨hbindings, hids⟩ := Reconcile.resolve_eq_ok hresolve
  have hdistinct := firsts_pairwise bindings
  rw [← hbindings] at hdistinct
  refine List.pairwise_map.2 ((List.pairwise_map.1 hdistinct).imp_of_mem fun {r r'} hr hr' hne => ?_)
  refine Bool.eq_false_iff.2 fun hsame => ?_
  obtain ⟨-, hsame⟩ := (Bool.and_eq_true ..).mp hsame
  obtain ⟨hid, hscope⟩ := (Bool.and_eq_true ..).mp hsame
  have hroleId : r.roleId = r'.roleId := beq_iff_eq.1 hid
  have hid' : index.idOf? r'.binding.role = some r.roleId := hroleId ▸ hids r' hr'
  have hkey : r.binding.role.key = r'.binding.role.key := hindex _ _ _ (hids r hr) hid'
  have hbinding : (r.binding == r'.binding) = true :=
    (Binding.beq_iff _ _).2 ⟨hkey, (beq_iff_eq.1 hscope).symm⟩
  exact Bool.eq_false_iff.1 hne hbinding

theorem members_pairwise (groupId : String) (desired : List String) :
    (members groupId desired).Pairwise fun g g' => (g == g') = false := by
  refine List.pairwise_map.2 ((firsts_pairwise desired).imp fun {user user'} hne => ?_)
  change (groupId == groupId && user' == user) = false
  rw [beq_eq_false_iff_ne.2 (Ne.symm (beq_eq_false_iff_ne.1 hne)), Bool.and_false]

theorem request_injective : Function.Injective request := by
  intro g g' h
  cases g with
  | role name =>
    cases g' with
    | role name' =>
      have htext : name.text = name'.text := congrArg NewRole.name (Call.createRole.inj h)
      exact congrArg (fun text => role ⟨text⟩) htext
    | permission | group | assignment | member => cases h
  | permission | group | assignment | member =>
    cases g' <;> cases h
    rfl

theorem requests_nodup {goals : List Goal} (h : goals.Pairwise fun g g' => (g == g') = false) :
    (goals.map request).Nodup := by
  refine List.pairwise_map.2 (h.imp fun {g g'} hne hsame => ?_)
  rw [request_injective hsame, BEq.rfl] at hne
  cases hne

/-- Behind the first write of what is not met, the rest is what is not met. -/
theorem unmet_write {s : Store} {goals : List Goal} {c : Call} {cs : List Call}
    (hdistinct : goals.Pairwise fun g g' => (g == g') = false) (hp : ∀ g ∈ goals, g.Possible s)
    (h : unmet s goals = c :: cs) :
    ∃ g ∈ goals, g.isMet s = false ∧ c = g.request ∧ unmet (s.write c) goals = cs := by
  induction goals with
  | nil => cases h
  | cons g goals ih =>
    obtain ⟨hhead, htail⟩ := List.pairwise_cons.1 hdistinct
    have hp' (g' : Goal) (hg' : g' ∈ goals) : g'.Possible s := hp g' (List.mem_cons_of_mem _ hg')
    cases hmet : g.isMet s with
    | true =>
      have hskip {t : Store} (ht : g.isMet t = true) : unmet t (g :: goals) = unmet t goals := by
        simp [unmet, ht]
      rw [hskip hmet] at h
      obtain ⟨g', hg', hmet', rfl, hrest⟩ := ih htail hp' h
      exact ⟨g', List.mem_cons_of_mem _ hg', hmet', rfl,
        (hskip (isMet_of_isMet hmet g')).trans hrest⟩
    | false =>
      have hcons : unmet s (g :: goals) = g.request :: unmet s goals := by simp [unmet, hmet]
      rw [hcons] at h
      obtain ⟨rfl, rfl⟩ := List.cons.inj h
      refine ⟨g, List.mem_cons_self, hmet, rfl, ?_⟩
      have hg : g.Possible s := hp g List.mem_cons_self
      have hdone : g.isMet (s.write g.request) = true := by
        rw [isMet_write hg hg, BEq.rfl, Bool.or_true]
      rw [unmet, List.filter_cons_of_neg (by simp [hdone]), unmet]
      refine congrArg _ (List.filter_congr fun g' hg' => ?_)
      rw [isMet_write hg (hp' g' hg'), hhead g' hg', Bool.or_false]

theorem isMet_writeAll {s : Store} {g : Goal} {goals : List Goal}
    (h : g.isMet s = true ∨ g ∈ goals ∧ g.Possible s) :
    g.isMet (s.writeAll (goals.map request)) = true := by
  induction goals generalizing s with
  | nil => exact h.resolve_right fun h => by simp at h
  | cons g' goals ih =>
    refine ih ?_
    obtain h | ⟨hg, hp⟩ := h
    · exact .inl (isMet_of_isMet h g')
    · obtain rfl | hg := List.mem_cons.1 hg
      · exact .inl (by rw [isMet_write hp hp, BEq.rfl, Bool.or_true])
      · exact .inr ⟨hg, possible_write hp _⟩

/-- The writes of what is not met leave nothing that is not. -/
theorem isMet_of_unmet {s : Store} {goals : List Goal} (hp : ∀ g ∈ goals, g.Possible s) {g : Goal}
    (hg : g ∈ goals) : g.isMet (s.writeAll (unmet s goals)) = true := by
  refine isMet_writeAll ?_
  cases hmet : g.isMet s with
  | true => exact .inl rfl
  | false => exact .inr ⟨List.mem_filter.2 ⟨hg, by simp [hmet]⟩, hp g hg⟩

end Goal

end AccessBaseline
