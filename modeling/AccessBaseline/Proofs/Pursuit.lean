import AccessBaseline.Proofs.Stage

/-! What the stages of a run have in common. Each looks something up in the store, where it stays, and
makes the writes of the goals that belong to it and are not met. Members are added by the id of the
group, so their stage does this only where no other group has it. -/
namespace AccessBaseline
open Memory (Store)

namespace Memory.Store
variable {s t : Store} {name : String} {group : Group}

/-- Whether a group of a name, if there is one, shares its id with no other group. -/
def Sole (s : Store) (name : String) : Prop :=
  ∀ id ∈ s.groupId? name, (s.groups.map (·.id)).count id = 1

instance (s : Store) (name : String) : Decidable (s.Sole name) :=
  inferInstanceAs (Decidable (∀ id ∈ s.groupId? name, (s.groups.map (·.id)).count id = 1))

theorem Sole.find? (h : s.Sole name) (hgroup : Group.named? name s.groups = some group) :
    s.groups.find? (·.id == group.id) = some group := by
  have hcount : (s.groups.map (·.id)).count group.id = 1 := h _ (congrArg (Option.map Group.id) hgroup)
  rw [List.count_eq_countP, List.countP_map, List.countP_eq_length_filter] at hcount
  obtain ⟨g, hg⟩ := List.length_eq_one_iff.1 hcount
  have hmem : group ∈ s.groups.filter ((· == group.id) ∘ (·.id)) :=
    List.mem_filter.2 ⟨List.mem_of_find?_eq_some hgroup, BEq.rfl⟩
  rw [hg, List.mem_singleton] at hmem
  rw [← List.head?_filter, hmem]
  rw [hmem] at hg
  exact congrArg List.head? hg

theorem Sole.of_names (h : s.Sole name)
    (hnames : t.groups.map (fun g => (g.id, g.name)) = s.groups.map fun g => (g.id, g.name)) :
    t.Sole name := by
  intro id hid
  rw [groupId?_eq, hnames, ← groupId?_eq] at hid
  rw [ids_of_names hnames]
  exact h id hid

end Memory.Store

/-- What a stage looks up, the goals that belong to it, and what is flagged beside them. -/
structure Pursuit where
  Key : Type
  found : Store → Key → Prop
  goals : Key → List Goal
  surplus : Store → Key → List Anomaly
  stays {s : Store} {key : Key} (h : found s key) (g : Goal) : found (s.write g.request) key
  possible {s : Store} {key : Key} (h : found s key) : ∀ g ∈ goals key, g.Possible s

/-- Whether a stage keeps to a pursuit in a store, and fails where nothing is found. -/
def Stage.Follows (f : Stage) (p : Pursuit) (s : Store) : Prop :=
  ∀ out, f s = .ok out ↔
    ∃ key, p.found s key ∧ out = (Goal.unmet s (p.goals key), p.surplus s key)

namespace Pursuit

def roles (config : Config) : Pursuit where
  Key := Unit
  found _ _ := True
  goals _ := Goal.roles config.roles
  surplus s _ := Surplus.roles config.roles (.ofRoles s.roles)
  stays h _ := h
  possible _ := Goal.possible_roles _ _

def permissions (role : DeclaredRole) : Pursuit where
  Key := String
  found s id := s.roleId? role.name = some id
  goals := Goal.permissions role
  surplus s id := Surplus.permissions role (s.permissions.get id)
  stays {s _} h g := s.roleId?_write h g
  possible _ := Goal.possible_permissions _ _ _

def group (config : Config) : Pursuit where
  Key := Unit
  found _ _ := True
  goals _ := [.group config.groupName]
  surplus _ _ := []
  stays h _ := h
  possible _ _ hg := (List.mem_singleton.1 hg) ▸ trivial

theorem resolve_write {s : Store} {bindings : List Binding} {resolved : List Reconcile.Resolved}
    (h : Reconcile.resolve (.ofRoles s.roles) bindings = .ok resolved) (g : Goal) :
    Reconcile.resolve (.ofRoles (s.write g.request).roles) bindings = .ok resolved := by
  induction bindings generalizing resolved with
  | nil => exact h
  | cons b bindings ih =>
    rw [Reconcile.resolve_cons] at h ⊢
    split at h
    · cases h
    · next id hid =>
      have hid' : (s.write g.request).roleId? b.role = some id :=
        s.roleId?_write (RoleIndex.requireId_eq_ok.1 hid) g
      cases hrest : Reconcile.resolve (.ofRoles s.roles) bindings with
      | error e =>
        rw [hrest] at h
        cases h
      | ok rest => rw [RoleIndex.requireId_eq_ok.2 hid', ih hrest, ← h, hrest]

def assignments (config : Config) : Pursuit where
  Key := String × List Reconcile.Resolved
  found s key := s.groupId? config.groupName = some key.1 ∧
    Reconcile.resolve (.ofRoles s.roles) (firsts config.bindings) = .ok key.2
  goals key := Goal.assignments key.1 key.2
  surplus s key :=
    Surplus.assignments config.groupName (.ofRoles s.roles) (s.assignments.get key.1) key.2
  stays {s _} h g := ⟨s.groupId?_write h.1 g, resolve_write h.2 g⟩
  possible _ := Goal.possible_assignments _ _ _

def members (config : Config) : Pursuit where
  Key := String
  found s id := s.groupId? config.groupName = some id
  goals id := Goal.members id config.members
  surplus s _ := (Group.named? config.groupName s.groups).elim [] (Surplus.members · config.members)
  stays {s _} h g := s.groupId?_write h g
  possible {s id} h := by
    obtain ⟨group, hgroup, rfl⟩ := Option.map_eq_some_iff.1 h
    exact Goal.possible_members (List.mem_map_of_mem (List.mem_of_find?_eq_some hgroup)) _

theorem surplus_members {config : Config} {s : Store} {g : Group}
    (h : Group.named? config.groupName s.groups = some g) (id : String) :
    (members config).surplus s id = Surplus.members g config.members := by
  change (Group.named? config.groupName s.groups).elim _ _ = _
  rw [h]
  rfl

end Pursuit

namespace Stage
variable {config : Config} {f : Stage} {p : Pursuit} {s : Store}

theorem follows_roles (config : Config) (s : Store) : (roles config).Follows (.roles config) s := by
  intro out
  change Except.ok (Missing.roles config.roles (.ofRoles s.roles), _) = .ok out ↔ _
  rw [Goal.missing_roles]
  constructor
  · intro h
    exact ⟨(), trivial, (Except.ok.inj h).symm⟩
  · intro h
    obtain ⟨-, -, rfl⟩ := h
    rfl

theorem follows_permissions (role : DeclaredRole) (s : Store) :
    (permissions role).Follows (.permissions role) s := by
  intro out
  rw [permissions_eq_ok]
  refine exists_congr fun id => and_congr_right fun _ => ?_
  rw [Goal.missing_permissions]
  rfl

theorem follows_group (config : Config) (s : Store) : (group config).Follows (.group config) s := by
  intro out
  change Except.ok (Missing.group config.groupName s.groups, _) = .ok out ↔ _
  rw [Goal.missing_group]
  constructor
  · intro h
    exact ⟨(), trivial, (Except.ok.inj h).symm⟩
  · intro h
    obtain ⟨-, -, rfl⟩ := h
    rfl

theorem follows_assignments (config : Config) (s : Store) :
    (assignments config).Follows (.assignments config) s := by
  intro out
  rw [assignments_eq_ok]
  constructor
  · intro h
    obtain ⟨id, resolved, hid, hresolve, rfl⟩ := h
    exact ⟨(id, resolved), ⟨hid, hresolve⟩, by rw [Goal.missing_assignments]; rfl⟩
  · intro h
    obtain ⟨⟨id, resolved⟩, ⟨hid, hresolve⟩, rfl⟩ := h
    exact ⟨id, resolved, hid, hresolve, by rw [Goal.missing_assignments]; rfl⟩

theorem follows_members (h : s.Sole config.groupName) :
    (members config).Follows (.members config) s := by
  intro out
  rw [members_eq_ok]
  constructor
  · intro h
    obtain ⟨group, hgroup, rfl⟩ := h
    refine ⟨group.id, congrArg (Option.map Group.id) hgroup, ?_⟩
    rw [Goal.missing_members (h.find? hgroup), Pursuit.surplus_members hgroup]
    rfl
  · intro h
    obtain ⟨id, hid, rfl⟩ := h
    obtain ⟨group, hgroup, rfl⟩ := Option.map_eq_some_iff.1 hid
    refine ⟨group, hgroup, ?_⟩
    rw [Goal.missing_members (h.find? hgroup), Pursuit.surplus_members hgroup]
    rfl

theorem Follows.mem (h : f.Follows p s) {calls : List Call} {as : List Anomaly}
    (hok : f s = .ok (calls, as)) {c : Call} (hc : c ∈ calls) :
    ∃ key, p.found s key ∧ ∃ g ∈ p.goals key, c = g.request := by
  obtain ⟨key, hkey, hout⟩ := (h _).1 hok
  obtain ⟨rfl, -⟩ := Prod.mk.inj hout
  obtain ⟨g, hg, rfl⟩ := List.mem_map.1 hc
  exact ⟨key, hkey, g, List.mem_of_mem_filter hg, rfl⟩

theorem Follows.requests (h : f.Follows p s) {calls : List Call} {as : List Anomaly}
    (hok : f s = .ok (calls, as)) : Goal.Requests calls := by
  intro c hc
  obtain ⟨key, -, g, -, hg⟩ := h.mem hok hc
  exact ⟨g, hg⟩

end Stage

end AccessBaseline
