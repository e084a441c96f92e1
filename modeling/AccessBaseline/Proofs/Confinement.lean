import AccessBaseline.Proofs.Baseline
import AccessBaseline.Proofs.Config
import AccessBaseline.Proofs.Goal
import AccessBaseline.Proofs.Ownership
import Mathlib.Logic.Relation

/-! What runs can change in the memory service, whatever fails and is lost. A baseline run only adds:
step by step it writes what is declared and not there, and no step reaches what the configuration does
not manage. A run for the owners of capabilities leaves the store as it is. -/
namespace AccessBaseline
open Memory (Store)

namespace Goal

/-- Whether a configuration asks for it. Ids are those that the store has for the declared names. -/
def Declared (config : Config) (s : Store) : Goal → Prop
  | role name => ∃ role ∈ config.roles, role.name = name
  | permission id space name => ∃ role ∈ config.roles, s.roleId? role.name = some id ∧
      ∃ names, (space, names) ∈ role.permissions ∧ name ∈ names
  | group name => name = config.groupName
  | assignment id _ _ => s.groupId? config.groupName = some id
  | member id user => s.groupId? config.groupName = some id ∧ user ∈ config.members

def isSingle : Goal → Bool
  | role _ | permission _ _ _ | group _ => true
  | assignment _ _ _ | member _ _ => false

def Due (config : Config) (s : Store) (g : Goal) : Prop :=
  g.Declared config s ∧ (g.isSingle = true → g.isMet s = false)

end Goal

theorem Goal.Declared.write {config : Config} {s : Store} {g : Goal} (h : g.Declared config s)
    (g' : Goal) : g.Declared config (s.write g'.request) := by
  cases g with
  | role name => exact h
  | permission id space name =>
    obtain ⟨role, hrole, hid, hdeclared⟩ := h
    exact ⟨role, hrole, s.roleId?_write hid g', hdeclared⟩
  | group name => exact h
  | assignment id roleId scope => exact s.groupId?_write h g'
  | member id user => exact ⟨s.groupId?_write h.1 g', h.2⟩

/-- A group, and what became of it: it can gain members if its id is that of the managed group. -/
structure Group.Grown (config : Config) (managed? : Option String) (g g' : Group) : Prop where
  id_eq : g'.id = g.id
  name_eq : g'.name = g.name
  members : ∃ added, g'.members = g.members ++ added ∧ (∀ user ∈ added, user ∈ config.members) ∧
    (added ≠ [] → managed? = some g.id)

namespace Confined

/-- Roles are added for declared names that none had, each once. -/
def Roles (config : Config) (s t : Store) : Prop :=
  ∃ added, t.roles = s.roles ++ added ∧
    (∀ r ∈ added, (∃ role ∈ config.roles, role.name = r.roleName) ∧
      ∀ old ∈ s.roles, old.roleName.key ≠ r.roleName.key) ∧
    (added.map (·.roleName.key)).Nodup

/-- Permissions are added where a declared role has the id, is to have them and had them not, each
once. -/
def Permissions (config : Config) (s t : Store) : Prop :=
  ∀ id, ∃ added, t.permissions.get id = s.permissions.get id ++ added ∧
    (∀ p ∈ added,
      (∃ role ∈ config.roles, t.roleId? role.name = some id ∧
        ∃ names, (p.space, names) ∈ role.permissions ∧ p.name ∈ names) ∧
      ∀ old ∈ s.permissions.get id, (old.space, old.name) ≠ (p.space, p.name)) ∧
    (added.map fun p => (p.space, p.name)).Nodup

/-- At most the managed group is added, and declared members to the group that has its id. -/
def Groups (config : Config) (s t : Store) : Prop :=
  ∃ created : List Group, created.length ≤ 1 ∧
    (∀ g ∈ created, g.name = config.groupName ∧ g.members = []) ∧
    List.Forall₂ (Group.Grown config (t.groupId? config.groupName)) (s.groups ++ created) t.groups

def Assignments (config : Config) (s t : Store) : Prop :=
  ∀ id, ∃ added, t.assignments.get id = s.assignments.get id ++ added ∧
    (added ≠ [] → t.groupId? config.groupName = some id)

end Confined

structure Confined (config : Config) (s t : Store) : Prop where
  roles : Confined.Roles config s t
  permissions : Confined.Permissions config s t
  groups : Confined.Groups config s t
  assignments : Confined.Assignments config s t
  capabilities : t.capabilities = s.capabilities
  members : t.members = s.members

namespace Confined
variable {config : Config} {s t : Store}

theorem refl (config : Config) (s : Store) : Confined config s s where
  roles := ⟨[], by simp⟩
  permissions _ := ⟨[], by simp⟩
  groups := by
    refine ⟨[], by simp, by simp, ?_⟩
    rw [List.append_nil]
    exact List.forall₂_same.2 fun g _ => ⟨rfl, rfl, [], by simp⟩
  assignments _ := ⟨[], by simp⟩
  capabilities := rfl
  members := rfl

theorem Roles.write (h : Roles config s t) {g : Goal} (hg : g.Due config t) :
    Roles config s (t.write g.request) := by
  cases g with
  | role name =>
    obtain ⟨added, hroles, hadded, hnodup⟩ := h
    have hnew : t.roles.any (·.roleName == name) = false := by
      rw [← RoleIndex.contains_ofRoles]
      exact hg.2 rfl
    have hkey (r : Role) (hr : r ∈ t.roles) : r.roleName.key ≠ name.key := fun hk =>
      List.any_eq_false.1 hnew r hr ((RoleName.beq_iff _ _).2 hk)
    rw [hroles] at hkey
    let role : Role := ⟨"role-" ++ toString (t.created + 1), name.text, Scope.global.name⟩
    refine ⟨added ++ [role], ?_, ?_, ?_⟩
    · change t.roles ++ [role] = _
      rw [hroles, List.append_assoc]
    · intro r hr
      rcases List.mem_append.1 hr with hr | hr
      · exact hadded r hr
      · obtain rfl := List.mem_singleton.1 hr
        exact ⟨hg.1, fun old hold => hkey old (List.mem_append_left _ hold)⟩
    · rw [List.map_append, List.map_singleton]
      refine List.concat_eq_append ▸ hnodup.concat fun hmem => ?_
      obtain ⟨r, hr, hk⟩ := List.mem_map.1 hmem
      exact hkey r (List.mem_append_right _ hr) hk
  | permission | group | assignment | member => exact h

theorem Permissions.write (h : Permissions config s t) {g : Goal} (hg : g.Due config t) :
    Permissions config s (t.write g.request) := by
  intro id
  obtain ⟨added, hget, hadded, hnodup⟩ := h id
  have hkept (p : Permission) (hp : p ∈ added) :
      (∃ role ∈ config.roles, (t.write g.request).roleId? role.name = some id ∧
        ∃ names, (p.space, names) ∈ role.permissions ∧ p.name ∈ names) ∧
      ∀ old ∈ s.permissions.get id, (old.space, old.name) ≠ (p.space, p.name) :=
    ⟨Goal.Declared.write (g := .permission id p.space p.name) (hadded p hp).1 g, (hadded p hp).2⟩
  cases g with
  | permission id' space name =>
    by_cases hid : id = id'
    · subst hid
      have hnew (p : Permission) (hp : p ∈ s.permissions.get id ++ added) :
          (p.space, p.name) ≠ (space, name) := by
        intro heq
        have hmet : (t.permissions.get id).any (fun p => p.space == space && p.name == name) = false :=
          hg.2 rfl
        rw [hget] at hmet
        exact List.any_eq_false.1 hmet p hp (by simpa using heq)
      let p : Permission := ⟨space, name, Scope.global.name, "*"⟩
      refine ⟨added ++ [p], ?_, ?_, ?_⟩
      · change (t.permissions.push id p).get id = _
        rw [ListsById.get_push, if_pos rfl, hget, List.append_assoc]
      · intro q hq
        rcases List.mem_append.1 hq with hq | hq
        · exact hkept q hq
        · obtain rfl := List.mem_singleton.1 hq
          exact ⟨hg.1, fun old hold => hnew old (List.mem_append_left _ hold)⟩
      · rw [List.map_append, List.map_singleton]
        refine List.concat_eq_append ▸ hnodup.concat fun hmem => ?_
        obtain ⟨q, hq, heq⟩ := List.mem_map.1 hmem
        exact hnew q (List.mem_append_right _ hq) heq
    · refine ⟨added, ?_, hkept, hnodup⟩
      change (t.permissions.push id' _).get id = _
      rw [ListsById.get_push, if_neg hid, hget]
  | role | group | assignment | member => exact ⟨added, hget, hkept, hnodup⟩

theorem grown_mono {managed? managed?' : Option String}
    (h : ∀ id, managed? = some id → managed?' = some id)
    {gs gs' : List Group} (hg : List.Forall₂ (Group.Grown config managed?) gs gs') :
    List.Forall₂ (Group.Grown config managed?') gs gs' :=
  hg.imp fun _ _ hg =>
    have ⟨added, hmembers, hdeclared, hid⟩ := hg.members
    ⟨hg.id_eq, hg.name_eq, added, hmembers, hdeclared, fun hne => h _ (hid hne)⟩

theorem grown_alterGroup {id user : String} (huser : user ∈ config.members) {gs gs' : List Group}
    (h : List.Forall₂ (Group.Grown config (some id)) gs gs') :
    List.Forall₂ (Group.Grown config (some id)) gs (Store.alterGroup id (· ++ [user]) gs') := by
  induction h with
  | nil => exact .nil
  | @cons g g' gs gs' hg hgs ih =>
    rw [Store.alterGroup]
    split
    · next hid =>
      obtain ⟨added, hmembers, hdeclared, -⟩ := hg.members
      refine .cons ⟨hg.id_eq, hg.name_eq, added ++ [user], ?_, ?_, fun _ => ?_⟩ hgs
      · change g'.members ++ [user] = _
        rw [hmembers, List.append_assoc]
      · exact List.forall_mem_append.2 ⟨hdeclared, List.forall_mem_singleton.2 huser⟩
      · rw [← hg.id_eq, beq_iff_eq.1 hid]
    · exact .cons hg ih

theorem grown_names {managed? : Option String} {gs gs' : List Group}
    (h : List.Forall₂ (Group.Grown config managed?) gs gs') : gs'.map (·.name) = gs.map (·.name) := by
  induction h with
  | nil => rfl
  | cons hg _ ih => rw [List.map_cons, List.map_cons, ih, hg.name_eq]

theorem Groups.write (h : Groups config s t) {g : Goal} (hg : g.Due config t) :
    Groups config s (t.write g.request) := by
  obtain ⟨created, hlength, hcreated, hgrown⟩ := h
  cases g with
  | group name =>
    obtain rfl : name = config.groupName := hg.1
    have hnone : t.groupId? config.groupName = none := Option.isNone_iff_eq_none.1 (by
      rw [← Option.not_isSome, show (t.groupId? config.groupName).isSome = false from hg.2 rfl]
      rfl)
    have hempty : created = [] := by
      refine List.eq_nil_iff_forall_not_mem.2 fun g hmem => ?_
      have hname : config.groupName ∈ t.groups.map (·.name) := by
        rw [grown_names hgrown, ← (hcreated g hmem).1]
        exact List.mem_map_of_mem (List.mem_append_right _ hmem)
      obtain ⟨g', hg', hname⟩ := List.mem_map.1 hname
      exact List.find?_eq_none.1 (Option.map_eq_none_iff.1 hnone) g' hg' (by simpa using hname)
    subst hempty
    let g : Group := ⟨"group-" ++ toString (t.created + 1), config.groupName, []⟩
    refine ⟨[g], le_rfl, List.forall_mem_singleton.2 ⟨rfl, rfl⟩, ?_⟩
    rw [List.append_nil] at hgrown
    refine List.rel_append ?_ (.cons ⟨rfl, rfl, [], rfl, by simp, by simp⟩ .nil)
    exact grown_mono (fun id hid => by rw [hnone] at hid; cases hid) hgrown
  | member id user =>
    refine ⟨created, hlength, hcreated, ?_⟩
    rw [t.groupId?_write hg.1.1]
    rw [hg.1.1] at hgrown
    exact grown_alterGroup hg.1.2 hgrown
  | role | permission | assignment => exact ⟨created, hlength, hcreated, hgrown⟩

theorem Assignments.write (h : Assignments config s t) {g : Goal} (hg : g.Due config t) :
    Assignments config s (t.write g.request) := by
  intro id
  obtain ⟨added, hget, hid⟩ := h id
  have hkept (hne : added ≠ []) : (t.write g.request).groupId? config.groupName = some id :=
    t.groupId?_write (hid hne) g
  cases g with
  | assignment id' roleId scope =>
    change ∃ added, (t.assignments.push id' _).get id = _ ∧ _
    rw [ListsById.get_push]
    split
    · next heq =>
      subst heq
      exact ⟨added ++ [_], by rw [hget, List.append_assoc], fun _ => hg.1⟩
    · exact ⟨added, hget, hid⟩
  | role | permission | group | member => exact ⟨added, hget, hkept⟩

theorem write (h : Confined config s t) {g : Goal} (hg : g.Due config t) :
    Confined config s (t.write g.request) where
  roles := h.roles.write hg
  permissions := h.permissions.write hg
  groups := h.groups.write hg
  assignments := h.assignments.write hg
  capabilities := by cases g <;> exact h.capabilities
  members := by cases g <;> exact h.members

end Confined

def Adds (config : Config) (s t : Store) : Prop :=
  ∃ g : Goal, g.Due config s ∧ t = s.write g.request

section Adds
open Relation Reconcile Baseline
variable {config : Config} {s t : Store}

theorem confined_of_adds (h : ReflTransGen (Adds config) s t) : Confined config s t := by
  induction h with
  | refl => exact Confined.refl config s
  | tail _ hstep ih =>
    obtain ⟨g, hg, rfl⟩ := hstep
    exact ih.write hg

theorem holds_of_adds {P : Store → Prop} (hwrite : ∀ s (g : Goal), P s → P (s.write g.request))
    (h : ReflTransGen (Adds config) s t) (hs : P s) : P t := by
  induction h with
  | refl => exact hs
  | @tail m t _ hstep ih =>
    obtain ⟨g, -, rfl⟩ := hstep
    exact hwrite m g ih

theorem Goal.Declared.possible {g : Goal} (h : g.Declared config s) : g.Possible s := by
  cases g with
  | role | permission | group | assignment => trivial
  | member id user =>
    obtain ⟨group, hgroup, rfl⟩ := Option.map_eq_some_iff.1 h.1
    exact List.mem_map_of_mem (List.mem_of_find?_eq_some hgroup)

theorem Goal.Due.write {g g' : Goal} (hg : g.Due config s) (hg' : g'.Due config s)
    (hne : g'.isSingle = true → (g == g') = false) : g'.Due config (s.write g.request) := by
  refine ⟨hg'.1.write g, fun hsingle => ?_⟩
  rw [isMet_write hg.1.possible hg'.1.possible, hg'.2 hsingle, hne hsingle, Bool.or_false]

theorem adds_of_writes {goals : List Goal}
    (hdistinct : goals.Pairwise fun g g' => g'.isSingle = true → (g == g') = false)
    (hdue : ∀ g ∈ goals, g.Due config s) (h : Writes Memory.lossy (goals.map Goal.request) s t) :
    ReflTransGen (Adds config) s t := by
  induction goals generalizing s with
  | nil =>
    obtain rfl := h
    exact .refl
  | cons g goals ih =>
    obtain ⟨v, m, ⟨-, hm⟩, hrest⟩ := h
    obtain ⟨hhead, htail⟩ := List.pairwise_cons.1 hdistinct
    have hg : g.Due config s := hdue g List.mem_cons_self
    have hgoals (g' : Goal) (hg' : g' ∈ goals) : g'.Due config s :=
      hdue g' (List.mem_cons_of_mem _ hg')
    rcases hm with rfl | rfl
    · exact ih htail hgoals hrest
    · refine .head ⟨g, hg, rfl⟩ (ih htail (fun g' hg' => ?_) hrest)
      exact hg.write (hgoals g' hg') (hhead g' hg')

theorem adds_of_unmet {goals : List Goal}
    (hdistinct : goals.Pairwise fun g g' => (g == g') = false)
    (hdeclared : ∀ g ∈ goals, g.Declared config s) (h : Writes Memory.lossy (Goal.unmet s goals) s t) :
    ReflTransGen (Adds config) s t := by
  refine adds_of_writes (List.Pairwise.imp ?_ (hdistinct.filter _)) (fun g hg => ?_) h
  · exact fun hne _ => hne
  obtain ⟨hg, hmet⟩ := List.mem_filter.1 hg
  exact ⟨hdeclared g hg, fun _ => by simpa using hmet⟩

theorem adds_of_permissionPass (haccepted : config.Accepted) {index : RoleIndex}
    {roles : List DeclaredRole} (hroles : roles ⊆ config.roles)
    (hindex : ∀ name id, index.idOf? name = some id → s.roleId? name = some id)
    {rep rep' : Report} {res : Except Failure Unit}
    (h : PermissionPass Memory.lossy index roles s rep res rep' t) :
    ReflTransGen (Adds config) s t := by
  induction roles generalizing s rep with
  | nil =>
    obtain ⟨-, -, rfl⟩ := h
    exact .refl
  | cons role roles ih =>
    obtain ⟨hrole, hroles⟩ := List.cons_subset.1 hroles
    cases hid : index.requireId role.name with
    | error e =>
      simp only [PermissionPass, hid, Onward] at h
      obtain ⟨-, -, rfl⟩ := h
      exact .refl
    | ok id =>
      simp only [PermissionPass, hid, Onward] at h
      obtain ⟨held, m, m', hread, hwrites, hrest⟩ := h
      obtain ⟨rfl, rfl⟩ := (Memory.lossy_read rfl).1 hread
      have hid := hindex role.name id (RoleIndex.requireId_eq_ok.1 hid)
      have hadds : ReflTransGen (Adds config) m m' := by
        have hdistinct := Goal.permissions_pairwise (haccepted.distinct role hrole) id
        have hwrites : Writes Memory.lossy (Goal.unmet m (Goal.permissions role id)) m m' :=
          Goal.missing_permissions m role id ▸ hwrites
        refine adds_of_unmet hdistinct (fun g hg => ?_) hwrites
        obtain ⟨e, he, name, hname, rfl⟩ := Goal.exists_of_mem_permissions hg
        exact ⟨role, hrole, hid, e.2, he, hname⟩
      refine hadds.trans (ih hroles (fun name id hi => ?_) hrest)
      exact holds_of_adds (fun s g hs => s.roleId?_write hs g) hadds (hindex name id hi)

theorem adds_of_holdingsPass {index : RoleIndex} {group : Group} {rep rep' : Report}
    {res : Except Failure Unit} (hid : s.groupId? config.groupName = some group.id)
    (h : HoldingsPass Memory.lossy config index group s rep res rep' t) :
    ReflTransGen (Adds config) s t := by
  obtain ⟨assigned, m, hassigned, h⟩ := h
  obtain ⟨rfl, rfl⟩ := (Memory.lossy_read rfl).1 hassigned
  cases hresolve : resolve index (firsts config.bindings) with
  | error e =>
    simp only [hresolve] at h
    obtain ⟨-, -, rfl⟩ := h
    exact .refl
  | ok resolved =>
    simp only [hresolve] at h
    obtain ⟨m', hassign, -, -, hmembers⟩ := h
    have hassign : ReflTransGen (Adds config) m m' := by
      change Writes _ (Missing.assignments _ (m.assignments.get group.id) resolved) _ _ at hassign
      rw [Goal.missing_assignments] at hassign
      refine adds_of_writes (List.Pairwise.filter _ (List.pairwise_map.2 ?_)) (fun g hg => ?_) hassign
      · exact List.pairwise_of_forall fun r r' hsingle => by cases hsingle
      · obtain ⟨r, -, rfl⟩ := List.mem_map.1 (List.mem_of_mem_filter hg)
        exact ⟨hid, fun hsingle => by cases hsingle⟩
    have hid' : m'.groupId? config.groupName = some group.id :=
      holds_of_adds (fun s g hs => s.groupId?_write hs g) hassign hid
    have hmembers : ReflTransGen (Adds config) m' t := by
      let goals := (without (firsts config.members) group.members).map (Goal.member group.id)
      have hrequests : Missing.members group config.members = goals.map Goal.request := by
        rw [List.map_map]
        rfl
      rw [hrequests] at hmembers
      refine adds_of_writes (List.pairwise_map.2 ?_) (fun g hg => ?_) hmembers
      · exact List.pairwise_of_forall fun user user' hsingle => by cases hsingle
      · obtain ⟨user, huser, rfl⟩ := List.mem_map.1 hg
        have hdeclared : user ∈ config.members := mem_of_mem_firsts (mem_without.1 huser).1
        exact ⟨⟨hid', hdeclared⟩, fun hsingle => by cases hsingle⟩
    exact hassign.trans hmembers

theorem adds_of_groupPass {index : RoleIndex} {rep rep' : Report} {res : Except Failure Unit}
    (h : GroupPass Memory.lossy config index s rep res rep' t) : ReflTransGen (Adds config) s t := by
  obtain ⟨before, m₁, m₂, after, m₃, hbefore, hgroup, hafter, rep₁, -, h⟩ := h
  obtain ⟨rfl, rfl⟩ := (Memory.lossy_read rfl).1 hbefore
  obtain ⟨rfl, rfl⟩ := (Memory.lossy_read rfl).1 hafter
  have hcreate : ReflTransGen (Adds config) m₁ m₃ := by
    have hgroup : Writes Memory.lossy (Goal.unmet m₁ [.group config.groupName]) m₁ m₃ :=
      Goal.missing_group m₁ config.groupName ▸ hgroup
    refine adds_of_unmet (List.pairwise_singleton _ _) ?_ hgroup
    exact List.forall_mem_singleton.2 rfl
  refine hcreate.trans ?_
  cases hrequire : requireGroup config.groupName m₃.groups with
  | error e =>
    simp only [Onward, Store.read, hrequire] at h
    obtain ⟨-, -, rfl⟩ := h
    exact .refl
  | ok group =>
    simp only [Onward, Store.read, hrequire] at h
    have hid : m₃.groupId? config.groupName = some group.id :=
      congrArg (Option.map Group.id) (requireGroup_eq_ok hrequire)
    exact adds_of_holdingsPass hid h

theorem adds_of_reconcile (haccepted : config.Accepted) {rep rep' : Report}
    {res : Except Failure Unit} (h : Yields Memory.lossy (reconcile config) s rep res rep' t) :
    ReflTransGen (Adds config) s t := by
  obtain ⟨before, m₁, m₂, after, m₃, hbefore, hcreate, hafter, res₁, rep₁, m₄, hpermissions, h⟩ :=
    (yields_reconcile config).1 h
  obtain ⟨rfl, rfl⟩ := (Memory.lossy_read rfl).1 hbefore
  obtain ⟨rfl, rfl⟩ := (Memory.lossy_read rfl).1 hafter
  have hcreate : ReflTransGen (Adds config) m₁ m₃ := by
    have hcreate : Writes Memory.lossy (Goal.unmet m₁ (Goal.roles config.roles)) m₁ m₃ :=
      Goal.missing_roles m₁ config.roles ▸ hcreate
    refine adds_of_unmet (Goal.roles_pairwise config.roles) (fun g hg => ?_) hcreate
    obtain ⟨name, hname, rfl⟩ := List.mem_map.1 hg
    exact List.mem_map.1 (mem_of_mem_firsts hname)
  have hpermissions : ReflTransGen (Adds config) m₃ m₄ :=
    adds_of_permissionPass haccepted (List.Subset.refl _) (fun _ _ hid => hid) hpermissions
  refine hcreate.trans (hpermissions.trans ?_)
  cases res₁ with
  | error e =>
    obtain ⟨-, -, rfl⟩ := h
    exact .refl
  | ok _ =>
    obtain ⟨res₂, rep₂, m₅, hgroup, h⟩ := h
    refine (adds_of_groupPass hgroup).trans ?_
    have hread (known) (s t) (hknown : Memory.lossy .groups known s t) : t = s :=
      ((Memory.lossy_read rfl).1 hknown).2
    have hrest : t = m₅ := (eq_of_shown hread h).2.2
    rw [hrest]

theorem run_confined (haccepted : config.Accepted) (service : Memory.Service) :
    Confined config service.store
      (Interaction.run Memory.Service.respond (run config) service).state.store := by
  obtain ⟨out, h⟩ := (haltsOn_run config).exists_lossy service
  obtain ⟨res, rep, hyields, -⟩ := (leads_run config).1 h
  exact confined_of_adds (adds_of_reconcile haccepted hyields)

/-- Whatever fails and whatever is lost, a baseline run only adds to the store, and only what is
declared; a run for the owners of capabilities only grants roles to users, which the store does not
keep. -/
theorem runs_confined (haccepted : config.Accepted) (service : Memory.Service) :
    Confined config service.store
        (Interaction.run Memory.Service.respond (run config) service).state.store ∧
      (Interaction.run Memory.Service.respond (Ownership.run config) service).state.store =
        service.store ∧
      ∀ c ∈ (Interaction.run Memory.Service.respond (Ownership.run config) service).ops,
        c.isWrite = true →
          ∃ roleId user capabilityId, c = .grantRole (.forMember roleId user capabilityId) := by
  have hasks := Ownership.asks_run config
  refine ⟨run_confined haccepted service, ?_, fun c hc hw => ?_⟩
  · exact Dialogue.Asks.store hasks (fun _ => Ownership.write_of_allowed) service
  · refine (Dialogue.Asks.ops hasks _ service c hc).resolve_left fun hr => ?_
    rw [hw] at hr
    cases hr

theorem small_confined :
    let service : Memory.Service := ⟨.empty,
      [⟨"grant_permission", some 2, .unexpectedStatus "POST" "/permission/grant" 500 ""⟩],
      ["create_group"], []⟩
    Config.small.Accepted ∧
      Confined Config.small service.store
        (Interaction.run Memory.Service.respond (run Config.small) service).state.store :=
  ⟨Config.small_accepted, (runs_confined Config.small_accepted _).1⟩

end Adds

end AccessBaseline
