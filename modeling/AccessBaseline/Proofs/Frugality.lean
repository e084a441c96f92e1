import AccessBaseline.Proofs.CallOrder
import AccessBaseline.Proofs.Config
import AccessBaseline.Proofs.Goal
import AccessBaseline.Proofs.Resumption
import Mathlib.Data.List.Flatten

/-! A run writes nothing twice and nothing that it was told is there, whoever answers. Each part of a
run is frugal by itself, and parts that are about different things are frugal together. Ids have to tell
the listed roles apart, as two declared roles with one id would be granted the same permissions. -/
namespace AccessBaseline

namespace Missing

theorem roles_nodup (desired : List DeclaredRole) (observed : RoleIndex) :
    (roles desired observed).Nodup := by
  have hall := Goal.requests_nodup (Goal.roles_pairwise desired)
  rw [Goal.roles, List.map_map] at hall
  exact hall.sublist (List.filter_sublist.map _)

theorem permissions_nodup {role : DeclaredRole} (hrole : role.Distinct) (roleId : String)
    (held : List Permission) : (permissions role roleId held).Nodup := by
  have hall := Goal.requests_nodup (Goal.permissions_pairwise hrole roleId)
  rw [Goal.permissions, List.map_flatMap] at hall
  refine hall.sublist (List.Sublist.flatMap_right _ fun e _ => ?_)
  rw [List.map_map]
  exact List.filter_sublist.map _

theorem assignments_nodup {index : RoleIndex} (hindex : index.Separates) {bindings : List Binding}
    {resolved : List Reconcile.Resolved}
    (hresolve : Reconcile.resolve index (firsts bindings) = .ok resolved) (groupId : String)
    (assigned : List Assignment) : (assignments groupId assigned resolved).Nodup := by
  have hall := Goal.requests_nodup (Goal.assignments_pairwise hindex hresolve groupId)
  rw [Goal.assignments, List.map_map] at hall
  exact hall.sublist (List.filter_sublist.map _)

theorem members_nodup (group : Group) (desired : List String) : (members group desired).Nodup := by
  have hall := Goal.requests_nodup (Goal.members_pairwise group.id desired)
  rw [Goal.members, List.map_map] at hall
  exact hall.sublist (List.filter_sublist.map _)

theorem of_mem_roles {desired : List DeclaredRole} {listed : List Role} {c : Call}
    (h : c ∈ roles desired (.ofRoles listed)) : ∃ name : RoleName, c = .createRole (.generated name) ∧
      ∀ role ∈ listed, role.roleName.key ≠ name.key := by
  obtain ⟨name, hname, rfl⟩ := List.mem_map.1 h
  have hnone : (RoleIndex.ofRoles listed).contains name = false := by
    rw [← RoleIndex.any_roles (RoleIndex.valid_ofRoles listed), List.any_eq_false]
    intro other hother
    simpa using (mem_without.1 hname).2 other hother
  rw [RoleIndex.contains_ofRoles, List.any_eq_false] at hnone
  exact ⟨name, rfl, fun role hrole hkey => hnone role hrole ((RoleName.beq_iff _ _).2 hkey)⟩

theorem of_mem_permissions {role : DeclaredRole} {roleId : String} {held : List Permission} {c : Call}
    (h : c ∈ permissions role roleId held) : ∃ space name,
      c = .grantPermission (.forRole roleId space name) ∧
      ∀ p ∈ held, ¬(p.space = space ∧ p.name = name) := by
  obtain ⟨e, -, hc⟩ := List.mem_flatMap.1 h
  obtain ⟨name, hname, rfl⟩ := List.mem_map.1 hc
  refine ⟨e.1, name, rfl, fun p hp hsame => ?_⟩
  have hother := (mem_without.1 hname).2 name (Permission.mem_namesIn.2 ⟨p, hp, hsame.1, hsame.2⟩)
  rw [BEq.rfl] at hother
  cases hother

theorem of_mem_group {name : String} {known : List Group} {c : Call} (h : c ∈ group name known) :
    c = .createGroup (.generated name) ∧ ∀ g ∈ known, g.name ≠ name := by
  unfold group at h
  split at h
  · next hnone =>
    have hfind : known.find? (·.name == name) = none := Option.isNone_iff_eq_none.1 hnone
    refine ⟨List.mem_singleton.1 h, fun g hg hname => ?_⟩
    exact List.find?_eq_none.1 hfind g hg (beq_iff_eq.2 hname)
  · cases h

theorem of_mem_assignments {groupId : String} {assigned : List Assignment}
    {resolved : List Reconcile.Resolved} {c : Call} (h : c ∈ assignments groupId assigned resolved) :
    ∃ roleId scope, c = .grantRole (.forGroup roleId groupId scope) ∧
      ∀ a ∈ assigned, a.gives roleId scope = false := by
  obtain ⟨r, hr, rfl⟩ := List.mem_map.1 h
  have hnone : r.isHeld assigned = false := by simpa using (List.mem_filter.1 hr).2
  exact ⟨r.roleId, r.binding.scope, rfl, fun a ha => by simpa using List.any_eq_false.1 hnone a ha⟩

theorem of_mem_members {group : Group} {desired : List String} {c : Call}
    (h : c ∈ members group desired) : ∃ user, c = .addGroupMember group.id user ∧ user ∉ group.members := by
  obtain ⟨user, huser, rfl⟩ := List.mem_map.1 h
  refine ⟨user, rfl, fun hmem => ?_⟩
  have hother := (mem_without.1 huser).2 user hmem
  rw [BEq.rfl] at hother
  cases hother

end Missing

/-- Whether calls write nothing twice, and nothing that the answers in a log show to be there. -/
structure Frugal (config : Config) (log : List Success) (calls : List Call) : Prop where
  once : (calls.filter Call.isWrite).Nodup
  roles : ∀ r listed, .createRole r ∈ calls → (roleReads log)[0]? = some listed →
    ∀ role ∈ listed, role.roleName.key ≠ (RoleName.mk r.name).key
  permissions : ∀ g (held : List Permission), .grantPermission g ∈ calls →
    ⟨.rolePermissions g.holderId, held⟩ ∈ log → ∀ p ∈ held, ¬(p.space = g.space ∧ p.name = g.name)
  groups : ∀ g known, .createGroup g ∈ calls → (groupReads log)[0]? = some known →
    ∀ group ∈ known, group.name ≠ g.name
  assignments : ∀ r id (held : List Assignment), .grantRole r ∈ calls →
    ⟨.groupRoleGrants id, held⟩ ∈ log → ∀ a ∈ held, a.gives r.roleId r.scope = false
  members : ∀ id user known group, .addGroupMember id user ∈ calls →
    (groupReads log)[1]? = some known → Group.named? config.groupName known = some group →
      user ∉ group.members

inductive Subject where
  | roles
  | permissions (roleId : String)
  | group
  deriving DecidableEq

def Call.subject : Call → Subject
  | assignableRoles | createRole _ => .roles
  | rolePermissions id => .permissions id
  | grantPermission g => .permissions g.holderId
  | groups | createGroup _ | addGroupMember _ _ | removeGroupMember _ _ | groupRoleGrants _ | grantRole _
  | capabilities | capabilityMembers _ => .group

namespace Frugal
variable {config : Config} {log log' : List Success} {calls calls' : List Call}

theorem nil (config : Config) : Frugal config [] [] := by
  constructor <;> simp

theorem of_initial (h : Frugal config log calls) (hlog : log' <+: log) (hcalls : calls' <+: calls) :
    Frugal config log' calls' where
  once := h.once.sublist (hcalls.filter _).sublist
  roles r listed hr hread := h.roles r listed (hcalls.subset hr)
    (getElem?_of_initial (hlog.filterMap _) hread)
  permissions g held hg hread := h.permissions g held (hcalls.subset hg) (hlog.subset hread)
  groups g known hg hread := h.groups g known (hcalls.subset hg)
    (getElem?_of_initial (hlog.filterMap _) hread)
  assignments r id held hr hread := h.assignments r id held (hcalls.subset hr) (hlog.subset hread)
  members id user known group hc hread := h.members id user known group (hcalls.subset hc)
    (getElem?_of_initial (hlog.filterMap _) hread)

theorem append (h : Frugal config log (log.map (·.1))) (h' : Frugal config log' (log'.map (·.1)))
    (hapart : ∀ c ∈ log.map (·.1), ∀ c' ∈ log'.map (·.1), c.subject ≠ c'.subject) :
    Frugal config (log ++ log') ((log ++ log').map (·.1)) := by
  -- Whatever a call of one part is held against was read in the same part.
  have hroles {c : Call} (hc : c ∈ log.map (·.1)) (hs : c.subject = .roles) :
      roleReads (log ++ log') = roleReads log := by
    rw [roleReads_append, roleReads_eq_nil fun hmem => hapart c hc _ hmem hs, List.append_nil]
  have hroles' {c : Call} (hc : c ∈ log'.map (·.1)) (hs : c.subject = .roles) :
      roleReads (log ++ log') = roleReads log' := by
    rw [roleReads_append, roleReads_eq_nil fun hmem => hapart _ hmem c hc hs.symm, List.nil_append]
  have hgroups {c : Call} (hc : c ∈ log.map (·.1)) (hs : c.subject = .group) :
      groupReads (log ++ log') = groupReads log := by
    rw [groupReads_append, groupReads_eq_nil fun hmem => hapart c hc _ hmem hs, List.append_nil]
  have hgroups' {c : Call} (hc : c ∈ log'.map (·.1)) (hs : c.subject = .group) :
      groupReads (log ++ log') = groupReads log' := by
    rw [groupReads_append, groupReads_eq_nil fun hmem => hapart _ hmem c hc hs.symm, List.nil_append]
  have hread {x : Success} {c : Call} (hc : c ∈ log.map (·.1)) (hs : x.1.subject = c.subject)
      (hx : x ∈ log ++ log') : x ∈ log := by
    cases List.mem_append.1 hx with
    | inl hx => exact hx
    | inr hx => exact absurd hs.symm (hapart c hc x.1 (List.mem_map_of_mem hx))
  have hread' {x : Success} {c : Call} (hc : c ∈ log'.map (·.1)) (hs : x.1.subject = c.subject)
      (hx : x ∈ log ++ log') : x ∈ log' := by
    cases List.mem_append.1 hx with
    | inl hx => exact absurd hs (hapart x.1 (List.mem_map_of_mem hx) c hc)
    | inr hx => exact hx
  rw [List.map_append]
  refine ⟨?_, fun r listed hr hlisted => ?_, fun g held hg hheld => ?_, fun g known hg hknown => ?_,
    fun r id held hr hheld => ?_, fun id user known group hc hknown => ?_⟩
  · rw [List.filter_append, List.nodup_append]
    refine ⟨h.once, h'.once, fun c hc c' hc' hsame => ?_⟩
    exact hapart c (List.mem_of_mem_filter hc) c' (List.mem_of_mem_filter hc')
      (congrArg Call.subject hsame)
  · cases List.mem_append.1 hr with
    | inl hr => exact h.roles r listed hr (hroles hr rfl ▸ hlisted)
    | inr hr => exact h'.roles r listed hr (hroles' hr rfl ▸ hlisted)
  · cases List.mem_append.1 hg with
    | inl hg => exact h.permissions g held hg (hread hg rfl hheld)
    | inr hg => exact h'.permissions g held hg (hread' hg rfl hheld)
  · cases List.mem_append.1 hg with
    | inl hg => exact h.groups g known hg (hgroups hg rfl ▸ hknown)
    | inr hg => exact h'.groups g known hg (hgroups' hg rfl ▸ hknown)
  · cases List.mem_append.1 hr with
    | inl hr => exact h.assignments r id held hr (hread hr rfl hheld)
    | inr hr => exact h'.assignments r id held hr (hread' hr rfl hheld)
  · cases List.mem_append.1 hc with
    | inl hc => exact h.members id user known group hc (hgroups hc rfl ▸ hknown)
    | inr hc => exact h'.members id user known group hc (hgroups' hc rfl ▸ hknown)

theorem append_groups (h : Frugal config log (log.map (·.1))) (hreads : 2 ≤ (groupReads log).length)
    {last : Success} (hlast : last.1 = .groups) :
    Frugal config (log ++ [last]) ((log ++ [last]).map (·.1)) := by
  have hwrite {c : Call} (hc : c ∈ (log ++ [last]).map (·.1)) (hw : c.isWrite = true) :
      c ∈ log.map (·.1) := by
    rw [List.map_append] at hc
    cases List.mem_append.1 hc with
    | inl hc => exact hc
    | inr hc =>
      have hc : c = last.1 := List.mem_singleton.1 hc
      rw [hc, hlast] at hw
      cases hw
  have hread {x : Success} (hx : x ∈ log ++ [last]) (hother : x.1 ≠ .groups) : x ∈ log := by
    cases List.mem_append.1 hx with
    | inl hx => exact hx
    | inr hx => exact absurd (List.mem_singleton.1 hx ▸ hlast) hother
  have hroles : roleReads (log ++ [last]) = roleReads log := by
    have hnone : roleReads [last] = [] := roleReads_eq_nil (by simp [hlast])
    rw [roleReads_append, hnone, List.append_nil]
  have hgroups (i : Nat) (hi : i < 2) : (groupReads (log ++ [last]))[i]? = (groupReads log)[i]? := by
    rw [groupReads_append, List.getElem?_append_left (Nat.lt_of_lt_of_le hi hreads)]
  refine ⟨?_, fun r listed hr hlisted => ?_, fun g held hg hheld => ?_, fun g known hg hknown => ?_,
    fun r id held hr hheld => ?_, fun id user known group hc hknown => ?_⟩
  · rw [List.map_append, List.map_singleton, hlast, List.filter_append]
    exact (List.append_nil _).symm ▸ h.once
  · exact h.roles r listed (hwrite hr rfl) (hroles ▸ hlisted)
  · exact h.permissions g held (hwrite hg rfl) (hread hheld (by simp))
  · exact h.groups g known (hwrite hg rfl) (hgroups 0 (by decide) ▸ hknown)
  · exact h.assignments r id held (hwrite hr rfl) (hread hheld (by simp))
  · exact h.members id user known group (hwrite hc rfl) (hgroups 1 (by decide) ▸ hknown)

theorem roles_part {before listed : List Role} {w : List Success}
    (hw : w.map (·.1) = Missing.roles config.roles (.ofRoles before)) :
    let part : List Success := ⟨.assignableRoles, before⟩ :: w ++ [⟨.assignableRoles, listed⟩]
    Frugal config part (part.map (·.1)) ∧ roleReads part = [before, listed] ∧
      ∀ c ∈ part.map (·.1), c.subject = .roles := by
  intro part
  have hcalls : part.map (·.1) = .assignableRoles ::
      Missing.roles config.roles (.ofRoles before) ++ [.assignableRoles] := by
    simp [part, hw]
  have hcases (c : Call) (hc : c ∈ part.map (·.1)) :
      c = .assignableRoles ∨ c ∈ Missing.roles config.roles (.ofRoles before) := by
    simpa [hcalls, or_comm, or_left_comm] using hc
  have hsubject (c : Call) (hc : c ∈ part.map (·.1)) : c.subject = .roles := by
    cases hcases c hc with
    | inl hc => rw [hc, Call.subject]
    | inr hc =>
      obtain ⟨name, rfl, -⟩ := Missing.of_mem_roles hc
      rfl
  have hreads : roleReads part = [before, listed] := by
    have hnone : roleReads w = [] := by
      refine roleReads_eq_nil fun hmem => ?_
      obtain ⟨name, heq, -⟩ := Missing.of_mem_roles (hw ▸ hmem)
      cases heq
    change before :: roleReads (w ++ [⟨.assignableRoles, listed⟩]) = _
    rw [roleReads_append, hnone]
    rfl
  refine ⟨⟨?_, fun r listed' hr hlisted => ?_, fun g held hg _ => (by cases hsubject _ hg),
    fun g known hg _ => (by cases hsubject _ hg), fun r id held hr _ => (by cases hsubject _ hr),
    fun id user known group hc _ _ => (by cases hsubject _ hc)⟩, hreads, hsubject⟩
  · rw [hcalls, List.filter_append, List.filter_cons_of_neg (by simp [Call.isWrite])]
    exact (List.append_nil _).symm ▸ (Missing.roles_nodup _ _).filter _
  · rw [hreads] at hlisted
    obtain rfl : before = listed' := Option.some.inj hlisted
    cases hcases _ hr with
    | inl hr => cases hr
    | inr hr =>
      obtain ⟨name, heq, hnone⟩ := Missing.of_mem_roles hr
      obtain rfl := Call.createRole.inj heq
      exact hnone

theorem permissions_part (config : Config) {role : DeclaredRole} (hrole : role.Distinct) {id : String}
    {held : List Permission} {w : List Success} (hw : w.map (·.1) = Missing.permissions role id held) :
    let part : List Success := ⟨.rolePermissions id, held⟩ :: w
    Frugal config part (part.map (·.1)) ∧ ∀ c ∈ part.map (·.1), c.subject = .permissions id := by
  intro part
  have hcalls : part.map (·.1) = .rolePermissions id :: Missing.permissions role id held := by
    simp [part, hw]
  have hsubject (c : Call) (hc : c ∈ part.map (·.1)) : c.subject = .permissions id := by
    rw [hcalls] at hc
    cases List.mem_cons.1 hc with
    | inl hc => rw [hc, Call.subject]
    | inr hc =>
      obtain ⟨space, name, rfl, -⟩ := Missing.of_mem_permissions hc
      rfl
  have hread (x : Success) (hx : x ∈ part) (hnot : x.1.isWrite = false) :
      x = ⟨.rolePermissions id, held⟩ := by
    cases List.mem_cons.1 hx with
    | inl hx => exact hx
    | inr hx =>
      have hc : x.1 ∈ Missing.permissions role id held := hw ▸ List.mem_map_of_mem hx
      obtain ⟨space, name, heq, -⟩ := Missing.of_mem_permissions hc
      rw [heq] at hnot
      cases hnot
  refine ⟨⟨?_, fun r listed hr _ => (by cases hsubject _ hr), fun g held' hg hheld => ?_,
    fun g known hg _ => (by cases hsubject _ hg), fun r id held hr _ => (by cases hsubject _ hr),
    fun id user known group hc _ _ => (by cases hsubject _ hc)⟩, hsubject⟩
  · rw [hcalls, List.filter_cons_of_neg (by simp [Call.isWrite])]
    exact (Missing.permissions_nodup hrole id held).filter _
  · rw [hcalls] at hg
    cases List.mem_cons.1 hg with
    | inl hg => cases hg
    | inr hg =>
      obtain ⟨space, name, heq, hnone⟩ := Missing.of_mem_permissions hg
      obtain rfl := Call.grantPermission.inj heq
      cases hread _ hheld rfl
      exact hnone

/-- What comes behind the second list of groups: the group's assignments are listed, and it is given
roles and members. -/
structure Fills (config : Config) (after : List Group) (rest : List Success) : Prop where
  calls : ∀ c ∈ rest.map (·.1), (∃ id, c = .groupRoleGrants id) ∨ (∃ r, c = .grantRole r) ∨
    ∃ id user, c = .addGroupMember id user
  once : ((rest.map (·.1)).filter Call.isWrite).Nodup
  assignments : ∀ r id (held : List Assignment), .grantRole r ∈ rest.map (·.1) →
    ⟨.groupRoleGrants id, held⟩ ∈ rest → ∀ a ∈ held, a.gives r.roleId r.scope = false
  members : ∀ id user group, .addGroupMember id user ∈ rest.map (·.1) →
    Group.named? config.groupName after = some group → user ∉ group.members

theorem Fills.of_held {after : List Group} {group : Group}
    (hgroup : Group.named? config.groupName after = some group) {held : List Assignment}
    {resolved : List Reconcile.Resolved}
    (honce : (Missing.assignments group.id held resolved).Nodup) {w w' : List Success}
    (hw : w.map (·.1) = Missing.assignments group.id held resolved)
    (hw' : w'.map (·.1) = Missing.members group config.members) :
    Fills config after (⟨.groupRoleGrants group.id, held⟩ :: w ++ w') := by
  let rest : List Success := ⟨.groupRoleGrants group.id, held⟩ :: w ++ w'
  have hcalls : rest.map (·.1) = .groupRoleGrants group.id ::
      (Missing.assignments group.id held resolved ++ Missing.members group config.members) := by
    simp [rest, hw, hw']
  have hcases (c : Call) (hc : c ∈ rest.map (·.1)) : c = .groupRoleGrants group.id ∨
      c ∈ Missing.assignments group.id held resolved ∨ c ∈ Missing.members group config.members := by
    rw [hcalls] at hc
    exact (List.mem_cons.1 hc).imp_right List.mem_append.1
  -- Of the three kinds of calls each property is about one, and the other two cannot be it.
  refine ⟨fun c hc => ?_, ?_, fun r id held' hr hheld => ?_, fun id user group' hc hgroup' => ?_⟩
  · rcases hcases c hc with hc | hc | hc
    · exact .inl ⟨_, hc⟩
    · obtain ⟨roleId, scope, hc, -⟩ := Missing.of_mem_assignments hc
      exact .inr (.inl ⟨_, hc⟩)
    · obtain ⟨user, hc, -⟩ := Missing.of_mem_members hc
      exact .inr (.inr ⟨_, user, hc⟩)
  · change ((rest.map (·.1)).filter Call.isWrite).Nodup
    rw [hcalls, List.filter_cons_of_neg (by simp [Call.isWrite])]
    refine List.Nodup.filter _ (List.nodup_append.2 ⟨honce, Missing.members_nodup _ _, ?_⟩)
    intro c hc c' hc' hsame
    obtain ⟨roleId, scope, rfl, -⟩ := Missing.of_mem_assignments hc
    obtain ⟨user, hc', -⟩ := Missing.of_mem_members hc'
    cases hsame.trans hc'
  · have hread : (⟨.groupRoleGrants id, held'⟩ : Success) = ⟨.groupRoleGrants group.id, held⟩ := by
      rw [List.cons_append] at hheld
      cases List.mem_cons.1 hheld with
      | inl hheld => exact hheld
      | inr hheld =>
        have hmem : .groupRoleGrants id ∈ (w ++ w').map (·.1) := List.mem_map_of_mem (f := (·.1)) hheld
        rw [List.map_append, hw, hw'] at hmem
        cases List.mem_append.1 hmem with
        | inl hmem =>
          obtain ⟨roleId, scope, heq, -⟩ := Missing.of_mem_assignments hmem
          cases heq
        | inr hmem =>
          obtain ⟨user, heq, -⟩ := Missing.of_mem_members hmem
          cases heq
    cases hread
    rcases hcases _ hr with hr | hr | hr
    · cases hr
    · obtain ⟨roleId, scope, heq, hnone⟩ := Missing.of_mem_assignments hr
      obtain rfl := Call.grantRole.inj heq
      exact hnone
    · obtain ⟨user, heq, -⟩ := Missing.of_mem_members hr
      cases heq
  · obtain rfl : group = group' := Option.some.inj (hgroup.symm.trans hgroup')
    rcases hcases _ hc with hc | hc | hc
    · cases hc
    · obtain ⟨roleId, scope, hc, -⟩ := Missing.of_mem_assignments hc
      cases hc
    · obtain ⟨user', hc, hnone⟩ := Missing.of_mem_members hc
      cases hc
      exact hnone

theorem Fills.of_mem {after : List Group} {rest : List Success} (h : Fills config after rest) {c : Call}
    (hc : c ∈ rest.map (·.1)) : c.subject = .group ∧ ∀ g, c ≠ .createGroup g := by
  rcases h.calls c hc with hc | hc | hc
  · obtain ⟨id, rfl⟩ := hc
    exact ⟨rfl, nofun⟩
  · obtain ⟨r, rfl⟩ := hc
    exact ⟨rfl, nofun⟩
  · obtain ⟨id, user, rfl⟩ := hc
    exact ⟨rfl, nofun⟩

/-- The assignments of a group are read after it was looked for and created. -/
theorem mem_of_groupRoleGrants {before after : List Group} {w rest : List Success}
    (hw : w.map (·.1) = Missing.group config.groupName before) {id : String} {held : List Assignment}
    (h : ⟨.groupRoleGrants id, held⟩ ∈ (⟨.groups, before⟩ :: w ++ ⟨.groups, after⟩ :: rest : List Success)) :
    ⟨.groupRoleGrants id, held⟩ ∈ rest := by
  cases List.mem_append.1 h with
  | inl hx =>
    have hmem : .groupRoleGrants id ∈ .groups :: w.map (·.1) := List.mem_map_of_mem (f := (·.1)) hx
    rw [hw] at hmem
    cases List.mem_cons.1 hmem with
    | inl heq => cases heq
    | inr hmem => cases (Missing.of_mem_group hmem).1
  | inr hx =>
    cases List.mem_cons.1 hx with
    | inl heq => cases heq
    | inr hx => exact hx

theorem group_part {before after : List Group} {w rest : List Success}
    (hw : w.map (·.1) = Missing.group config.groupName before) (hrest : Fills config after rest) :
    let part : List Success := ⟨.groups, before⟩ :: w ++ ⟨.groups, after⟩ :: rest
    Frugal config part (part.map (·.1)) ∧ (∀ c ∈ part.map (·.1), c.subject = .group) ∧
      2 ≤ (groupReads part).length := by
  intro part
  have hcalls : part.map (·.1) = .groups ::
      (Missing.group config.groupName before ++ .groups :: rest.map (·.1)) := by
    simp [part, hw]
  have hreads : groupReads part = before :: after :: groupReads rest := by
    have hnone : groupReads w = [] := by
      refine groupReads_eq_nil fun hmem => ?_
      cases (Missing.of_mem_group (hw ▸ hmem)).1
    change before :: groupReads (w ++ ⟨.groups, after⟩ :: rest) = _
    rw [groupReads_append, hnone]
    rfl
  have hcases (c : Call) (hc : c ∈ part.map (·.1)) : c = .groups ∨
      c ∈ Missing.group config.groupName before ∨ c ∈ rest.map (·.1) := by
    simpa [hcalls, or_left_comm] using hc
  have hsubject (c : Call) (hc : c ∈ part.map (·.1)) : c.subject = .group := by
    rcases hcases c hc with hc | hc | hc
    · rw [hc, Call.subject]
    · rw [(Missing.of_mem_group hc).1, Call.subject]
    · exact (hrest.of_mem hc).1
  have hcreate (g : NewGroup) : .createGroup g ∉ rest.map (·.1) := fun hmem => (hrest.of_mem hmem).2 g rfl
  have hlater {c : Call} (hc : c ∈ part.map (·.1)) (hother : c ≠ .groups)
      (hother' : ∀ g, c ≠ .createGroup g) : c ∈ rest.map (·.1) := by
    rcases hcases c hc with hc | hc | hc
    · exact absurd hc hother
    · exact absurd (Missing.of_mem_group hc).1 (hother' _)
    · exact hc
  refine ⟨⟨?_, fun r listed hr _ => (by cases hsubject _ hr), fun g held hg _ => (by cases hsubject _ hg),
    fun g known hg hknown => ?_, fun r id held hr hheld => ?_, fun id user known group hc hknown => ?_⟩,
    hsubject, by simp [hreads]⟩
  · rw [hcalls, List.filter_cons_of_neg (by simp [Call.isWrite]), List.filter_append,
      List.filter_cons_of_neg (by simp [Call.isWrite]), List.nodup_append]
    refine ⟨?_, hrest.once, fun c hc c' hc' hsame => ?_⟩
    · unfold Missing.group
      split
      · exact List.nodup_singleton _
      · exact .nil
    · rw [(Missing.of_mem_group (List.mem_of_mem_filter hc)).1] at hsame
      exact hcreate _ (hsame ▸ List.mem_of_mem_filter hc')
  · rw [hreads] at hknown
    obtain rfl : before = known := Option.some.inj hknown
    rcases hcases _ hg with hg | hg | hg
    · cases hg
    · obtain ⟨heq, hnone⟩ := Missing.of_mem_group hg
      obtain rfl := Call.createGroup.inj heq
      exact hnone
    · exact absurd hg (hcreate g)
  · exact hrest.assignments r id held (hlater hr (by simp) (by simp)) (mem_of_groupRoleGrants hw hheld)
  · rw [hreads] at hknown
    obtain rfl : after = known := Option.some.inj hknown
    exact hrest.members id user group (hlater hc (by simp) (by simp))

end Frugal

namespace Baseline
open Reconcile Dialogue
variable {config : Config} {index : RoleIndex} {log log' : List Success} {rep rep' : Report}
  {res : Except Failure Unit}

theorem frugal_of_permissionPass (hindex : index.Separates) {roles : List DeclaredRole}
    (hkeys : (roles.map (·.name.key)).Nodup) (hdistinct : ∀ role ∈ roles, role.Distinct)
    (h : PermissionPass logging index roles log rep res rep' log') :
    ∃ more, log' = log ++ more ∧ Frugal config more (more.map (·.1)) ∧
      ∀ c ∈ more.map (·.1), ∃ role ∈ roles, ∃ id, index.idOf? role.name = some id ∧
        c.subject = .permissions id := by
  induction roles generalizing log rep with
  | nil =>
    obtain ⟨-, -, rfl⟩ := h
    exact ⟨[], (List.append_nil _).symm, .nil config, by simp⟩
  | cons role roles ih =>
    obtain ⟨hnew, hkeys⟩ := List.nodup_cons.1 hkeys
    obtain ⟨hrole, hroles⟩ := List.forall_mem_cons.1 hdistinct
    cases hid : index.requireId role.name with
    | error e =>
      simp only [PermissionPass, hid, Onward] at h
      obtain ⟨-, -, rfl⟩ := h
      exact ⟨[], (List.append_nil _).symm, .nil config, by simp⟩
    | ok id =>
      simp only [PermissionPass, hid, Onward] at h
      obtain ⟨held, m, m', rfl, hwrites, hrest⟩ := h
      obtain ⟨w, rfl, hw⟩ := writes_logging.1 hwrites
      obtain ⟨more, rfl, hmore, hothers⟩ := ih hkeys hroles hrest
      obtain ⟨hpart, hsubject⟩ := Frugal.permissions_part config hrole hw
      have hid := RoleIndex.requireId_eq_ok.1 hid
      refine ⟨⟨.rolePermissions id, held⟩ :: w ++ more, by simp, hpart.append hmore ?_, ?_⟩
      · intro c hc c' hc' hsame
        obtain ⟨role', hrole', id', hid', hc'⟩ := hothers c' hc'
        rw [hsubject c hc, hc'] at hsame
        cases hsame
        exact hnew (List.mem_map.2 ⟨role', hrole', hindex _ _ _ hid' hid⟩)
      · intro c hc
        rw [List.map_append] at hc
        cases List.mem_append.1 hc with
        | inl hc => exact ⟨role, List.mem_cons_self, id, hid, hsubject c hc⟩
        | inr hc =>
          obtain ⟨role', hrole', hsubject'⟩ := hothers c hc
          exact ⟨role', List.mem_cons_of_mem _ hrole', hsubject'⟩

theorem fills_of_holdingsPass (hindex : index.Separates) {after : List Group} {group : Group}
    (hgroup : Group.named? config.groupName after = some group)
    (h : HoldingsPass logging config index group log rep res rep' log') :
    ∃ rest, log' = log ++ rest ∧ Frugal.Fills config after rest := by
  obtain ⟨held, m, rfl, h⟩ := h
  cases hresolve : resolve index (firsts config.bindings) with
  | error e =>
    simp only [hresolve] at h
    obtain ⟨-, -, rfl⟩ := h
    refine ⟨[⟨.groupRoleGrants group.id, held⟩], rfl, ?_⟩
    constructor <;> simp [Call.isWrite]
  | ok resolved =>
    simp only [hresolve] at h
    obtain ⟨m', hassign, -, -, hmembers⟩ := h
    obtain ⟨w, rfl, hw⟩ := writes_logging.1 hassign
    obtain ⟨w', rfl, hw'⟩ := writes_logging.1 hmembers
    have honce := Missing.assignments_nodup hindex hresolve group.id held
    exact ⟨_, by simp, Frugal.Fills.of_held hgroup honce hw hw'⟩

theorem frugal_of_groupPass (hindex : index.Separates)
    (h : GroupPass logging config index log rep res rep' log') :
    ∃ more, log' = log ++ more ∧ Frugal config more (more.map (·.1)) ∧
      (∀ c ∈ more.map (·.1), c.subject = .group) ∧ 2 ≤ (groupReads more).length := by
  obtain ⟨before, m₁, m₂, after, m₃, rfl, hgroup, rfl, rep₁, -, h⟩ := h
  obtain ⟨w, rfl, hw⟩ := writes_logging.1 hgroup
  have hrest : ∃ rest, log' = log ++ [⟨.groups, before⟩] ++ w ++ [⟨.groups, after⟩] ++ rest ∧
      Frugal.Fills config after rest := by
    cases hrequire : requireGroup config.groupName after with
    | error e =>
      simp only [hrequire, Onward] at h
      obtain ⟨-, -, rfl⟩ := h
      refine ⟨[], (List.append_nil _).symm, ?_⟩
      constructor <;> simp
    | ok group =>
      simp only [hrequire, Onward] at h
      exact fills_of_holdingsPass hindex (requireGroup_eq_ok hrequire) h
  obtain ⟨rest, rfl, hfills⟩ := hrest
  exact ⟨⟨.groups, before⟩ :: w ++ ⟨.groups, after⟩ :: rest, by simp, Frugal.group_part hw hfills⟩

theorem frugal_of_shown (hfrugal : Frugal config log (log.map (·.1)))
    (hreads : 2 ≤ (groupReads log).length) {debug : Bool} {more : List Success}
    (hmore : more.map (·.1) = if debug then [.groups] else []) :
    Frugal config (log ++ more) ((log ++ more).map (·.1)) := by
  cases debug with
  | false =>
    rw [List.map_eq_nil_iff.1 hmore, List.append_nil]
    exact hfrugal
  | true =>
    obtain ⟨last, more, rfl, hlast, hnil⟩ := List.map_eq_cons_iff.1 hmore
    rw [List.map_eq_nil_iff.1 hnil]
    exact hfrugal.append_groups hreads hlast

theorem initial_of_permissionPass {roles : List DeclaredRole} {res₁ : Except Failure Unit}
    {rep₁ : Report} {m : List Success} (h : PermissionPass logging index roles log rep res₁ rep₁ m)
    (hrest : Onward res₁ rep₁ m res rep' log' fun _ => ∃ res₂ rep₂ m₅,
      GroupPass logging config index m rep₁ res₂ rep₂ m₅ ∧ Onward res₂ rep₂ m₅ res rep' log' fun _ =>
        res = .ok () ∧ rep' = rep₂ ∧ Shown logging config.debug m₅ log') : log <+: log' := by
  have hpermissions : log <+: m := initial_of_leads ((yields_permissions index roles).2 h)
  cases res₁ with
  | error e =>
    obtain ⟨-, -, rfl⟩ := hrest
    exact hpermissions
  | ok _ =>
    obtain ⟨res₂, rep₂, m₅, hgroup, hrest⟩ := hrest
    have hinitial : log <+: m₅ :=
      hpermissions.trans (initial_of_leads ((yields_group config index).2 hgroup))
    cases res₂ with
    | error e =>
      obtain ⟨-, -, rfl⟩ := hrest
      exact hinitial
    | ok _ =>
      obtain ⟨-, -, hshown⟩ := hrest
      obtain ⟨last, rfl, -⟩ := exists_of_shown hshown
      exact hinitial.trans (List.prefix_append _ _)

theorem frugal_of_rest (hindex : index.Separates)
    (h : ∃ res₂ rep₂ m₅, GroupPass logging config index log rep res₂ rep₂ m₅ ∧
      Onward res₂ rep₂ m₅ res rep' log' fun _ =>
        res = .ok () ∧ rep' = rep₂ ∧ Shown logging config.debug m₅ log') :
    ∃ more, log' = log ++ more ∧ Frugal config more (more.map (·.1)) ∧
      ∀ c ∈ more.map (·.1), c.subject = .group := by
  obtain ⟨res₂, rep₂, m₅, hgroup, h⟩ := h
  obtain ⟨more, rfl, hmore, hsubject, htwice⟩ := frugal_of_groupPass hindex hgroup
  cases res₂ with
  | error e =>
    obtain ⟨-, -, rfl⟩ := h
    exact ⟨more, rfl, hmore, hsubject⟩
  | ok _ =>
    obtain ⟨-, -, hshown⟩ := h
    obtain ⟨last, rfl, hlast⟩ := exists_of_shown hshown
    refine ⟨more ++ last, List.append_assoc .., frugal_of_shown hmore htwice hlast, fun c hc => ?_⟩
    rw [List.map_append, hlast] at hc
    cases List.mem_append.1 hc with
    | inl hc => exact hsubject c hc
    | inr hc =>
      split at hc
      · rw [List.mem_singleton.1 hc, Call.subject]
      · cases hc

theorem frugal_of_reconcile (haccepted : config.Accepted)
    (h : Yields logging (reconcile config) [] rep res rep' log)
    (hindex : ∀ listed, (roleReads log)[1]? = some listed → (RoleIndex.ofRoles listed).Separates) :
    Frugal config log (log.map (·.1)) := by
  obtain ⟨before, m₁, m₂, listed, m₃, rfl, hcreate, rfl, res₁, rep₁, m₄, hpermissions, h⟩ :=
    (yields_reconcile config).1 h
  obtain ⟨w, rfl, hw⟩ := writes_logging.1 hcreate
  obtain ⟨hpart, hreads, hsubject⟩ := @Frugal.roles_part config before listed w hw
  have hread : (roleReads log)[1]? = some listed :=
    getElem?_of_initial ((initial_of_permissionPass hpermissions h).filterMap _)
      (congrArg (·[1]?) hreads)
  have hindex := hindex listed hread
  obtain ⟨visits, rfl, hvisits, hvisited⟩ :=
    frugal_of_permissionPass hindex haccepted.roleKeys_nodup haccepted.distinct hpermissions
  have hfront := hpart.append hvisits fun c hc c' hc' hsame => by
    obtain ⟨role, -, id, -, hc'⟩ := hvisited c' hc'
    rw [hsubject c hc, hc'] at hsame
    cases hsame
  cases res₁ with
  | error e =>
    obtain ⟨-, -, rfl⟩ := h
    exact hfront
  | ok _ =>
    obtain ⟨more, rfl, hmore, hgroup⟩ := frugal_of_rest hindex h
    refine hfront.append hmore fun c hc c' hc' hsame => ?_
    rw [List.map_append] at hc
    rw [hgroup c' hc'] at hsame
    cases List.mem_append.1 hc with
    | inl hc => cases (hsubject c hc).symm.trans hsame
    | inr hc =>
      obtain ⟨role, -, id, -, hc⟩ := hvisited c hc
      cases hc.symm.trans hsame

/-- Whoever answers, a run makes no write twice and none for what it was told is there, if ids tell the
roles of its second list apart. -/
theorem run_frugal {σ : Type} (haccepted : config.Accepted)
    (respond : (call : Call) → σ → call.Answer × σ) (s : σ) :
    let r := Interaction.run respond (run config) s
    (∀ listed, (roleReads (heard r.steps))[1]? = some listed → (RoleIndex.ofRoles listed).Separates) →
      Frugal config (heard r.steps) r.ops := by
  intro r hindex
  obtain ⟨out, later, hleads, hblank, hops, -⟩ := (haltsOn_run config).exists_completion respond s []
  obtain ⟨res, rep, hyields, -⟩ := (leads_run config).1 hleads
  rw [List.nil_append] at hyields
  refine (frugal_of_reconcile haccepted hyields fun listed hlisted => ?_).of_initial
    (List.prefix_append _ _) hops
  rw [roleReads_append] at hlisted
  by_cases hread : 1 < (roleReads (heard r.steps)).length
  · rw [List.getElem?_append_left hread] at hlisted
    exact hindex listed hlisted
  · rw [List.getElem?_append_right (Nat.le_of_not_lt hread)] at hlisted
    have hempty : listed = [] := hblank _ (of_mem_roleReads (List.mem_of_getElem? hlisted))
    rw [hempty]
    exact RoleIndex.separates_ofRoles (by simp)

def repetitive : Config :=
  ⟨false, "", [⟨⟨"Reader"⟩, [("docs", ["read", "purge", "read"])], none, none⟩], "Ops", ["ada", "ada"],
    [⟨⟨"reader"⟩, .global⟩, ⟨⟨"READER"⟩, .global⟩], []⟩

theorem repetitive_frugal :
    let r := Interaction.run Memory.Service.respond (run repetitive) (.reliable .small)
    repetitive.Accepted ∧ (roleReads (heard r.steps))[1]? = some Memory.Store.small.roles ∧
      (RoleIndex.ofRoles Memory.Store.small.roles).Separates ∧
      r.ops.filter Call.isWrite = [.grantPermission (.forRole "r1" "docs" "read"),
        .grantRole (.forGroup "r1" "g1" .global), .addGroupMember "g1" "ada"] ∧
      Frugal repetitive (heard r.steps) r.ops := by
  intro r
  have haccepted : repetitive.Accepted :=
    { faultless := by decide, distinct := by simp [repetitive, DeclaredRole.Distinct] }
  have hread : (roleReads (heard r.steps))[1]? = some Memory.Store.small.roles := by decide +kernel
  have hindex := Memory.Store.small_orderly.separates
  refine ⟨haccepted, hread, hindex, by decide +kernel, run_frugal haccepted _ _ fun listed hlisted => ?_⟩
  obtain rfl : Memory.Store.small.roles = listed := Option.some.inj (hread.symm.trans hlisted)
  exact hindex

end Baseline

end AccessBaseline
