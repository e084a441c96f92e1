import AccessBaseline.Proofs.Config
import AccessBaseline.Proofs.Pursuit
import Mathlib.Data.List.Nodup

/-! A run that was cut short can be resumed. From the store that it left, a new run makes just the
writes that were still to come, finds the same anomalies and ends the same way. This takes ids that
tell roles apart and groups apart, also those that are yet to be made. -/
namespace AccessBaseline
open Memory (Store)

/-- No two roles and no two groups have one id, and the ids of what will be created are not in use. -/
structure Memory.Store.Orderly (s : Store) : Prop where
  roles : (s.roles.map (·.id)).Nodup
  groups : (s.groups.map (·.id)).Nodup
  newRoles : ∀ n, s.created < n → "role-" ++ toString n ∉ s.roles.map (·.id)
  newGroups : ∀ n, s.created < n → "group-" ++ toString n ∉ s.groups.map (·.id)

theorem append_toString_inj {name : String} {m n : Nat} (h : name ++ toString m = name ++ toString n) :
    m = n := by
  have hdigits : Nat.toDigits 10 m = Nat.toDigits 10 n := by
    rw [← Nat.toList_repr, ← Nat.toList_repr]
    exact congrArg String.toList ((String.append_right_inj name).1 h)
  have hread := congrArg (Nat.ofDigitChars 10 · 0) hdigits
  simpa only [Nat.ofDigitChars_ten_toDigits] using hread

/-- Every write keeps the ids apart. -/
theorem Memory.Store.Orderly.write {s : Store} (h : s.Orderly) (c : Call) : (s.write c).Orderly := by
  obtain ⟨hroles, hgroups, hnewRoles, hnewGroups⟩ := h
  cases c with
  | createRole r =>
    refine ⟨?_, hgroups, fun n hn => ?_, fun n hn => hnewGroups n (Nat.lt_of_succ_lt hn)⟩
    · change ((s.roles ++ [_]).map _).Nodup
      rw [List.map_append, List.map_singleton, ← List.concat_eq_append]
      exact hroles.concat (hnewRoles _ (Nat.lt_succ_self _))
    · change _ ∉ (s.roles ++ [_]).map _
      rw [List.map_append, List.map_singleton, List.mem_append, List.mem_singleton, not_or]
      exact ⟨hnewRoles n (Nat.lt_of_succ_lt hn), fun heq => Nat.ne_of_gt hn (append_toString_inj heq)⟩
  | createGroup g =>
    refine ⟨hroles, ?_, fun n hn => hnewRoles n (Nat.lt_of_succ_lt hn), fun n hn => ?_⟩
    · change ((s.groups ++ [_]).map _).Nodup
      rw [List.map_append, List.map_singleton, ← List.concat_eq_append]
      exact hgroups.concat (hnewGroups _ (Nat.lt_succ_self _))
    · change _ ∉ (s.groups ++ [_]).map _
      rw [List.map_append, List.map_singleton, List.mem_append, List.mem_singleton, not_or]
      exact ⟨hnewGroups n (Nat.lt_of_succ_lt hn), fun heq => Nat.ne_of_gt hn (append_toString_inj heq)⟩
  | addGroupMember id user =>
    have hids := ids_alterGroup id (· ++ [user]) s.groups
    exact ⟨hroles, hids.symm ▸ hgroups, hnewRoles, fun n hn => hids.symm ▸ hnewGroups n hn⟩
  | removeGroupMember id user =>
    have hids := ids_alterGroup id (·.filter (· ≠ user)) s.groups
    exact ⟨hroles, hids.symm ▸ hgroups, hnewRoles, fun n hn => hids.symm ▸ hnewGroups n hn⟩
  | grantRole r =>
    simp only [Store.write]
    split
    · exact ⟨hroles, hgroups, hnewRoles, hnewGroups⟩
    · exact ⟨hroles, hgroups, hnewRoles, hnewGroups⟩
  | assignableRoles | rolePermissions | grantPermission | groups | groupRoleGrants | capabilities
  | capabilityMembers => exact ⟨hroles, hgroups, hnewRoles, hnewGroups⟩

theorem Memory.Store.Orderly.separates {s : Store} (h : s.Orderly) :
    (RoleIndex.ofRoles s.roles).Separates :=
  RoleIndex.separates_ofRoles fun r hr r' hr' hid => by rw [List.inj_on_of_nodup_map h.roles hr hr' hid]

theorem Memory.Store.Orderly.key_eq {s : Store} (h : s.Orderly) {name name' : RoleName} {id : String}
    (hname : s.roleId? name = some id) (hname' : s.roleId? name' = some id) : name.key = name'.key :=
  h.separates name name' id hname hname'

theorem Memory.Store.Orderly.sole {s : Store} (h : s.Orderly) (name : String) : s.Sole name := by
  intro id hid
  obtain ⟨group, hgroup, rfl⟩ := Option.map_eq_some_iff.1 hid
  have hmem : group.id ∈ s.groups.map (·.id) := List.mem_map_of_mem (List.mem_of_find?_eq_some hgroup)
  exact List.count_eq_one_of_mem h.groups hmem

def Memory.Store.small : Store :=
  ⟨[⟨"r1", "READER", "Global"⟩], [("r1", [⟨"docs", "purge", "Global", "*"⟩])],
    [⟨"g1", "Ops", ["bob"]⟩], [], [], [], 0⟩

theorem Memory.Store.small_orderly : Store.small.Orderly where
  roles := by simp [small]
  groups := by simp [small]
  newRoles n _ h := by simpa using congrArg String.toList (List.mem_singleton.1 h)
  newGroups n _ h := by simpa using congrArg String.toList (List.mem_singleton.1 h)

/-- Whether a stage goes on behind its first write as it would have without a new start. -/
def Stage.Resumes (f : Stage) : Prop :=
  ∀ s c cs as, s.Orderly → f s = .ok (c :: cs, as) → f (s.write c) = .ok (cs, as)

/-- Whether a stage that has nothing to write finds the same behind the first write of another. -/
def Stage.Ignores (f g : Stage) : Prop :=
  ∀ s as c cs bs, s.Orderly → f s = .ok ([], as) → g s = .ok (c :: cs, bs) → f (s.write c) = f s

theorem exists_of_carryOut {fs : List Stage} {s : Store} {c : Call} {cs : List Call}
    (h : (carryOut fs s).1 = c :: cs) : ∃ f ∈ fs, ∃ cs' as, f s = .ok (c :: cs', as) := by
  induction fs with
  | nil => cases h
  | cons f fs ih =>
    cases hf : f s with
    | error e =>
      rw [carryOut, hf] at h
      cases h
    | ok out =>
      obtain ⟨calls, as⟩ := out
      rw [carryOut_cons_ok hf] at h
      cases calls with
      | nil =>
        obtain ⟨g, hg, hfirst⟩ := ih h
        exact ⟨g, List.mem_cons_of_mem _ hg, hfirst⟩
      | cons c' cs' =>
        obtain ⟨rfl, -⟩ := List.cons.inj h
        exact ⟨f, List.mem_cons_self, cs', as, hf⟩

/-- Stages resume together when each resumes and ignores those behind it. -/
theorem carryOut_write {fs : List Stage} (hresumes : ∀ f ∈ fs, f.Resumes)
    (hignores : fs.Pairwise Stage.Ignores) {s : Store} (hs : s.Orderly) {c : Call} {cs : List Call}
    (h : (carryOut fs s).1 = c :: cs) : carryOut fs (s.write c) = (cs, (carryOut fs s).2) := by
  induction fs generalizing cs with
  | nil => cases h
  | cons f fs ih =>
    obtain ⟨hhead, htail⟩ := List.pairwise_cons.1 hignores
    obtain ⟨hf, hfs⟩ := List.forall_mem_cons.1 hresumes
    cases hout : f s with
    | error e =>
      rw [carryOut, hout] at h
      cases h
    | ok out =>
      obtain ⟨calls, as⟩ := out
      rw [carryOut_cons_ok hout] at h ⊢
      cases calls with
      | nil =>
        obtain ⟨g, hg, cs', bs, hfirst⟩ := exists_of_carryOut h
        have hsame := (hhead g hg s as c cs' bs hs hout hfirst).trans hout
        have hrest : carryOut fs (s.write c) = (cs, (carryOut fs s).2) := ih hfs htail h
        rw [carryOut_cons_ok hsame]
        exact congrArg (fun out => (out.1, out.2.map (as ++ ·))) hrest
      | cons c' cs' =>
        obtain ⟨rfl, rfl⟩ := List.cons.inj h
        rw [carryOut_cons_ok (hf s c' cs' as hs hout)]
        rfl

theorem carryOut_writeAll {fs : List Stage} (hresumes : ∀ f ∈ fs, f.Resumes)
    (hignores : fs.Pairwise Stage.Ignores) {s : Store} (hs : s.Orderly) {done rest : List Call}
    (h : (carryOut fs s).1 = done ++ rest) :
    carryOut fs (s.writeAll done) = (rest, (carryOut fs s).2) := by
  induction done generalizing s with
  | nil => exact Prod.ext h rfl
  | cons c done ih =>
    have hfirst := carryOut_write hresumes hignores hs h
    have hrest := ih (hs.write c) (congrArg Prod.fst hfirst)
    rw [hfirst] at hrest
    exact hrest

namespace Surplus

theorem roles_eq (desired : List DeclaredRole) (roles : List Role) :
    Surplus.roles desired (.ofRoles roles) =
      ((RoleIndex.ofRoles roles).others (desired.map (·.name))).map fun role =>
        .undeclaredRole role.name := by
  change (without (firsts _) _).map _ = _
  rw [firsts_of_pairwise (RoleIndex.roleNames_pairwise (RoleIndex.valid_ofRoles roles)), without,
    List.filter_map, List.map_map]
  rfl

theorem space_append {role : RoleName} {space : String} {desired observed added : List String}
    (h : ∀ name ∈ added, name ∈ desired) :
    Surplus.space role space desired (observed ++ added) =
      Surplus.space role space desired observed := by
  rw [Surplus.space, Surplus.space, differences, differences, without_firsts_append]
  exact fun name hname => List.any_eq_true.2 ⟨name, h name hname, BEq.rfl⟩

theorem permissions_append {role : DeclaredRole} (hrole : role.Distinct) {held : List Permission}
    {p : Permission} {names : List String} (hp : (p.space, names) ∈ role.permissions)
    (hname : p.name ∈ names) :
    Surplus.permissions role (held ++ [p]) = Surplus.permissions role held := by
  have hspaces (e) (he : e ∈ role.permissions) :
      Surplus.space role.name e.1 e.2 (Permission.namesIn e.1 (held ++ [p])) =
        Surplus.space role.name e.1 e.2 (Permission.namesIn e.1 held) := by
    rw [Permission.namesIn_append]
    refine space_append fun name hin => ?_
    obtain ⟨q, hq, hspace, rfl⟩ := Permission.mem_namesIn.1 hin
    obtain rfl := List.mem_singleton.1 hq
    have hsame : e = (q.space, names) := List.inj_on_of_nodup_map hrole he hp hspace.symm
    rw [hsame]
    exact hname
  rw [Surplus.permissions, Surplus.permissions, Permission.othersBySpace_append,
    List.flatMap_congr hspaces]
  intro q hq
  obtain rfl := List.mem_singleton.1 hq
  exact List.mem_map_of_mem hp

theorem assignments_append {groupName : String} {index : RoleIndex} {assigned : List Assignment}
    {resolved : List Reconcile.Resolved} {a : Assignment} (h : Reconcile.isDeclared resolved a = true) :
    Surplus.assignments groupName index (assigned ++ [a]) resolved =
      Surplus.assignments groupName index assigned resolved := by
  rw [Surplus.assignments, List.filter_append, List.filter_singleton, h]
  simp [Surplus.assignments]

theorem members_append {group : Group} {desired : List String} {user : String} (h : user ∈ desired) :
    Surplus.members { group with members := group.members ++ [user] } desired =
      Surplus.members group desired := by
  rw [Surplus.members, Surplus.members, differences, differences, without_firsts_append]
  intro name hname
  obtain rfl := List.mem_singleton.1 hname
  exact List.any_eq_true.2 ⟨name, h, BEq.rfl⟩

end Surplus

namespace Stage
variable {config : Config}

/-- A stage that keeps to a pursuit resumes when its goals differ and none of them is flagged. -/
theorem Resumes.of_follows {f : Stage} {p : Pursuit} (hfollows : ∀ s, s.Orderly → f.Follows p s)
    (hdistinct : ∀ s key, s.Orderly → p.found s key →
      (p.goals key).Pairwise fun g g' => (g == g') = false)
    (hsurplus : ∀ s key, s.Orderly → p.found s key → ∀ g ∈ p.goals key,
      p.surplus (s.write g.request) key = p.surplus s key) : f.Resumes := by
  intro s c cs as hs h
  obtain ⟨key, hkey, hout⟩ := (hfollows s hs _).1 h
  obtain ⟨hcalls, rfl⟩ := Prod.mk.inj hout
  obtain ⟨g, hg, -, rfl, hrest⟩ :=
    Goal.unmet_write (hdistinct s key hs hkey) (p.possible hkey) hcalls.symm
  refine (hfollows _ (hs.write _) _).2 ⟨key, p.stays hkey g, ?_⟩
  rw [hrest, hsurplus s key hs hkey g hg]

theorem resumes_roles (config : Config) : (roles config).Resumes := by
  refine .of_follows (fun s _ => follows_roles config s) (fun _ _ _ _ => Goal.roles_pairwise _) ?_
  intro s _ _ _ g hg
  obtain ⟨name, hname, rfl⟩ := List.mem_map.1 hg
  have hdeclared : (config.roles.map (·.name)).any (name == ·) = true :=
    List.any_eq_true.2 ⟨name, mem_of_mem_firsts hname, BEq.rfl⟩
  change Surplus.roles config.roles (.ofRoles (s.roles ++ [_])) = Surplus.roles config.roles _
  rw [Surplus.roles_eq, Surplus.roles_eq, RoleIndex.others_append]
  exact List.forall_mem_singleton.2 hdeclared

theorem resumes_permissions {role : DeclaredRole} (hrole : role.Distinct) :
    (permissions role).Resumes := by
  refine .of_follows (fun s _ => follows_permissions role s)
    (fun _ id _ _ => Goal.permissions_pairwise hrole id) ?_
  intro s id _ _ g hg
  obtain ⟨e, he, name, hname, rfl⟩ := Goal.exists_of_mem_permissions hg
  have hheld : (s.write (Goal.permission id e.1 name).request).permissions.get id =
      s.permissions.get id ++ [⟨e.1, name, Scope.global.name, "*"⟩] :=
    (ListsById.get_push ..).trans (if_pos rfl)
  change Surplus.permissions role ((s.write _).permissions.get id) = Surplus.permissions role _
  rw [hheld]
  exact Surplus.permissions_append hrole he hname

theorem resumes_group (config : Config) : (group config).Resumes :=
  .of_follows (fun s _ => follows_group config s) (fun _ _ _ _ => List.pairwise_singleton _ _)
    fun _ _ _ _ _ _ => rfl

theorem resumes_assignments (config : Config) : (assignments config).Resumes := by
  refine .of_follows (fun s _ => follows_assignments config s)
    (fun _ key hs hkey => Goal.assignments_pairwise hs.separates hkey.2 key.1) ?_
  intro s key _ _ g hg
  obtain ⟨r, hr, rfl⟩ := List.mem_map.1 hg
  let c := (Goal.assignment key.1 r.roleId r.binding.scope).request
  have hheld : (s.write c).assignments.get key.1 = s.assignments.get key.1 ++
      [⟨r.roleId, EntityKind.group.name, key.1, r.binding.scope.name, ""⟩] :=
    (ListsById.get_push ..).trans (if_pos rfl)
  have hgives : Reconcile.isDeclared key.2
      ⟨r.roleId, EntityKind.group.name, key.1, r.binding.scope.name, ""⟩ = true := by
    refine List.any_eq_true.2 ⟨r, hr, ?_⟩
    rw [Assignment.gives, Goal.covers_name, BEq.rfl, BEq.rfl]
    rfl
  change Surplus.assignments config.groupName (.ofRoles s.roles)
      ((s.write c).assignments.get key.1) key.2 =
    Surplus.assignments config.groupName (.ofRoles s.roles) (s.assignments.get key.1) key.2
  rw [hheld]
  exact Surplus.assignments_append hgives

theorem resumes_members (config : Config) : (members config).Resumes := by
  refine .of_follows (fun s hs => follows_members (hs.sole _))
    (fun _ id _ _ => Goal.members_pairwise id _) ?_
  intro s id hs hkey g hg
  obtain ⟨group, hgroup, rfl⟩ := Option.map_eq_some_iff.1 hkey
  obtain ⟨user, huser, rfl⟩ := List.mem_map.1 hg
  have hgroup' : Group.named? config.groupName (s.write (Goal.member group.id user).request).groups =
      some { group with members := group.members ++ [user] } :=
    Store.named?_alterGroup_self hgroup ((hs.sole _).find? hgroup) _
  rw [Pursuit.surplus_members hgroup, Pursuit.surplus_members hgroup']
  exact Surplus.members_append (mem_of_mem_firsts huser)

theorem roles_congr {s t : Store} (h : t.roles = s.roles) : roles config t = roles config s := by
  simp only [roles, h]

theorem permissions_congr {role : DeclaredRole} {s t : Store} (hroles : t.roles = s.roles)
    (h : ∀ id, s.roleId? role.name = some id → t.permissions.get id = s.permissions.get id) :
    permissions role t = permissions role s := by
  cases hid : (RoleIndex.ofRoles s.roles).requireId role.name with
  | error e => simp only [permissions, hroles, hid]
  | ok id => simp only [permissions, hroles, hid, h id (RoleIndex.requireId_eq_ok.1 hid)]

theorem group_congr {s t : Store} (h : t.groupId? config.groupName = s.groupId? config.groupName) :
    group config t = group config s := by
  have hnone : (Group.named? config.groupName t.groups).isNone =
      (Group.named? config.groupName s.groups).isNone := by
    rw [← Option.isNone_map (f := Group.id), ← Option.isNone_map (f := Group.id)]
    exact congrArg Option.isNone h
  simp only [group, Missing.group, hnone]

theorem assignments_congr {s t : Store} (hroles : t.roles = s.roles)
    (hgroup : t.groupId? config.groupName = s.groupId? config.groupName)
    (h : t.assignments = s.assignments) : assignments config t = assignments config s := by
  simp only [assignments, hroles, hgroup, h]

theorem ignores_permissions {role role' : DeclaredRole} (hne : role.name.key ≠ role'.name.key) :
    (permissions role).Ignores (permissions role') := by
  intro s as c cs bs hs _ hc
  obtain ⟨id', hid', g, hg, rfl⟩ := (follows_permissions role' s).mem hc List.mem_cons_self
  obtain ⟨e, -, name, -, rfl⟩ := Goal.exists_of_mem_permissions hg
  refine permissions_congr rfl fun id hid => ?_
  have hother : id ≠ id' := by
    intro hsame
    subst hsame
    exact hne (hs.key_eq hid hid')
  exact (ListsById.get_push ..).trans (if_neg hother)

section
variable {s : Store} {c : Call} {cs : List Call} {bs : List Anomaly}

theorem exists_of_assignments (h : assignments config s = .ok (c :: cs, bs)) :
    ∃ id roleId scope, c = (Goal.assignment id roleId scope).request := by
  obtain ⟨key, -, g, hg, rfl⟩ := (follows_assignments config s).mem h List.mem_cons_self
  obtain ⟨r, -, rfl⟩ := List.mem_map.1 hg
  exact ⟨key.1, r.roleId, r.binding.scope, rfl⟩

theorem exists_of_members (hs : s.Orderly) (h : members config s = .ok (c :: cs, bs)) :
    ∃ id user, c = (Goal.member id user).request := by
  obtain ⟨id, -, g, hg, rfl⟩ := (follows_members (hs.sole _)).mem h List.mem_cons_self
  obtain ⟨user, -, rfl⟩ := List.mem_map.1 hg
  exact ⟨id, user, rfl⟩

theorem keeps_roles {f : Stage} (hf : f ∈ [group config, assignments config, members config])
    (hs : s.Orderly) (h : f s = .ok (c :: cs, bs)) :
    (s.write c).roles = s.roles ∧ (s.write c).permissions = s.permissions := by
  simp only [List.mem_cons, List.not_mem_nil, or_false] at hf
  rcases hf with rfl | rfl | rfl
  · obtain ⟨key, -, g, hg, rfl⟩ := (follows_group config s).mem h List.mem_cons_self
    obtain rfl := List.mem_singleton.1 hg
    exact ⟨rfl, rfl⟩
  · obtain ⟨id, roleId, scope, rfl⟩ := exists_of_assignments h
    exact ⟨rfl, rfl⟩
  · obtain ⟨id, user, rfl⟩ := exists_of_members hs h
    exact ⟨rfl, rfl⟩

end

theorem ignores_group (config : Config) :
    [group config, assignments config, members config].Pairwise Ignores := by
  refine .cons (fun f hf => ?_) (.cons (fun f hf => ?_) (List.pairwise_singleton _ _))
  · intro s as c cs bs hs _ hc
    rcases List.mem_pair.1 hf with rfl | rfl
    · obtain ⟨id, roleId, scope, rfl⟩ := exists_of_assignments hc
      exact group_congr rfl
    · obtain ⟨id, user, rfl⟩ := exists_of_members hs hc
      exact group_congr (s.groupId?_alterGroup _ id _)
  · intro s as c cs bs hs _ hc
    obtain rfl := List.mem_singleton.1 hf
    obtain ⟨id, user, rfl⟩ := exists_of_members hs hc
    exact assignments_congr rfl (s.groupId?_alterGroup _ id _) rfl

theorem all_ignores (haccepted : config.Accepted) : (all config).Pairwise Ignores := by
  have hpermissions : (config.roles.map permissions).Pairwise Ignores := by
    have hkeys := List.pairwise_map.1 haccepted.roleKeys_nodup
    exact List.pairwise_map.2 (hkeys.imp fun hne => ignores_permissions hne)
  refine List.pairwise_cons.2
    ⟨fun f hf => ?_, List.pairwise_append.2 ⟨hpermissions, ignores_group config, ?_⟩⟩
  · intro s as c cs bs hs _ hc
    rcases List.mem_append.1 hf with hf | hf
    · obtain ⟨role, -, rfl⟩ := List.mem_map.1 hf
      obtain ⟨id, -, g, hg, rfl⟩ := (follows_permissions role s).mem hc List.mem_cons_self
      obtain ⟨e, -, name, -, rfl⟩ := Goal.exists_of_mem_permissions hg
      exact roles_congr rfl
    · exact roles_congr (keeps_roles hf hs hc).1
  · intro f hf g hg s as c cs bs hs _ hc
    obtain ⟨role, -, rfl⟩ := List.mem_map.1 hf
    obtain ⟨hroles, hheld⟩ := keeps_roles hg hs hc
    exact permissions_congr hroles fun _ _ => by rw [hheld]

theorem all_resumes (haccepted : config.Accepted) : ∀ f ∈ all config, f.Resumes := by
  refine List.forall_mem_cons.2 ⟨resumes_roles config, List.forall_mem_append.2 ⟨fun f hf => ?_, ?_⟩⟩
  · obtain ⟨role, hrole, rfl⟩ := List.mem_map.1 hf
    exact resumes_permissions (haccepted.distinct role hrole)
  · simp only [List.forall_mem_cons]
    exact ⟨resumes_group config, resumes_assignments config, resumes_members config, by simp⟩

end Stage

namespace Baseline

/-- A run that any failures cut short has made the first writes of the undisturbed run. From the store
after any number of these, an undisturbed run makes the writes that remain, leaves what the first would
have left and ends as it would have ended. -/
theorem run_resumes {config : Config} (haccepted : config.Accepted) {s : Store} (hs : s.Orderly) :
    let whole := Interaction.run Memory.Service.respond (run config) (.reliable s)
    (∀ disruptions called,
      let cut := Interaction.run Memory.Service.respond (run config) ⟨s, disruptions, [], called⟩
      applied cut.steps <+: applied whole.steps ∧ cut.state.store = s.writeAll (applied cut.steps)) ∧
    ∀ k,
      let rest := Interaction.run Memory.Service.respond (run config)
        (.reliable (s.writeAll ((applied whole.steps).take k)))
      applied rest.steps = (applied whole.steps).drop k ∧ rest.state.store = whole.state.store ∧
        rest.result.map (·.anomalies) = whole.result.map (·.anomalies) := by
  intro whole
  have hcalm (s : Store) : (Memory.Service.reliable s).Steady := ⟨rfl, rfl⟩
  obtain ⟨happlied, hstore, hresult, -⟩ := run_steady config (hcalm s)
  refine ⟨fun disruptions called => ?_, fun k => ?_⟩
  · have hkeeps : (⟨s, disruptions, [], called⟩ : Memory.Service).forgotten = [] := rfl
    obtain ⟨hinitial, hcut, -⟩ := (haltsOn_run config).cut_short hkeeps (hcalm s) rfl
    exact ⟨hinitial, hcut⟩
  · obtain ⟨happlied', hstore', hresult', -⟩ :=
      run_steady config (hcalm (s.writeAll ((applied whole.steps).take k)))
    have hsplit : (carryOut (Stage.all config) s).1 =
        (applied whole.steps).take k ++ (applied whole.steps).drop k := by
      rw [List.take_append_drop]
      exact happlied.symm
    have hrest :=
      carryOut_writeAll (Stage.all_resumes haccepted) (Stage.all_ignores haccepted) hs hsplit
    rw [show (Memory.Service.reliable (s.writeAll _)).store = s.writeAll _ from rfl, hrest]
      at happlied' hstore' hresult'
    refine ⟨happlied', ?_, hresult'.trans hresult.symm⟩
    rw [hstore', ← Store.writeAll_append, List.take_append_drop]
    exact (congrArg s.writeAll happlied).trans hstore.symm

theorem small_resumes :
    let whole := Interaction.run Memory.Service.respond (run Config.small) (.reliable .small)
    let rest := Interaction.run Memory.Service.respond (run Config.small)
      (.reliable (Store.small.writeAll ((applied whole.steps).take 1)))
    Config.small.Accepted ∧ Store.small.Orderly ∧ applied rest.steps = (applied whole.steps).drop 1 ∧
      rest.state.store = whole.state.store :=
  have h := (run_resumes Config.small_accepted Store.small_orderly).2 1
  ⟨Config.small_accepted, Store.small_orderly, h.1, h.2.1⟩

end Baseline

end AccessBaseline
