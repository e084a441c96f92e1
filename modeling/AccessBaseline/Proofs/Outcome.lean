import AccessBaseline.Proofs.Convergence
import AccessBaseline.Proofs.Origin

/-! How an undisturbed run ends. Roles, their permissions and the group are always created, so that
every declared role and the group are found afterwards; what can be missing is a role that only a
binding names. The first such binding ends the run before the group is given anything. -/
namespace AccessBaseline
open Memory (Store)

/-- Whether a role is declared, or listed already. -/
def Config.knows (config : Config) (s : Store) (name : RoleName) : Bool :=
  config.roles.any (·.name == name) || s.roles.any (·.roleName == name)

theorem Config.knows_congr (config : Config) (s : Store) {name name' : RoleName}
    (h : name.key = name'.key) : config.knows s name = config.knows s name' := by
  have hsame (other : RoleName) : (other == name) = (other == name') := by
    rw [Bool.eq_iff_iff, RoleName.beq_iff, RoleName.beq_iff, h]
  simp only [knows, hsame]

/-- Whether a store has every declared role with its permissions, and the managed group. -/
structure Provisioned (config : Config) (s : Store) : Prop where
  permissions : ∀ role ∈ config.roles, ∃ id, s.roleId? role.name = some id ∧
    ∀ e ∈ role.permissions, ∀ name ∈ e.2, ∃ p ∈ s.permissions.get id, p.space = e.1 ∧ p.name = name
  group : ∃ group, Group.named? config.groupName s.groups = some group

theorem carryOut_of_found {fs : List Stage} {s : Store}
    (h : ∀ f ∈ fs, ∃ p : Pursuit, (∀ s, f.Follows p s) ∧ ∃ key, p.found s key) :
    ∃ as, (carryOut fs s).2 = .ok as := by
  induction fs generalizing s with
  | nil => exact ⟨[], rfl⟩
  | cons f fs ih =>
    obtain ⟨⟨p, hf, key, hkey⟩, hfs⟩ := List.forall_mem_cons.1 h
    have hok : f s = .ok (Goal.unmet s (p.goals key), p.surplus s key) := (hf s _).2 ⟨key, hkey, rfl⟩
    have hrequests : Goal.Requests (Goal.unmet s (p.goals key)) := (hf s).requests hok
    have hrest : ∃ as, (carryOut fs (s.writeAll (Goal.unmet s (p.goals key)))).2 = .ok as := by
      refine ih fun f' hf' => ?_
      obtain ⟨p', hfollows, key', hkey'⟩ := hfs f' hf'
      exact ⟨p', hfollows, key',
        hrequests.writeAll (P := (p'.found · key')) (fun s g hs => p'.stays hs g) hkey'⟩
    obtain ⟨as, has⟩ := hrest
    rw [carryOut_cons_ok hok]
    exact ⟨p.surplus s key ++ as, by rw [has]; rfl⟩

namespace Stage
variable {config : Config} {s : Store}

theorem creations_follows (config : Config) : ∀ f ∈ creations config, ∃ p, ∀ s, f.Follows p s := by
  intro f hf
  refine front_follows config f ?_
  simp only [creations, front, List.mem_append, List.mem_cons, List.not_mem_nil, or_false] at hf ⊢
  exact hf.imp_right .inl

/-- A declared role is found once the missing ones were created, however its name is spelled. -/
theorem exists_roleId?_of_roles {role : DeclaredRole} (hrole : role ∈ config.roles) :
    ∃ id, (s.writeAll (Missing.roles config.roles (.ofRoles s.roles))).roleId? role.name = some id := by
  obtain ⟨name, hname, hsame⟩ := exists_mem_firsts (List.mem_map_of_mem (f := (·.name)) hrole)
  have hkey : name.key = role.name.key := (RoleName.beq_iff _ _).1 hsame
  have hmet : (Goal.role name).isMet (s.writeAll (Goal.unmet s (Goal.roles config.roles))) = true :=
    Goal.isMet_of_unmet (Goal.possible_roles s config.roles) (List.mem_map_of_mem hname)
  rw [Goal.missing_roles, ← Store.roleId?_congr hkey]
  exact Option.isSome_iff_exists.1 ((RoleIndex.isSome_idOf? _ _).trans hmet)

theorem creations_succeed (config : Config) (s : Store) :
    ∃ as, (carryOut (creations config) s).2 = .ok as := by
  have hroles : roles config s = .ok (Missing.roles config.roles (.ofRoles s.roles),
    Surplus.roles config.roles (.ofRoles s.roles)) := rfl
  let m := s.writeAll (Missing.roles config.roles (.ofRoles s.roles))
  have hrest : ∃ as, (carryOut (config.roles.map permissions ++ [group config]) m).2 = .ok as := by
    refine carryOut_of_found fun f hf => ?_
    cases List.mem_append.1 hf with
    | inl hf =>
      obtain ⟨role, hrole, rfl⟩ := List.mem_map.1 hf
      exact ⟨_, follows_permissions role, exists_roleId?_of_roles hrole⟩
    | inr hf =>
      obtain rfl := List.mem_singleton.1 hf
      exact ⟨_, follows_group config, (), trivial⟩
  obtain ⟨as, has⟩ := hrest
  change ∃ as, (carryOut (roles config :: (config.roles.map permissions ++ [group config])) s).2 = .ok as
  rw [carryOut_cons_ok hroles, has]
  exact ⟨_, rfl⟩

theorem provisioned_creations (config : Config) (s : Store) :
    Provisioned config (s.writeAll (carryOut (creations config) s).1) := by
  obtain ⟨as, has⟩ := creations_succeed config s
  have hsettled := settled_carryOut (creations_follows config) has
  refine ⟨fun role hrole => ?_, ?_⟩
  · refine Settled.permissions (hsettled _ ?_)
    exact List.mem_append_left _ (List.mem_cons_of_mem _ (List.mem_map_of_mem hrole))
  · have hgroup := hsettled (group config) (List.mem_append_right _ List.mem_cons_self)
    obtain ⟨_, -, hmet⟩ := (follows_group config _).settled_iff.1 hgroup
    have hsome := hmet (.group config.groupName) List.mem_cons_self
    exact Option.isSome_iff_exists.1 (Option.isSome_map.symm.trans hsome)

theorem contains_creations (config : Config) (s : Store) (name : RoleName) :
    (RoleIndex.ofRoles (s.writeAll (carryOut (creations config) s).1).roles).contains name =
      config.knows s name := by
  rw [Bool.eq_iff_iff, Config.knows, Bool.or_eq_true]
  constructor
  · intro h
    rw [RoleIndex.contains_ofRoles] at h
    obtain ⟨role, hrole, hname⟩ := List.any_eq_true.1 h
    cases Store.mem_roles_writeAll hrole with
    | inl hold => exact .inr (List.any_eq_true.2 ⟨role, hold, hname⟩)
    | inr hnew =>
      obtain ⟨r, hr, htext⟩ := hnew
      have hdeclared := exists_goal_of_mem_carryOut (P := fun m g => g.Declared config m)
        (fun f hf m calls as h c hc => (exists_of_creations hf h c hc).imp fun g hg => ⟨hg.1, hg.2.1⟩)
        (fun _ _ g' h => h.write g') s _ hr
      obtain ⟨g, hg, hdeclared⟩ := hdeclared
      cases g with
      | role name' =>
        obtain ⟨d, hd, rfl⟩ := hdeclared
        cases hg
        have hsame : d.name = role.roleName := congrArg RoleName.mk htext
        exact .inl (List.any_eq_true.2 ⟨d, hd, by rw [hsame]; exact hname⟩)
      | permission | group | assignment | member => cases hg
  · intro h
    rw [← RoleIndex.isSome_idOf?]
    cases h with
    | inl hdeclared =>
      obtain ⟨role, hrole, hname⟩ := List.any_eq_true.1 hdeclared
      obtain ⟨id, hid, -⟩ := (provisioned_creations config s).permissions role hrole
      rw [Store.roleId?_congr ((RoleName.beq_iff _ _).1 hname)] at hid
      exact Option.isSome_iff_exists.2 ⟨id, hid⟩
    | inr hlisted =>
      rw [← RoleIndex.contains_ofRoles, ← RoleIndex.isSome_idOf?] at hlisted
      obtain ⟨id, hid⟩ := Option.isSome_iff_exists.1 hlisted
      refine Option.isSome_iff_exists.2 ⟨id, ?_⟩
      exact (requests_carryOut (creations_follows config) s).writeAll
        (P := fun s => s.roleId? name = some id) (fun s g hs => s.roleId?_write hs g) hid

/-- The group is given what it lacks when the role of every binding is found. -/
theorem holdings_succeed {group : Group} (hgroup : Group.named? config.groupName s.groups = some group)
    (h : ∀ b ∈ config.bindings, (RoleIndex.ofRoles s.roles).contains b.role = true) :
    ∃ as, (carryOut [assignments config, members config] s).2 = .ok as := by
  obtain ⟨resolved, hresolve⟩ := Reconcile.exists_resolve fun b hb => h b (mem_of_mem_firsts hb)
  have hid : s.groupId? config.groupName = some group.id := congrArg (Option.map Group.id) hgroup
  have hassign := assignments_eq_ok.2 ⟨group.id, resolved, hid, hresolve, rfl⟩
  have hgroups := s.groups_writeAll_assignments group.id (s.assignments.get group.id) resolved
  have hmembers := members_eq_ok.2 ⟨group, (congrArg _ hgroups).trans hgroup, rfl⟩
  rw [carryOut_cons_ok hassign, carryOut_cons_ok hmembers]
  exact ⟨_, rfl⟩

theorem holdings_fail {group : Group} (hgroup : Group.named? config.groupName s.groups = some group)
    {b : Binding}
    (h : (firsts config.bindings).find? (!(RoleIndex.ofRoles s.roles).contains ·.role) = some b) :
    carryOut [assignments config, members config] s = ([], .error (.roleNotFound b.role.text)) := by
  have hid : s.groupId? config.groupName = some group.id := congrArg (Option.map Group.id) hgroup
  have hassign : assignments config s = .error (.roleNotFound b.role.text) := by
    simp only [assignments, hid, Reconcile.resolve_of_find? h]
  rw [carryOut, hassign]

theorem all_succeeds (h : ∀ b ∈ config.bindings, config.knows s b.role = true) :
    ∃ as, (carryOut (all config) s).2 = .ok as := by
  obtain ⟨as, has⟩ := creations_succeed config s
  obtain ⟨group, hgroup⟩ := (provisioned_creations config s).group
  obtain ⟨bs, hbs⟩ := holdings_succeed hgroup fun b hb =>
    (contains_creations config s b.role).trans (h b hb)
  rw [all_eq_creations, carryOut_append, has]
  exact ⟨as ++ bs, congrArg (Except.map (as ++ ·)) hbs⟩

/-- The first binding whose role is unknown ends the run with nothing but the creations. -/
theorem all_fails {b : Binding} (h : config.bindings.find? (!config.knows s ·.role) = some b) :
    carryOut (all config) s =
      ((carryOut (creations config) s).1, .error (.roleNotFound b.role.text)) := by
  obtain ⟨as, has⟩ := creations_succeed config s
  obtain ⟨group, hgroup⟩ := (provisioned_creations config s).group
  have hfirst : (firsts config.bindings).find? (!config.knows s ·.role) = some b := by
    rw [find?_firsts, h]
    intro b b' hsame
    rw [config.knows_congr s ((Binding.beq_iff _ _).1 hsame).1]
  simp only [← contains_creations config s] at hfirst
  rw [all_eq_creations, carryOut_append, has]
  simp only [holdings_fail hgroup hfirst, List.append_nil]
  rfl

end Stage

namespace Baseline
variable {config : Config} {s : Store} (called : List String)

/-- A run on a service that neither fails nor loses anything. -/
abbrev undisturbed (config : Config) (s : Store) (called : List String) :
    Interaction.Run Call Call.Answer Memory.Service (Except Failure Report) :=
  Interaction.run Memory.Service.respond (run config) ⟨s, [], [], called⟩

theorem undisturbed_exact (config : Config) (s : Store) :
    let r := undisturbed config s called
    let out := carryOut (Stage.all config) s
    r.ops.filter Call.isWrite = out.1 ∧ r.state.store = s.writeAll out.1 ∧
      r.result.map (·.anomalies) = out.2 := by
  have hsteady : (⟨s, [], [], called⟩ : Memory.Service).Steady := ⟨rfl, rfl⟩
  obtain ⟨happlied, hstore, houtcome, -⟩ := run_steady config hsteady
  rw [Dialogue.applied_of_steady _ hsteady] at happlied
  exact ⟨happlied, hstore, houtcome⟩

theorem exists_report (h : ∀ b ∈ config.bindings, config.knows s b.role = true) :
    ∃ report, (undisturbed config s called).result = .ok report := by
  obtain ⟨-, -, houtcome⟩ := undisturbed_exact called config s
  obtain ⟨as, has⟩ := Stage.all_succeeds h
  rw [has] at houtcome
  cases hresult : (undisturbed config s called).result with
  | ok report => exact ⟨report, rfl⟩
  | error e =>
    rw [hresult] at houtcome
    cases houtcome

theorem result_of_unknown {b : Binding}
    (h : config.bindings.find? (!config.knows s ·.role) = some b) :
    (undisturbed config s called).result = .error (.roleNotFound b.role.text) := by
  obtain ⟨-, -, houtcome⟩ := undisturbed_exact called config s
  rw [Stage.all_fails h] at houtcome
  cases hresult : (undisturbed config s called).result with
  | ok report =>
    rw [hresult] at houtcome
    cases houtcome
  | error e =>
    rw [hresult] at houtcome
    exact congrArg Except.error (Except.error.inj houtcome)

theorem result_cases (config : Config) (s : Store) :
    (∃ report, (undisturbed config s called).result = .ok report) ∨
      ∃ b ∈ config.bindings, config.knows s b.role = false ∧
        (undisturbed config s called).result = .error (.roleNotFound b.role.text) := by
  cases hfirst : config.bindings.find? (!config.knows s ·.role) with
  | none =>
    refine .inl (exists_report called fun b hb => ?_)
    simpa using List.find?_eq_none.1 hfirst b hb
  | some b =>
    refine .inr ⟨b, List.mem_of_find?_eq_some hfirst, ?_, result_of_unknown called hfirst⟩
    simpa using List.find?_some hfirst

theorem exists_of_unknown {b : Binding}
    (h : config.bindings.find? (!config.knows s ·.role) = some b) {c : Call}
    (hc : c ∈ (undisturbed config s called).ops) (hw : c.isWrite = true) :
    ∃ g : Goal, c = g.request ∧ g.isSingle = true := by
  obtain ⟨hwrites, -⟩ := undisturbed_exact called config s
  rw [Stage.all_fails h] at hwrites
  have hmem : c ∈ (carryOut (Stage.creations config) s).1 := hwrites ▸ List.mem_filter.2 ⟨hc, hw⟩
  exact exists_goal_of_mem_carryOut (P := fun _ g => g.isSingle = true)
    (fun f hf m calls as h c hc =>
      (Stage.exists_of_creations hf h c hc).imp fun g hg => ⟨hg.1, hg.2.2⟩)
    (fun _ _ _ h => h) s c hmem

/-- An undisturbed run succeeds just when the role of every binding is declared or listed already.
Otherwise it ends with the first binding whose role is neither, once all roles, permissions and the
group are there and before anything is granted to the group. A declared role is never reported as not
found, in whatever spelling, and the group never is. -/
theorem run_ends (config : Config) (s : Store) (called : List String) :
    let r := Interaction.run Memory.Service.respond (run config) ⟨s, [], [], called⟩
    ((∃ report, r.result = .ok report) ↔ ∀ b ∈ config.bindings, config.knows s b.role = true) ∧
    (∀ b, config.bindings.find? (!config.knows s ·.role) = some b →
      r.result = .error (.roleNotFound b.role.text) ∧ Provisioned config r.state.store ∧
      (∀ request, .grantRole request ∉ r.ops) ∧ ∀ id user, .addGroupMember id user ∉ r.ops) ∧
    (∀ role ∈ config.roles, ∀ name : RoleName, name.key = role.name.key →
      r.result ≠ .error (.roleNotFound name.text)) ∧
    ∀ name, r.result ≠ .error (.groupNotFound name) := by
  intro r
  have hcases := result_cases called config s
  refine ⟨⟨fun hok b hb => ?_, exists_report called⟩, fun b h => ⟨result_of_unknown called h, ?_, ?_, ?_⟩,
    fun role hrole name hkey hresult => ?_, fun name hresult => ?_⟩
  · by_contra hunknown
    have hsome : (config.bindings.find? (!config.knows s ·.role)).isSome = true :=
      List.find?_isSome.2 ⟨b, hb, by simpa using hunknown⟩
    obtain ⟨b', hb'⟩ := Option.isSome_iff_exists.1 hsome
    obtain ⟨report, hreport⟩ := hok
    cases (result_of_unknown called hb').symm.trans hreport
  · obtain ⟨-, hstore, -⟩ := @run_steady config ⟨s, [], [], called⟩ ⟨rfl, rfl⟩
    rw [show r.state.store = _ from hstore, Stage.all_fails h]
    exact Stage.provisioned_creations config s
  · intro request hmem
    obtain ⟨g, hg, hsingle⟩ := exists_of_unknown called h hmem rfl
    cases g with
    | assignment | member => cases hsingle
    | role | permission | group => cases hg
  · intro id user hmem
    obtain ⟨g, hg, hsingle⟩ := exists_of_unknown called h hmem rfl
    cases g with
    | assignment | member => cases hsingle
    | role | permission | group => cases hg
  · cases hcases with
    | inl hok =>
      obtain ⟨report, hreport⟩ := hok
      cases hresult.symm.trans hreport
    | inr hfail =>
      obtain ⟨b, -, hunknown, hreport⟩ := hfail
      have htext : b.role.text = name.text := by
        injection hreport.symm.trans hresult with hsame
        injection hsame
      have hdeclared : config.roles.any (·.name == name) = true :=
        List.any_eq_true.2 ⟨role, hrole, (RoleName.beq_iff _ _).2 hkey.symm⟩
      rw [show b.role = name from congrArg RoleName.mk htext, Config.knows, hdeclared] at hunknown
      cases hunknown
  · cases hcases with
    | inl hok =>
      obtain ⟨report, hreport⟩ := hok
      cases hresult.symm.trans hreport
    | inr hfail =>
      obtain ⟨b, -, -, hreport⟩ := hfail
      cases hresult.symm.trans hreport

example :
    let config := { Config.small with bindings := [⟨⟨"READER"⟩, .global⟩, ⟨⟨"Écrivain"⟩, .global⟩] }
    let r := Interaction.run Memory.Service.respond (run config) (.reliable .empty)
    r.result = .error (.roleNotFound "Écrivain") ∧ r.ops.getLast? = some (.groupRoleGrants "group-2") :=
  ⟨rfl, by decide +kernel⟩

end Baseline

end AccessBaseline
