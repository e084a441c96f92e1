import AccessBaseline.Proofs.Audit
import AccessBaseline.Proofs.Frugality
import AccessBaseline.Proofs.Outcome
import AccessBaseline.Seed

/-! The seed tables against a run. On a service that holds nothing, an undisturbed run creates the roles
that have rows, in their order, and grants the permissions that have rows, in their order, each of them
once. -/
namespace AccessBaseline
open Memory (Store)

namespace Call

def newRole? : Call → Option NewRole
  | createRole role => some role
  | _ => none

def permissionRequest? : Call → Option PermissionRequest
  | grantPermission request => some request
  | _ => none

theorem newRole?_of_read {c : Call} (h : c.isWrite = false) : c.newRole? = none := by
  cases c with
  | createRole => cases h
  | _ => rfl

theorem permissionRequest?_of_read {c : Call} (h : c.isWrite = false) : c.permissionRequest? = none := by
  cases c with
  | grantPermission => cases h
  | _ => rfl

end Call

namespace Seed

structure Entry where
  role : DeclaredRole
  row : RoleRow
  space : String
  permission : String

def entries (seed : Seed) (roles : List DeclaredRole) : List Entry :=
  (roles.zip seed.roles).flatMap fun e =>
    (permissionsOf e.1).map fun p => ⟨e.1, e.2, p.1, p.2⟩

/-- Whether tables agree with the declared roles and with a run: a row for each role and for each role
that was created, and a row for each permission and for each that was granted. -/
structure Matches {α : Type} (seed : Seed) (roles : List DeclaredRole)
    (r : Interaction.Run Call Call.Answer Memory.Service α) : Prop where
  rows : List.Forall₂ (fun role row => row.name = role.name.text ∧ ∀ id ∈ role.existingId?, row.id = id)
    roles seed.roles
  created : List.Forall₂
    (fun e new => e.2.name = new.name ∧ (e.1.description? = none → e.2.description = new.description))
    (roles.zip seed.roles) (r.ops.filterMap Call.newRole?)
  grants : List.Forall₂
    (fun e grant => grant.holderId = e.row.id ∧ grant.space = e.space ∧ grant.permission = e.permission)
    (seed.entries roles) seed.grants
  granted : List.Forall₂
    (fun e request => r.state.store.roleId? e.role.name = some request.holderId ∧
      request.space = e.space ∧ request.name = e.permission)
    (seed.entries roles) (r.ops.filterMap Call.permissionRequest?)
  distinct : ((seed.entries roles).map fun e => (e.role.name.key, e.space, e.permission)).Nodup

section Build
variable (supply : Supply) (timestamp : String) (roles : List DeclaredRole)

theorem length_build : (build supply timestamp roles).roles.length = roles.length := by
  simp [build]

theorem rows_build :
    List.Forall₂ (fun role row => row.name = role.name.text ∧ row.description = description role ∧
      ∀ id ∈ role.existingId?, row.id = id) roles (build supply timestamp roles).roles := by
  refine List.forall₂_iff_get.2 ⟨(length_build ..).symm, fun i h h' => ?_⟩
  simp only [build, List.get_eq_getElem, List.getElem_map, List.getElem_mapIdx, roleRow, true_and]
  intro id hid
  rw [Option.mem_def.1 hid, Option.getD_some]

/-- A role that is created without a declared description gets that of its row. -/
theorem generated_of_rows {roles : List DeclaredRole} {rows : List RoleRow}
    (h : List.Forall₂ (fun role row => row.name = role.name.text ∧ row.description = description role)
      roles rows) :
    List.Forall₂
      (fun e new => e.2.name = new.name ∧ (e.1.description? = none → e.2.description = new.description))
      (roles.zip rows) (roles.map fun role => NewRole.generated role.name) := by
  induction h with
  | nil => exact .nil
  | cons hrow _ ih =>
    refine .cons ⟨hrow.1, fun hnone => ?_⟩ ih
    rw [hrow.2, description, hnone]
    rfl

theorem grants_build :
    List.Forall₂
      (fun e grant => grant.holderId = e.row.id ∧ grant.space = e.space ∧ grant.permission = e.permission)
      ((build supply timestamp roles).entries roles) (build supply timestamp roles).grants := by
  have hidentified : roles.mapIdx (fun i role => (role.existingId?.getD (supply.roleId i), role)) =
      (roles.zip (build supply timestamp roles).roles).map fun e => (e.2.id, e.1) := by
    refine List.ext_getElem (by simp [build]) fun i h h' => ?_
    simp [build, roleRow]
  have hgranted : (roles.mapIdx fun i role => (role.existingId?.getD (supply.roleId i), role)).flatMap
      (fun e => (permissionsOf e.2).map (e.1, ·)) =
      ((build supply timestamp roles).entries roles).map fun e => (e.row.id, e.space, e.permission) := by
    rw [hidentified, entries, List.flatMap_map, List.map_flatMap]
    simp only [List.map_map]
    rfl
  have hgrants : (build supply timestamp roles).grants =
      (((build supply timestamp roles).entries roles).map fun e => (e.row.id, e.space, e.permission)).mapIdx
        fun i e => grantRow timestamp (supply.grantId i) e.1 e.2 := by
    rw [← hgranted]
    rfl
  rw [hgrants]
  refine List.forall₂_iff_get.2 ⟨by simp, fun i h h' => ?_⟩
  simp [grantRow]

theorem map_entries {β : Type} (f : DeclaredRole → String × String → β) :
    ((build supply timestamp roles).entries roles).map (fun e => f e.role (e.space, e.permission)) =
      roles.flatMap fun role => (permissionsOf role).map (f role) := by
  have hroles : (roles.zip (build supply timestamp roles).roles).map Prod.fst = roles :=
    List.map_fst_zip (length_build ..).ge
  conv_rhs => rw [← hroles]
  rw [entries, List.map_flatMap, List.flatMap_map]
  simp only [List.map_map]
  rfl

end Build

theorem nodup_flatMap_keyed {α β κ : Type} {key : α → κ} {f : α → List β} {as : List α}
    (hkeys : (as.map key).Nodup) (hf : ∀ a ∈ as, (f a).Nodup) :
    (as.flatMap fun a => (f a).map (key a, ·)).Nodup := by
  have hne : as.Pairwise fun a a' => key a ≠ key a' := List.pairwise_map.1 hkeys
  refine List.nodup_flatMap.2 ⟨fun a ha => ?_, hne.imp fun {a a'} hne e he he' => ?_⟩
  · exact (hf a ha).map (Prod.mk_right_injective (key a))
  · obtain ⟨b, -, rfl⟩ := List.mem_map.1 he
    obtain ⟨b', -, hsame⟩ := List.mem_map.1 he'
    exact hne (congrArg Prod.fst hsame).symm

theorem permissionsOf_nodup {role : DeclaredRole} (hrole : role.Distinct) : (permissionsOf role).Nodup := by
  have hnames (names : List String) : (firsts names).Nodup :=
    (firsts_pairwise names).imp fun h => beq_eq_false_iff_ne.1 h
  exact nodup_flatMap_keyed (f := fun e : String × List String => firsts e.2) hrole fun e _ => hnames e.2

theorem entries_nodup {config : Config} (haccepted : config.Accepted) (supply : Supply)
    (timestamp : String) :
    (((build supply timestamp config.roles).entries config.roles).map fun e =>
      (e.role.name.key, e.space, e.permission)).Nodup := by
  rw [map_entries supply timestamp config.roles fun role p => (role.name.key, p)]
  exact nodup_flatMap_keyed haccepted.roleKeys_nodup fun role hrole =>
    permissionsOf_nodup (haccepted.distinct role hrole)

end Seed

theorem Missing.roles_of_none {config : Config} (haccepted : config.Accepted) :
    Missing.roles config.roles (.ofRoles []) =
      config.roles.map fun role => .createRole (.generated role.name) := by
  have hnames : (config.roles.map (·.name)).Pairwise fun a b => (a == b) = false := by
    refine List.pairwise_map.2 ((List.pairwise_map.1 haccepted.roleKeys_nodup).imp fun hne => ?_)
    exact Bool.eq_false_iff.2 fun hsame => hne ((RoleName.beq_iff _ _).1 hsame)
  have hall : without (firsts (config.roles.map (·.name))) [] = config.roles.map (·.name) := by
    simp [without, firsts_of_pairwise hnames]
  change (without _ []).map _ = _
  rw [hall, List.map_map]
  rfl

theorem Missing.permissions_of_none (role : DeclaredRole) (roleId : String) :
    Missing.permissions role roleId [] =
      (Seed.permissionsOf role).map fun p => .grantPermission (.forRole roleId p.1 p.2) := by
  have hspace (e : String × List String) : Missing.space roleId e.1 e.2 [] =
      ((firsts e.2).map (e.1, ·)).map fun p => .grantPermission (.forRole roleId p.1 p.2) := by
    simp [Missing.space, differences, without]
  rw [Missing.permissions, Seed.permissionsOf, List.map_flatMap]
  exact List.flatMap_congr fun e _ => hspace e

theorem Memory.Store.empty_orderly : Store.empty.Orderly where
  roles := .nil
  groups := .nil
  newRoles _ _ := List.not_mem_nil
  newGroups _ _ := List.not_mem_nil

namespace Stage
variable {config : Config} {s : Store}

theorem grants_of_permissions {roles : List DeclaredRole} (hs : s.Orderly)
    (hkeys : (roles.map (·.name.key)).Nodup)
    (hnone : ∀ role ∈ roles, ∃ id, s.roleId? role.name = some id ∧ s.permissions.get id = []) :
    ∃ calls as, carryOut (roles.map permissions) s = (calls, .ok as) ∧
      calls.filterMap Call.newRole? = [] ∧
      (calls.filterMap Call.permissionRequest?).map (fun q => (some q.holderId, q.space, q.name)) =
        roles.flatMap fun role => (Seed.permissionsOf role).map (s.roleId? role.name, ·) := by
  induction roles generalizing s with
  | nil => exact ⟨[], [], rfl, rfl, rfl⟩
  | cons role roles ih =>
    obtain ⟨hhead, htail⟩ := List.nodup_cons.1 hkeys
    obtain ⟨⟨id, hid, hheld⟩, hrest⟩ := List.forall_mem_cons.1 hnone
    have hok := permissions_eq_ok.2 ⟨id, hid, rfl⟩
    rw [hheld, Missing.permissions_of_none] at hok
    let first := (Seed.permissionsOf role).map fun p => Call.grantPermission (.forRole id p.1 p.2)
    have hroles : (s.writeAll first).roles = s.roles := by
      rw [← s.roles_writeAll_permissions role id [], Missing.permissions_of_none]
    have hids (name : RoleName) : (s.writeAll first).roleId? name = s.roleId? name := by
      simp only [Store.roleId?, hroles]
    have hnext (role') (hrole' : role' ∈ roles) : ∃ id', (s.writeAll first).roleId? role'.name = some id' ∧
        (s.writeAll first).permissions.get id' = [] := by
      obtain ⟨id', hid', hheld'⟩ := hrest role' hrole'
      refine ⟨id', (hids _).trans hid', List.eq_nil_iff_forall_not_mem.2 fun p hp => ?_⟩
      cases Store.mem_permissions_writeAll hp with
      | inl hold =>
        rw [hheld'] at hold
        cases hold
      | inr hnew =>
        obtain ⟨r, hr, hholder, -⟩ := hnew
        obtain ⟨q, -, hq⟩ := List.mem_map.1 hr
        cases hq
        have hkey : role'.name.key = role.name.key := hs.key_eq hid' (hholder ▸ hid)
        exact hhead (List.mem_map.2 ⟨role', hrole', hkey⟩)
    obtain ⟨calls, as, hout, hcreated, hgranted⟩ := ih (hs.writeAll first) htail hnext
    simp only [hids] at hgranted
    refine ⟨first ++ calls, Surplus.permissions role [] ++ as, ?_, ?_, ?_⟩
    · rw [List.map_cons, carryOut_cons_ok hok, hout]
      rfl
    · rw [List.filterMap_append, hcreated, List.append_nil]
      simp [first, List.filterMap_map, Call.newRole?]
    · rw [List.filterMap_append, List.map_append, hgranted, List.flatMap_cons]
      simp [first, List.filterMap_map, Function.comp_def, Call.permissionRequest?, PermissionRequest.forRole, hid]

theorem filterMap_carryOut {β : Type} {v : Call → Option β} {fs : List Stage}
    (h : ∀ f ∈ fs, ∀ m calls as, f m = .ok (calls, as) → ∀ c ∈ calls, v c = none) (s : Store) :
    (carryOut fs s).1.filterMap v = [] := by
  induction fs generalizing s with
  | nil => rfl
  | cons f fs ih =>
    obtain ⟨hf, hfs⟩ := List.forall_mem_cons.1 h
    cases hout : f s with
    | error e => simp [carryOut, hout]
    | ok out =>
      have hcalls : out.1.filterMap v = [] := List.filterMap_eq_nil_iff.2 (hf s out.1 out.2 hout)
      rw [carryOut_cons_ok hout, List.filterMap_append, hcalls, ih hfs]
      rfl

theorem not_created_later {f : Stage} (hf : f ∈ [group config, assignments config, members config])
    {calls : List Call} {as : List Anomaly} (h : f s = .ok (calls, as)) :
    ∀ c ∈ calls, c.newRole? = none ∧ c.permissionRequest? = none := by
  intro c hc
  simp only [List.mem_cons, List.not_mem_nil, or_false] at hf
  rcases hf with rfl | rfl | rfl
  · cases h
    obtain ⟨rfl, -⟩ := Missing.of_mem_group hc
    exact ⟨rfl, rfl⟩
  · obtain ⟨id, resolved, -, -, hout⟩ := assignments_eq_ok.1 h
    cases hout
    obtain ⟨roleId, scope, rfl, -⟩ := Missing.of_mem_assignments hc
    exact ⟨rfl, rfl⟩
  · obtain ⟨group, -, hout⟩ := members_eq_ok.1 h
    cases hout
    obtain ⟨user, rfl, -⟩ := Missing.of_mem_members hc
    exact ⟨rfl, rfl⟩

theorem all_of_empty (haccepted : config.Accepted) :
    let calls := (carryOut (all config) .empty).1
    calls.filterMap Call.newRole? = config.roles.map (fun role => .generated role.name) ∧
      (calls.filterMap Call.permissionRequest?).map (fun q => (some q.holderId, q.space, q.name)) =
        config.roles.flatMap fun role =>
          (Seed.permissionsOf role).map ((Store.empty.writeAll calls).roleId? role.name, ·) := by
  let created := Missing.roles config.roles (.ofRoles Store.empty.roles)
  let m := Store.empty.writeAll created
  have hcreated : created = config.roles.map fun role => .createRole (.generated role.name) :=
    Missing.roles_of_none haccepted
  have hnone (role) (hrole : role ∈ config.roles) :
      ∃ id, m.roleId? role.name = some id ∧ m.permissions.get id = [] := by
    obtain ⟨id, hid⟩ := exists_roleId?_of_roles (s := .empty) hrole
    refine ⟨id, hid, List.eq_nil_iff_forall_not_mem.2 fun p hp => ?_⟩
    cases Store.mem_permissions_writeAll hp with
    | inl hold => cases hold
    | inr hnew =>
      obtain ⟨r, hr, -⟩ := hnew
      rw [hcreated] at hr
      obtain ⟨role', -, heq⟩ := List.mem_map.1 hr
      cases heq
  obtain ⟨granted, as, hgranted, hnoRoles, hrequests⟩ :=
    grants_of_permissions (Store.empty_orderly.writeAll created) haccepted.roleKeys_nodup hnone
  let later := (carryOut [group config, assignments config, members config] (m.writeAll granted)).1
  have hall : (carryOut (all config) .empty).1 = created ++ (granted ++ later) := by
    have hroles : roles config .empty = .ok (created, Surplus.roles config.roles (.ofRoles [])) := rfl
    rw [all, List.cons_append, carryOut_cons_ok hroles, carryOut_append, hgranted]
  -- The ids under which permissions are granted are those of the final store, too.
  have hstays (role) (hrole : role ∈ config.roles) :
      (Store.empty.writeAll (created ++ (granted ++ later))).roleId? role.name = m.roleId? role.name := by
    obtain ⟨id, hid, -⟩ := hnone role hrole
    have hgoals : Goal.Requests (granted ++ later) := by
      intro c hc
      obtain ⟨g, hg, -⟩ := wanted_of_mem_carryOut config .empty c (hall ▸ List.mem_append_right _ hc)
      exact ⟨g, hg⟩
    rw [Store.writeAll_append, hid]
    exact hgoals.writeAll (P := (·.roleId? role.name = some id)) (fun s g hs => s.roleId?_write hs g) hid
  have hlater := fun f (hf : f ∈ [group config, assignments config, members config]) =>
    fun m calls as (h : f m = .ok (calls, as)) => not_created_later hf h
  have hlaterRoles : later.filterMap Call.newRole? = [] :=
    filterMap_carryOut (fun f hf m calls as h c hc => (hlater f hf m calls as h c hc).1) _
  have hlaterRequests : later.filterMap Call.permissionRequest? = [] :=
    filterMap_carryOut (fun f hf m calls as h c hc => (hlater f hf m calls as h c hc).2) _
  refine ⟨?_, ?_⟩
  · rw [hall, List.filterMap_append, List.filterMap_append, hnoRoles, hlaterRoles, hcreated]
    simp [List.filterMap_map, Function.comp_def, Call.newRole?]
  · rw [hall, List.filterMap_append, List.filterMap_append, hlaterRequests, List.append_nil, hcreated]
    rw [show (config.roles.map fun role => Call.createRole (.generated role.name)).filterMap
      Call.permissionRequest? = [] by simp [List.filterMap_map, Call.permissionRequest?], List.nil_append, hrequests]
    refine List.flatMap_congr fun role hrole => ?_
    rw [← hcreated, hstays role hrole]

end Stage

theorem Call.filterMap_writes {β : Type} {v : Call → Option β} (hv : ∀ c, c.isWrite = false → v c = none)
    (calls : List Call) : (calls.filter Call.isWrite).filterMap v = calls.filterMap v := by
  rw [List.filterMap_filter]
  congr 1
  funext c
  by_cases h : c.isWrite = true
  · simp [h]
  · simp [h, hv c (Bool.eq_false_iff.2 h)]

namespace Baseline

/-- The tables for a configuration have just the roles that an undisturbed run creates on a service that
holds nothing, and just the permissions that it grants, in the same order, however the run ends. -/
theorem run_matches_seed {config : Config} (haccepted : config.Accepted) {supply : Seed.Supply}
    {now : Moment} {seed : Seed} (hseed : Seed.ofRoles supply now config.roles = .ok seed)
    (called : List String) : seed.Matches config.roles (undisturbed config .empty called) := by
  obtain ⟨timestamp, rfl⟩ : ∃ timestamp, Seed.build supply timestamp config.roles = seed := by
    unfold Seed.ofRoles at hseed
    split at hseed
    · cases hseed
    · next timestamp _ => exact ⟨timestamp, Except.ok.inj hseed⟩
  obtain ⟨hwrites, hstore, -⟩ := undisturbed_exact called config .empty
  have hview {β : Type} {v : Call → Option β} (hv : ∀ c, c.isWrite = false → v c = none) :
      (undisturbed config .empty called).ops.filterMap v =
        (carryOut (Stage.all config) .empty).1.filterMap v := by
    rw [← Call.filterMap_writes hv]
    exact congrArg (List.filterMap v) hwrites
  obtain ⟨hcreated, hgranted⟩ := Stage.all_of_empty haccepted
  have hrows := Seed.rows_build supply timestamp config.roles
  refine ⟨hrows.imp fun _ _ h => ⟨h.1, h.2.2⟩, ?_, Seed.grants_build .., ?_,
    Seed.entries_nodup haccepted supply timestamp⟩
  · rw [hview fun c => Call.newRole?_of_read, hcreated]
    exact Seed.generated_of_rows (hrows.imp fun _ _ h => ⟨h.1, h.2.1⟩)
  · have hentries := Seed.map_entries supply timestamp config.roles fun role p =>
      ((undisturbed config .empty called).state.store.roleId? role.name, p)
    rw [hstore, ← hgranted] at hentries
    rw [hview fun c => Call.permissionRequest?_of_read, hstore]
    have hpairs := List.forall₂_map_right_iff.1 (List.forall₂_map_left_iff.1 (List.forall₂_eq_eq_eq ▸ hentries))
    exact hpairs.imp fun e request h => by simpa [eq_comm] using h

def described : Config :=
  ⟨false, "", [⟨⟨"Reader"⟩, [("docs", ["read", "list", "read"]), ("wiki", [])], none, some "id-7"⟩,
    ⟨⟨"Writer"⟩, [("docs", ["read"])], some "Writes.", none⟩], "Ops", [], [⟨⟨"ghost"⟩, .global⟩], []⟩

theorem described_accepted : described.Accepted where
  faultless := by decide +kernel
  distinct := by simp [described, DeclaredRole.Distinct]

/-- The run fails on the binding, and the tables agree with what it wrote before. -/
theorem described_matches_seed :
    let supply := Seed.Supply.ofList 2 ["a", "b", "c", "d", "e"]
    let r := undisturbed described .empty []
    described.Accepted ∧ r.result = .error (.roleNotFound "ghost") ∧
      ∃ seed, Seed.ofRoles supply ⟨0, 0, 0⟩ described.roles = .ok seed ∧ seed.Matches described.roles r ∧
        seed.grants.map (·.holderId) = ["id-7", "id-7", "b"] := by
  have hseed : ∃ seed, Seed.ofRoles (.ofList 2 ["a", "b", "c", "d", "e"]) ⟨0, 0, 0⟩ described.roles =
      .ok seed ∧ seed.grants.map (·.holderId) = ["id-7", "id-7", "b"] := ⟨_, by rfl, by rfl⟩
  obtain ⟨seed, hseed, hholders⟩ := hseed
  exact ⟨described_accepted, by rfl, seed, hseed, run_matches_seed described_accepted hseed [], hholders⟩

end Baseline

end AccessBaseline
