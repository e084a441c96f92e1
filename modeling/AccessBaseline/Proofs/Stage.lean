import AccessBaseline.Proofs.Baseline
import AccessBaseline.Proofs.Goal

/-! An undisturbed baseline run as a list of stages. A stage looks at the store and either fails or has
a list of writes and of anomalies; the next stage starts from the store after these writes. -/
namespace AccessBaseline
open Memory (Store)

abbrev Stage := Store → Except Failure (List Call × List Anomaly)

namespace Stage

def roles (config : Config) : Stage := fun s =>
  .ok (Missing.roles config.roles (.ofRoles s.roles), Surplus.roles config.roles (.ofRoles s.roles))

def permissions (role : DeclaredRole) : Stage := fun s =>
  match (RoleIndex.ofRoles s.roles).requireId role.name with
  | .error e => .error e
  | .ok id => .ok (Missing.permissions role id (s.permissions.get id),
      Surplus.permissions role (s.permissions.get id))

def group (config : Config) : Stage := fun s => .ok (Missing.group config.groupName s.groups, [])

def assignments (config : Config) : Stage := fun s =>
  match s.groupId? config.groupName with
  | none => .error (.groupNotFound config.groupName)
  | some id =>
    match Reconcile.resolve (.ofRoles s.roles) (firsts config.bindings) with
    | .error e => .error e
    | .ok resolved => .ok (Missing.assignments id (s.assignments.get id) resolved,
        Surplus.assignments config.groupName (.ofRoles s.roles) (s.assignments.get id) resolved)

def members (config : Config) : Stage := fun s =>
  match Group.named? config.groupName s.groups with
  | none => .error (.groupNotFound config.groupName)
  | some group => .ok (Missing.members group config.members, Surplus.members group config.members)

theorem permissions_eq_ok {role : DeclaredRole} {s : Store} {out : List Call × List Anomaly} :
    permissions role s = .ok out ↔ ∃ id, s.roleId? role.name = some id ∧
      out = (Missing.permissions role id (s.permissions.get id),
        Surplus.permissions role (s.permissions.get id)) := by
  unfold permissions
  cases hid : (RoleIndex.ofRoles s.roles).requireId role.name with
  | error e =>
    constructor
    · intro h
      cases h
    · intro h
      obtain ⟨id, h, -⟩ := h
      rw [RoleIndex.requireId_eq_ok.2 h] at hid
      cases hid
  | ok id =>
    have hid : s.roleId? role.name = some id := RoleIndex.requireId_eq_ok.1 hid
    rw [hid]
    constructor
    · intro h
      exact ⟨id, rfl, (Except.ok.inj h).symm⟩
    · intro h
      obtain ⟨id', h, rfl⟩ := h
      obtain rfl := Option.some.inj h
      rfl

theorem assignments_eq_ok {config : Config} {s : Store} {out : List Call × List Anomaly} :
    assignments config s = .ok out ↔ ∃ id resolved, s.groupId? config.groupName = some id ∧
      Reconcile.resolve (.ofRoles s.roles) (firsts config.bindings) = .ok resolved ∧
      out = (Missing.assignments id (s.assignments.get id) resolved,
        Surplus.assignments config.groupName (.ofRoles s.roles) (s.assignments.get id) resolved) := by
  unfold assignments
  cases s.groupId? config.groupName with
  | none => simp
  | some id => cases Reconcile.resolve (.ofRoles s.roles) (firsts config.bindings) <;> simp [eq_comm]

theorem members_eq_ok {config : Config} {s : Store} {out : List Call × List Anomaly} :
    members config s = .ok out ↔ ∃ group, Group.named? config.groupName s.groups = some group ∧
      out = (Missing.members group config.members, Surplus.members group config.members) := by
  unfold members
  cases Group.named? config.groupName s.groups <;> simp [eq_comm]

def all (config : Config) : List Stage :=
  roles config :: config.roles.map permissions ++ [group config, assignments config, members config]

end Stage

/-- The writes of stages in turn, and their anomalies unless one fails. -/
def carryOut : List Stage → Store → List Call × Except Failure (List Anomaly)
  | [], _ => ([], .ok [])
  | f :: fs, s =>
    match f s with
    | .error e => ([], .error e)
    | .ok (calls, as) =>
      let rest := carryOut fs (s.writeAll calls)
      (calls ++ rest.1, rest.2.map (as ++ ·))

theorem carryOut_cons_ok {f : Stage} {s : Store} {calls : List Call} {as : List Anomaly}
    (h : f s = .ok (calls, as)) (fs : List Stage) :
    carryOut (f :: fs) s = (calls ++ (carryOut fs (s.writeAll calls)).1,
      (carryOut fs (s.writeAll calls)).2.map (as ++ ·)) := by
  rw [carryOut, h]

theorem carryOut_append (fs gs : List Stage) (s : Store) :
    carryOut (fs ++ gs) s =
      match (carryOut fs s).2 with
      | .error e => ((carryOut fs s).1, .error e)
      | .ok as => ((carryOut fs s).1 ++ (carryOut gs (s.writeAll (carryOut fs s).1)).1,
          (carryOut gs (s.writeAll (carryOut fs s).1)).2.map (as ++ ·)) := by
  induction fs generalizing s with
  | nil =>
    change _ = ([] ++ (carryOut gs s).1, (carryOut gs s).2.map ([] ++ ·))
    cases h : (carryOut gs s).2 <;> simp [Except.map, Prod.ext_iff, h]
  | cons f fs ih =>
    rw [List.cons_append]
    cases h : f s with
    | error e => simp only [carryOut, h]
    | ok out =>
      obtain ⟨calls, as⟩ := out
      rw [carryOut_cons_ok h, carryOut_cons_ok h, ih, Store.writeAll_append]
      cases (carryOut fs (s.writeAll calls)).2 with
      | error e => rfl
      | ok bs =>
        refine Prod.ext (List.append_assoc ..).symm ?_
        cases (carryOut gs _).2 with
        | error e => rfl
        | ok bs' => exact congrArg Except.ok (List.append_assoc ..).symm

/-- Whether an undisturbed reconciliation carries stages out: its writes are theirs, and so are its
anomalies or its failure. -/
structure CarriesOut (fs : List Stage) (s : Memory.Ledger) (rep : Report) (res : Except Failure Unit)
    (rep' : Report) (t : Memory.Ledger) : Prop where
  final : t = ⟨s.store.writeAll (carryOut fs s.store).1, s.writes ++ (carryOut fs s.store).1⟩
  outcome : res.map (fun _ => rep'.anomalies) = (carryOut fs s.store).2.map (rep.anomalies ++ ·)
  changes : res = .ok () → rep'.changes = rep.changes + (carryOut fs s.store).1.length

namespace CarriesOut
open Reconcile Memory
variable {fs gs : List Stage} {s m t : Ledger} {rep rep₁ rep' : Report} {res res₁ : Except Failure Unit}

theorem append (h : CarriesOut fs s rep res₁ rep₁ m)
    (h' : Onward res₁ rep₁ m res rep' t fun _ => CarriesOut gs m rep₁ res rep' t) :
    CarriesOut (fs ++ gs) s rep res rep' t := by
  obtain ⟨hfinal, houtcome, hchanges⟩ := h
  cases res₁ with
  | error e =>
    obtain ⟨rfl, rfl, rfl⟩ := h'
    cases hout : (carryOut fs s.store).2 with
    | ok as =>
      rw [hout] at houtcome
      cases houtcome
    | error e' =>
      rw [hout] at houtcome
      cases houtcome
      have happend : carryOut (fs ++ gs) s.store = ((carryOut fs s.store).1, .error e) := by
        rw [carryOut_append, hout]
      refine ⟨?_, ?_, fun h => by cases h⟩
      · rw [happend, hfinal]
      · rw [happend]
        rfl
  | ok _ =>
    cases hout : (carryOut fs s.store).2 with
    | error e =>
      rw [hout] at houtcome
      cases houtcome
    | ok as =>
      rw [hout] at houtcome
      have hanomalies : rep₁.anomalies = rep.anomalies ++ as := Except.ok.inj houtcome
      have happend : carryOut (fs ++ gs) s.store =
          ((carryOut fs s.store).1 ++ (carryOut gs m.store).1,
            (carryOut gs m.store).2.map (as ++ ·)) := by
        rw [carryOut_append, hout, hfinal]
      obtain ⟨hfinal', houtcome', hchanges'⟩ := h'
      refine ⟨?_, ?_, fun hres => ?_⟩
      · rw [happend, hfinal', Store.writeAll_append, ← List.append_assoc, hfinal]
      · rw [happend, houtcome', hanomalies]
        cases (carryOut gs m.store).2 with
        | error e => rfl
        | ok bs => exact congrArg Except.ok (List.append_assoc ..)
      · rw [happend, hchanges' hres, hchanges rfl, List.length_append, Nat.add_assoc]

theorem of_error {f : Stage} {e : Failure} (h : f s.store = .error e) (rep : Report) :
    CarriesOut [f] s rep (.error e) rep s := by
  have hout : carryOut [f] s.store = ([], .error e) := by rw [carryOut, h]
  refine ⟨?_, ?_, fun h => by cases h⟩
  · rw [hout, List.append_nil]
    rfl
  · rw [hout]
    rfl

theorem of_ok {f : Stage} {calls : List Call} {as : List Anomaly} (h : f s.store = .ok (calls, as))
    (rep : Report) (kind : Change) :
    CarriesOut [f] s rep (.ok ()) (rep.extend kind calls.length as)
      ⟨s.store.writeAll calls, s.writes ++ calls⟩ := by
  have hout : carryOut [f] s.store = (calls, .ok as) := by
    rw [carryOut_cons_ok h]
    change (calls ++ [], Except.ok (as ++ [])) = _
    rw [List.append_nil, List.append_nil]
  refine ⟨by rw [hout], ?_, fun _ => ?_⟩
  · rw [hout, Report.anomalies_extend]
    rfl
  · rw [hout, Report.changes_extend]

theorem nil (s : Ledger) (rep : Report) : CarriesOut [] s rep (.ok ()) rep s where
  final := by
    change s = ⟨s.store, s.writes ++ []⟩
    rw [List.append_nil]
  outcome := by
    change _ = Except.ok (rep.anomalies ++ [])
    rw [List.append_nil]
    rfl
  changes _ := rfl

theorem writes_exact {calls : List Call} (h : Goal.Requests calls) :
    Writes exact calls s t ↔ t = ⟨s.store.writeAll calls, s.writes ++ calls⟩ := by
  induction calls generalizing s with
  | nil =>
    change t = s ↔ t = ⟨s.store, s.writes ++ []⟩
    rw [List.append_nil]
  | cons c calls ih =>
    obtain ⟨⟨g, rfl⟩, hcalls⟩ := List.forall_mem_cons.1 h
    have hrecord : s.record g.request = ⟨s.store.write g.request, s.writes ++ [g.request]⟩ := by
      rw [Ledger.record, g.isWrite_request]
      rfl
    constructor
    · intro h
      obtain ⟨v, m, ⟨-, rfl⟩, hrest⟩ := h
      rw [(ih hcalls).1 hrest, hrecord, List.append_assoc]
      rfl
    · intro ht
      refine ⟨_, _, ⟨rfl, rfl⟩, (ih hcalls).2 ?_⟩
      rw [ht, hrecord, List.append_assoc]
      rfl

theorem of_permissionPass {roles : List DeclaredRole}
    (h : Baseline.PermissionPass exact (.ofRoles s.store.roles) roles s rep res rep' t) :
    CarriesOut (roles.map Stage.permissions) s rep res rep' t ∧ t.store.roles = s.store.roles := by
  induction roles generalizing s rep with
  | nil =>
    obtain ⟨rfl, rfl, rfl⟩ := h
    exact ⟨nil _ _, rfl⟩
  | cons role roles ih =>
    change CarriesOut ([Stage.permissions role] ++ roles.map Stage.permissions) s rep res rep' t ∧ _
    cases hid : (RoleIndex.ofRoles s.store.roles).requireId role.name with
    | error e =>
      simp only [Baseline.PermissionPass, hid, Onward] at h
      obtain ⟨rfl, rfl, rfl⟩ := h
      exact ⟨(of_error (by simp only [Stage.permissions, hid]) _).append ⟨rfl, rfl, rfl⟩, rfl⟩
    | ok id =>
      simp only [Baseline.PermissionPass, hid, Onward] at h
      obtain ⟨held, m, m', hread, hwrites, hrest⟩ := h
      obtain ⟨hheld, rfl⟩ := (exact_read rfl).1 hread
      obtain rfl : held = m.store.permissions.get id := hheld
      obtain rfl := (writes_exact (Goal.requests_permissions _ _ _)).1 hwrites
      have hroles := m.store.roles_writeAll_permissions role id (m.store.permissions.get id)
      rw [← hroles] at hrest
      obtain ⟨hcarries, hkept⟩ := ih (s := ⟨m.store.writeAll _, _⟩) hrest
      have hok : Stage.permissions role m.store =
          .ok (Missing.permissions role id (m.store.permissions.get id),
            Surplus.permissions role (m.store.permissions.get id)) := by
        simp only [Stage.permissions, hid]
      exact ⟨(of_ok hok rep .permissionGranted).append hcarries, hkept.trans hroles⟩

theorem of_holdingsPass {config : Config} {group : Group}
    (hgroup : Group.named? config.groupName s.store.groups = some group)
    (h : Baseline.HoldingsPass exact config (.ofRoles s.store.roles) group s rep res rep' t) :
    CarriesOut [Stage.assignments config, Stage.members config] s rep res rep' t := by
  have hid : s.store.groupId? config.groupName = some group.id := congrArg (Option.map Group.id) hgroup
  have hname := Group.name_of_named? hgroup
  change CarriesOut ([Stage.assignments config] ++ [Stage.members config]) s rep res rep' t
  obtain ⟨assigned, m, hread, h⟩ := h
  obtain ⟨rfl, rfl⟩ := (exact_read rfl).1 hread
  cases hresolve : resolve (.ofRoles m.store.roles) (firsts config.bindings) with
  | error e =>
    rw [hresolve] at h
    obtain ⟨rfl, rfl, rfl⟩ := h
    exact (of_error (by simp only [Stage.assignments, hid, hresolve]) _).append ⟨rfl, rfl, rfl⟩
  | ok resolved =>
    rw [hresolve] at h
    obtain ⟨m', hassign, rfl, rfl, hmembers⟩ := h
    obtain rfl := (writes_exact (Goal.requests_assignments _ _ _)).1 hassign
    obtain rfl := (writes_exact (Goal.requests_members _ _)).1 hmembers
    refine (of_ok ?_ rep .groupRoleAssigned).append (of_ok ?_ _ .memberAdded)
    · simp only [Stage.assignments, hid, hresolve, hname]
      rfl
    · have hgroups : (m.store.writeAll (Missing.assignments group.id (m.store.read
          (.groupRoleGrants group.id)) resolved)).groups = m.store.groups :=
        m.store.groups_writeAll_assignments ..
      simp only [Stage.members, hgroups, hgroup]

theorem of_groupPass {config : Config}
    (h : Baseline.GroupPass exact config (.ofRoles s.store.roles) s rep res rep' t) :
    CarriesOut [Stage.group config, Stage.assignments config, Stage.members config]
      s rep res rep' t := by
  obtain ⟨before, m₁, m₂, after, m₃, hbefore, hgroup, hafter, rep₁, rfl, h⟩ := h
  obtain ⟨rfl, rfl⟩ := (exact_read rfl).1 hbefore
  obtain rfl := (writes_exact (Goal.requests_group _ _)).1 hgroup
  obtain ⟨rfl, rfl⟩ := (exact_read rfl).1 hafter
  have hroles : (m₁.store.writeAll (Missing.group config.groupName m₁.store.groups)).roles =
      m₁.store.roles := m₁.store.roles_writeAll_group ..
  rw [← hroles] at h
  change CarriesOut ([Stage.group config] ++ _) _ rep res rep' t
  refine (of_ok rfl rep .groupCreated).append ?_
  cases hrequire : requireGroup config.groupName
      (m₁.store.writeAll (Missing.group config.groupName m₁.store.groups)).groups with
  | error e =>
    simp only [Store.read, hrequire, Onward] at h
    obtain ⟨rfl, rfl, rfl⟩ := h
    obtain ⟨hnamed, rfl⟩ := requireGroup_eq_error hrequire
    exact (of_error (by simp only [Stage.assignments, Store.groupId?, hnamed, Option.map_none]) _).append
      ⟨rfl, rfl, rfl⟩
  | ok group =>
    simp only [Store.read, hrequire, Onward] at h
    exact of_holdingsPass (requireGroup_eq_ok hrequire) h

theorem of_reconcile {config : Config}
    (h : Yields exact (Baseline.reconcile config) s rep res rep' t) :
    CarriesOut (Stage.all config) s rep res rep' t := by
  obtain ⟨before, m₁, m₂, after, m₃, hbefore, hcreate, hafter, res₁, rep₁, m₄, hpermissions, h⟩ :=
    (Baseline.yields_reconcile config).1 h
  obtain ⟨rfl, rfl⟩ := (exact_read rfl).1 hbefore
  obtain rfl := (writes_exact (Goal.requests_roles _ _)).1 hcreate
  obtain ⟨rfl, rfl⟩ := (exact_read rfl).1 hafter
  change CarriesOut ([Stage.roles config] ++ (config.roles.map Stage.permissions ++ _)) _ rep res rep' t
  obtain ⟨hcarries, hroles⟩ := of_permissionPass hpermissions
  refine (of_ok rfl rep .roleCreated).append (hcarries.append ?_)
  cases res₁ with
  | error e => exact h
  | ok _ =>
    obtain ⟨res₂, rep₂, m₅, hgroup, h⟩ := h
    rw [show RoleIndex.ofRoles (Store.read _ .assignableRoles) = .ofRoles m₄.store.roles from
      congrArg RoleIndex.ofRoles hroles.symm] at hgroup
    have hend : res = res₂ ∧ rep' = rep₂ ∧ t = m₅ :=
      Baseline.eq_of_shown (fun known s t hknown => ((exact_read rfl).1 hknown).2) h
    obtain ⟨rfl, rfl, rfl⟩ := hend
    exact of_groupPass hgroup

end CarriesOut

theorem Baseline.run_steady (config : Config) {service : Memory.Service} (h : service.Steady) :
    let r := Interaction.run Memory.Service.respond (run config) service
    let out := carryOut (Stage.all config) service.store
    applied r.steps = out.1 ∧ r.state.store = service.store.writeAll out.1 ∧
      r.result.map (·.anomalies) = out.2 ∧
      ∀ report, r.result = .ok report → report.changes = out.1.length := by
  intro r out
  obtain ⟨res, rep, hyields, hresult⟩ := (leads_run config).1 (Dialogue.leads_exact (run config) h [])
  obtain ⟨hfinal, houtcome, hchanges⟩ := CarriesOut.of_reconcile hyields
  obtain ⟨hstore, happlied⟩ := Memory.Ledger.mk.inj hfinal
  refine ⟨happlied, hstore, ?_, fun report hreport => ?_⟩
  · rw [show r.result = res.map fun _ => rep from hresult]
    cases res with
    | error e => exact houtcome.trans (by cases (carryOut (Stage.all config) service.store).2 <;> rfl)
    | ok _ => exact houtcome.trans (by cases (carryOut (Stage.all config) service.store).2 <;> rfl)
  · rw [show r.result = res.map fun _ => rep from hresult] at hreport
    cases res with
    | error e => cases hreport
    | ok _ =>
      cases hreport
      exact (hchanges rfl).trans (Nat.zero_add _)

/-- Where no write is lost, a run that succeeds carries its stages out as well, whatever else may
fail. -/
theorem Baseline.carryOut_of_ok {config : Config} {service : Memory.Service}
    (hkeeps : service.forgotten = []) {report : Report}
    (hok : (Interaction.run Memory.Service.respond (run config) service).result = .ok report) :
    let r := Interaction.run Memory.Service.respond (run config) service
    let out := carryOut (Stage.all config) service.store
    applied r.steps = out.1 ∧ r.state.store = service.store.writeAll (applied r.steps) ∧
      out.2 = .ok report.anomalies := by
  intro r out
  have hcalm : (Memory.Service.reliable service.store).Steady := ⟨rfl, rfl⟩
  obtain ⟨-, hstore, hsame⟩ := (haltsOn_run config).cut_short hkeeps hcalm rfl
  obtain ⟨hresult, hwrites⟩ := hsame (unfailed_of_ok hok)
  obtain ⟨happlied, -, houtcome, -⟩ := run_steady config hcalm
  refine ⟨hwrites.trans happlied, hstore, houtcome.symm.trans ?_⟩
  rw [← hresult]
  exact congrArg (Except.map Report.anomalies) hok

end AccessBaseline
