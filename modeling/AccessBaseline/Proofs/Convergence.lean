import AccessBaseline.Proofs.Config
import AccessBaseline.Proofs.Pursuit

/-! A baseline run that succeeds leaves everything declared in place, and a run behind it has nothing
to do. Each stage leaves itself nothing to write, and no later stage undoes that. -/
namespace AccessBaseline
open Memory (Store)

/-- Whether a store has everything that is declared. -/
structure Converged (config : Config) (s : Store) : Prop where
  permissions : ∀ role ∈ config.roles, ∃ id, s.roleId? role.name = some id ∧
    ∀ e ∈ role.permissions, ∀ name ∈ e.2, ∃ p ∈ s.permissions.get id, p.space = e.1 ∧ p.name = name
  holdings : ∃ group, Group.named? config.groupName s.groups = some group ∧
    (∀ b ∈ config.bindings, ∃ id, s.roleId? b.role = some id ∧
      ∃ a ∈ s.assignments.get group.id, a.roleId = id ∧ b.scope.covers a.scope = true) ∧
    ∀ user ∈ config.members, user ∈ group.members

namespace Stage
variable {config : Config} {f : Stage} {p : Pursuit} {s : Store} {calls : List Call} {as : List Anomaly}

/-- Whether a stage finds nothing to write. -/
def Settled (f : Stage) (s : Store) : Prop := ∃ as, f s = .ok ([], as)

theorem Follows.settled_iff (h : f.Follows p s) :
    f.Settled s ↔ ∃ key, p.found s key ∧ ∀ g ∈ p.goals key, g.isMet s = true := by
  constructor
  · intro h
    obtain ⟨as, hok⟩ := h
    obtain ⟨key, hkey, hout⟩ := (h _).1 hok
    exact ⟨key, hkey, Goal.unmet_eq_nil.1 (congrArg Prod.fst hout).symm⟩
  · intro h
    obtain ⟨key, hkey, hmet⟩ := h
    exact ⟨_, (h _).2 ⟨key, hkey, by rw [Goal.unmet_eq_nil.2 hmet]⟩⟩

/-- The writes of a stage leave it none to make. -/
theorem Follows.settled (h : f.Follows p s) (hok : f s = .ok (calls, as))
    (ht : f.Follows p (s.writeAll calls)) : f.Settled (s.writeAll calls) := by
  obtain ⟨key, hkey, hout⟩ := (h _).1 hok
  have hfound : p.found (s.writeAll calls) key :=
    (h.requests hok).writeAll (P := (p.found · key)) (fun s g hs => p.stays hs g) hkey
  refine ht.settled_iff.2 ⟨key, hfound, fun g hg => ?_⟩
  rw [show calls = Goal.unmet s (p.goals key) from congrArg Prod.fst hout]
  exact Goal.isMet_of_unmet (p.possible hkey) hg

theorem Follows.settled_write (h : f.Follows p s) (hs : f.Settled s) (g : Goal)
    (ht : f.Follows p (s.write g.request)) : f.Settled (s.write g.request) := by
  obtain ⟨key, hkey, hmet⟩ := h.settled_iff.1 hs
  exact ht.settled_iff.2 ⟨key, p.stays hkey g, fun g' hg' => Goal.isMet_of_isMet (hmet g' hg') g⟩

/-- The stages in front of that of the members. -/
def front (config : Config) : List Stage :=
  roles config :: config.roles.map permissions ++ [group config, assignments config]

theorem all_eq (config : Config) : all config = front config ++ [members config] := by
  simp [all, front]

theorem front_follows (config : Config) : ∀ f ∈ front config, ∃ p, ∀ s, f.Follows p s := by
  refine List.forall_mem_cons.2
    ⟨⟨_, follows_roles config⟩, List.forall_mem_append.2 ⟨fun f hf => ?_, ?_⟩⟩
  · obtain ⟨role, -, rfl⟩ := List.mem_map.1 hf
    exact ⟨_, follows_permissions role⟩
  · intro f hf
    obtain rfl | rfl := List.mem_pair.1 hf
    · exact ⟨_, follows_group config⟩
    · exact ⟨_, follows_assignments config⟩

end Stage

section
variable {fs : List Stage} {s : Store}

theorem requests_carryOut (h : ∀ f ∈ fs, ∃ p, ∀ s, f.Follows p s) (s : Store) :
    Goal.Requests (carryOut fs s).1 := by
  induction fs generalizing s with
  | nil => exact fun c hc => by cases hc
  | cons f fs ih =>
    obtain ⟨⟨p, hf⟩, hfs⟩ := List.forall_mem_cons.1 h
    cases hout : f s with
    | error e =>
      rw [carryOut, hout]
      exact fun c hc => by cases hc
    | ok out =>
      obtain ⟨calls, as⟩ := out
      rw [carryOut_cons_ok hout]
      exact List.forall_mem_append.2 ⟨(hf s).requests hout, ih hfs _⟩

theorem settled_carryOut (h : ∀ f ∈ fs, ∃ p, ∀ s, f.Follows p s) {as : List Anomaly}
    (hok : (carryOut fs s).2 = .ok as) : ∀ f ∈ fs, f.Settled (s.writeAll (carryOut fs s).1) := by
  induction fs generalizing s as with
  | nil => exact fun f hf => by cases hf
  | cons f fs ih =>
    obtain ⟨⟨p, hf⟩, hfs⟩ := List.forall_mem_cons.1 h
    cases hout : f s with
    | error e =>
      rw [carryOut, hout] at hok
      cases hok
    | ok out =>
      obtain ⟨calls, as'⟩ := out
      rw [carryOut_cons_ok hout] at hok ⊢
      rw [Store.writeAll_append]
      cases hrest : (carryOut fs (s.writeAll calls)).2 with
      | error e =>
        rw [hrest] at hok
        cases hok
      | ok bs =>
        have hsettled : f.Settled (s.writeAll calls) := (hf s).settled hout (hf _)
        refine List.forall_mem_cons.2 ⟨?_, ih hfs hrest⟩
        have hstays (s : Store) (g : Goal) (hs : f.Settled s) : f.Settled (s.write g.request) :=
          (hf s).settled_write hs g (hf _)
        exact (requests_carryOut hfs _).writeAll hstays hsettled

theorem carryOut_of_settled (h : ∀ f ∈ fs, f.Settled s) : ∃ as, carryOut fs s = ([], .ok as) := by
  induction fs with
  | nil => exact ⟨[], rfl⟩
  | cons f fs ih =>
    obtain ⟨⟨as, hf⟩, hfs⟩ := List.forall_mem_cons.1 h
    obtain ⟨bs, hrest⟩ := ih hfs
    refine ⟨as ++ bs, ?_⟩
    rw [carryOut_cons_ok hf, show s.writeAll [] = s from rfl, hrest]
    rfl

end

namespace Stage
variable {config : Config} {s : Store}

/-- Once all stages were carried out, each of them has nothing to write. The last one cannot make
another group share the id, as it keeps the ids and names of all groups. -/
theorem settled_all {as : List Anomaly} (hok : (carryOut (all config) s).2 = .ok as)
    (hsole : (s.writeAll (carryOut (all config) s).1).Sole config.groupName) :
    ∀ f ∈ all config, f.Settled (s.writeAll (carryOut (all config) s).1) := by
  rw [all_eq, carryOut_append] at hok hsole ⊢
  cases hfront : (carryOut (front config) s).2 with
  | error e =>
    rw [hfront] at hok
    cases hok
  | ok bs =>
    simp only [hfront] at hok hsole ⊢
    have hsettled := settled_carryOut (front_follows config) hfront
    rw [Store.writeAll_append] at hsole ⊢
    generalize s.writeAll (carryOut (front config) s).1 = m at hok hsole hsettled ⊢
    cases hmembers : members config m with
    | error e =>
      rw [carryOut, hmembers] at hok
      cases hok
    | ok out =>
      obtain ⟨calls, cs⟩ := out
      have hcalls : (carryOut [members config] m).1 = calls := by
        rw [carryOut_cons_ok hmembers]
        exact List.append_nil calls
      rw [hcalls] at hsole ⊢
      obtain ⟨group, -, hout⟩ := members_eq_ok.1 hmembers
      obtain rfl : calls = Missing.members group config.members := congrArg Prod.fst hout
      have hnames := m.names_writeAll_members group config.members
      have hfollows := follows_members (hsole.of_names hnames.symm)
      refine List.forall_mem_append.2 ⟨fun f hf => ?_, List.forall_mem_singleton.2 ?_⟩
      · obtain ⟨p, hp⟩ := front_follows config f hf
        exact (hfollows.requests hmembers).writeAll (fun s g hs => (hp s).settled_write hs g (hp _))
          (hsettled f hf)
      · exact hfollows.settled hmembers (follows_members hsole)

end Stage

theorem Stage.Settled.permissions {role : DeclaredRole} {s : Store}
    (h : (Stage.permissions role).Settled s) : ∃ id, s.roleId? role.name = some id ∧
      ∀ e ∈ role.permissions, ∀ name ∈ e.2, ∃ p ∈ s.permissions.get id, p.space = e.1 ∧ p.name = name := by
  obtain ⟨id, hid, hmet⟩ := (Stage.follows_permissions role s).settled_iff.1 h
  refine ⟨id, hid, fun e he name hname => ?_⟩
  obtain ⟨name', hname', hsame⟩ := exists_mem_firsts hname
  obtain rfl := beq_iff_eq.1 hsame
  have hheld := hmet _ (List.mem_flatMap.2 ⟨e, he, List.mem_map_of_mem hname'⟩)
  obtain ⟨p, hp, hsame⟩ := List.any_eq_true.1 hheld
  obtain ⟨hspace, hname⟩ := (Bool.and_eq_true ..).mp hsame
  exact ⟨p, hp, beq_iff_eq.1 hspace, beq_iff_eq.1 hname⟩

theorem converged_of_settled {config : Config} {s : Store} (h : ∀ f ∈ Stage.all config, f.Settled s)
    (hsole : s.Sole config.groupName) : Converged config s where
  permissions role hrole := by
    have hsettled : (Stage.permissions role).Settled s :=
      h _ (List.mem_cons_of_mem _ (List.mem_append_left _ (List.mem_map_of_mem hrole)))
    exact hsettled.permissions
  holdings := by
    have hassignments : (Stage.assignments config).Settled s := h _ (by simp [Stage.all])
    have hmembers : (Stage.members config).Settled s := h _ (by simp [Stage.all])
    obtain ⟨⟨id, resolved⟩, ⟨hid, hresolve⟩, hmet⟩ :=
      (Stage.follows_assignments config s).settled_iff.1 hassignments
    obtain ⟨id', hid', hmet'⟩ := (Stage.follows_members hsole).settled_iff.1 hmembers
    obtain rfl : id = id' := Option.some.inj (hid.symm.trans hid')
    obtain ⟨group, hgroup, rfl⟩ := Option.map_eq_some_iff.1 hid
    refine ⟨group, hgroup, fun b hb => ?_, fun user huser => ?_⟩
    · obtain ⟨b', hb', hsame⟩ := exists_mem_firsts hb
      obtain ⟨hkey, hscope⟩ := (Binding.beq_iff _ _).1 hsame
      obtain ⟨hbindings, hids⟩ := Reconcile.resolve_eq_ok hresolve
      rw [← hbindings] at hb'
      obtain ⟨r, hr, rfl⟩ := List.mem_map.1 hb'
      have hheld := hmet _ (List.mem_map_of_mem hr)
      obtain ⟨a, ha, hgives⟩ := List.any_eq_true.1 hheld
      obtain ⟨hroleId, hcovers⟩ := (Bool.and_eq_true ..).mp hgives
      refine ⟨r.roleId, ?_, a, ha, beq_iff_eq.1 hroleId, hscope ▸ hcovers⟩
      rw [← Store.roleId?_congr hkey]
      exact hids r hr
    · obtain ⟨user', huser', hsame⟩ := exists_mem_firsts huser
      obtain rfl := beq_iff_eq.1 hsame
      have hheld := hmet' _ (List.mem_map_of_mem huser')
      rw [Goal.isMet, hsole.find? hgroup] at hheld
      exact List.contains_iff_mem.1 hheld

def Memory.Store.clashing : Store :=
  ⟨[⟨"r1", "READER", "Global"⟩, ⟨"r1", "reader", "Global"⟩], [], [⟨"g1", "Ops", []⟩], [], [], [], 0⟩

namespace Baseline

/-- A run that loses no write and succeeds leaves everything declared in place, provided that no other
group has the id of the managed one. Nothing is then left to write for an undisturbed run, which
succeeds and changes nothing. -/
theorem run_converges (config : Config) {service : Memory.Service} (hkeeps : service.forgotten = []) :
    let r := Interaction.run Memory.Service.respond (run config) service
    let again := Interaction.run Memory.Service.respond (run config) (.reliable r.state.store)
    ∀ report, r.result = .ok report → r.state.store.Sole config.groupName →
      Converged config r.state.store ∧
      (∃ report', again.result = .ok report' ∧ report'.changes = 0) ∧
      (∀ call ∈ again.ops, call.isWrite = false) ∧ again.state.store = r.state.store := by
  intro r again report hok hsole
  have hcalm (s : Store) : (Memory.Service.reliable s).Steady := ⟨rfl, rfl⟩
  obtain ⟨-, hfinal, hsame⟩ := (haltsOn_run config).cut_short hkeeps (hcalm service.store) rfl
  obtain ⟨hresult, hwrites⟩ := hsame (unfailed_of_ok hok)
  obtain ⟨happlied, -, houtcome, -⟩ := run_steady config (hcalm service.store)
  have hstore : r.state.store = service.store.writeAll (carryOut (Stage.all config) service.store).1 :=
    hfinal.trans (congrArg service.store.writeAll (hwrites.trans happlied))
  have hcarried : (carryOut (Stage.all config) service.store).2 = .ok report.anomalies := by
    refine houtcome.symm.trans ?_
    rw [← hresult]
    exact congrArg (Except.map Report.anomalies) hok
  have hsettled : ∀ f ∈ Stage.all config, f.Settled r.state.store := by
    rw [hstore] at hsole ⊢
    exact Stage.settled_all hcarried hsole
  obtain ⟨as, hnothing⟩ := carryOut_of_settled hsettled
  obtain ⟨happlied', hstore', houtcome', hchanges'⟩ := run_steady config (hcalm r.state.store)
  rw [show (Memory.Service.reliable r.state.store).store = r.state.store from rfl, hnothing]
    at happlied' hstore' houtcome' hchanges'
  refine ⟨converged_of_settled hsettled hsole, ?_, fun call hcall => ?_, hstore'⟩
  · cases hagain : again.result with
    | error e =>
      rw [show (Interaction.run _ _ _).result = .error e from hagain] at houtcome'
      cases houtcome'
    | ok report' => exact ⟨report', rfl, hchanges' report' hagain⟩
  · refine Bool.eq_false_iff.2 fun hw => ?_
    rw [Dialogue.applied_of_steady _ (hcalm r.state.store)] at happlied'
    have hmem : call ∈ again.ops.filter Call.isWrite := List.mem_filter.2 ⟨hcall, hw⟩
    rw [show again.ops.filter Call.isWrite = [] from happlied'] at hmem
    exact List.not_mem_nil hmem

theorem small_converges :
    let service : Memory.Service := ⟨.clashing,
      [⟨"grant_permission", some 3, .unexpectedStatus "POST" "/permission/grant" 500 ""⟩], [], []⟩
    let r := Interaction.run Memory.Service.respond (run Config.small) service
    r.result.toOption = some ⟨0, 2, 0, 1, 1, []⟩ ∧ r.state.store.Sole Config.small.groupName ∧
      Converged Config.small r.state.store := by
  intro service r
  have hreport : r.result.toOption = some ⟨0, 2, 0, 1, 1, []⟩ := by decide +kernel
  have hsole : r.state.store.Sole Config.small.groupName := by decide +kernel
  cases hresult : r.result with
  | error e =>
    rw [hresult] at hreport
    cases hreport
  | ok report =>
    have hkeeps : service.forgotten = [] := rfl
    exact ⟨hresult ▸ hreport, hsole, (run_converges Config.small hkeeps report hresult hsole).1⟩

end Baseline

end AccessBaseline
