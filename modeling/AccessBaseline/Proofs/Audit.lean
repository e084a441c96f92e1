import AccessBaseline.Proofs.Convergence
import AccessBaseline.Proofs.Origin
import AccessBaseline.Proofs.Resumption

/-! The anomalies of a run that succeeds, against the store that it leaves. They are just what is there
and not declared, although each part of a run flags what it sees before it writes. So whatever is there
is declared or flagged and never both, and nothing is flagged that the run itself put there. -/
namespace AccessBaseline
open Memory (Store)

def DeclaredRole.Declares (role : DeclaredRole) (space name : String) : Prop :=
  ∃ names, (space, names) ∈ role.permissions ∧ name ∈ names

theorem Config.Accepted.eq_of_key {config : Config} (h : config.Accepted) {d d' : DeclaredRole}
    (hd : d ∈ config.roles) (hd' : d' ∈ config.roles) (hkey : d.name.key = d'.name.key) : d = d' :=
  List.inj_on_of_nodup_map h.roleKeys_nodup hd hd' hkey

theorem Memory.Store.Orderly.writeAll {s : Store} (h : s.Orderly) (calls : List Call) :
    (s.writeAll calls).Orderly := by
  induction calls generalizing s with
  | nil => exact h
  | cons c calls ih => exact ih (h.write c)

/-- What a store has and a configuration does not declare, as an anomaly names it. -/
def Undeclared (config : Config) (t : Store) : Anomaly → Prop
  | .undeclaredRole name => ∃ role ∈ (RoleIndex.ofRoles t.roles).roles, role.name = name ∧
      ∀ d ∈ config.roles, d.name.key ≠ role.roleName.key
  | .undeclaredPermission text space name => ∃ d ∈ config.roles, d.name.text = text ∧
      ¬d.Declares space name ∧ ∃ id, t.roleId? d.name = some id ∧
        ∃ p ∈ t.permissions.get id, p.space = space ∧ p.name = name
  | .undeclaredGroupRole group roleId name? scope => group = config.groupName ∧
      name? = (RoleIndex.ofRoles t.roles).nameOfId? roleId ∧
      (∀ b ∈ config.bindings, t.roleId? b.role = some roleId → b.scope.covers scope = false) ∧
      ∃ id, t.groupId? config.groupName = some id ∧
        ∃ a ∈ t.assignments.get id, a.roleId = roleId ∧ a.scope = scope
  | .unexpectedMember group user => group = config.groupName ∧ user ∉ config.members ∧
      ∃ g, Group.named? config.groupName t.groups = some g ∧ user ∈ g.members

section Difference
variable {α : Type} [BEq α] [LawfulBEq α]

theorem mem_without_firsts {a : α} {as bs : List α} : a ∈ without (firsts as) bs ↔ a ∈ as ∧ a ∉ bs := by
  rw [mem_without]
  constructor
  · intro h
    refine ⟨mem_of_mem_firsts h.1, fun hmem => ?_⟩
    simpa using h.2 a hmem
  · intro h
    obtain ⟨b, hb, hsame⟩ := exists_mem_firsts h.1
    obtain rfl := eq_of_beq hsame
    refine ⟨hb, fun c hc => beq_eq_false_iff_ne.2 fun heq => ?_⟩
    exact h.2 (heq ▸ hc)

end Difference

namespace Permission
variable {ps : List Permission} {spaces : List String}

theorem of_mem_othersBySpace {e : String × List String} (h : e ∈ othersBySpace ps spaces) :
    e.1 ∉ spaces ∧ e.2 = namesIn e.1 ps := by
  obtain ⟨he, hother⟩ := List.mem_filter.1 h
  have hnames := lookup_bySpace ps e.1
  rw [KeyTable.lookup_of_mem (bySpace_pairwise ps) he] at hnames
  exact ⟨by simpa using hother, hnames⟩

theorem mem_othersBySpace {p : Permission} (hp : p ∈ ps) (hother : p.space ∉ spaces) :
    (p.space, namesIn p.space ps) ∈ othersBySpace ps spaces := by
  refine List.mem_filter.2 ⟨?_, by simpa using hother⟩
  have hname : p.name ∈ namesIn p.space ps := mem_namesIn.2 ⟨p, hp, rfl, rfl⟩
  rw [← lookup_bySpace] at hname ⊢
  cases hnames : (bySpace ps).lookup p.space with
  | none =>
    rw [hnames] at hname
    cases hname
  | some names => exact KeyTable.mem_of_lookup hnames

end Permission

namespace Surplus
variable {a : Anomaly}

theorem mem_roles {desired : List DeclaredRole} {roles : List Role} :
    a ∈ Surplus.roles desired (.ofRoles roles) ↔
      ∃ role ∈ (RoleIndex.ofRoles roles).roles, (∀ d ∈ desired, d.name.key ≠ role.roleName.key) ∧
        a = .undeclaredRole role.name := by
  have hother (role : Role) : (!(desired.map (·.name)).any (role.roleName == ·)) = true ↔
      ∀ d ∈ desired, d.name.key ≠ role.roleName.key := by
    rw [Bool.not_eq_true', List.any_map, List.any_eq_false]
    refine forall₂_congr fun d _ => not_congr ?_
    exact (RoleName.beq_iff _ _).trans eq_comm
  rw [roles_eq, List.mem_map]
  simp only [RoleIndex.others, List.mem_filter, hother, and_assoc, eq_comm]

theorem mem_space {role : RoleName} {space : String} {desired observed : List String} :
    a ∈ Surplus.space role space desired observed ↔
      ∃ name ∈ observed, name ∉ desired ∧ a = .undeclaredPermission role.text space name := by
  change a ∈ (without (firsts observed) desired).map _ ↔ _
  simp only [List.mem_map, mem_without_firsts, and_assoc, eq_comm]

theorem mem_permissions {role : DeclaredRole} (hrole : role.Distinct) {held : List Permission} :
    a ∈ Surplus.permissions role held ↔ ∃ p ∈ held, ¬role.Declares p.space p.name ∧
      a = .undeclaredPermission role.name.text p.space p.name := by
  rw [Surplus.permissions, List.mem_append, List.mem_flatMap, List.mem_flatMap]
  constructor
  · intro h
    cases h with
    | inl hdeclared =>
      obtain ⟨e, he, ha⟩ := hdeclared
      obtain ⟨name, hname, hnot, rfl⟩ := mem_space.1 ha
      obtain ⟨p, hp, hspace, rfl⟩ := Permission.mem_namesIn.1 hname
      refine ⟨p, hp, fun h => ?_, by rw [hspace]⟩
      obtain ⟨names, hnames, hin⟩ := h
      have hsame : e = (p.space, names) := List.inj_on_of_nodup_map hrole he hnames hspace.symm
      rw [hsame] at hnot
      exact hnot hin
    | inr hother =>
      obtain ⟨e, he, ha⟩ := hother
      obtain ⟨name, hname, -, rfl⟩ := mem_space.1 ha
      obtain ⟨hspaces, hnames⟩ := Permission.of_mem_othersBySpace he
      rw [hnames] at hname
      obtain ⟨p, hp, hspace, rfl⟩ := Permission.mem_namesIn.1 hname
      refine ⟨p, hp, fun h => ?_, by rw [hspace]⟩
      obtain ⟨names, hin, -⟩ := h
      rw [hspace] at hin
      exact hspaces (List.mem_map_of_mem (f := (·.1)) hin)
  · intro h
    obtain ⟨p, hp, hnot, rfl⟩ := h
    by_cases hspace : p.space ∈ role.permissions.map (·.1)
    · obtain ⟨e, he, hsame⟩ := List.mem_map.1 hspace
      have hname : p.name ∈ Permission.namesIn e.1 held := Permission.mem_namesIn.2 ⟨p, hp, hsame.symm, rfl⟩
      refine .inl ⟨e, he, mem_space.2 ⟨p.name, hname, fun hin => ?_, by rw [hsame]⟩⟩
      exact hnot ⟨e.2, hsame ▸ he, hin⟩
    · have hname : p.name ∈ Permission.namesIn p.space held := Permission.mem_namesIn.2 ⟨p, hp, rfl, rfl⟩
      exact .inr ⟨_, Permission.mem_othersBySpace hp hspace,
        mem_space.2 ⟨p.name, hname, List.not_mem_nil, rfl⟩⟩

theorem mem_assignments {groupName : String} {index : RoleIndex} {assigned : List Assignment}
    {bindings : List Binding} {resolved : List Reconcile.Resolved}
    (hresolve : Reconcile.resolve index (firsts bindings) = .ok resolved) :
    a ∈ Surplus.assignments groupName index assigned resolved ↔
      ∃ x ∈ assigned, (∀ b ∈ bindings, index.idOf? b.role = some x.roleId →
          b.scope.covers x.scope = false) ∧
        a = .undeclaredGroupRole groupName x.roleId (index.nameOfId? x.roleId) x.scope := by
  obtain ⟨hbindings, hids⟩ := Reconcile.resolve_eq_ok hresolve
  have hother (x : Assignment) : (!Reconcile.isDeclared resolved x) = true ↔
      ∀ b ∈ bindings, index.idOf? b.role = some x.roleId → b.scope.covers x.scope = false := by
    rw [Bool.not_eq_true', Reconcile.isDeclared, List.any_eq_false]
    constructor
    · intro h b hb hid
      obtain ⟨b', hb', hsame⟩ := exists_mem_firsts hb
      obtain ⟨hkey, hscope⟩ := (Binding.beq_iff _ _).1 hsame
      rw [← hbindings] at hb'
      obtain ⟨r, hr, rfl⟩ := List.mem_map.1 hb'
      have hid' : index.idOf? r.binding.role = some x.roleId := by
        rw [← hid, RoleIndex.idOf?, RoleIndex.idOf?, RoleIndex.get?, RoleIndex.get?, hkey]
      have hroleId : x.roleId = r.roleId := Option.some.inj (hid'.symm.trans (hids r hr))
      have hgives := h r hr
      rw [Assignment.gives, hroleId, BEq.rfl, Bool.true_and, hscope] at hgives
      exact Bool.eq_false_iff.2 hgives
    · intro h r hr hgives
      obtain ⟨hroleId, hcovers⟩ := (Bool.and_eq_true ..).mp hgives
      have hb : r.binding ∈ firsts bindings := hbindings ▸ List.mem_map_of_mem hr
      have hid : index.idOf? r.binding.role = some x.roleId := (hids r hr).trans
        (congrArg some (eq_of_beq hroleId).symm)
      rw [h r.binding (mem_of_mem_firsts hb) hid] at hcovers
      cases hcovers
  simp only [Surplus.assignments, List.mem_map, List.mem_filter, hother, and_assoc, eq_comm]

theorem mem_members {group : Group} {desired : List String} :
    a ∈ Surplus.members group desired ↔
      ∃ user ∈ group.members, user ∉ desired ∧ a = .unexpectedMember group.name user := by
  change a ∈ (without (firsts group.members) desired).map _ ↔ _
  simp only [List.mem_map, mem_without_firsts, and_assoc, eq_comm]

end Surplus

/-- What a stage flags. -/
def Stage.flagged (f : Stage) (s : Store) : List Anomaly :=
  match f s with
  | .ok out => out.2
  | .error _ => []

theorem flagged_of_carryOut {fs : List Stage} {s : Store} {as : List Anomaly}
    (h : carryOut fs s = ([], .ok as)) :
    (∀ f ∈ fs, f s = .ok ([], f.flagged s)) ∧ as = fs.flatMap (·.flagged s) := by
  induction fs generalizing as with
  | nil =>
    cases h
    exact ⟨by simp, rfl⟩
  | cons f fs ih =>
    cases hf : f s with
    | error e =>
      rw [carryOut, hf] at h
      cases h
    | ok out =>
      obtain ⟨calls, bs⟩ := out
      rw [carryOut_cons_ok hf] at h
      obtain ⟨hcalls, has⟩ := Prod.mk.inj h
      obtain ⟨rfl, hrest⟩ := List.append_eq_nil_iff.1 hcalls
      change (carryOut fs s).1 = [] at hrest
      change (carryOut fs s).2.map _ = _ at has
      cases hout : (carryOut fs s).2 with
      | error e =>
        rw [hout] at has
        cases has
      | ok cs =>
        rw [hout] at has
        obtain ⟨hfs, hcs⟩ := ih (Prod.ext hrest hout)
        have hflagged : f.flagged s = bs := by rw [Stage.flagged, hf]
        refine ⟨List.forall_mem_cons.2 ⟨by rw [hf, hflagged], hfs⟩, ?_⟩
        rw [List.flatMap_cons, hflagged, ← hcs]
        exact (Except.ok.inj has).symm

section
variable {config : Config} {s t : Store} {as : List Anomaly} {a : Anomaly}

theorem mem_flagged (config : Config) (t : Store) (a : Anomaly) :
    a ∈ (Stage.all config).flatMap (·.flagged t) ↔ a ∈ (Stage.roles config).flagged t ∨
      (∃ d ∈ config.roles, a ∈ (Stage.permissions d).flagged t) ∨
        a ∈ (Stage.assignments config).flagged t ∨ a ∈ (Stage.members config).flagged t := by
  have hgroup : (Stage.group config).flagged t = [] := rfl
  simp [Stage.all, hgroup]

/-- Where nothing is left to write, the anomalies are what is there and not declared. -/
theorem mem_iff_undeclared (haccepted : config.Accepted)
    (h : carryOut (Stage.all config) t = ([], .ok as)) : a ∈ as ↔ Undeclared config t a := by
  obtain ⟨hfs, rfl⟩ := flagged_of_carryOut h
  have hroles : (Stage.roles config).flagged t = Surplus.roles config.roles (.ofRoles t.roles) := rfl
  have hpermissions (d : DeclaredRole) (hd : d ∈ config.roles) : ∃ id, t.roleId? d.name = some id ∧
      (Stage.permissions d).flagged t = Surplus.permissions d (t.permissions.get id) := by
    have hmem : Stage.permissions d ∈ Stage.all config :=
      List.mem_cons_of_mem _ (List.mem_append_left _ (List.mem_map_of_mem hd))
    obtain ⟨id, hid, hout⟩ := Stage.permissions_eq_ok.1 (hfs _ hmem)
    exact ⟨id, hid, (Prod.mk.inj hout).2⟩
  obtain ⟨id, resolved, hid, hresolve, hassigned⟩ :=
    Stage.assignments_eq_ok.1 (hfs (Stage.assignments config) (by simp [Stage.all]))
  obtain ⟨g, hg, hjoined⟩ := Stage.members_eq_ok.1 (hfs (Stage.members config) (by simp [Stage.all]))
  have hname : g.name = config.groupName := Group.name_of_named? hg
  rw [mem_flagged, hroles, Surplus.mem_roles, (Prod.mk.inj hassigned).2,
    Surplus.mem_assignments hresolve, (Prod.mk.inj hjoined).2, Surplus.mem_members, hname]
  constructor
  · intro h
    rcases h with h | h | h | h
    · obtain ⟨role, hrole, hnot, rfl⟩ := h
      exact ⟨role, hrole, rfl, hnot⟩
    · obtain ⟨d, hd, ha⟩ := h
      obtain ⟨id, hid, hflagged⟩ := hpermissions d hd
      rw [hflagged] at ha
      obtain ⟨p, hp, hnot, rfl⟩ := (Surplus.mem_permissions (haccepted.distinct d hd)).1 ha
      exact ⟨d, hd, rfl, hnot, id, hid, p, hp, rfl, rfl⟩
    · obtain ⟨x, hx, hnot, rfl⟩ := h
      exact ⟨rfl, rfl, hnot, id, hid, x, hx, rfl, rfl⟩
    · obtain ⟨user, huser, hnot, rfl⟩ := h
      exact ⟨rfl, hnot, g, hg, huser⟩
  · intro h
    cases a with
    | undeclaredRole name =>
      obtain ⟨role, hrole, rfl, hnot⟩ := h
      exact .inl ⟨role, hrole, hnot, rfl⟩
    | undeclaredPermission text space name =>
      obtain ⟨d, hd, rfl, hnot, id, hid, p, hp, rfl, rfl⟩ := h
      obtain ⟨id', hid', hflagged⟩ := hpermissions d hd
      obtain rfl : id = id' := Option.some.inj (hid.symm.trans hid')
      refine .inr (.inl ⟨d, hd, ?_⟩)
      rw [hflagged]
      exact (Surplus.mem_permissions (haccepted.distinct d hd)).2 ⟨p, hp, hnot, rfl⟩
    | undeclaredGroupRole group roleId name? scope =>
      obtain ⟨rfl, rfl, hnot, id', hid', x, hx, rfl, rfl⟩ := h
      obtain rfl : id = id' := Option.some.inj (hid.symm.trans hid')
      exact .inr (.inr (.inl ⟨x, hx, hnot, rfl⟩))
    | unexpectedMember group user =>
      obtain ⟨rfl, hnot, g', hg', huser⟩ := h
      obtain rfl : g = g' := Option.some.inj (hg.symm.trans hg')
      exact .inr (.inr (.inr ⟨user, huser, hnot, rfl⟩))

end

/-- Whether everything in the parts of a store that a configuration manages is either declared or
flagged. -/
structure Audited (config : Config) (t : Store) (anomalies : List Anomaly) : Prop where
  roles : ∀ role ∈ (RoleIndex.ofRoles t.roles).roles,
    Xor (∃ d ∈ config.roles, d.name.key = role.roleName.key) (.undeclaredRole role.name ∈ anomalies)
  permissions : ∀ d ∈ config.roles, ∃ id, t.roleId? d.name = some id ∧ ∀ p ∈ t.permissions.get id,
    Xor (d.Declares p.space p.name) (.undeclaredPermission d.name.text p.space p.name ∈ anomalies)
  holdings : ∃ group, Group.named? config.groupName t.groups = some group ∧
    (∀ a ∈ t.assignments.get group.id,
      Xor (∃ b ∈ config.bindings, t.roleId? b.role = some a.roleId ∧ b.scope.covers a.scope = true)
        (∃ name?, .undeclaredGroupRole config.groupName a.roleId name? a.scope ∈ anomalies)) ∧
    ∀ user ∈ group.members,
      Xor (user ∈ config.members) (.unexpectedMember config.groupName user ∈ anomalies)

/-- Whether a store has what an anomaly names, by the ids that another gives to names. -/
def Anomaly.Names (config : Config) (s t : Store) : Anomaly → Prop
  | undeclaredRole name => ∃ role ∈ s.roles, role.name = name
  | undeclaredPermission text space name => ∃ d ∈ config.roles, d.name.text = text ∧
      ∃ id, t.roleId? d.name = some id ∧ ∃ p ∈ s.permissions.get id, p.space = space ∧ p.name = name
  | undeclaredGroupRole group roleId _ scope => group = config.groupName ∧
      ∃ id, t.groupId? config.groupName = some id ∧
        ∃ a ∈ s.assignments.get id, a.roleId = roleId ∧ a.scope = scope
  | unexpectedMember group user => group = config.groupName ∧
      ∃ g ∈ s.groups, t.groupId? config.groupName = some g.id ∧ user ∈ g.members

/-- Whether an anomaly names what a write adds. -/
def Anomaly.Blames (config : Config) (t : Store) : Anomaly → Call → Prop
  | undeclaredRole name, .createRole r => r.name = name
  | undeclaredPermission text space name, .grantPermission r => r.space = space ∧ r.name = name ∧
      ∃ d ∈ config.roles, d.name.text = text ∧ t.roleId? d.name = some r.holderId
  | undeclaredGroupRole _ roleId _ scope, .grantRole r => r.roleId = roleId ∧ r.scope.name = scope
  | unexpectedMember _ user, .addGroupMember _ user' => user' = user
  | _, _ => False

section
variable {config : Config} {s t : Store} {anomaly : Anomaly} {calls : List Call}

theorem Undeclared.not_blames (h : Undeclared config t anomaly) (haccepted : config.Accepted)
    (ht : t.Orderly) {g : Goal} (hg : g.Wanted config t) : ¬anomaly.Blames config t g.request := by
  obtain ⟨hdeclared, hbound⟩ := hg
  intro hblames
  cases anomaly with
  | undeclaredRole name =>
    cases g with
    | role name' =>
      obtain ⟨role, -, hname, hnot⟩ := h
      obtain ⟨d, hd, rfl⟩ := hdeclared
      have hsame : d.name = role.roleName := congrArg RoleName.mk (hblames.trans hname.symm)
      exact hnot d hd (congrArg RoleName.key hsame)
    | permission | group | assignment | member => exact hblames
  | undeclaredPermission text space name =>
    cases g with
    | permission id space' name' =>
      obtain ⟨d, hd, htext, hnot, -⟩ := h
      obtain ⟨rfl, rfl, d', hd', htext', hid'⟩ := hblames
      obtain ⟨d'', hd'', hid'', hdeclares⟩ := hdeclared
      have hsame : d'.name = d.name := congrArg RoleName.mk (htext'.trans htext.symm)
      have hkey : d''.name.key = d.name.key := hsame ▸ ht.key_eq hid'' hid'
      rw [haccepted.eq_of_key hd'' hd hkey] at hdeclares
      exact hnot hdeclares
    | role | group | assignment | member => exact hblames
  | undeclaredGroupRole group roleId name? scope =>
    cases g with
    | assignment id roleId' scope' =>
      obtain ⟨-, -, hnot, -⟩ := h
      obtain ⟨rfl, rfl⟩ := hblames
      obtain ⟨b, hb, hid, rfl⟩ := hbound id roleId' scope' rfl
      have hcovers := hnot b hb hid
      rw [show (AssignmentRequest.forGroup roleId' id b.scope).scope = b.scope from rfl,
        Goal.covers_name, BEq.rfl] at hcovers
      cases hcovers
    | role | permission | group | member => exact hblames
  | unexpectedMember group user =>
    cases g with
    | member id user' =>
      obtain ⟨-, hnot, -⟩ := h
      obtain rfl : user' = user := hblames
      exact hnot hdeclared.2
    | role | permission | group | assignment => exact hblames

theorem Undeclared.names (h : Undeclared config (s.writeAll calls) anomaly)
    (hclear : ∀ c ∈ calls, ¬anomaly.Blames config (s.writeAll calls) c) :
    anomaly.Names config s (s.writeAll calls) := by
  cases anomaly with
  | undeclaredRole name =>
    obtain ⟨role, hrole, rfl, -⟩ := h
    cases Store.mem_roles_writeAll (RoleIndex.mem_of_mem_roles hrole) with
    | inl hold => exact ⟨role, hold, rfl⟩
    | inr hnew =>
      obtain ⟨r, hr, hname⟩ := hnew
      exact absurd hname (hclear _ hr)
  | undeclaredPermission text space name =>
    obtain ⟨d, hd, htext, -, id, hid, p, hp, rfl, rfl⟩ := h
    cases Store.mem_permissions_writeAll hp with
    | inl hold => exact ⟨d, hd, htext, id, hid, p, hold, rfl, rfl⟩
    | inr hnew =>
      obtain ⟨r, hr, rfl, hspace, hname⟩ := hnew
      exact absurd ⟨hspace, hname, d, hd, htext, hid⟩ (hclear _ hr)
  | undeclaredGroupRole group roleId name? scope =>
    obtain ⟨hgroup, -, -, id, hid, a, ha, rfl, rfl⟩ := h
    cases Store.mem_assignments_writeAll ha with
    | inl hold => exact ⟨hgroup, id, hid, a, hold, rfl, rfl⟩
    | inr hnew =>
      obtain ⟨r, hr, -, rfl⟩ := hnew
      exact absurd ⟨rfl, rfl⟩ (hclear _ hr)
  | unexpectedMember group user =>
    obtain ⟨hgroup, -, g, hg, huser⟩ := h
    have hid := congrArg (Option.map Group.id) hg
    cases Store.mem_members_writeAll (List.mem_of_find?_eq_some hg) huser with
    | inl hold =>
      obtain ⟨g', hg', hsame, huser'⟩ := hold
      exact ⟨hgroup, g', hg', hid.trans (congrArg some hsame.symm), huser'⟩
    | inr hnew => exact absurd rfl (hclear _ hnew)

theorem audited_of_carryOut (haccepted : config.Accepted) {as : List Anomaly}
    (hnothing : carryOut (Stage.all config) t = ([], .ok as)) : Audited config t as where
  roles role hrole := by
    rw [xor_iff_not_iff', mem_iff_undeclared haccepted hnothing]
    constructor
    · intro hnot
      exact ⟨role, hrole, rfl, fun d hd hkey => hnot ⟨d, hd, hkey⟩⟩
    · intro hflagged hdeclared
      obtain ⟨role', -, hname, hnot⟩ := hflagged
      obtain ⟨d, hd, hkey⟩ := hdeclared
      have hsame : role.roleName = role'.roleName := congrArg RoleName.mk hname.symm
      exact hnot d hd (hsame ▸ hkey)
  permissions d hd := by
    have hmem : Stage.permissions d ∈ Stage.all config :=
      List.mem_cons_of_mem _ (List.mem_append_left _ (List.mem_map_of_mem hd))
    obtain ⟨id, hid, -⟩ := Stage.permissions_eq_ok.1 ((flagged_of_carryOut hnothing).1 _ hmem)
    refine ⟨id, hid, fun p hp => ?_⟩
    rw [xor_iff_not_iff', mem_iff_undeclared haccepted hnothing]
    constructor
    · intro hnot
      exact ⟨d, hd, rfl, hnot, id, hid, p, hp, rfl, rfl⟩
    · intro hflagged
      obtain ⟨d', hd', htext, hnot, -⟩ := hflagged
      have hsame : d'.name = d.name := congrArg RoleName.mk htext
      rw [haccepted.eq_of_key hd' hd (congrArg RoleName.key hsame)] at hnot
      exact hnot
  holdings := by
    have hmem : Stage.members config ∈ Stage.all config := by simp [Stage.all]
    obtain ⟨group, hgroup, -⟩ := Stage.members_eq_ok.1 ((flagged_of_carryOut hnothing).1 _ hmem)
    have hid : t.groupId? config.groupName = some group.id := congrArg (Option.map Group.id) hgroup
    refine ⟨group, hgroup, fun a ha => ?_, fun user huser => ?_⟩
    · rw [xor_iff_not_iff']
      constructor
      · intro hnot
        refine ⟨_, (mem_iff_undeclared haccepted hnothing).2 ⟨rfl, rfl, fun b hb hid => ?_, group.id, hid, a, ha, rfl, rfl⟩⟩
        exact Bool.eq_false_iff.2 fun hcovers => hnot ⟨b, hb, hid, hcovers⟩
      · intro hflagged hdeclared
        obtain ⟨name?, hflagged⟩ := hflagged
        obtain ⟨-, -, hnot, -⟩ := (mem_iff_undeclared haccepted hnothing).1 hflagged
        obtain ⟨b, hb, hid, hcovers⟩ := hdeclared
        rw [hnot b hb hid] at hcovers
        cases hcovers
    · rw [xor_iff_not_iff', mem_iff_undeclared haccepted hnothing]
      constructor
      · intro hnot
        exact ⟨rfl, hnot, group, hgroup, huser⟩
      · intro hflagged
        exact hflagged.2.1

end

namespace Baseline

/-- In the store that a run leaves that succeeds and loses no write, every listed role, every permission
of a declared role and every assignment and member of the managed group is declared or flagged, and
none is both. What is flagged was in the store before the run, and no write of the run added it. -/
theorem run_audited {config : Config} (haccepted : config.Accepted) {service : Memory.Service}
    (hkeeps : service.forgotten = []) (horderly : service.store.Orderly) :
    let r := Interaction.run Memory.Service.respond (run config) service
    let t := r.state.store
    ∀ report, r.result = .ok report →
      Audited config t report.anomalies ∧
      ∀ anomaly ∈ report.anomalies, anomaly.Names config service.store t ∧
        ∀ call ∈ applied r.steps, ¬anomaly.Blames config t call := by
  intro r t report hok
  obtain ⟨happlied, hstore, hanomalies⟩ := carryOut_of_ok hkeeps hok
  have hnothing : carryOut (Stage.all config) t = ([], .ok report.anomalies) := by
    have hall : (carryOut (Stage.all config) service.store).1 = applied r.steps ++ [] := by
      rw [happlied, List.append_nil]
    have hrest := carryOut_writeAll (Stage.all_resumes haccepted) (Stage.all_ignores haccepted)
      horderly hall
    rw [hanomalies] at hrest
    rw [show t = _ from hstore]
    exact hrest
  have ht : t.Orderly := by
    rw [show t = _ from hstore]
    exact horderly.writeAll _
  refine ⟨audited_of_carryOut haccepted hnothing, fun anomaly hanomaly => ?_⟩
  have hundeclared : Undeclared config t anomaly := (mem_iff_undeclared haccepted hnothing).1 hanomaly
  have hclear (call : Call) (hcall : call ∈ applied r.steps) : ¬anomaly.Blames config t call := by
    have hwanted := wanted_of_mem_carryOut config service.store
    rw [← happlied, ← hstore] at hwanted
    obtain ⟨g, rfl, hg⟩ := hwanted call hcall
    exact hundeclared.not_blames haccepted ht hg
  refine ⟨?_, hclear⟩
  rw [show t = _ from hstore] at hundeclared hclear ⊢
  exact hundeclared.names hclear

theorem small_audited :
    let r := Interaction.run Memory.Service.respond (run Config.small) (.reliable .small)
    Config.small.Accepted ∧ Store.small.Orderly ∧ ∃ report, r.result = .ok report ∧
      report.anomalies = [.undeclaredPermission "Reader" "docs" "purge", .unexpectedMember "Ops" "bob"] ∧
      Audited Config.small r.state.store report.anomalies := by
  intro r
  have hanomalies : r.result.toOption.map (·.anomalies) =
      some [.undeclaredPermission "Reader" "docs" "purge", .unexpectedMember "Ops" "bob"] := by
    decide +kernel
  cases hresult : r.result with
  | error e =>
    rw [hresult] at hanomalies
    cases hanomalies
  | ok report =>
    rw [hresult] at hanomalies
    have haudited := @run_audited Config.small Config.small_accepted (.reliable .small) rfl
      Store.small_orderly report hresult
    exact ⟨Config.small_accepted, Store.small_orderly, report, rfl, Option.some.inj hanomalies,
      haudited.1⟩

end Baseline

end AccessBaseline
