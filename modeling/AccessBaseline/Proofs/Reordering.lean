import AccessBaseline.Proofs.Audit
import AccessBaseline.Proofs.Outcome
import AccessBaseline.Proofs.Tally

/-! What a run does not depend on: the order in which the service lists things, and how often it lists a
permission, an assignment or a member. Where names and ids are unambiguous, two stores that differ in
nothing else answer all that a stage looks up alike, and every write keeps them so. -/
namespace AccessBaseline
open Memory (Store)

/-- Whether two lists have the same members, in any order and number. -/
def Same {α : Type} (as bs : List α) : Prop := ∀ a, a ∈ as ↔ a ∈ bs

section Same
variable {α β : Type} {as bs : List α}

theorem Same.refl (as : List α) : Same as as := fun _ => Iff.rfl

theorem Same.append {as' bs' : List α} (h : Same as bs) (h' : Same as' bs') :
    Same (as ++ as') (bs ++ bs') := by
  intro a
  rw [List.mem_append, List.mem_append, h a, h' a]

theorem Same.any (h : Same as bs) (p : α → Bool) : as.any p = bs.any p := by
  rw [Bool.eq_iff_iff, List.any_eq_true, List.any_eq_true]
  exact exists_congr fun a => and_congr_left fun _ => h a

theorem Same.filter (h : Same as bs) (p : α → Bool) : Same (as.filter p) (bs.filter p) := by
  intro a
  rw [List.mem_filter, List.mem_filter, h a]

theorem Same.map (h : Same as bs) (f : α → β) : Same (as.map f) (bs.map f) := by
  intro b
  simp only [List.mem_map, h _]

theorem Same.without [BEq α] (h : Same as bs) (cs : List α) : without cs as = without cs bs :=
  List.filter_congr fun c _ => by rw [h.any]

end Same

/-- Whether two groups differ in nothing but the order and number of their members. -/
structure Group.Alike (g g' : Group) : Prop where
  id : g.id = g'.id
  name : g.name = g'.name
  members : Same g.members g'.members

theorem Group.Alike.refl (g : Group) : g.Alike g := ⟨rfl, rfl, .refl _⟩

/-- Equal failures, or values that are related. -/
inductive Agree {α : Type} (related : α → α → Prop) : Except Failure α → Except Failure α → Prop where
  | error (e : Failure) : Agree related (.error e) (.error e)
  | ok {a a' : α} : related a a' → Agree related (.ok a) (.ok a')

theorem Agree.of_map {α β : Type} {related : β → β → Prop} {related' : α → α → Prop} {f : α → β}
    {x y : Except Failure α} (h : Agree related (x.map f) (y.map f))
    (himp : ∀ a b, x = .ok a → y = .ok b → related (f a) (f b) → related' a b) : Agree related' x y := by
  cases x with
  | error e =>
    cases y with
    | error e' =>
      cases h
      exact .error e
    | ok b => cases h
  | ok a =>
    cases y with
    | error e' => cases h
    | ok b =>
      cases h with
      | ok hab => exact .ok (himp a b rfl rfl hab)

namespace Memory.Store
variable {s s' : Store}

/-- Whether two stores hold the same, each list in any order and the entries of an id in any number. -/
structure Reordered (s s' : Store) : Prop where
  roles : s.roles.Perm s'.roles
  groups : ∃ groups, s.groups.Perm groups ∧ List.Forall₂ Group.Alike groups s'.groups
  permissions : ∀ id, Same (s.permissions.get id) (s'.permissions.get id)
  assignments : ∀ id, Same (s.assignments.get id) (s'.assignments.get id)
  created : s.created = s'.created

/-- No two roles have names with one key, and no two groups have one name. -/
structure Unambiguous (s : Store) : Prop where
  roles : (s.roles.map (·.roleName.key)).Nodup
  groups : (s.groups.map (·.name)).Nodup

/-- Whether two stores answer alike what a run looks up in them. -/
structure Alike (s s' : Store) : Prop where
  index : RoleIndex.ofRoles s.roles = RoleIndex.ofRoles s'.roles
  group : ∀ name, Option.Rel Group.Alike (Group.named? name s.groups) (Group.named? name s'.groups)
  permissions : ∀ id, Same (s.permissions.get id) (s'.permissions.get id)
  assignments : ∀ id, Same (s.assignments.get id) (s'.assignments.get id)
  created : s.created = s'.created

theorem Alike.groupId?_eq (h : s.Alike s') (name : String) : s.groupId? name = s'.groupId? name := by
  have hgroup := h.group name
  unfold groupId?
  generalize Group.named? name s.groups = g?, Group.named? name s'.groups = g?' at hgroup ⊢
  cases hgroup with
  | none => rfl
  | some hgroup => exact congrArg some hgroup.id

end Memory.Store

theorem find?_perm {α κ : Type} [BEq κ] [LawfulBEq κ] {key : α → κ} {as bs : List α} (h : as.Perm bs)
    (hnodup : (as.map key).Nodup) (k : κ) : as.find? (key · == k) = bs.find? (key · == k) := by
  refine Option.ext fun a => ?_
  rw [find?_key_eq_some hnodup, find?_key_eq_some ((h.map key).nodup_iff.1 hnodup), h.mem_iff]

theorem RoleIndex.ofRoles_perm {roles roles' : List Role} (h : roles.Perm roles')
    (hnodup : (roles.map (·.roleName.key)).Nodup) : ofRoles roles = ofRoles roles' := by
  refine (valid_ofRoles roles).ext (valid_ofRoles roles') fun key => ?_
  rw [lookup_ofRoles, lookup_ofRoles]
  exact find?_perm h hnodup key

theorem Group.ids_alike {groups groups' : List Group} (h : List.Forall₂ Group.Alike groups groups') :
    groups.map (·.id) = groups'.map (·.id) := by
  induction h with
  | nil => rfl
  | cons hg _ ih => rw [List.map_cons, List.map_cons, hg.id, ih]

theorem Group.named?_alike {groups groups' : List Group} (h : List.Forall₂ Group.Alike groups groups')
    (name : String) : Option.Rel Group.Alike (named? name groups) (named? name groups') := by
  induction h with
  | nil => exact .none
  | @cons g g' gs gs' hg _ ih =>
    rw [named?, named?, List.find?_cons, List.find?_cons, ← hg.name]
    cases g.name == name with
    | true => exact .some hg
    | false => exact ih

namespace Memory.Store

/-- Where no two groups have one id, all that has the id is changed. -/
theorem alterGroup_eq_map {groups : List Group} (h : (groups.map (·.id)).Nodup) (id : String)
    (f : List String → List String) :
    alterGroup id f groups =
      groups.map fun g => if g.id = id then { g with members := f g.members } else g := by
  induction groups with
  | nil => rfl
  | cons g gs ih =>
    obtain ⟨hhead, htail⟩ := List.nodup_cons.1 h
    rw [alterGroup, List.map_cons, ← ih htail]
    by_cases hid : g.id = id
    · subst hid
      simp [alterGroup_of_notMem hhead]
    · simp [hid]

theorem named?_alterGroup {groups : List Group} (h : (groups.map (·.id)).Nodup) (name id : String)
    (f : List String → List String) :
    Group.named? name (alterGroup id f groups) = (Group.named? name groups).map fun g =>
      if g.id = id then { g with members := f g.members } else g := by
  have hname : (fun g : Group => g.name == name) ∘
      (fun g => if g.id = id then { g with members := f g.members } else g) = (·.name == name) := by
    funext g
    by_cases hid : g.id = id <;> simp [hid]
  rw [alterGroup_eq_map h, Group.named?, List.find?_map, hname, Group.named?]

variable {s s' : Store}

theorem Reordered.orderly (h : s.Reordered s') (hs : s.Orderly) : s'.Orderly := by
  have hroles : (s.roles.map (·.id)).Perm (s'.roles.map (·.id)) := h.roles.map _
  have hgroups : (s.groups.map (·.id)).Perm (s'.groups.map (·.id)) := by
    obtain ⟨groups, hperm, halike⟩ := h.groups
    exact Group.ids_alike halike ▸ hperm.map _
  refine ⟨hroles.nodup_iff.1 hs.roles, hgroups.nodup_iff.1 hs.groups, fun n hn => ?_, fun n hn => ?_⟩
  · rw [← hroles.mem_iff]
    exact hs.newRoles n (h.created ▸ hn)
  · rw [← hgroups.mem_iff]
    exact hs.newGroups n (h.created ▸ hn)

theorem Alike.of_reordered (h : s.Reordered s') (hclear : s.Unambiguous) : s.Alike s' where
  index := RoleIndex.ofRoles_perm h.roles hclear.roles
  group name := by
    obtain ⟨groups, hperm, halike⟩ := h.groups
    rw [Group.named?, find?_perm hperm hclear.groups]
    exact Group.named?_alike halike name
  permissions := h.permissions
  assignments := h.assignments
  created := h.created

theorem Alike.alterGroup (h : s.Alike s') (hs : s.Orderly) (hs' : s'.Orderly) (id : String)
    {f : List String → List String} (hf : ∀ ms ms', Same ms ms' → Same (f ms) (f ms')) :
    Alike { s with groups := alterGroup id f s.groups } { s' with groups := alterGroup id f s'.groups } := by
  refine { h with group := fun name => ?_ }
  have hgroup := h.group name
  rw [named?_alterGroup hs.groups, named?_alterGroup hs'.groups]
  generalize Group.named? name s.groups = g?, Group.named? name s'.groups = g?' at hgroup ⊢
  cases hgroup with
  | none => exact .none
  | @some g g' hg =>
    refine .some ?_
    have hid' := hg.id
    by_cases hid : g.id = id
    · simp only [← hid', hid, if_true]
      exact ⟨rfl, hg.name, hf _ _ hg.members⟩
    · simp only [← hid', hid, if_false]
      exact hg

theorem Alike.write (h : s.Alike s') (hs : s.Orderly) (hs' : s'.Orderly) (c : Call) :
    (s.write c).Alike (s'.write c) := by
  have hpush {α : Type} {lists lists' : ListsById α} (h : ∀ id, Same (lists.get id) (lists'.get id))
      (holder : String) (a : α) (id : String) :
      Same ((lists.push holder a).get id) ((lists'.push holder a).get id) := by
    rw [ListsById.get_push, ListsById.get_push]
    by_cases hid : id = holder
    · rw [if_pos hid, if_pos hid]
      exact (h id).append (.refl _)
    · rw [if_neg hid, if_neg hid]
      exact h id
  cases c with
  | createRole r =>
    refine { h with index := ?_, created := congrArg (· + 1) h.created }
    simp only [Store.write, RoleIndex.ofRoles_append, h.index, h.created]
  | grantPermission r => exact { h with permissions := hpush h.permissions _ _ }
  | createGroup g =>
    refine { h with group := fun name => ?_, created := congrArg (· + 1) h.created }
    have hgroup := h.group name
    have hrefl (g? : Option Group) : Option.Rel Group.Alike g? g? := by
      cases g? with
      | none => exact .none
      | some g => exact .some (.refl g)
    simp only [Store.write, Group.named?, List.find?_append, h.created] at hgroup ⊢
    generalize s.groups.find? _ = g?, s'.groups.find? _ = g?' at hgroup ⊢
    cases hgroup with
    | none => exact hrefl _
    | some hg => exact .some hg
  | addGroupMember id user => exact h.alterGroup hs hs' id fun _ _ hms => hms.append (.refl _)
  | removeGroupMember id user => exact h.alterGroup hs hs' id fun _ _ hms => hms.filter _
  | grantRole r =>
    by_cases hkind : r.holderKind = .group
    · simp only [Store.write, if_pos hkind]
      exact { h with assignments := hpush h.assignments _ _ }
    · simp only [Store.write, if_neg hkind]
      exact h
  | assignableRoles | rolePermissions | groups | groupRoleGrants | capabilities | capabilityMembers =>
    exact h

theorem Alike.writeAll (h : s.Alike s') (hs : s.Orderly) (hs' : s'.Orderly) (calls : List Call) :
    (s.writeAll calls).Alike (s'.writeAll calls) := by
  induction calls generalizing s s' with
  | nil => exact h
  | cons c calls ih => exact ih (h.write hs hs' c) (hs.write c) (hs'.write c)

end Memory.Store

/-- Whether a stage makes the same writes in stores that are alike, and flags the same anomalies. -/
def Stage.Insensitive (f : Stage) : Prop :=
  ∀ s s', s.Alike s' → Agree (fun out out' => out.1 = out'.1 ∧ Same out.2 out'.2) (f s) (f s')

theorem carryOut_alike {fs : List Stage} (hfs : ∀ f ∈ fs, f.Insensitive) {s s' : Store}
    (h : s.Alike s') (hs : s.Orderly) (hs' : s'.Orderly) :
    (carryOut fs s).1 = (carryOut fs s').1 ∧ Agree Same (carryOut fs s).2 (carryOut fs s').2 := by
  induction fs generalizing s s' with
  | nil => exact ⟨rfl, .ok (.refl _)⟩
  | cons f fs ih =>
    obtain ⟨hf, hfs⟩ := List.forall_mem_cons.1 hfs
    have hfirst := hf s s' h
    generalize hout : f s = out, hout' : f s' = out' at hfirst
    cases hfirst with
    | error e =>
      rw [carryOut, carryOut, hout, hout']
      exact ⟨rfl, .error e⟩
    | @ok out out' hsame =>
      obtain ⟨calls, as⟩ := out
      obtain ⟨calls', as'⟩ := out'
      obtain ⟨rfl, has⟩ := hsame
      obtain ⟨hcalls, hrest⟩ := ih hfs (h.writeAll hs hs' calls) (hs.writeAll calls) (hs'.writeAll calls)
      rw [carryOut_cons_ok hout, carryOut_cons_ok hout', hcalls]
      refine ⟨rfl, ?_⟩
      generalize (carryOut fs (s.writeAll calls)).2 = rest, (carryOut fs (s'.writeAll calls)).2 = rest'
        at hrest ⊢
      cases hrest with
      | error e => exact .error e
      | ok hbs => exact .ok (has.append hbs)

namespace Stage

theorem insensitive_roles (config : Config) : (roles config).Insensitive := by
  intro s s' h
  simp only [roles, h.index]
  exact .ok ⟨rfl, .refl _⟩

theorem insensitive_permissions {role : DeclaredRole} (hrole : role.Distinct) :
    (permissions role).Insensitive := by
  intro s s' h
  simp only [permissions, h.index]
  cases (RoleIndex.ofRoles s'.roles).requireId role.name with
  | error e => exact .error e
  | ok id =>
    have hheld := h.permissions id
    have hmissing : Missing.permissions role id (s.permissions.get id) =
        Missing.permissions role id (s'.permissions.get id) := by
      refine List.flatMap_congr fun e _ => ?_
      have hnames : Same (Permission.namesIn e.1 (s.permissions.get id))
          (Permission.namesIn e.1 (s'.permissions.get id)) := (hheld.filter _).map _
      rw [Missing.space, differences, hnames.without]
      rfl
    refine .ok ⟨hmissing, fun a => ?_⟩
    rw [Surplus.mem_permissions hrole, Surplus.mem_permissions hrole]
    simp only [hheld _]

theorem insensitive_group (config : Config) : (group config).Insensitive := by
  intro s s' h
  have hid := h.groupId?_eq config.groupName
  rw [group_congr hid]
  exact .ok ⟨rfl, .refl _⟩

theorem insensitive_assignments (config : Config) : (assignments config).Insensitive := by
  intro s s' h
  simp only [assignments, h.groupId?_eq, h.index]
  cases s'.groupId? config.groupName with
  | none => exact .error _
  | some id =>
    have hassigned := h.assignments id
    cases Reconcile.resolve (.ofRoles s'.roles) (firsts config.bindings) with
    | error e => exact .error e
    | ok resolved =>
      have hheld (r : Reconcile.Resolved) :
          r.isHeld (s.assignments.get id) = r.isHeld (s'.assignments.get id) := hassigned.any _
      refine .ok ⟨?_, (hassigned.filter _).map _⟩
      simp only [Missing.assignments, hheld]

theorem insensitive_members (config : Config) : (members config).Insensitive := by
  intro s s' h
  have hgroup := h.group config.groupName
  unfold members
  generalize Group.named? config.groupName s.groups = g?, Group.named? config.groupName s'.groups = g?'
    at hgroup ⊢
  cases hgroup with
  | none => exact .error _
  | @some g g' hg =>
    refine .ok ⟨?_, fun a => ?_⟩
    · simp only [Missing.members, differences, hg.members.without, hg.id]
    · rw [Surplus.mem_members, Surplus.mem_members, hg.name]
      simp only [hg.members _]

theorem all_insensitive {config : Config} (haccepted : config.Accepted) :
    ∀ f ∈ all config, f.Insensitive := by
  refine List.forall_mem_cons.2 ⟨insensitive_roles config, List.forall_mem_append.2 ⟨fun f hf => ?_, ?_⟩⟩
  · obtain ⟨role, hrole, rfl⟩ := List.mem_map.1 hf
    exact insensitive_permissions (haccepted.distinct role hrole)
  · simp only [List.forall_mem_cons]
    exact ⟨insensitive_group config, insensitive_assignments config, insensitive_members config, by simp⟩

end Stage

namespace Baseline

/-- The order of the listed roles and groups does not matter, nor do order and number of a role's
permissions, of a group's assignments and of its members: an undisturbed run makes the same writes in
the same order, counts the same changes and flags the same anomalies, or ends with the same failure. -/
theorem run_order_insensitive {config : Config} (haccepted : config.Accepted) {s s' : Store}
    (h : s.Reordered s') (hs : s.Orderly) (hclear : s.Unambiguous) (called called' : List String) :
    let r := undisturbed config s called
    let r' := undisturbed config s' called'
    r.ops.filter Call.isWrite = r'.ops.filter Call.isWrite ∧
      Agree (fun report report' => (∀ kind, report.total kind = report'.total kind) ∧
        Same report.anomalies report'.anomalies) r.result r'.result := by
  intro r r'
  obtain ⟨hwrites, -, hresult⟩ := undisturbed_exact called config s
  obtain ⟨hwrites', -, hresult'⟩ := undisturbed_exact called' config s'
  obtain ⟨hcalls, hends⟩ :=
    carryOut_alike (Stage.all_insensitive haccepted) (.of_reordered h hclear) hs (h.orderly hs)
  have hsame : r.ops.filter Call.isWrite = r'.ops.filter Call.isWrite :=
    hwrites.trans (hcalls.trans hwrites'.symm)
  rw [← hresult, ← hresult'] at hends
  refine ⟨hsame, hends.of_map fun report report' hr hr' hanomalies => ⟨fun kind => ?_, hanomalies⟩⟩
  have hall : applied r.steps = r.ops.filter Call.isWrite := applied_of_unfailed (unfailed_of_ok hr)
  have hall' : applied r'.steps = r'.ops.filter Call.isWrite := applied_of_unfailed (unfailed_of_ok hr')
  rw [(tallies_run hr).totals, (tallies_run hr').totals, hall, hall', hsame]

def listed : Store :=
  ⟨[⟨"r1", "READER", "Global"⟩, ⟨"r2", "Writer", "Global"⟩],
    [("r1", [⟨"docs", "purge", "Global", "*"⟩, ⟨"docs", "read", "Global", "*"⟩])],
    [⟨"g1", "Ops", ["bob", "cem"]⟩, ⟨"g2", "Dev", []⟩], [], [], [], 0⟩

def relisted : Store :=
  ⟨[⟨"r2", "Writer", "Global"⟩, ⟨"r1", "READER", "Global"⟩],
    [("r1", [⟨"docs", "read", "Global", "*"⟩, ⟨"docs", "purge", "Global", "*"⟩,
      ⟨"docs", "read", "Global", "*"⟩])],
    [⟨"g2", "Dev", []⟩, ⟨"g1", "Ops", ["cem", "bob", "bob"]⟩], [], [], [], 0⟩

theorem listed_reordered : listed.Reordered relisted where
  roles := .swap _ _ _
  groups := ⟨[⟨"g2", "Dev", []⟩, ⟨"g1", "Ops", ["bob", "cem"]⟩], .swap _ _ _,
    .cons (.refl _) (.cons ⟨rfl, rfl, by simp [Same, or_comm]⟩ .nil)⟩
  permissions id := by
    by_cases hid : id = "r1"
    · subst hid
      simp [Same, listed, relisted, ListsById.get, or_comm]
    · simp [Same, listed, relisted, ListsById.get, List.lookup_cons, hid, beq_eq_false_iff_ne.2]
  assignments _ := .refl _
  created := rfl

theorem listed_orderly : listed.Orderly where
  roles := by decide
  groups := by decide
  newRoles n _ h := by
    cases List.mem_pair.1 h with
    | inl heq => simpa using congrArg String.toList heq
    | inr heq => simpa using congrArg String.toList heq
  newGroups n _ h := by
    cases List.mem_pair.1 h with
    | inl heq => simpa using congrArg String.toList heq
    | inr heq => simpa using congrArg String.toList heq

theorem listed_unambiguous : listed.Unambiguous := ⟨by decide +kernel, by decide⟩

/-- The writes agree, while the two undeclared members are flagged in the order of each listing. -/
theorem listed_insensitive :
    let r := undisturbed Config.small listed []
    let r' := undisturbed Config.small relisted []
    Config.small.Accepted ∧ listed.Reordered relisted ∧ listed.Orderly ∧ listed.Unambiguous ∧
      r.ops.filter Call.isWrite = r'.ops.filter Call.isWrite ∧ (r.ops.filter Call.isWrite).length = 3 ∧
      r.result.toOption ≠ r'.result.toOption :=
  ⟨Config.small_accepted, listed_reordered, listed_orderly, listed_unambiguous,
    (run_order_insensitive Config.small_accepted listed_reordered listed_orderly listed_unambiguous [] []).1,
    by decide +kernel, by decide +kernel⟩

end Baseline

end AccessBaseline
