import AccessBaseline.Proofs.Baseline

/-! In which order a baseline run makes its calls, whoever answers and whatever the answers are. A
failed call is the last one; without one a run fails only where a name is not found. -/
namespace AccessBaseline

def roleReads (log : List Success) : List (List Role) :=
  log.filterMap fun
    | ⟨.assignableRoles, roles⟩ => some roles
    | _ => none

def groupReads (log : List Success) : List (List Group) :=
  log.filterMap fun
    | ⟨.groups, groups⟩ => some groups
    | _ => none

/-- The calls for one declared role: its permissions are read, and then some are granted. -/
structure Visit where
  roleId : String
  granted : List PermissionRequest

def Visit.calls (v : Visit) : List Call := .rolePermissions v.roleId :: v.granted.map .grantPermission

structure Course where
  created : List NewRole
  visits : List Visit
  groupCreated : List NewGroup
  groupId : String
  assigned : List AssignmentRequest
  added : List String

namespace Course

def groupCalls (c : Course) : List Call :=
  .groups :: c.groupCreated.map .createGroup ++ .groups :: .groupRoleGrants c.groupId ::
    c.assigned.map .grantRole ++ c.added.map (.addGroupMember c.groupId)

def calls (config : Config) (c : Course) : List Call :=
  .assignableRoles :: c.created.map .createRole ++ .assignableRoles :: c.visits.flatMap Visit.calls ++
    if c.visits.length = config.roles.length then
      c.groupCalls ++ if config.debug then [.groups] else []
    else []

/-- Whether a course has the ids that the second reads of roles and of groups give. Declared roles are
visited in their order, up to one that was not listed. -/
structure Fits (config : Config) (listed : List Role) (known : List Group) (c : Course) : Prop where
  visits : c.visits.map (some ·.roleId) =
    (config.roles.map fun role => (RoleIndex.ofRoles listed).idOf? role.name).takeWhile Option.isSome
  granted : ∀ v ∈ c.visits, ∀ g ∈ v.granted, g.holderKind = .role ∧ g.holderId = v.roleId
  groupCreated : c.groupCreated.length ≤ 1
  groupId : ∀ group, Group.named? config.groupName known = some group → c.groupId = group.id
  assigned : ∀ a ∈ c.assigned, a.holderKind = .group ∧ a.holderId = c.groupId

end Course

/-- The failures of a run without a failed call. -/
inductive NotFound (config : Config) (listed : List Role) (known : List Group) : Failure → Prop
  | role {role : DeclaredRole} (h : role ∈ config.roles)
      (hid : (RoleIndex.ofRoles listed).idOf? role.name = none) :
      NotFound config listed known (.roleNotFound role.name.text)
  | group (h : Group.named? config.groupName known = none) :
      NotFound config listed known (.groupNotFound config.groupName)
  | binding {b : Binding} (h : b ∈ config.bindings)
      (hid : (RoleIndex.ofRoles listed).idOf? b.role = none) :
      NotFound config listed known (.roleNotFound b.role.text)

section
variable {log log' : List Success}

theorem getElem?_of_initial {α : Type} {as bs : List α} (h : as <+: bs) {i : Nat} {a : α}
    (ha : as[i]? = some a) : bs[i]? = some a := by
  obtain ⟨cs, rfl⟩ := h
  obtain ⟨hi, -⟩ := List.getElem?_eq_some_iff.1 ha
  rw [List.getElem?_append_left hi, ha]

theorem roleReads_append (log log' : List Success) :
    roleReads (log ++ log') = roleReads log ++ roleReads log' := List.filterMap_append ..

theorem groupReads_append (log log' : List Success) :
    groupReads (log ++ log') = groupReads log ++ groupReads log' := List.filterMap_append ..

theorem roleReads_eq_nil (h : .assignableRoles ∉ log.map (·.1)) : roleReads log = [] := by
  refine List.filterMap_eq_nil_iff.2 fun x hx => ?_
  obtain ⟨call, v⟩ := x
  cases call with
  | assignableRoles => exact absurd (List.mem_map_of_mem hx) h
  | _ => rfl

theorem of_mem_roleReads {listed : List Role} (h : listed ∈ roleReads log) :
    ⟨.assignableRoles, listed⟩ ∈ log := by
  obtain ⟨⟨call, v⟩, hx, hread⟩ := List.mem_filterMap.1 h
  cases call with
  | assignableRoles =>
    obtain rfl : v = listed := Option.some.inj hread
    exact hx
  | _ => cases hread

theorem groupReads_eq_nil (h : .groups ∉ log.map (·.1)) : groupReads log = [] := by
  refine List.filterMap_eq_nil_iff.2 fun x hx => ?_
  obtain ⟨call, v⟩ := x
  cases call with
  | groups => exact absurd (List.mem_map_of_mem hx) h
  | _ => rfl

theorem writes_logging {calls : List Call} :
    Writes Dialogue.logging calls log log' ↔ ∃ more, log' = log ++ more ∧ more.map (·.1) = calls := by
  induction calls generalizing log with
  | nil =>
    constructor
    · intro h
      obtain rfl := h
      exact ⟨[], (List.append_nil _).symm, rfl⟩
    · intro h
      obtain ⟨more, rfl, hmore⟩ := h
      rw [List.map_eq_nil_iff.1 hmore, List.append_nil]
      rfl
  | cons call calls ih =>
    simp only [Writes, ih]
    constructor
    · intro h
      obtain ⟨v, m, rfl, more, rfl, rfl⟩ := h
      exact ⟨⟨call, v⟩ :: more, by simp, rfl⟩
    · intro h
      obtain ⟨more, rfl, hmore⟩ := h
      obtain ⟨⟨call, v⟩, more, rfl, rfl, rfl⟩ := List.map_eq_cons_iff.1 hmore
      exact ⟨v, _, rfl, more, by simp, rfl⟩

end

namespace Baseline
open Reconcile Dialogue
variable {config : Config} {index : RoleIndex} {log log' : List Success} {rep rep' : Report}
  {res : Except Failure Unit}

theorem exists_of_shown {debug : Bool} (h : Shown logging debug log log') :
    ∃ last : List Success, log' = log ++ last ∧
      last.map (·.1) = if debug then [.groups] else [] := by
  unfold Shown at h
  split at h
  · next hdebug =>
    obtain ⟨groups, rfl⟩ := h
    exact ⟨[⟨.groups, groups⟩], rfl, by simp [hdebug]⟩
  · next hdebug => exact ⟨[], h.trans (List.append_nil _).symm, by simp [hdebug]⟩

end Baseline

end AccessBaseline
