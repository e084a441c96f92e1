import AccessBaseline.Baseline
import AccessBaseline.Proofs.Lookup
import AccessBaseline.Proofs.Reconcile.Logic

/-! What each part of a baseline run asks, writes and flags. A part reads first; what it then finds
missing is written and what it finds surplus is flagged, in a fixed order. -/
namespace AccessBaseline

namespace Missing

def roles (desired : List DeclaredRole) (observed : RoleIndex) : List Call :=
  (differences (desired.map (·.name)) (observed.roles.map Role.roleName)).onlyInFirst.map fun name =>
    .createRole (.generated name)

def space (roleId space : String) (desired observed : List String) : List Call :=
  (differences desired observed).onlyInFirst.map fun name =>
    .grantPermission (.forRole roleId space name)

def permissions (role : DeclaredRole) (roleId : String) (held : List Permission) : List Call :=
  role.permissions.flatMap fun e => space roleId e.1 e.2 (Permission.namesIn e.1 held)

def group (name : String) (known : List Group) : List Call :=
  if (Group.named? name known).isNone then [.createGroup (.generated name)] else []

def assignments (groupId : String) (assigned : List Assignment) (resolved : List Reconcile.Resolved) :
    List Call :=
  (resolved.filter fun r => !r.isHeld assigned).map fun r =>
    .grantRole (.forGroup r.roleId groupId r.binding.scope)

def members (group : Group) (desired : List String) : List Call :=
  (differences desired group.members).onlyInFirst.map fun member => .addGroupMember group.id member

end Missing

namespace Surplus

def roles (desired : List DeclaredRole) (observed : RoleIndex) : List Anomaly :=
  (differences (desired.map (·.name)) (observed.roles.map Role.roleName)).onlyInSecond.map fun name =>
    .undeclaredRole name.text

def space (role : RoleName) (space : String) (desired observed : List String) : List Anomaly :=
  (differences desired observed).onlyInSecond.map fun name =>
    .undeclaredPermission role.text space name

def permissions (role : DeclaredRole) (held : List Permission) : List Anomaly :=
  role.permissions.flatMap (fun e => space role.name e.1 e.2 (Permission.namesIn e.1 held)) ++
    (Permission.othersBySpace held (role.permissions.map (·.1))).flatMap fun e =>
      space role.name e.1 [] e.2

def assignments (groupName : String) (index : RoleIndex) (assigned : List Assignment)
    (resolved : List Reconcile.Resolved) : List Anomaly :=
  (assigned.filter fun a => !Reconcile.isDeclared resolved a).map fun a =>
    .undeclaredGroupRole groupName a.roleId (index.nameOfId? a.roleId) a.scope

def members (group : Group) (desired : List String) : List Anomaly :=
  (differences desired group.members).onlyInSecond.map fun member =>
    .unexpectedMember group.name member

end Surplus

namespace Reconcile
variable {α σ : Type} {reply : Reply σ} {s t : σ} {rep rep' : Report}

theorem does_createRole (name : RoleName) :
    Does .roleCreated (createRole name) [.createRole (.generated name)] [] :=
  (does_note _).bind fun _ => does_change (Attempt.isCall_during _ _ _)

theorem does_roles (desired : List DeclaredRole) (observed : RoleIndex) :
    Does .roleCreated (roles desired observed) (Missing.roles desired observed)
      (Surplus.roles desired observed) := by
  rw [← List.append_nil (Missing.roles desired observed)]
  exact (does_calls does_createRole).bind fun _ => does_flags _ _

theorem does_grantPermission (role : RoleName) (roleId space name : String) :
    Does .permissionGranted (grantPermission role roleId space name)
      [.grantPermission (.forRole roleId space name)] [] :=
  (does_change (Attempt.isCall_during _ _ _)).bind fun _ => does_note _

theorem does_space (role : RoleName) (roleId space : String) (desired observed : List String) :
    Does .permissionGranted (Reconcile.space role roleId space desired observed)
      (Missing.space roleId space desired observed) (Surplus.space role space desired observed) := by
  rw [← List.append_nil (Missing.space roleId space desired observed)]
  exact (does_calls (does_grantPermission role roleId space)).bind fun _ => does_flags _ _

theorem does_otherSpaces (role : RoleName) (roleId : String) (held : KeyTable (List String)) :
    Does .permissionGranted (held.forM fun e => Reconcile.space role roleId e.1 [] e.2) []
      (held.flatMap fun e => Surplus.space role e.1 [] e.2) := by
  induction held with
  | nil => exact does_pure
  | cons e held ih => exact (does_space role roleId e.1 [] e.2).bind fun _ => ih

theorem filter_undeclared (role : DeclaredRole) (held : List Permission) :
    ((Permission.bySpace held).filter fun e => !role.permissions.any (·.1 == e.1)) =
      Permission.othersBySpace held (role.permissions.map (·.1)) := by
  refine List.filter_congr fun e _ => ?_
  rw [Bool.not_inj_iff, List.contains_eq_any_beq, List.any_map]
  exact List.any_congr rfl fun e' => by simp [eq_comm]

theorem does_spaces (role : DeclaredRole) (roleId : String) (held : List Permission) :
    Does .permissionGranted
      (do
        role.permissions.forM fun (name, desired) =>
          space role.name roleId name desired (((Permission.bySpace held).lookup name).getD [])
        ((Permission.bySpace held).filter fun e => !role.permissions.any (·.1 == e.1)).forM
          fun (name, names) => space role.name roleId name [] names)
      (Missing.permissions role roleId held) (Surplus.permissions role held) := by
  simp only [Permission.lookup_bySpace, filter_undeclared]
  rw [← List.append_nil (Missing.permissions role roleId held)]
  exact (does_forM fun e : String × List String => does_space role.name roleId e.1 e.2 _).bind
    fun _ => does_otherSpaces role.name roleId _

theorem yields_permissions_bind (role : DeclaredRole) (roleId : String) (k : Unit → Reconcile α)
    {res : Except Failure α} :
    Yields reply (permissions role roleId >>= k) s rep res rep' t ↔
      ∃ held m m', reply (.rolePermissions roleId) held s m ∧
        Writes reply (Missing.permissions role roleId held) m m' ∧
        Yields reply (k ()) m' (rep.extend .permissionGranted
          (Missing.permissions role roleId held).length (Surplus.permissions role held)) res rep' t := by
  unfold permissions
  rw [bind_assoc, yields_note_bind, bind_assoc]
  rw [yields_call_bind (Attempt.isCall_permissionsBySpace _ _ _)]
  simp only [(does_spaces role roleId _).yields_bind]
  constructor
  · intro h
    obtain ⟨held, m, h, m', hw, hk⟩ := h
    exact ⟨held, m, m', h, hw, hk⟩
  · intro h
    obtain ⟨held, m, m', h, hw, hk⟩ := h
    exact ⟨held, m, h, m', hw, hk⟩

theorem composed_createRole (name : RoleName) : Composed (createRole name) :=
  .bind (.note _) fun _ =>
    .change (Attempt.isCall_during _ _ _) rfl fun _ => ⟨_, _, rfl⟩

theorem composed_roles (desired : List DeclaredRole) (observed : RoleIndex) :
    Composed (roles desired observed) :=
  .bind (composed_forM composed_createRole) fun _ => composed_forM fun _ => .flag _

theorem composed_space (role : RoleName) (roleId space : String) (desired observed : List String) :
    Composed (Reconcile.space role roleId space desired observed) :=
  .bind
    (composed_forM fun _ => .bind (.change (Attempt.isCall_during _ _ _) rfl fun _ => ⟨_, _, rfl⟩)
      fun _ => .note _)
    fun _ => composed_forM fun _ => .flag _

theorem composed_permissions (role : DeclaredRole) (roleId : String) :
    Composed (permissions role roleId) :=
  .bind (.note _) fun _ =>
    .bind (.read (Attempt.isCall_permissionsBySpace _ _ _) rfl fun _ => ⟨_, _, rfl⟩) fun _ =>
      .bind (composed_forM fun _ => composed_space _ _ _ _ _) fun _ =>
        composed_forM fun _ => composed_space _ _ _ _ _

def createMissing (name : String) (known : List Group) : Reconcile Unit :=
  if (Group.named? name known).isNone then do
    note (.info "group does not exist; creating it" [("group", Text.quoted name)])
    change .groupCreated
      ((Attempt.call (.createGroup (.generated name))).during "create group" name)
  else pure ()

def requireGroup (name : String) (known : List Group) : Except Failure Group :=
  match Group.named? name known with
  | some group => .ok group
  | none => .error (.groupNotFound name)

theorem requireGroup_eq_ok {name : String} {known : List Group} {group : Group}
    (h : requireGroup name known = .ok group) : Group.named? name known = some group := by
  unfold requireGroup at h
  split at h
  · next hnamed => exact hnamed.trans (congrArg some (Except.ok.inj h))
  · cases h

theorem requireGroup_eq_error {name : String} {known : List Group} {e : Failure}
    (h : requireGroup name known = .error e) :
    Group.named? name known = none ∧ e = .groupNotFound name := by
  unfold requireGroup at h
  split at h
  · cases h
  · next hnamed => exact ⟨hnamed, (Except.error.inj h).symm⟩

def listedGroup (name : String) : Reconcile Group := do
  let after ← attempt (Attempt.call .groups)
  after.forM fun g =>
    note (.debug "available group"
      [("group", g.name), ("id", g.id), ("members", toString g.members.length)])
  attempt (Attempt.ofExcept (requireGroup name after))

theorem ensureGroup_eq (name : String) :
    ensureGroup name = (do
      let before ← attempt (Attempt.call .groups)
      createMissing name before
      listedGroup name) := by
  have hlisted : listedGroup name = (do
      let after ← attempt (Attempt.call .groups)
      after.forM fun g =>
        note (.debug "available group"
          [("group", g.name), ("id", g.id), ("members", toString g.members.length)])
      match Group.named? name after with
      | some group => return group
      | none => throw (.groupNotFound name)) := by
    unfold listedGroup requireGroup
    congr 1
    funext after
    congr 1
    funext _
    cases Group.named? name after <;> rfl
  unfold ensureGroup createMissing
  rw [hlisted]
  change (attempt (Attempt.call .groups) >>= _) = _
  congr 1
  funext before
  by_cases h : (Group.named? name before).isNone = true
  · simp only [h, if_true, bind_assoc]
    rfl
  · simp only [h]
    rfl

theorem does_createMissing (name : String) (known : List Group) :
    Does .groupCreated (createMissing name known) (Missing.group name known) [] := by
  unfold createMissing Missing.group
  split
  · exact (does_note _).bind fun _ => does_change (Attempt.isCall_during _ _ _)
  · exact does_pure

theorem yields_ensureGroup_bind (name : String) (k : Group → Reconcile α) {res : Except Failure α} :
    Yields reply (ensureGroup name >>= k) s rep res rep' t ↔
      ∃ before m₁ m₂ after m₃, reply .groups before s m₁ ∧
        Writes reply (Missing.group name before) m₁ m₂ ∧ reply .groups after m₂ m₃ ∧
        ∃ rep₁, rep₁ = rep.extend .groupCreated (Missing.group name before).length [] ∧
        Onward (requireGroup name after) rep₁ m₃ res rep' t fun group =>
          Yields reply (k group) m₃ rep₁ res rep' t := by
  have hlisted {m : σ} {rep : Report} :
      Yields reply (listedGroup name >>= k) m rep res rep' t ↔ ∃ after m', reply .groups after m m' ∧
        Onward (requireGroup name after) rep m' res rep' t fun group =>
          Yields reply (k group) m' rep res rep' t := by
    unfold listedGroup
    rw [bind_assoc, yields_call_bind (Attempt.isCall_call _)]
    simp only [bind_assoc, yields_notes_bind, yields_ofExcept_bind, id]
  rw [ensureGroup_eq, bind_assoc, yields_call_bind (Attempt.isCall_call _)]
  simp only [bind_assoc, (does_createMissing name _).yields_bind, hlisted]
  constructor
  · intro h
    obtain ⟨before, m₁, h, m₂, hw, after, m₃, h', hk⟩ := h
    exact ⟨before, m₁, m₂, after, m₃, h, hw, h', _, rfl, hk⟩
  · intro h
    obtain ⟨before, m₁, m₂, after, m₃, h, hw, h', _, rfl, hk⟩ := h
    exact ⟨before, m₁, h, m₂, hw, after, m₃, h', hk⟩

theorem composed_ensureGroup (name : String) : Composed (ensureGroup name) := by
  rw [ensureGroup_eq]
  refine .bind (.read (Attempt.isCall_call _) rfl fun _ => rfl) fun before =>
    .bind ?_ fun _ => .bind (.read (Attempt.isCall_call _) rfl fun _ => rfl) fun after =>
      .bind (composed_forM fun _ => .note _) fun _ => .ofExcept _
  unfold createMissing
  split
  · exact .bind (.note _) fun _ =>
      .change (Attempt.isCall_during _ _ _) rfl fun _ => ⟨_, _, rfl⟩
  · exact .pure ()

theorem resolve_cons (index : RoleIndex) (b : Binding) (bindings : List Binding) :
    resolve index (b :: bindings) =
      match index.requireId b.role with
      | .error e => .error e
      | .ok id => (resolve index bindings).map (⟨b, id⟩ :: ·) := by
  rw [resolve, List.mapM_cons]
  change ((index.requireId b.role >>= fun id => pure ⟨b, id⟩) >>= fun r =>
    resolve index bindings >>= fun rs => pure (r :: rs)) = _
  cases index.requireId b.role with
  | error e => rfl
  | ok id => cases resolve index bindings <;> rfl

theorem resolve_eq_ok {index : RoleIndex} {bindings : List Binding} {resolved : List Resolved}
    (h : resolve index bindings = .ok resolved) :
    resolved.map (·.binding) = bindings ∧
      ∀ r ∈ resolved, index.idOf? r.binding.role = some r.roleId := by
  induction bindings generalizing resolved with
  | nil =>
    cases h
    exact ⟨rfl, by simp⟩
  | cons b bindings ih =>
    rw [resolve_cons] at h
    split at h
    · cases h
    · next id hid =>
      cases hrest : resolve index bindings with
      | error e =>
        rw [hrest] at h
        cases h
      | ok rest =>
        rw [hrest] at h
        cases h
        obtain ⟨hbindings, hids⟩ := ih hrest
        exact ⟨congrArg _ hbindings, List.forall_mem_cons.2 ⟨RoleIndex.requireId_eq_ok.1 hid, hids⟩⟩

theorem resolve_eq_error {index : RoleIndex} {bindings : List Binding} {e : Failure}
    (h : resolve index bindings = .error e) :
    ∃ b ∈ bindings, index.idOf? b.role = none ∧ e = .roleNotFound b.role.text := by
  induction bindings with
  | nil => cases h
  | cons b bindings ih =>
    rw [resolve_cons] at h
    cases hid : index.idOf? b.role with
    | none =>
      rw [RoleIndex.requireId, hid] at h
      cases h
      exact ⟨b, List.mem_cons_self, hid, rfl⟩
    | some id =>
      rw [RoleIndex.requireId_eq_ok.2 hid] at h
      cases hrest : resolve index bindings with
      | ok rest =>
        rw [hrest] at h
        cases h
      | error e' =>
        rw [hrest] at h
        cases h
        obtain ⟨b', hb', hnone⟩ := ih hrest
        exact ⟨b', List.mem_cons_of_mem _ hb', hnone⟩

/-- The first binding whose role is unknown decides. -/
theorem resolve_of_find? {index : RoleIndex} {bindings : List Binding} {b : Binding}
    (h : bindings.find? (!index.contains ·.role) = some b) :
    resolve index bindings = .error (.roleNotFound b.role.text) := by
  induction bindings with
  | nil => cases h
  | cons b' bindings ih =>
    rw [resolve_cons]
    rw [List.find?_cons] at h
    cases hid : index.idOf? b'.role with
    | none =>
      rw [← RoleIndex.isSome_idOf?, hid] at h
      obtain rfl := Option.some.inj h
      rw [RoleIndex.requireId, hid]
    | some id =>
      rw [← RoleIndex.isSome_idOf?, hid] at h
      rw [RoleIndex.requireId_eq_ok.2 hid, ih h]
      rfl

theorem exists_resolve {index : RoleIndex} {bindings : List Binding}
    (h : ∀ b ∈ bindings, index.contains b.role = true) :
    ∃ resolved, resolve index bindings = .ok resolved := by
  cases hresolve : resolve index bindings with
  | ok resolved => exact ⟨resolved, rfl⟩
  | error e =>
    obtain ⟨b, hb, hnone, -⟩ := resolve_eq_error hresolve
    have hknown := h b hb
    rw [← RoleIndex.isSome_idOf?, hnone] at hknown
    cases hknown

theorem does_assignRole (group : Group) (assigned : List Assignment) (r : Resolved) :
    Does .groupRoleAssigned (assignRole group assigned r)
      (Missing.assignments group.id assigned [r]) [] := by
  unfold assignRole Missing.assignments
  cases h : r.isHeld assigned
  · simpa [h] using (does_note _).bind fun _ => does_change (Attempt.isCall_during _ _ _)
  · simpa [h] using does_note _

theorem does_assignments (group : Group) (index : RoleIndex) (assigned : List Assignment)
    (resolved : List Resolved) :
    Does .groupRoleAssigned
      (do
        resolved.forM (assignRole group assigned)
        (assigned.filter (!isDeclared resolved ·)).forM fun a =>
          flag (.undeclaredGroupRole group.name a.roleId (index.nameOfId? a.roleId) a.scope))
      (Missing.assignments group.id assigned resolved)
      (Surplus.assignments group.name index assigned resolved) := by
  have hassign : Does .groupRoleAssigned (resolved.forM (assignRole group assigned))
      (Missing.assignments group.id assigned resolved) [] := by
    induction resolved with
    | nil => exact does_pure
    | cons r rs ih =>
      have h := (does_assignRole group assigned r).bind fun _ => ih
      rwa [Missing.assignments, Missing.assignments, ← List.map_append, ← List.filter_append] at h
  rw [← List.append_nil (Missing.assignments group.id assigned resolved)]
  exact hassign.bind fun _ => does_flags _ _

theorem yields_groupRoles_bind (group : Group) (bindings : List Binding) (index : RoleIndex)
    (k : Unit → Reconcile α) {res : Except Failure α} :
    Yields reply (groupRoles group bindings index >>= k) s rep res rep' t ↔
      ∃ assigned m, reply (.groupRoleGrants group.id) assigned s m ∧
        Onward (resolve index (firsts bindings)) rep m res rep' t fun resolved =>
          ∃ m', Writes reply (Missing.assignments group.id assigned resolved) m m' ∧
            Yields reply (k ()) m' (rep.extend .groupRoleAssigned
              (Missing.assignments group.id assigned resolved).length
              (Surplus.assignments group.name index assigned resolved)) res rep' t := by
  unfold groupRoles
  rw [bind_assoc]
  change Yields reply
    (attempt ((Attempt.call (.groupRoleGrants group.id)).during _ _) >>= _) _ _ _ _ _ ↔ _
  rw [yields_call_bind (Attempt.isCall_during _ _ _)]
  refine exists_congr fun assigned => exists_congr fun m => and_congr_right fun _ => ?_
  rw [bind_assoc, yields_note_bind, bind_assoc, yields_notes_bind]
  cases resolve index (firsts bindings) with
  | error e => exact yields_throw e
  | ok resolved => exact (does_assignments group index assigned resolved).yields_bind k

theorem composed_groupRoles (group : Group) (bindings : List Binding) (index : RoleIndex) :
    Composed (groupRoles group bindings index) := by
  refine .bind (.read (Attempt.isCall_during _ _ _) rfl fun _ => ⟨_, _, rfl⟩) fun assigned =>
    .bind (.note _) fun _ => .bind (composed_forM fun _ => .note _) fun _ =>
      .bind (.ofExcept _) fun resolved => .bind (composed_forM fun r => ?_) fun _ =>
        composed_forM fun _ => .flag _
  unfold assignRole
  split
  · exact .note _
  · exact .bind (.note _) fun _ =>
      .change (Attempt.isCall_during _ _ _) rfl fun _ => ⟨_, _, rfl⟩

theorem does_membership (group : Group) (desired : List String) :
    Does .memberAdded (membership group desired) (Missing.members group desired)
      (Surplus.members group desired) := by
  have hadd (member : String) :
      Does .memberAdded (addMember group member) [.addGroupMember group.id member] [] :=
    (does_note _).bind fun _ => does_change (Attempt.isCall_during _ _ _)
  rw [← List.append_nil (Missing.members group desired)]
  exact (does_calls hadd).bind fun _ => does_flags _ _

theorem composed_membership (group : Group) (desired : List String) :
    Composed (membership group desired) :=
  .bind
    (composed_forM fun _ => .bind (.note _) fun _ =>
      .change (Attempt.isCall_during _ _ _) rfl fun _ => ⟨_, _, rfl⟩)
    fun _ => composed_forM fun _ => .flag _

end Reconcile

end AccessBaseline
