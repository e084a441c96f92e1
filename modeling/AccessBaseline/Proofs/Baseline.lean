import AccessBaseline.Proofs.Reconcile.Phases

/-! The course of a baseline run: roles, the permissions of each declared role, the group, its roles
and its members. Each part goes on where the one before it stopped, and a name that is not found ends
the run like a failed call does. -/
namespace AccessBaseline.Baseline

open Reconcile
variable {σ : Type} {reply : Reply σ} {s t : σ} {rep rep' : Report}

theorem attempt_availableRoles :
    attempt Attempt.availableRoles = (do
      let listed ← attempt (Attempt.call .assignableRoles)
      (RoleIndex.clashes listed).forM fun e =>
        note (.warn "duplicate role name in assignable roles; ignoring later entry"
          [("name", e.1.name), ("id", e.1.id), ("kept", e.2.id)])
      pure (.ofRoles listed)) := by
  unfold Attempt.availableRoles
  rw [attempt_bind]
  congr 1
  funext listed
  rw [attempt_bind, ← attempt_notes]
  rfl

theorem yields_availableRoles_bind {α : Type} (k : RoleIndex → Reconcile α) {res : Except Failure α} :
    Yields reply (attempt Attempt.availableRoles >>= k) s rep res rep' t ↔
      ∃ listed m, reply .assignableRoles listed s m ∧
        Yields reply (k (.ofRoles listed)) m rep res rep' t := by
  rw [attempt_availableRoles, bind_assoc, yields_call_bind (Attempt.isCall_call _)]
  simp only [bind_assoc, yields_notes_bind, pure_bind, id]

theorem composed_availableRoles : Composed (attempt Attempt.availableRoles) := by
  rw [attempt_availableRoles]
  exact .bind (.read (Attempt.isCall_call _) rfl fun _ => rfl) fun _ =>
    .bind (composed_forM fun _ => .note _) fun _ => .pure _

theorem yields_roles_bind {α : Type} (config : Config) (k : RoleIndex → Reconcile α)
    {res : Except Failure α} :
    Yields reply (roles config >>= k) s rep res rep' t ↔
      ∃ before m m' after m'', reply .assignableRoles before s m ∧
        Writes reply (Missing.roles config.roles (.ofRoles before)) m m' ∧
        reply .assignableRoles after m' m'' ∧
        Yields reply (k (.ofRoles after)) m''
          (rep.extend .roleCreated (Missing.roles config.roles (.ofRoles before)).length
            (Surplus.roles config.roles (.ofRoles before))) res rep' t := by
  have hroles : roles config = (do
      note (.debug ">> Consolidating roles list...")
      let before ← attempt Attempt.availableRoles
      Reconcile.roles config.roles before
      let after ← attempt Attempt.availableRoles
      after.roles.forM fun role =>
        note (.debug "available role" [("name", role.name), ("id", role.id)])
      pure after) := rfl
  simp only [hroles, bind_assoc, yields_note_bind, yields_availableRoles_bind,
    (does_roles _ _).yields_bind, yields_notes_bind, pure_bind]
  constructor
  · intro h
    obtain ⟨before, m, h, m', hw, after, m'', h', hk⟩ := h
    exact ⟨before, m, m', after, m'', h, hw, h', hk⟩
  · intro h
    obtain ⟨before, m, m', after, m'', h, hw, h', hk⟩ := h
    exact ⟨before, m, h, m', hw, after, m'', h', hk⟩

theorem composed_roles (config : Config) : Composed (roles config) :=
  .bind (.note _) fun _ => .bind composed_availableRoles fun _ =>
    .bind (Reconcile.composed_roles _ _) fun _ => .bind composed_availableRoles fun _ =>
      .bind (composed_forM fun _ => .note _) fun _ => .pure _

/-- The declared roles in turn, up to one whose name is not found. -/
def PermissionPass (reply : Reply σ) (index : RoleIndex) :
    List DeclaredRole → σ → Report → Except Failure Unit → Report → σ → Prop
  | [], s, rep, res, rep', t => res = .ok () ∧ rep' = rep ∧ t = s
  | role :: roles, s, rep, res, rep', t =>
    Onward (index.requireId role.name) rep s res rep' t fun roleId =>
      ∃ held m m', reply (.rolePermissions roleId) held s m ∧
        Writes reply (Missing.permissions role roleId held) m m' ∧
        PermissionPass reply index roles m'
          (rep.extend .permissionGranted (Missing.permissions role roleId held).length
            (Surplus.permissions role held)) res rep' t

theorem yields_permissions (index : RoleIndex) (roles : List DeclaredRole)
    {res : Except Failure Unit} :
    Yields reply (roles.forM (permissions index)) s rep res rep' t ↔
      PermissionPass reply index roles s rep res rep' t := by
  induction roles generalizing s rep with
  | nil => exact yields_pure ()
  | cons role roles ih =>
    change Yields reply ((attempt (Attempt.ofExcept (index.requireId role.name)) >>= fun roleId =>
      Reconcile.permissions role roleId) >>= fun _ => roles.forM (permissions index)) _ _ _ _ _ ↔ _
    rw [bind_assoc, yields_ofExcept_bind]
    simp only [yields_permissions_bind, ih]
    rfl

theorem composed_permissions (index : RoleIndex) (role : DeclaredRole) :
    Composed (permissions index role) :=
  .bind (.ofExcept _) fun _ => Reconcile.composed_permissions _ _

/-- The assignments of the group are listed, and when the roles of all bindings are known, what the
group lacks is written. -/
def HoldingsPass (reply : Reply σ) (config : Config) (index : RoleIndex) (group : Group) (s : σ)
    (rep : Report) (res : Except Failure Unit) (rep' : Report) (t : σ) : Prop :=
  ∃ assigned m, reply (.groupRoleGrants group.id) assigned s m ∧
    Onward (resolve index (firsts config.bindings)) rep m res rep' t fun resolved =>
      ∃ m', Writes reply (Missing.assignments group.id assigned resolved) m m' ∧ res = .ok () ∧
        rep' = (rep.extend .groupRoleAssigned
            (Missing.assignments group.id assigned resolved).length
            (Surplus.assignments group.name index assigned resolved)).extend .memberAdded
          (Missing.members group config.members).length (Surplus.members group config.members) ∧
        Writes reply (Missing.members group config.members) m' t

/-- The group is created if it is missing, and listed again. -/
def GroupPass (reply : Reply σ) (config : Config) (index : RoleIndex) (s : σ) (rep : Report)
    (res : Except Failure Unit) (rep' : Report) (t : σ) : Prop :=
  ∃ before m₁ m₂ after m₃, reply .groups before s m₁ ∧
    Writes reply (Missing.group config.groupName before) m₁ m₂ ∧ reply .groups after m₂ m₃ ∧
    ∃ rep₁, rep₁ = rep.extend .groupCreated (Missing.group config.groupName before).length [] ∧
    Onward (requireGroup config.groupName after) rep₁ m₃ res rep' t fun group =>
      HoldingsPass reply config index group m₃ rep₁ res rep' t

theorem yields_group (config : Config) (index : RoleIndex) {res : Except Failure Unit} :
    Yields reply (group config index) s rep res rep' t ↔
      GroupPass reply config index s rep res rep' t := by
  unfold group GroupPass HoldingsPass
  rw [yields_note_bind, yields_ensureGroup_bind]
  simp only [yields_groupRoles_bind, (does_membership _ _).yields_iff]

theorem composed_group (config : Config) (index : RoleIndex) : Composed (group config index) :=
  .bind (.note _) fun _ => .bind (composed_ensureGroup _) fun _ =>
    .bind (composed_groupRoles _ _ _) fun _ => composed_membership _ _

def Shown (reply : Reply σ) (debug : Bool) (s t : σ) : Prop :=
  if debug then ∃ known, reply .groups known s t else t = s

theorem yields_showMembers_bind {α : Type} (groupName : String) (k : Unit → Reconcile α)
    {res : Except Failure α} :
    Yields reply (showMembers groupName >>= k) s rep res rep' t ↔
      ∃ known m, reply .groups known s m ∧ Yields reply (k ()) m rep res rep' t := by
  unfold showMembers
  rw [bind_assoc]
  change Yields reply (attempt (Attempt.call .groups) >>= _) _ _ _ _ _ ↔ _
  rw [yields_call_bind (Attempt.isCall_call _)]
  refine exists_congr fun known => exists_congr fun m => and_congr_right fun _ => ?_
  cases Group.named? groupName (id known) with
  | none => rfl
  | some group => exact yields_notes_bind _ _ _

theorem composed_showMembers (groupName : String) : Composed (showMembers groupName) := by
  refine .bind (.read (Attempt.isCall_call _) rfl fun _ => rfl) fun known => ?_
  cases Group.named? groupName known with
  | none => exact .pure ()
  | some group => exact composed_forM fun _ => .note _

theorem yields_finish (config : Config) {res : Except Failure Unit} :
    Yields reply
      (do
        if config.debug then showMembers config.groupName
        let report ← get
        note (.info "<< Baseline permissions setup completed."
          [("changes", toString report.changes), ("anomalies", toString report.anomalies.length)]))
      s rep res rep' t ↔ res = .ok () ∧ rep' = rep ∧ Shown reply config.debug s t := by
  have hnote {m : σ} :
      Yields reply (get >>= fun report : Report =>
        note (.info "<< Baseline permissions setup completed."
          [("changes", toString report.changes), ("anomalies", toString report.anomalies.length)]))
        m rep res rep' t ↔ res = .ok () ∧ rep' = rep ∧ t = m := yields_note _
  unfold Shown
  split
  · rw [yields_showMembers_bind]
    simp only [hnote]
    constructor
    · intro h
      obtain ⟨known, m, h, rfl, rfl, rfl⟩ := h
      exact ⟨rfl, rfl, known, h⟩
    · intro h
      obtain ⟨rfl, rfl, known, h⟩ := h
      exact ⟨known, t, h, rfl, rfl, rfl⟩
  · exact hnote

theorem yields_reconcile (config : Config) {res : Except Failure Unit} :
    Yields reply (reconcile config) s rep res rep' t ↔
      ∃ before m₁ m₂ after m₃, reply .assignableRoles before s m₁ ∧
        Writes reply (Missing.roles config.roles (.ofRoles before)) m₁ m₂ ∧
        reply .assignableRoles after m₂ m₃ ∧
        ∃ res₁ rep₁ m₄, PermissionPass reply (.ofRoles after) config.roles m₃
          (rep.extend .roleCreated (Missing.roles config.roles (.ofRoles before)).length
            (Surplus.roles config.roles (.ofRoles before))) res₁ rep₁ m₄ ∧
        Onward res₁ rep₁ m₄ res rep' t fun _ => ∃ res₂ rep₂ m₅,
          GroupPass reply config (.ofRoles after) m₄ rep₁ res₂ rep₂ m₅ ∧
          Onward res₂ rep₂ m₅ res rep' t fun _ =>
            res = .ok () ∧ rep' = rep₂ ∧ Shown reply config.debug m₅ t := by
  unfold reconcile
  rw [yields_note_bind, yields_note_bind, yields_roles_bind]
  simp only [yields_bind (List.forM _ _), yields_bind (group _ _), yields_permissions, yields_group,
    yields_finish]

/-- When listing groups changes nothing, the run ends as the group's part ended. -/
theorem eq_of_shown {debug : Bool} {res₁ res : Except Failure Unit} {rep₁ : Report} {m : σ}
    (hread : ∀ known s t, reply .groups known s t → t = s)
    (h : Onward res₁ rep₁ m res rep' t fun _ => res = .ok () ∧ rep' = rep₁ ∧ Shown reply debug m t) :
    res = res₁ ∧ rep' = rep₁ ∧ t = m := by
  cases res₁ with
  | error e => exact h
  | ok _ =>
    obtain ⟨hres, hrep, hshown⟩ := h
    unfold Shown at hshown
    split at hshown
    · obtain ⟨known, hknown⟩ := hshown
      exact ⟨hres, hrep, hread known m t hknown⟩
    · exact ⟨hres, hrep, hshown⟩

theorem composed_reconcile (config : Config) : Composed (reconcile config) := by
  refine .bind (.note _) fun _ => .bind (.note _) fun _ =>
    .bind (composed_roles _) fun index => .bind (composed_forM (composed_permissions index)) fun _ =>
      .bind (composed_group _ _) fun _ => ?_
  have hnote : Composed (get >>= fun report : Report =>
      note (.info "<< Baseline permissions setup completed."
        [("changes", toString report.changes), ("anomalies", toString report.anomalies.length)])) :=
    .bind .get fun _ => .note _
  cases config.debug with
  | false => exact hnote
  | true => exact .bind (composed_showMembers _) fun _ => hnote

theorem leads_run (config : Config) {out : Except Failure Report} :
    Dialogue.Leads reply (run config) s out t ↔
      ∃ res rep, Yields reply (reconcile config) s {} res rep t ∧ out = res.map fun _ => rep := by
  change Dialogue.Leads reply ((reconcile config).runFrom {} >>= fun out =>
    pure (out.1.map fun _ => out.2)) s out t ↔ _
  rw [Dialogue.leads_bind]
  constructor
  · intro h
    obtain ⟨⟨res, rep⟩, m, h, rfl, rfl⟩ := h
    exact ⟨res, rep, h, rfl⟩
  · intro h
    obtain ⟨res, rep, h, rfl⟩ := h
    exact ⟨(res, rep), t, h, rfl, rfl⟩

theorem haltsOn_run (config : Config) : Dialogue.HaltsOn Halted (run config) := by
  refine ((composed_reconcile config).halts {}).bind (fun out => trivial) fun call e out hout => ?_
  obtain ⟨res, rep⟩ := out
  obtain ⟨e', rfl, he'⟩ := halted_bind hout
  exact ⟨_, rfl, he' Report⟩

theorem unfailed_of_ok {config : Config} {respond : (call : Call) → σ → call.Answer × σ} {s : σ}
    {report : Report} (h : (Interaction.run respond (run config) s).result = .ok report) :
    Unfailed (Interaction.run respond (run config) s).steps := by
  intro call e hmem
  obtain ⟨front, back, hsteps⟩ := List.append_of_mem hmem
  obtain ⟨f, hf, -⟩ := ((haltsOn_run config).last respond s hsteps).2.isUnexpectedStatus
  rw [h] at hf
  cases hf

end AccessBaseline.Baseline
