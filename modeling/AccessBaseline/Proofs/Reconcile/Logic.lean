import AccessBaseline.Reconcile.Basic
import AccessBaseline.Proofs.Unfailing

/-! How reconciliations go on when every call succeeds, and that a failed call ends them. Most of a
reconciliation is a fixed list of calls and of anomalies, whatever the calls return. -/
namespace AccessBaseline

namespace Report

def extend (report : Report) (kind : Change) (n : Nat) (anomalies : List Anomaly) : Report :=
  let report := { report with anomalies := report.anomalies ++ anomalies }
  match kind with
  | .roleCreated => { report with rolesCreated := report.rolesCreated + n }
  | .permissionGranted => { report with permissionsGranted := report.permissionsGranted + n }
  | .groupCreated => { report with groupsCreated := report.groupsCreated + n }
  | .groupRoleAssigned => { report with groupRolesAssigned := report.groupRolesAssigned + n }
  | .memberAdded => { report with membersAdded := report.membersAdded + n }

variable (report : Report) (kind : Change)

theorem extend_zero : report.extend kind 0 [] = report := by
  cases kind <;> simp [extend]

theorem extend_extend (m n : Nat) (as bs : List Anomaly) :
    (report.extend kind m as).extend kind n bs = report.extend kind (m + n) (as ++ bs) := by
  cases kind <;> simp [extend, Nat.add_assoc]

theorem count_eq_extend : report.count kind = report.extend kind 1 [] := by
  cases kind <;> simp [extend, count]

theorem flag_eq_extend (a : Anomaly) : report.flag a = report.extend kind 0 [a] := by
  cases kind <;> simp [extend, flag]

theorem anomalies_extend (n : Nat) (as : List Anomaly) :
    (report.extend kind n as).anomalies = report.anomalies ++ as := by
  cases kind <;> rfl

theorem changes_extend (n : Nat) (as : List Anomaly) :
    (report.extend kind n as).changes = report.changes + n := by
  cases kind <;> simp only [extend, changes] <;> omega

end Report

/-- Whether calls lead from one state to another, one after the other. -/
def Writes {σ : Type} (reply : Reply σ) : List Call → σ → σ → Prop
  | [], s, t => t = s
  | call :: calls, s, t => ∃ v m, reply call v s m ∧ Writes reply calls m t

theorem writes_append {σ : Type} {reply : Reply σ} (calls calls' : List Call) {s t : σ} :
    Writes reply (calls ++ calls') s t ↔ ∃ m, Writes reply calls s m ∧ Writes reply calls' m t := by
  induction calls generalizing s with
  | nil => simp [Writes]
  | cons call calls ih =>
    simp only [List.cons_append, Writes, ih]
    constructor
    · intro h
      obtain ⟨v, m, hv, m', h, h'⟩ := h
      exact ⟨m', ⟨v, m, hv, h⟩, h'⟩
    · intro h
      obtain ⟨m', ⟨v, m, hv, h⟩, h'⟩ := h
      exact ⟨v, m, hv, m', h, h'⟩

def Call.change? : Call → Option Change
  | createRole _ => some .roleCreated
  | grantPermission _ => some .permissionGranted
  | createGroup _ => some .groupCreated
  | grantRole _ => some .groupRoleAssigned
  | addGroupMember _ _ => some .memberAdded
  | assignableRoles | rolePermissions _ | groups | groupRoleGrants _ | capabilities
  | capabilityMembers _ | removeGroupMember _ _ => none

/-- How a run ends at a call that failed. Lists of roles and of groups are asked for outside of any
named step. -/
def Halted {α : Type} (call : Call) (e : Failure) (result : Except Failure α) : Prop :=
  match call with
  | .assignableRoles | .groups => result = .error e
  | _ => ∃ action key, result = .error (.step action key e)

theorem Halted.isUnexpectedStatus {α : Type} {call : Call} {e : Failure} {result : Except Failure α}
    (h : Halted call e result) :
    ∃ f, result = .error f ∧ f.isUnexpectedStatus = e.isUnexpectedStatus := by
  cases call with
  | assignableRoles | groups => exact ⟨e, h, rfl⟩
  | createRole | rolePermissions | grantPermission | createGroup | addGroupMember | removeGroupMember
  | groupRoleGrants | grantRole | capabilities | capabilityMembers =>
    obtain ⟨action, key, h⟩ := h
    exact ⟨_, h, rfl⟩

/-- A single call; `f` is what becomes of its value and `g` of its failure. -/
def Attempt.IsCall {α : Type} (x : Attempt α) (call : Call) (f : call.Value → α)
    (g : Failure → Failure) : Prop :=
  x.run = .ask call fun
    | .ok v => .done (.ok (f v))
    | .error e => .done (.error (g e))

namespace Attempt

theorem isCall_call (c : Call) : IsCall (call c) c id id := by
  change Interaction.ask c _ = Interaction.ask c _
  congr 1
  funext a
  cases a <;> rfl

theorem isCall_during (c : Call) (action key : String) :
    IsCall ((call c).during action key) c id (.step action key) := by
  change Interaction.ask c _ = Interaction.ask c _
  congr 1
  funext a
  cases a <;> rfl

theorem isCall_permissionsBySpace (roleId action key : String) :
    IsCall ((permissionsBySpace roleId).during action key) (.rolePermissions roleId)
      Permission.bySpace (.step action key) := by
  change Interaction.ask (Call.rolePermissions roleId) _ = Interaction.ask _ _
  congr 1
  funext a
  cases a <;> rfl

end Attempt

namespace Reconcile
variable {α β γ σ : Type} {reply : Reply σ} {s t : σ} {rep rep' : Report}

/-- Whether a reconciliation goes from a state and a report to others, with every call successful. -/
def Yields (reply : Reply σ) (r : Reconcile α) (s : σ) (rep : Report) (res : Except Failure α)
    (rep' : Report) (t : σ) : Prop :=
  Dialogue.Leads reply (r.runFrom rep) s (res, rep') t

/-- What comes behind a part that ended with `res₁`: nothing if that was a failure, else `next`. -/
def Onward (res₁ : Except Failure α) (rep₁ : Report) (m : σ) (res : Except Failure β) (rep' : Report)
    (t : σ) (next : α → Prop) : Prop :=
  match res₁ with
  | .error e => res = .error e ∧ rep' = rep₁ ∧ t = m
  | .ok a => next a

/-- A failed call ends the reconciliation. -/
def Halts (r : Reconcile α) : Prop :=
  ∀ rep, Dialogue.HaltsOn (fun call e out => Halted call e out.1) (r.runFrom rep)

theorem runFrom_bind (x : Reconcile α) (f : α → Reconcile β) (rep : Report) :
    (x >>= f).runFrom rep = x.runFrom rep >>= fun out =>
      match out.1 with
      | .ok a => (f a).runFrom out.2
      | .error e => .done (.error e, out.2) := by
  change Interaction.bind _ _ = Interaction.bind _ _
  congr 1
  funext out
  rcases out with ⟨e | a, rep⟩ <;> rfl

theorem yields_pure (a : α) {res : Except Failure α} :
    Yields reply (pure a : Reconcile α) s rep res rep' t ↔ res = .ok a ∧ rep' = rep ∧ t = s := by
  change ((res, rep') = (Except.ok a, rep) ∧ t = s) ↔ _
  rw [Prod.mk.injEq, and_assoc]

theorem yields_throw (e : Failure) {res : Except Failure α} :
    Yields reply (throw e : Reconcile α) s rep res rep' t ↔
      res = .error e ∧ rep' = rep ∧ t = s := by
  change ((res, rep') = (Except.error e, rep) ∧ t = s) ↔ _
  rw [Prod.mk.injEq, and_assoc]

theorem yields_bind (x : Reconcile α) (f : α → Reconcile β) {res : Except Failure β} :
    Yields reply (x >>= f) s rep res rep' t ↔
      ∃ res₁ rep₁ m, Yields reply x s rep res₁ rep₁ m ∧
        Onward res₁ rep₁ m res rep' t fun a => Yields reply (f a) m rep₁ res rep' t := by
  unfold Yields
  rw [runFrom_bind, Dialogue.leads_bind]
  constructor
  · intro h
    obtain ⟨⟨e | a, rep₁⟩, m, h, h'⟩ := h
    · obtain ⟨hout, rfl⟩ := h'
      cases hout
      exact ⟨.error e, _, _, h, rfl, rfl, rfl⟩
    · exact ⟨.ok a, rep₁, m, h, h'⟩
  · intro h
    obtain ⟨e | a, rep₁, m, h, h'⟩ := h
    · obtain ⟨rfl, rfl, rfl⟩ := h'
      exact ⟨(.error e, rep'), t, h, rfl, rfl⟩
    · exact ⟨(.ok a, rep₁), m, h, h'⟩

theorem yields_note (event : Event) {res : Except Failure Unit} :
    Yields reply (note event) s rep res rep' t ↔ res = .ok () ∧ rep' = rep ∧ t = s := by
  change ((res, rep') = (Except.ok (), rep) ∧ t = s) ↔ _
  rw [Prod.mk.injEq, and_assoc]

theorem yields_modify (f : Report → Report) {res : Except Failure Unit} :
    Yields reply (modify f : Reconcile Unit) s rep res rep' t ↔
      res = .ok () ∧ rep' = f rep ∧ t = s := by
  change ((res, rep') = (Except.ok (), f rep) ∧ t = s) ↔ _
  rw [Prod.mk.injEq, and_assoc]

theorem runFrom_attempt {x : Attempt α} {call : Call} {f : call.Value → α} {g : Failure → Failure}
    (h : x.IsCall call f g) (rep : Report) :
    (attempt x).runFrom rep = .ask call fun
      | .ok v => .done (.ok (f v), rep)
      | .error e => .done (.error (g e), rep) := by
  change Interaction.bind x.run _ = _
  rw [h, Interaction.bind]
  congr 1
  funext a
  cases a <;> rfl

theorem runFrom_change {x : Attempt Unit} {call : Call} {f : call.Value → Unit} {g : Failure → Failure}
    (h : x.IsCall call f g) (kind : Change) (rep : Report) :
    (change kind x).runFrom rep = .ask call fun
      | .ok _ => .done (.ok (), rep.count kind)
      | .error e => .done (.error (g e), rep) := by
  change (attempt x >>= fun _ => modify (·.count kind)).runFrom rep = _
  rw [runFrom_bind, runFrom_attempt h]
  change Interaction.ask call _ = _
  congr 1
  funext a
  cases a <;> rfl

theorem yields_call {x : Attempt α} {call : Call} {f : call.Value → α} {g : Failure → Failure}
    (h : x.IsCall call f g) {res : Except Failure α} :
    Yields reply (attempt x) s rep res rep' t ↔
      ∃ v, res = .ok (f v) ∧ rep' = rep ∧ reply call v s t := by
  unfold Yields
  rw [runFrom_attempt h]
  constructor
  · intro h
    obtain ⟨v, m, hv, hout, rfl⟩ := h
    cases hout
    exact ⟨v, rfl, rfl, hv⟩
  · intro h
    obtain ⟨v, rfl, rfl, hv⟩ := h
    exact ⟨v, t, hv, rfl, rfl⟩

theorem halted_bind {call : Call} {e : Failure} {res : Except Failure α}
    (h : Halted call e res) :
    ∃ e', res = .error e' ∧ ∀ β, Halted call e (.error e' : Except Failure β) := by
  cases call with
  | assignableRoles | groups => exact ⟨e, h, fun _ => rfl⟩
  | createRole | rolePermissions | grantPermission | createGroup | addGroupMember | removeGroupMember
  | groupRoleGrants | grantRole | capabilities | capabilityMembers =>
    obtain ⟨action, key, rfl⟩ := h
    exact ⟨_, rfl, fun _ => ⟨action, key, rfl⟩⟩

theorem halts_bind {x : Reconcile α} {f : α → Reconcile β} (hx : Halts x) (hf : ∀ a, Halts (f a)) :
    Halts (x >>= f) := by
  intro rep
  rw [runFrom_bind]
  refine (hx rep).bind (fun out => ?_) fun call e out hout => ?_
  · rcases out with ⟨e | a, rep'⟩
    · trivial
    · exact hf a rep'
  · rcases out with ⟨res, rep'⟩
    obtain ⟨e', rfl, he'⟩ := halted_bind hout
    exact ⟨_, rfl, he' β⟩

theorem halts_call {x : Attempt α} {call : Call} {f : call.Value → α} {g : Failure → Failure}
    (h : x.IsCall call f g) (hg : ∀ e, Halted call e (.error (g e) : Except Failure α)) :
    Halts (attempt x) := by
  intro rep
  rw [runFrom_attempt h]
  exact ⟨fun e => ⟨_, rfl, hg e⟩, fun v => trivial⟩

/-- The reconciliations that are put together from notes, anomalies, reads and counted changes, where
each call that fails ends the whole. -/
inductive Composed : ∀ {α : Type}, Reconcile α → Prop where
  | pure {α : Type} (a : α) : Composed (pure a : Reconcile α)
  | bind {α β : Type} {x : Reconcile α} {f : α → Reconcile β} :
    Composed x → (∀ a, Composed (f a)) → Composed (x >>= f)
  | get : Composed (get : Reconcile Report)
  | ofExcept {α : Type} (e : Except Failure α) : Composed (attempt (Attempt.ofExcept e))
  | note (event : Event) : Composed (note event)
  | flag (a : Anomaly) : Composed (flag a)
  | read {α : Type} {x : Attempt α} {call : Call} {f : call.Value → α} {g : Failure → Failure} :
    x.IsCall call f g → call.isWrite = false →
      (∀ e, Halted call e (.error (g e) : Except Failure α)) → Composed (attempt x)
  | change {kind : Change} {x : Attempt Unit} {call : Call} {f : call.Value → Unit}
    {g : Failure → Failure} : x.IsCall call f g → call.change? = some kind →
      (∀ e, Halted call e (.error (g e) : Except Failure Unit)) → Composed (change kind x)

theorem composed_forM {xs : List γ} {f : γ → Reconcile Unit} (hf : ∀ x, Composed (f x)) :
    Composed (xs.forM f) := by
  induction xs with
  | nil => exact .pure ()
  | cons x xs ih => exact .bind (hf x) fun _ => ih

theorem Composed.halts {r : Reconcile α} (h : Composed r) : Halts r := by
  induction h with
  | pure a => exact fun _ => trivial
  | bind _ _ hx hf => exact halts_bind hx hf
  | get => exact fun _ => trivial
  | ofExcept e => exact fun _ => trivial
  | note event => exact fun _ => trivial
  | flag a => exact fun _ => trivial
  | read hcall _ hg => exact halts_call hcall hg
  | change hcall _ hg => exact halts_bind (halts_call hcall hg) fun _ _ => trivial

/-- Whether a reconciliation makes these calls, flags these anomalies and counts each call as a
change of this kind, whatever the calls return. -/
structure Does (kind : Change) (r : Reconcile Unit) (calls : List Call) (anomalies : List Anomaly) :
    Prop where
  yields_iff : ∀ {σ : Type} {reply : Reply σ} {s t : σ} {rep rep' : Report} {res : Except Failure Unit},
    Yields reply r s rep res rep' t ↔
      res = .ok () ∧ rep' = rep.extend kind calls.length anomalies ∧ Writes reply calls s t

variable {kind : Change} {x : Reconcile Unit} {calls calls' : List Call} {as bs : List Anomaly}

theorem does_pure : Does kind (pure ()) [] [] := by
  constructor
  intro σ reply s t rep rep' res
  rw [yields_pure, List.length_nil, Report.extend_zero]
  rfl

theorem does_note (event : Event) : Does kind (note event) [] [] := by
  constructor
  intro σ reply s t rep rep' res
  rw [yields_note, List.length_nil, Report.extend_zero]
  rfl

theorem Does.bind (hx : Does kind x calls as) {f : Unit → Reconcile Unit}
    (hf : ∀ u, Does kind (f u) calls' bs) : Does kind (x >>= f) (calls ++ calls') (as ++ bs) := by
  constructor
  intro σ reply s t rep rep' res
  rw [yields_bind, writes_append, List.length_append, ← Report.extend_extend]
  constructor
  · intro h
    obtain ⟨res₁, rep₁, m, h, h'⟩ := h
    obtain ⟨rfl, rfl, hm⟩ := hx.yields_iff.1 h
    obtain ⟨hres, hrep, ht⟩ := (hf ()).yields_iff.1 h'
    exact ⟨hres, hrep, m, hm, ht⟩
  · intro h
    obtain ⟨rfl, rfl, m, hm, ht⟩ := h
    exact ⟨.ok (), _, m, hx.yields_iff.2 ⟨rfl, rfl, hm⟩, (hf ()).yields_iff.2 ⟨rfl, rfl, ht⟩⟩

theorem Does.yields_bind (hx : Does kind x calls as) (f : Unit → Reconcile α)
    {res : Except Failure α} :
    Yields reply (x >>= f) s rep res rep' t ↔
      ∃ m, Writes reply calls s m ∧
        Yields reply (f ()) m (rep.extend kind calls.length as) res rep' t := by
  rw [Reconcile.yields_bind]
  constructor
  · intro h
    obtain ⟨res₁, rep₁, m, h, h'⟩ := h
    obtain ⟨rfl, rfl, hm⟩ := hx.yields_iff.1 h
    exact ⟨m, hm, h'⟩
  · intro h
    obtain ⟨m, hm, h⟩ := h
    exact ⟨.ok (), _, m, hx.yields_iff.2 ⟨rfl, rfl, hm⟩, h⟩

theorem does_forM {xs : List γ} {f : γ → Reconcile Unit} {calls : γ → List Call}
    {as : γ → List Anomaly} (hf : ∀ x, Does kind (f x) (calls x) (as x)) :
    Does kind (xs.forM f) (xs.flatMap calls) (xs.flatMap as) := by
  induction xs with
  | nil => exact does_pure
  | cons x xs ih => exact (hf x).bind fun _ => ih

theorem does_flag (a : Anomaly) : Does kind (flag a) [] [a] := by
  constructor
  intro σ reply s t rep rep' res
  change ((res, rep') = (Except.ok (), rep.flag a) ∧ t = s) ↔ _
  rw [Prod.mk.injEq, and_assoc, Report.flag_eq_extend rep kind]
  rfl

theorem does_change {x : Attempt Unit} {call : Call} {f : call.Value → Unit} {g : Failure → Failure}
    (h₀ : x.IsCall call f g) : Does kind (change kind x) [call] [] := by
  constructor
  intro σ reply s t rep rep' res
  rw [change, yields_bind, List.length_singleton, ← Report.count_eq_extend]
  constructor
  · intro h
    obtain ⟨res₁, rep₁, m, h, h'⟩ := h
    obtain ⟨v, rfl, rfl, hv⟩ := (yields_call h₀).1 h
    obtain ⟨rfl, rfl, rfl⟩ := (yields_modify _).1 h'
    exact ⟨rfl, rfl, v, t, hv, rfl⟩
  · intro h
    obtain ⟨rfl, rfl, v, m, hv, rfl⟩ := h
    exact ⟨.ok (f v), rep, t, (yields_call h₀).2 ⟨v, rfl, rfl, hv⟩, (yields_modify _).2 ⟨rfl, rfl, rfl⟩⟩

theorem does_calls {xs : List γ} {f : γ → Reconcile Unit} {call : γ → Call}
    (hf : ∀ x, Does kind (f x) [call x] []) : Does kind (xs.forM f) (xs.map call) [] := by
  induction xs with
  | nil => exact does_pure
  | cons x xs ih => exact (hf x).bind fun _ => ih

theorem does_flags (xs : List γ) (a : γ → Anomaly) :
    Does kind (xs.forM fun x => flag (a x)) [] (xs.map a) := by
  induction xs with
  | nil => exact does_pure
  | cons x xs ih => exact (does_flag (a x)).bind fun _ => ih

theorem yields_note_bind (event : Event) (f : Unit → Reconcile α) {res : Except Failure α} :
    Yields reply (note event >>= f) s rep res rep' t ↔ Yields reply (f ()) s rep res rep' t := by
  rw [yields_bind]
  constructor
  · intro h
    obtain ⟨res₁, rep₁, m, h, h'⟩ := h
    obtain ⟨rfl, rfl, rfl⟩ := (yields_note event).1 h
    exact h'
  · intro h
    exact ⟨.ok (), rep, s, (yields_note event).2 ⟨rfl, rfl, rfl⟩, h⟩

theorem yields_notes_bind (xs : List γ) (event : γ → Event) (f : Unit → Reconcile α)
    {res : Except Failure α} :
    Yields reply (xs.forM (fun x => note (event x)) >>= f) s rep res rep' t ↔
      Yields reply (f ()) s rep res rep' t := by
  induction xs with
  | nil => rfl
  | cons x xs ih =>
    change Yields reply ((note (event x) >>= fun _ => xs.forM fun x => note (event x)) >>= f)
      _ _ _ _ _ ↔ _
    rw [bind_assoc, yields_note_bind]
    exact ih

theorem yields_ofExcept_bind (e : Except Failure α) (k : α → Reconcile β) {res : Except Failure β} :
    Yields reply (attempt (Attempt.ofExcept e) >>= k) s rep res rep' t ↔
      Onward e rep s res rep' t fun a => Yields reply (k a) s rep res rep' t := by
  cases e with
  | error e => exact yields_throw e
  | ok a => exact Iff.rfl

theorem yields_call_bind {x : Attempt β} {call : Call} {f : call.Value → β} {g : Failure → Failure}
    (h : x.IsCall call f g) (k : β → Reconcile α) {res : Except Failure α} :
    Yields reply (attempt x >>= k) s rep res rep' t ↔
      ∃ v m, reply call v s m ∧ Yields reply (k (f v)) m rep res rep' t := by
  rw [yields_bind]
  constructor
  · intro h
    obtain ⟨res₁, rep₁, m, hx, hk⟩ := h
    obtain ⟨v, rfl, rfl, hv⟩ := (yields_call h).1 hx
    exact ⟨v, m, hv, hk⟩
  · intro h
    obtain ⟨v, m, hv, hk⟩ := h
    exact ⟨.ok (f v), rep, m, (yields_call h).2 ⟨v, rfl, rfl, hv⟩, hk⟩

theorem attempt_bind (x : Attempt α) (f : α → Attempt β) :
    attempt (x >>= f) = attempt x >>= fun a => attempt (f a) := by
  funext rep
  change Interaction.bind (Interaction.bind x.run _) _ = Interaction.bind (Interaction.bind x.run _) _
  rw [Interaction.bind_assoc, Interaction.bind_assoc]
  congr 1
  funext a
  cases a <;> rfl

theorem attempt_notes (xs : List γ) (event : γ → Event) :
    attempt (xs.forM fun x => Attempt.note (event x)) = xs.forM fun x => note (event x) := by
  induction xs with
  | nil => rfl
  | cons x xs ih =>
    change attempt (Attempt.note (event x) >>= fun _ => xs.forM fun x => Attempt.note (event x)) = _
    rw [attempt_bind, ih]
    rfl

end Reconcile

end AccessBaseline
