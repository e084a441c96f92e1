import AccessBaseline.Proofs.Reconcile.Phases
import AccessBaseline.Proofs.Reconcile.Script
import AccessBaseline.Proofs.Scope

/-! What a group is assigned, and what is flagged, call by call. Nothing is assigned before the role of
every binding was found. The assignments that stand for no binding are the ones that make no binding
superfluous, whatever their scopes are. -/
namespace AccessBaseline

/-- Whether an assignment is what a binding asks for. Resource and holder are not compared. -/
def Binding.isMetBy (index : RoleIndex) (b : Binding) (a : Assignment) : Bool :=
  index.idOf? b.role == some a.roleId && Text.sameUpToAsciiCase b.scope.name a.scope

namespace Binding

/-- The bindings that no assignment meets; of those equal up to the spelling of the role, the first. -/
def unmet (index : RoleIndex) (held : List Assignment) (bindings : List Binding) : List Binding :=
  bindings.eraseDups.filter fun b => !held.any (b.isMetBy index)

def unwanted (index : RoleIndex) (held : List Assignment) (bindings : List Binding) : List Assignment :=
  held.filter fun a => !bindings.any (·.isMetBy index a)

variable {index : RoleIndex}

theorem isMetBy_congr {b b' : Binding} (h : (b == b') = true) (a : Assignment) :
    b.isMetBy index a = b'.isMetBy index a := by
  obtain ⟨hkey, hscope⟩ := (beq_iff b b').1 h
  simp only [isMetBy, RoleIndex.idOf?, RoleIndex.get?, hkey, hscope]

theorem isMetBy_of_ofText?_eq_none {a : Assignment} (h : Scope.ofText? a.scope = none) (b : Binding) :
    b.isMetBy index a = false := by
  change (_ && b.scope.covers a.scope) = false
  rw [Scope.ofText?_eq_none.1 h, Bool.and_false]

theorem isMetBy_eq_gives {b : Binding} {id : String} (h : index.idOf? b.role = some id) (a : Assignment) :
    b.isMetBy index a = a.gives id b.scope := by
  rw [isMetBy, h, Assignment.gives, Scope.covers]
  congr 1
  exact BEq.comm

end Binding

namespace Reconcile
variable {σ : Type} {index : RoleIndex} {bindings : List Binding} {resolved : List Resolved}

/-- Whether these are the bindings that no assignment meets, each with the id of its role. -/
def Lacks (index : RoleIndex) (held : List Assignment) (bindings : List Binding) (wanted : List Resolved) :
    Prop :=
  wanted.map (·.binding) = Binding.unmet index held bindings ∧
    ∀ r ∈ wanted, index.idOf? r.binding.role = some r.roleId

theorem lacks_of_resolve (h : resolve index (firsts bindings) = .ok resolved) (held : List Assignment) :
    Lacks index held bindings (resolved.filter fun r => !r.isHeld held) := by
  obtain ⟨hbindings, hids⟩ := resolve_eq_ok h
  refine ⟨?_, fun r hr => hids r (List.mem_of_mem_filter hr)⟩
  rw [Binding.unmet, ← firsts_eq_eraseDups, ← hbindings, List.filter_map]
  congr 1
  refine List.filter_congr fun r hr => ?_
  have hmet : r.binding.isMetBy index = fun a => a.gives r.roleId r.binding.scope := by
    funext a
    exact Binding.isMetBy_eq_gives (hids r hr) a
  rw [Function.comp_apply, hmet]
  rfl

theorem unwanted_of_resolve (h : resolve index (firsts bindings) = .ok resolved)
    (held : List Assignment) :
    (held.filter fun a => !isDeclared resolved a) = Binding.unwanted index held bindings := by
  obtain ⟨hbindings, hids⟩ := resolve_eq_ok h
  refine List.filter_congr fun a _ => ?_
  have hcongr (b b' : Binding) (hsame : (b == b') = true) :
      b.isMetBy index a = b'.isMetBy index a := Binding.isMetBy_congr hsame a
  rw [← any_firsts hcongr, ← hbindings, List.any_map, Bool.not_inj_iff, isDeclared, Bool.eq_iff_iff,
    List.any_eq_true, List.any_eq_true]
  refine exists_congr fun r => and_congr_right fun hr => ?_
  rw [Function.comp_apply, Binding.isMetBy_eq_gives (hids r hr)]

def assignCall (group : Group) (r : Resolved) : Call :=
  .grantRole (.forGroup r.roleId group.id r.binding.scope)

def assignKey (group : Group) (r : Resolved) : String :=
  group.name ++ "/" ++ r.binding.role.text ++ "/" ++ r.binding.scope.name

def unasked (group : Group) (index : RoleIndex) (a : Assignment) : Anomaly :=
  .undeclaredGroupRole group.name a.roleId (index.nameOfId? a.roleId) a.scope

def assignStep (group : Group) (r : Resolved) : Call × String × String :=
  (assignCall group r, "assign group role", assignKey group r)

theorem carries_assignRole (group : Group) (held : List Assignment) (r : Resolved) :
    Carries .groupRoleAssigned (assignRole group held r)
      (Deed.made (([r].filter fun r => !r.isHeld held).map (assignStep group))) := by
  unfold assignRole
  cases h : r.isHeld held with
  | true =>
    rw [if_pos rfl, List.filter_cons_of_neg (by simp [h])]
    exact carries_note _
  | false =>
    rw [if_neg Bool.false_ne_true, List.filter_cons_of_pos (by simp [h])]
    exact (carries_note _).bind fun _ => carries_change (Attempt.isCall_during _ _ _)

def assignAll (group : Group) (index : RoleIndex) (held : List Assignment) (resolved : List Resolved) :
    Reconcile Unit := do
  resolved.forM (assignRole group held)
  (held.filter (!isDeclared resolved ·)).forM fun a => flag (unasked group index a)

def bindingsPart (group : Group) (index : RoleIndex) (held : List Assignment) (resolved : List Resolved) :
    Deed.Part where
  calls := (resolved.filter fun r => !r.isHeld held).map (assignStep group)
  flags := (held.filter fun a => !isDeclared resolved a).map (unasked group index)

theorem carries_assignAll (group : Group) (index : RoleIndex) (held : List Assignment)
    (resolved : List Resolved) :
    Carries .groupRoleAssigned (assignAll group index held resolved)
      (bindingsPart group index held resolved).script := by
  have hassign : Carries .groupRoleAssigned (resolved.forM (assignRole group held))
      (Deed.made ((resolved.filter fun r => !r.isHeld held).map (assignStep group))) := by
    induction resolved with
    | nil => exact carries_pure
    | cons r rs ih =>
      have h := (carries_assignRole group held r).bind fun _ => ih
      rwa [Deed.made, Deed.made, ← List.map_append, ← List.map_append, ← List.filter_append] at h
  exact hassign.bind fun _ => carries_flags _ _

def inquiry (group : Group) (held : List Assignment) : List (Interaction.Step Call Call.Answer) :=
  .answered (.groupRoleGrants group.id) (.ok held) ::
    .noted (.debug "group currently has assigned roles"
      [("group", group.name), ("count", toString held.length)]) ::
    held.map fun a => .noted (.debug "assigned role"
      [("role_id", a.roleId), ("entity_type", a.holderKind), ("entity_id", a.holderId),
        ("scope", a.scope), ("resource", a.resource)])

theorem unfailed_inquiry (group : Group) (held : List Assignment) : Unfailed (inquiry group held) := by
  intro call e h
  simp only [inquiry, List.mem_cons, List.mem_map] at h
  rcases h with h | h | ⟨a, -, h⟩ <;> cases h

theorem ops_inquiry (group : Group) (held : List Assignment)
    (more : List (Interaction.Step Call Call.Answer)) :
    (inquiry group held ++ more).filterMap Interaction.Step.op? =
      .groupRoleGrants group.id :: more.filterMap Interaction.Step.op? := by
  simp [inquiry, List.filterMap_cons, List.filterMap_map, Interaction.Step.op?, Function.comp_def]

theorem run_groupRoles (group : Group) (bindings : List Binding) (index : RoleIndex)
    (respond : (call : Call) → σ → call.Answer × σ) (rep : Report) (s : σ) :
    Interaction.run respond ((groupRoles group bindings index).runFrom rep) s =
      let m := (respond (.groupRoleGrants group.id) s).2
      match (respond (.groupRoleGrants group.id) s).1 with
      | .error e => ⟨(.error (.step "fetch role grants" group.name e), rep), m,
          [.answered (.groupRoleGrants group.id) (.error e)]⟩
      | .ok held =>
        match resolve index (firsts bindings) with
        | .error e => ⟨(.error e, rep), m, inquiry group held⟩
        | .ok resolved =>
          let r := Interaction.run respond ((assignAll group index held resolved).runFrom rep) m
          { r with steps := inquiry group held ++ r.steps } := by
  unfold groupRoles
  change Interaction.run respond
    ((attempt ((Attempt.call (.groupRoleGrants group.id)).during _ _) >>= _).runFrom rep) s = _
  rw [run_call_bind (Attempt.isCall_during _ _ _)]
  cases hanswer : (respond (.groupRoleGrants group.id) s).1 with
  | error e => rfl
  | ok held =>
    simp only [id, run_note_bind, run_notes_bind]
    cases resolve index (firsts bindings) with
    | error e =>
      change Interaction.Run.mk (Except.error e, rep) _ (inquiry group held ++ []) = _
      rw [List.append_nil]
      rfl
    | ok resolved => rfl

/-- How the roles of a group are reconciled, by the answer to the question what it was assigned: the
question is all when it fails or when the role of some binding is not found; else the bindings that are
not met are assigned, and then what meets none is flagged; an assignment that fails is the last call, and
nothing was flagged. -/
inductive Bound (group : Group) (bindings : List Binding) (index : RoleIndex) (rep : Report)
    (r : Interaction.Run Call Call.Answer σ (Except Failure Unit × Report)) :
    Except Failure (List Assignment) → Prop
  | unread (e : Failure) (ops : r.ops = [.groupRoleGrants group.id])
      (result : r.result = (.error (.step "fetch role grants" group.name e), rep)) :
      Bound group bindings index rep r (.error e)
  | unknown (held : List Assignment) (b : Binding)
      (first : bindings.find? (!index.contains ·.role) = some b) (ops : r.ops = [.groupRoleGrants group.id])
      (result : r.result = (.error (.roleNotFound b.role.text), rep)) :
      Bound group bindings index rep r (.ok held)
  | whole (held : List Assignment) (wanted : List Resolved)
      (known : ∀ b ∈ bindings, index.contains b.role = true) (planned : Lacks index held bindings wanted)
      (unfailed : Unfailed r.steps)
      (ops : r.ops = .groupRoleGrants group.id :: wanted.map (assignCall group))
      (result : r.result = (.ok (), rep.extend .groupRoleAssigned wanted.length
        ((Binding.unwanted index held bindings).map (unasked group index))))
      (strange : ∀ a ∈ held, Scope.ofText? a.scope = none → a ∈ Binding.unwanted index held bindings) :
      Bound group bindings index rep r (.ok held)
  | cut (held : List Assignment) (assigned : List Resolved) (x : Resolved) (later : List Resolved)
      (done : List (Interaction.Step Call Call.Answer)) (e : Failure)
      (known : ∀ b ∈ bindings, index.contains b.role = true)
      (planned : Lacks index held bindings (assigned ++ x :: later))
      (unfailed : Unfailed done) (steps : r.steps = done ++ [.answered (assignCall group x) (.error e)])
      (ops : r.ops = .groupRoleGrants group.id :: (assigned ++ [x]).map (assignCall group))
      (result : r.result = (.error (.step "assign group role" (assignKey group x) e),
        rep.extend .groupRoleAssigned assigned.length [])) :
      Bound group bindings index rep r (.ok held)

/-- Whoever answers, from any report: every role is found before anything is assigned, and what is assigned
and flagged is the difference between the bindings and what was answered, up to the first assignment that
fails. -/
theorem groupRoles_exact (group : Group) (bindings : List Binding) (index : RoleIndex)
    (respond : (call : Call) → σ → call.Answer × σ) (rep : Report) (s : σ) :
    Bound group bindings index rep
      (Interaction.run respond ((groupRoles group bindings index).runFrom rep) s)
      (respond (.groupRoleGrants group.id) s).1 := by
  rw [run_groupRoles]
  cases hanswer : (respond (.groupRoleGrants group.id) s).1 with
  | error e => exact .unread e rfl rfl
  | ok held =>
    have hled := unfailed_inquiry group held
    cases hfirst : bindings.find? (!index.contains ·.role) with
    | some b =>
      -- Repeated bindings are dropped before the roles are looked up; the first unknown one stays the same.
      have hsame (b b' : Binding) (h : (b == b') = true) :
          (!index.contains b.role) = !index.contains b'.role := by
        rw [RoleIndex.contains, RoleIndex.contains, RoleIndex.get?, RoleIndex.get?,
          ((Binding.beq_iff b b').1 h).1]
      have hresolve : resolve index (firsts bindings) = .error (.roleNotFound b.role.text) :=
        resolve_of_find? ((find?_firsts hsame bindings).trans hfirst)
      rw [hresolve]
      refine .unknown held b hfirst ?_ rfl
      have hops := ops_inquiry group held []
      rwa [List.append_nil] at hops
    | none =>
      have hknown (b : Binding) (hb : b ∈ bindings) : index.contains b.role = true := by
        simpa using List.find?_eq_none.1 hfirst b hb
      obtain ⟨resolved, hresolve⟩ := exists_resolve fun b hb => hknown b (mem_of_mem_firsts hb)
      have hlacks := lacks_of_resolve hresolve held
      have hunwanted := unwanted_of_resolve hresolve held
      have hstrange (a : Assignment) (ha : a ∈ held) (hscope : Scope.ofText? a.scope = none) :
          a ∈ Binding.unwanted index held bindings := by
        refine List.mem_filter.2 ⟨ha, ?_⟩
        simp [Binding.isMetBy_of_ofText?_eq_none hscope]
      have hcarried := (carries_assignAll group index held resolved).run respond rep
        (respond (.groupRoleGrants group.id) s).2
      have hcalls : (bindingsPart group index held resolved).calls.map (·.1) =
          (resolved.filter fun r => !r.isHeld held).map (assignCall group) := List.map_map
      rw [hresolve]
      -- There is one part only: no anomaly stands before any of its calls.
      cases hcarried with
      | whole unfailed ops result =>
        rw [Deed.Part.calls_script, hcalls] at ops result
        rw [Deed.Part.anomalies_script, List.length_map, bindingsPart, hunwanted] at result
        refine .whole held _ hknown hlacks (unfailed_append.2 ⟨hled, unfailed⟩) ?_ result hstrange
        rw [← ops]
        exact ops_inquiry group held _
      | cut front c action key back done f planned unfailed steps ops result =>
        obtain ⟨made, later, hpart, rfl⟩ := Deed.Part.exists_of_script planned
        obtain ⟨assigned, rest, hplanned, rfl, hrest⟩ := List.map_eq_append_iff.1 hpart
        obtain ⟨x, later, rfl, hx, -⟩ := List.map_eq_cons_iff.1 hrest
        cases hx
        rw [Deed.calls_made, List.map_map] at ops result
        rw [Deed.anomalies_made, List.length_map] at result
        rw [hplanned] at hlacks
        refine .cut held assigned x later (inquiry group held ++ done) f hknown hlacks
          (unfailed_append.2 ⟨hled, unfailed⟩) ?_ ?_ result
        · rw [List.append_assoc, ← steps]
        · rw [List.map_append]
          exact (ops_inquiry group held _).trans (congrArg (_ :: ·) ops)

end Reconcile

end AccessBaseline
