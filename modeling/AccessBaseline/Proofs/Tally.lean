import AccessBaseline.Proofs.Baseline
import AccessBaseline.Proofs.Config
import AccessBaseline.Proofs.Persistence

/-! The report of a reconciliation against the calls that it made. Whoever answers, and also where calls
fail, a counter goes up by one for each call of its kind that succeeds, and anomalies are only added. So
a report that many operations share is right after each of them. -/
namespace AccessBaseline

theorem applied_append (steps steps' : List (Interaction.Step Call Call.Answer)) :
    applied (steps ++ steps') = applied steps ++ applied steps' := by
  simp [applied, heard]

/-- Where no call failed, the successful writes are all writes. -/
theorem applied_of_unfailed {steps : List (Interaction.Step Call Call.Answer)} (h : Unfailed steps) :
    applied steps = (steps.filterMap Interaction.Step.op?).filter Call.isWrite := by
  induction steps with
  | nil => rfl
  | cons step steps ih =>
    have hrest := ih fun call e he => h call e (List.mem_cons_of_mem _ he)
    cases step with
    | noted event => exact hrest
    | answered call a =>
      cases a with
      | error e => exact absurd List.mem_cons_self (h call e)
      | ok v =>
        rw [applied_answered, hrest]
        cases hw : call.isWrite <;> simp [Interaction.Step.op?, hw]

/-- The number of calls that make one kind of change. -/
def Change.times (kind : Change) (calls : List Call) : Nat := calls.countP (·.change? == some kind)

theorem Change.times_append (kind : Change) (calls calls' : List Call) :
    kind.times (calls ++ calls') = kind.times calls + kind.times calls' :=
  List.countP_append

theorem Call.isWrite_of_change? {call : Call} {kind : Change} (h : call.change? = some kind) :
    call.isWrite = true := by
  cases call with
  | createRole | grantPermission | createGroup | addGroupMember | removeGroupMember | grantRole => rfl
  | assignableRoles | rolePermissions | groups | groupRoleGrants | capabilities
  | capabilityMembers => cases h

namespace Report

def total (report : Report) : Change → Nat
  | .roleCreated => report.rolesCreated
  | .permissionGranted => report.permissionsGranted
  | .groupCreated => report.groupsCreated
  | .groupRoleAssigned => report.groupRolesAssigned
  | .memberAdded => report.membersAdded

theorem total_count (report : Report) (kind kind' : Change) :
    (report.count kind).total kind' = report.total kind' + if kind = kind' then 1 else 0 := by
  cases kind <;> cases kind' <;> rfl

/-- Whether the second report follows from the first by what succeeded among some steps. -/
structure Tallies (report : Report) (steps : List (Interaction.Step Call Call.Answer)) (report' : Report) : Prop where
  totals : ∀ kind, report'.total kind = report.total kind + kind.times (applied steps)
  changes : report'.changes = report.changes + (applied steps).length
  anomalies : report.anomalies <+: report'.anomalies

variable {steps steps' : List (Interaction.Step Call Call.Answer)} {report report' report'' : Report}

theorem Tallies.refl (h : applied steps = []) (report : Report) : report.Tallies steps report where
  totals kind := by simp [h, Change.times]
  changes := by simp [h]
  anomalies := List.prefix_rfl

theorem Tallies.append (h : report.Tallies steps report') (h' : report'.Tallies steps' report'') :
    report.Tallies (steps ++ steps') report'' where
  totals kind := by
    rw [h'.totals, h.totals, applied_append, Change.times_append, Nat.add_assoc]
  changes := by
    rw [h'.changes, h.changes, applied_append, List.length_append, Nat.add_assoc]
  anomalies := h.anomalies.trans h'.anomalies

theorem tallies_count {call : Call} {kind : Change} (h : call.change? = some kind) (v : call.Value)
    (report : Report) : report.Tallies [.answered call (.ok v)] (report.count kind) := by
  have happlied : applied [.answered call (.ok v)] = [call] := by
    rw [applied_answered, Call.isWrite_of_change? h]
    rfl
  refine ⟨fun kind' => ?_, ?_, ?_⟩
  · rw [total_count, happlied, Change.times, List.countP_singleton, h]
    by_cases hkind : kind = kind' <;> simp [hkind]
  · rw [changes_count, happlied]
    rfl
  · cases kind <;> exact List.prefix_rfl

end Report

theorem Dialogue.run_bind {α β σ : Type} (respond : (call : Call) → σ → call.Answer × σ) (p : Dialogue α)
    (f : α → Dialogue β) (s : σ) :
    Interaction.run respond (p >>= f) s =
      let r := Interaction.run respond p s
      let r' := Interaction.run respond (f r.result) r.state
      ⟨r'.result, r'.state, r.steps ++ r'.steps⟩ :=
  Interaction.run_bind respond p f s

namespace Reconcile
variable {α σ : Type}

theorem Composed.tallies {r : Reconcile α} (h : Composed r)
    (respond : (call : Call) → σ → call.Answer × σ) (s : σ) (report : Report) :
    report.Tallies ((r.runFrom report).run respond s).steps
      ((r.runFrom report).run respond s).result.2 := by
  induction h generalizing s report with
  | pure a => exact .refl rfl report
  | get => exact .refl rfl report
  | ofExcept e => exact .refl rfl report
  | note event => exact .refl rfl report
  | flag a => exact ⟨fun kind => by cases kind <;> rfl, rfl, List.prefix_append _ _⟩
  | @bind _ _ x f hx hf ihx ihf =>
    have hfirst := ihx s report
    rw [runFrom_bind, Dialogue.run_bind]
    cases hout : ((x.runFrom report).run respond s).result with
    | mk res report₁ =>
      rw [hout] at hfirst
      cases res with
      | error e => simpa [Interaction.run, hout] using hfirst
      | ok a => simpa only [hout] using hfirst.append (ihf a _ report₁)
  | @read _ x call f g hcall hread hend =>
    rw [runFrom_attempt hcall, Interaction.run]
    cases (respond call s).1 with
    | ok v => exact .refl (by rw [applied_answered, hread]; rfl) report
    | error e => exact .refl rfl report
  | @change kind x call f g hcall hkind hend =>
    rw [runFrom_change hcall, Interaction.run]
    cases (respond call s).1 with
    | ok v => exact Report.tallies_count hkind v report
    | error e => exact .refl rfl report

/-- An operation on a report, with its arguments. -/
inductive Operation where
  | roles (desired : List DeclaredRole) (observed : RoleIndex)
  | permissions (role : DeclaredRole) (roleId : String)
  | ensureGroup (name : String)
  | groupRoles (group : Group) (bindings : List Binding) (index : RoleIndex)
  | membership (group : Group) (desired : List String)

namespace Operation

def reconcile : Operation → Reconcile Unit
  | roles desired observed => Reconcile.roles desired observed
  | permissions role roleId => Reconcile.permissions role roleId
  | ensureGroup name => do let _ ← Reconcile.ensureGroup name
  | groupRoles group bindings index => Reconcile.groupRoles group bindings index
  | membership group desired => Reconcile.membership group desired

/-- Operations in turn on one report. A failure ends the operation, and the next one begins. -/
def performAll : List Operation → Report → Dialogue Report
  | [], report => return report
  | op :: ops, report => do
    let (_, report) ← op.reconcile.runFrom report
    performAll ops report

theorem composed_reconcile (op : Operation) : Composed op.reconcile := by
  cases op with
  | roles desired observed => exact composed_roles desired observed
  | permissions role roleId => exact composed_permissions role roleId
  | ensureGroup name => exact .bind (composed_ensureGroup name) fun _ => .pure ()
  | groupRoles group bindings index => exact composed_groupRoles group bindings index
  | membership group desired => exact composed_membership group desired

theorem performAll_append (ops ops' : List Operation) (report : Report) :
    performAll (ops ++ ops') report = performAll ops report >>= performAll ops' := by
  induction ops generalizing report with
  | nil => rfl
  | cons op ops ih =>
    simp only [List.cons_append, performAll, ih, bind_assoc]

theorem tallies_performAll (respond : (call : Call) → σ → call.Answer × σ) (ops : List Operation) (s : σ)
    (report : Report) :
    report.Tallies ((performAll ops report).run respond s).steps
      ((performAll ops report).run respond s).result := by
  induction ops generalizing s report with
  | nil => exact .refl rfl report
  | cons op ops ih =>
    have hfirst := op.composed_reconcile.tallies respond s report
    rw [performAll, Dialogue.run_bind]
    exact hfirst.append (ih _ _)

end Operation

end Reconcile

theorem Baseline.tallies_run {σ : Type} {config : Config}
    {respond : (call : Call) → σ → call.Answer × σ} {s : σ} {report : Report}
    (h : (Interaction.run respond (run config) s).result = .ok report) :
    ({} : Report).Tallies (Interaction.run respond (run config) s).steps report := by
  let r := Interaction.run respond ((reconcile config).runFrom {}) s
  have htallies : ({} : Report).Tallies r.steps r.result.2 :=
    (composed_reconcile config).tallies respond s {}
  have hrun : Interaction.run respond (run config) s =
      ⟨r.result.1.map fun _ => r.result.2, r.state, r.steps⟩ := by
    rw [← List.append_nil r.steps]
    exact Dialogue.run_bind respond ((reconcile config).runFrom {})
      (fun out => pure (out.1.map fun _ => out.2)) s
  rw [hrun] at h ⊢
  cases hout : r.result.1 with
  | error e => simp [hout, Except.map] at h
  | ok _ =>
    have hreport : r.result.2 = report := by simpa [hout, Except.map] using h
    exact hreport ▸ htallies

open Reconcile (Operation)

/-- Whoever answers, the report that operations share is right after each of them: every counter is the
number of calls of its kind that succeeded so far, together they are all successful writes, and the
anomalies flagged so far stay. So a baseline run that succeeds reports the writes that it made. -/
theorem report_exact {σ : Type} (respond : (call : Call) → σ → call.Answer × σ) (s : σ) :
    (∀ done later : List Operation,
      let r := Interaction.run respond (Operation.performAll done {}) s
      let r' := Interaction.run respond (Operation.performAll (done ++ later) {}) s
      (∀ kind, r.result.total kind = kind.times (applied r.steps)) ∧
        r.result.changes = (applied r.steps).length ∧
        r.steps <+: r'.steps ∧ r.result.anomalies <+: r'.result.anomalies) ∧
    ∀ config report,
      let r := Interaction.run respond (Baseline.run config) s
      r.result = .ok report →
        (∀ kind, report.total kind = kind.times (r.ops.filter Call.isWrite)) ∧
          report.changes = (r.ops.filter Call.isWrite).length := by
  have htotal (kind : Change) : ({} : Report).total kind = 0 := by cases kind <;> rfl
  refine ⟨fun done later => ?_, fun config report => ?_⟩
  · intro r r'
    have hdone := Operation.tallies_performAll respond done s {}
    have hlater := Operation.tallies_performAll respond later r.state r.result
    let next := Interaction.run respond (Operation.performAll later r.result) r.state
    have hrun : r' = ⟨next.result, next.state, r.steps ++ next.steps⟩ := by
      simp only [r', Operation.performAll_append]
      exact Dialogue.run_bind respond _ _ s
    refine ⟨fun kind => ?_, ?_, ?_, ?_⟩
    · rw [hdone.totals, htotal, Nat.zero_add]
    · exact hdone.changes.trans (Nat.zero_add _)
    · exact hrun ▸ List.prefix_append _ _
    · exact hrun ▸ hlater.anomalies
  · intro r hok
    have hall : applied r.steps = r.ops.filter Call.isWrite :=
      applied_of_unfailed (Baseline.unfailed_of_ok hok)
    have htallies := Baseline.tallies_run hok
    rw [← hall]
    exact ⟨fun kind => by rw [htallies.totals, htotal, Nat.zero_add],
      htallies.changes.trans (Nat.zero_add _)⟩

theorem small_report_exact :
    let r := Interaction.run Memory.Service.respond (Baseline.run Config.small) (.reliable .empty)
    ∃ report, r.result = .ok report ∧ report.changes = (r.ops.filter Call.isWrite).length ∧
      report.changes = 6 := by
  intro r
  have hchanges : r.result.toOption.map (·.changes) = some 6 := by decide +kernel
  cases hresult : r.result with
  | error e => simp [hresult, Except.toOption] at hchanges
  | ok report =>
    have hexact := (report_exact Memory.Service.respond (.reliable .empty)).2 Config.small report hresult
    exact ⟨report, rfl, hexact.2, by simpa [hresult, Except.toOption] using hchanges⟩

example :
    let r := Interaction.run Memory.Service.respond
      (Operation.performAll [.ensureGroup "Ops", .membership ⟨"g1", "Ops", ["bob"]⟩ ["ada"]] {})
      ⟨.empty, [], ["create_group"], []⟩
    r.result = { groupsCreated := 1, membersAdded := 1, anomalies := [.unexpectedMember "Ops" "bob"] } := by
  decide +kernel

end AccessBaseline
