import AccessBaseline.Proofs.Reconcile.Logic

/-! Reconciliations that have read what they need, as scripts: calls and anomalies in a fixed order.
Whoever answers, a script is carried out up to the first of its calls that fails. -/
namespace AccessBaseline

inductive Deed where
  | call (c : Call) (action key : String)
  | flag (anomaly : Anomaly)

namespace Deed

def call? : Deed → Option Call
  | call c _ _ => some c
  | flag _ => none

def anomaly? : Deed → Option Anomaly
  | call _ _ _ => none
  | flag a => some a

def calls (script : List Deed) : List Call := script.filterMap call?

def anomalies (script : List Deed) : List Anomaly := script.filterMap anomaly?

theorem calls_append (p q : List Deed) : calls (p ++ q) = calls p ++ calls q := List.filterMap_append

theorem anomalies_append (p q : List Deed) : anomalies (p ++ q) = anomalies p ++ anomalies q :=
  List.filterMap_append

theorem calls_flags (as : List Anomaly) : calls (as.map flag) = [] := by
  induction as with
  | nil => rfl
  | cons a as ih => exact ih

theorem anomalies_flags (as : List Anomaly) : anomalies (as.map flag) = as := by
  induction as with
  | nil => rfl
  | cons a as ih => exact congrArg (a :: ·) ih

def made (calls : List (Call × String × String)) : List Deed := calls.map fun c => call c.1 c.2.1 c.2.2

theorem calls_made (cs : List (Call × String × String)) : calls (made cs) = cs.map (·.1) := by
  induction cs with
  | nil => rfl
  | cons c cs ih => exact congrArg (c.1 :: ·) ih

theorem anomalies_made (cs : List (Call × String × String)) : anomalies (made cs) = [] := by
  induction cs with
  | nil => rfl
  | cons c cs ih => exact ih

structure Part where
  calls : List (Call × String × String)
  flags : List Anomaly

def Part.script (p : Part) : List Deed := made p.calls ++ p.flags.map flag

theorem Part.calls_script (p : Part) : Deed.calls p.script = p.calls.map (·.1) := by
  rw [script, calls_append, calls_made, calls_flags, List.append_nil]

theorem Part.anomalies_script (p : Part) : anomalies p.script = p.flags := by
  rw [script, anomalies_append, anomalies_made, anomalies_flags, List.nil_append]

theorem calls_parts (parts : List Part) :
    calls (parts.flatMap Part.script) = parts.flatMap fun p => p.calls.map (·.1) := by
  induction parts with
  | nil => rfl
  | cons p parts ih => rw [List.flatMap_cons, calls_append, ih, p.calls_script, List.flatMap_cons]

theorem anomalies_parts (parts : List Part) :
    anomalies (parts.flatMap Part.script) = parts.flatMap Part.flags := by
  induction parts with
  | nil => rfl
  | cons p parts ih =>
    rw [List.flatMap_cons, anomalies_append, ih, p.anomalies_script, List.flatMap_cons]

theorem call_not_mem_flags (c : Call) (action key : String) (as : List Anomaly) :
    call c action key ∉ as.map flag := by
  intro hmem
  obtain ⟨a, -, ha⟩ := List.mem_map.1 hmem
  cases ha

section
variable {front back : List Deed} {c : Call} {action key : String}

theorem Part.exists_of_script {part : Part} (h : part.script = front ++ call c action key :: back) :
    ∃ done later, part.calls = done ++ (c, action, key) :: later ∧ front = made done := by
  have hno := call_not_mem_flags c action key part.flags
  rw [script] at h
  rcases List.append_eq_append_iff.1 h with ⟨flags, -, hflags⟩ | ⟨calls, hcalls, hflags⟩
  · exact absurd (by simp [hflags]) hno
  · cases calls with
    | nil => exact absurd (hflags ▸ List.mem_cons_self : call c action key ∈ [] ++ part.flags.map flag) hno
    | cons d calls =>
      obtain ⟨rfl, -⟩ := List.cons.inj hflags
      obtain ⟨done, rest, hsplit, hdone, hrest⟩ := List.map_eq_append_iff.1 hcalls
      obtain ⟨w, later, rfl, hw, -⟩ := List.map_eq_cons_iff.1 hrest
      cases hw
      exact ⟨done, later, hsplit, hdone.symm⟩

/-- Where a call stands in a script of parts: behind whole parts, and behind other calls of its own part,
none of whose anomalies were flagged yet. -/
theorem exists_of_parts {parts : List Part} {as : List Anomaly}
    (h : parts.flatMap Part.script ++ as.map flag = front ++ call c action key :: back) :
    ∃ before part after done later, parts = before ++ part :: after ∧
      part.calls = done ++ (c, action, key) :: later ∧
      front = before.flatMap Part.script ++ made done := by
  -- Parts are taken off the front until the call is in the first of them.
  induction parts generalizing front with
  | nil =>
    have hmem : call c action key ∈ as.map flag := by
      rw [List.flatMap_nil, List.nil_append] at h
      simp [h]
    exact absurd hmem (call_not_mem_flags c action key as)
  | cons part parts ih =>
    rw [List.flatMap_cons, List.append_assoc] at h
    rcases List.append_eq_append_iff.1 h with ⟨more, hfront, hrest⟩ | ⟨more, hpart, hrest⟩
    · obtain ⟨before, part', after, done, later, rfl, hcalls, rfl⟩ := ih hrest
      refine ⟨part :: before, part', after, done, later, rfl, hcalls, ?_⟩
      rw [hfront, List.flatMap_cons, List.append_assoc]
    · cases more with
      | nil =>
        -- The first part ends right before the call, which then begins the rest.
        have hrest' : parts.flatMap Part.script ++ as.map flag = [] ++ call c action key :: back := hrest.symm
        obtain ⟨before, part', after, done, later, rfl, hcalls, hempty⟩ := ih hrest'
        refine ⟨part :: before, part', after, done, later, rfl, hcalls, ?_⟩
        rw [List.append_nil] at hpart
        rw [← hpart, List.flatMap_cons, List.append_assoc, ← hempty, List.append_nil]
      | cons d more =>
        obtain ⟨rfl, -⟩ := List.cons.inj hrest
        obtain ⟨done, later, hcalls, rfl⟩ := Part.exists_of_script hpart
        exact ⟨[], part, parts, done, later, rfl, hcalls, rfl⟩

end

end Deed

section
variable {α σ : Type} {kind : Change} {rep : Report} {script script' : List Deed}

/-- Whether a run carries a script out and counts its calls, or ends at the first of them that fails,
counts those before it and has flagged what stands before it. -/
inductive Carried (kind : Change) (rep : Report) (script : List Deed)
    (r : Interaction.Run Call Call.Answer σ (Except Failure Unit × Report)) : Prop
  | whole (unfailed : Unfailed r.steps) (ops : r.ops = Deed.calls script)
      (result : r.result =
        (.ok (), rep.extend kind (Deed.calls script).length (Deed.anomalies script)))
  | cut (front : List Deed) (c : Call) (action key : String) (back : List Deed)
      (done : List (Interaction.Step Call Call.Answer)) (e : Failure)
      (planned : script = front ++ .call c action key :: back) (unfailed : Unfailed done)
      (steps : r.steps = done ++ [.answered c (.error e)]) (ops : r.ops = Deed.calls front ++ [c])
      (result : r.result = (.error (.step action key e),
        rep.extend kind (Deed.calls front).length (Deed.anomalies front)))

theorem unfailed_append {steps steps' : List (Interaction.Step Call Call.Answer)} :
    Unfailed (steps ++ steps') ↔ Unfailed steps ∧ Unfailed steps' := by
  simp only [Unfailed, List.mem_append, not_or, forall_and]

theorem Carried.behind {r r' : Interaction.Run Call Call.Answer σ (Except Failure Unit × Report)}
    {front : List (Interaction.Step Call Call.Answer)}
    (h : Carried kind (rep.extend kind (Deed.calls script).length (Deed.anomalies script)) script' r')
    (hfront : Unfailed front) (hops : front.filterMap Interaction.Step.op? = Deed.calls script)
    (hsteps : r.steps = front ++ r'.steps) (hresult : r.result = r'.result) :
    Carried kind rep (script ++ script') r := by
  have hall : r.ops = Deed.calls script ++ r'.ops := by
    rw [Interaction.Run.ops, hsteps, List.filterMap_append, hops]
    rfl
  cases h with
  | whole unfailed ops result =>
    refine .whole ?_ ?_ ?_
    · rw [hsteps]
      exact unfailed_append.2 ⟨hfront, unfailed⟩
    · rw [hall, ops, Deed.calls_append]
    · rw [hresult, result, Report.extend_extend, Deed.calls_append, Deed.anomalies_append,
        List.length_append]
  | cut done c action key back steps' e planned unfailed steps ops result =>
    refine .cut (script ++ done) c action key back (front ++ steps') e ?_
      (unfailed_append.2 ⟨hfront, unfailed⟩) ?_ ?_ ?_
    · rw [planned, List.append_assoc]
    · rw [hsteps, steps, List.append_assoc]
    · rw [hall, ops, Deed.calls_append, List.append_assoc]
    · rw [hresult, result, Report.extend_extend, Deed.calls_append, Deed.anomalies_append,
        List.length_append]

end

namespace Reconcile
variable {α β γ σ : Type} {kind : Change} {respond : (call : Call) → σ → call.Answer × σ}

theorem run_note_bind (event : Event) (k : Unit → Reconcile α) (rep : Report) (s : σ) :
    Interaction.run respond ((note event >>= k).runFrom rep) s =
      let r := Interaction.run respond ((k ()).runFrom rep) s
      { r with steps := .noted event :: r.steps } := by
  rw [runFrom_bind]
  rfl

theorem run_notes_bind (xs : List γ) (event : γ → Event) (k : Unit → Reconcile α) (rep : Report) (s : σ) :
    Interaction.run respond ((xs.forM (fun x => note (event x)) >>= k).runFrom rep) s =
      let r := Interaction.run respond ((k ()).runFrom rep) s
      { r with steps := xs.map (fun x => .noted (event x)) ++ r.steps } := by
  induction xs with
  | nil => rfl
  | cons x xs ih =>
    change Interaction.run respond
      (((note (event x) >>= fun _ => xs.forM fun x => note (event x)) >>= k).runFrom rep) s = _
    rw [bind_assoc, run_note_bind, ih]
    rfl

theorem run_call_bind {x : Attempt β} {call : Call} {f : call.Value → β} {g : Failure → Failure}
    (h : x.IsCall call f g) (k : β → Reconcile α) (rep : Report) (s : σ) :
    Interaction.run respond ((attempt x >>= k).runFrom rep) s =
      match (respond call s).1 with
      | .error e => ⟨(.error (g e), rep), (respond call s).2, [.answered call (.error e)]⟩
      | .ok v =>
        let r := Interaction.run respond ((k (f v)).runFrom rep) (respond call s).2
        { r with steps := .answered call (.ok v) :: r.steps } := by
  rw [runFrom_bind, runFrom_attempt h]
  change Interaction.run respond (Interaction.ask call _) s = _
  rw [Interaction.run]
  cases (respond call s).1 with
  | error e => rfl
  | ok v => rfl

structure Carries (kind : Change) (x : Reconcile Unit) (script : List Deed) : Prop where
  run : ∀ {σ : Type} (respond : (call : Call) → σ → call.Answer × σ) (rep : Report) (s : σ),
    Carried kind rep script (Interaction.run respond (x.runFrom rep) s)

variable {x : Reconcile Unit} {script script' : List Deed}

theorem carries_pure : Carries kind (pure ()) [] := by
  constructor
  intro σ respond rep s
  refine .whole (fun _ _ h => by cases h) rfl ?_
  change ((.ok (), rep) : Except Failure Unit × Report) = (.ok (), rep.extend kind 0 [])
  rw [Report.extend_zero]

theorem carries_note (event : Event) : Carries kind (note event) [] := by
  constructor
  intro σ respond rep s
  refine .whole (fun _ _ h => by cases List.mem_singleton.1 h) rfl ?_
  change ((.ok (), rep) : Except Failure Unit × Report) = (.ok (), rep.extend kind 0 [])
  rw [Report.extend_zero]

theorem carries_flag (a : Anomaly) : Carries kind (flag a) [.flag a] := by
  constructor
  intro σ respond rep s
  refine .whole (fun _ _ h => by cases List.mem_singleton.1 h) rfl ?_
  change ((.ok (), rep.flag a) : Except Failure Unit × Report) = (.ok (), rep.extend kind 0 [a])
  rw [Report.flag_eq_extend rep kind]

theorem carries_change {x : Attempt Unit} {call : Call} {f : call.Value → Unit} {action key : String}
    (h : x.IsCall call f (.step action key)) :
    Carries kind (change kind x) [.call call action key] := by
  constructor
  intro σ respond rep s
  rw [change, run_call_bind h]
  cases hanswer : (respond call s).1 with
  | error e =>
    refine .cut [] call action key [] [] e rfl (fun _ _ h => by cases h) rfl rfl ?_
    change ((.error (.step action key e), rep) : Except Failure Unit × Report) =
      (.error (.step action key e), rep.extend kind 0 [])
    rw [Report.extend_zero]
  | ok v =>
    refine .whole (fun _ _ h => by cases List.mem_singleton.1 h) rfl ?_
    change ((.ok (), rep.count kind) : Except Failure Unit × Report) = (.ok (), rep.extend kind 1 [])
    rw [Report.count_eq_extend]

theorem Carries.bind (hx : Carries kind x script) {f : Unit → Reconcile Unit}
    (hf : ∀ u, Carries kind (f u) script') : Carries kind (x >>= f) (script ++ script') := by
  constructor
  intro σ respond rep s
  rw [runFrom_bind]
  change Carried kind rep _ (Interaction.run respond (Interaction.bind _ _) s)
  rw [Interaction.run_bind]
  let first := Interaction.run respond (x.runFrom rep) s
  cases hx.run respond rep s with
  | whole unfailed ops result =>
    simp only [result]
    exact ((hf ()).run respond _ first.state).behind unfailed ops rfl rfl
  | cut front c action key back done e planned unfailed steps ops result =>
    -- What would follow is not begun, so it only lengthens what was planned.
    simp only [result]
    refine .cut front c action key (back ++ script') done e ?_ unfailed ?_ ?_ rfl
    · rw [planned, List.append_assoc, List.cons_append]
    · change first.steps ++ [] = _
      rw [List.append_nil]
      exact steps
    · change (first.steps ++ []).filterMap Interaction.Step.op? = _
      rw [List.append_nil]
      exact ops

theorem carries_forM {xs : List γ} {f : γ → Reconcile Unit} {script : γ → List Deed}
    (hf : ∀ x, Carries kind (f x) (script x)) : Carries kind (xs.forM f) (xs.flatMap script) := by
  induction xs with
  | nil => exact carries_pure
  | cons x xs ih => exact (hf x).bind fun _ => ih

theorem carries_forM_singleton {xs : List γ} {f : γ → Reconcile Unit} {deed : γ → Deed}
    (hf : ∀ x, Carries kind (f x) [deed x]) : Carries kind (xs.forM f) (xs.map deed) := by
  rw [List.map_eq_flatMap]
  exact carries_forM hf

theorem carries_flags (xs : List γ) (a : γ → Anomaly) :
    Carries kind (xs.forM fun x => flag (a x)) ((xs.map a).map .flag) := by
  rw [List.map_map]
  exact carries_forM_singleton fun x => carries_flag (a x)

end Reconcile

end AccessBaseline
