import AccessBaseline.Memory
import Mathlib.Data.List.Basic

/-! Runs in which every call succeeds, and dialogues that end with a call that fails. Whoever answers,
such a dialogue goes along one of its unfailing runs, so those are all that has to be known of it. -/
namespace AccessBaseline

abbrev Reply (σ : Type) := (call : Call) → call.Value → σ → σ → Prop

abbrev Success := (call : Call) × call.Value

def Call.blank : (call : Call) → call.Value
  | assignableRoles | rolePermissions _ | groups | groupRoleGrants _ | capabilities
  | capabilityMembers _ => []
  | createRole _ | grantPermission _ | createGroup _ | addGroupMember _ _ | removeGroupMember _ _
  | grantRole _ => ()

def heard (steps : List (Interaction.Step Call Call.Answer)) : List Success :=
  steps.filterMap fun
    | .answered call (.ok v) => some ⟨call, v⟩
    | _ => none

def applied (steps : List (Interaction.Step Call Call.Answer)) : List Call :=
  ((heard steps).map (·.1)).filter Call.isWrite

theorem applied_answered (call : Call) (v : call.Value)
    (steps : List (Interaction.Step Call Call.Answer)) :
    applied (.answered call (.ok v) :: steps) =
      (if call.isWrite then [call] else []) ++ applied steps := by
  cases hw : call.isWrite <;> simp [applied, heard, hw]

def Unfailed (steps : List (Interaction.Step Call Call.Answer)) : Prop :=
  ∀ call e, .answered call (.error e) ∉ steps

namespace Dialogue
variable {α β σ : Type}

/-- Whether a dialogue goes from one state to another, and ends in `b`, with every call successful. -/
def Leads (reply : Reply σ) : Dialogue α → σ → α → σ → Prop
  | .done a, s, b, t => b = a ∧ t = s
  | .note _ next, s, b, t => Leads reply next s b t
  | .ask call next, s, b, t => ∃ v m, reply call v s m ∧ Leads reply (next (.ok v)) m b t

theorem leads_bind {reply : Reply σ} (p : Dialogue α) (f : α → Dialogue β) {s : σ} {b : β} {t : σ} :
    Leads reply (p >>= f) s b t ↔ ∃ a m, Leads reply p s a m ∧ Leads reply (f a) m b t := by
  change Leads reply (p.bind f) s b t ↔ _
  induction p generalizing s with
  | done a => simp [Interaction.bind, Leads]
  | ask call next ih =>
    simp only [Interaction.bind, Leads, ih]
    constructor
    · intro h
      obtain ⟨v, m, hr, a, m', h, h'⟩ := h
      exact ⟨a, m', ⟨v, m, hr, h⟩, h'⟩
    · intro h
      obtain ⟨a, m', ⟨v, m, hr, h⟩, h'⟩ := h
      exact ⟨v, m, hr, a, m', h, h'⟩
  | note event next ih => simp only [Interaction.bind, Leads, ih]

/-- A dialogue whose first failed call is its last step; `halted` says with what it then ends. -/
def HaltsOn (halted : Call → Failure → α → Prop) : Dialogue α → Prop
  | .done _ => True
  | .note _ next => HaltsOn halted next
  | .ask call next =>
    (∀ e, ∃ a, next (.error e) = .done a ∧ halted call e a) ∧ ∀ v, HaltsOn halted (next (.ok v))

theorem HaltsOn.bind {halted : Call → Failure → α → Prop} {halted' : Call → Failure → β → Prop}
    {p : Dialogue α} {f : α → Dialogue β} (h : HaltsOn halted p) (hf : ∀ a, HaltsOn halted' (f a))
    (hend : ∀ call e a, halted call e a → ∃ b, f a = .done b ∧ halted' call e b) :
    HaltsOn halted' (p >>= f) := by
  change HaltsOn halted' (p.bind f)
  induction p with
  | done a => exact hf a
  | ask call next ih =>
    refine ⟨fun e => ?_, fun v => ih (.ok v) (h.2 v)⟩
    obtain ⟨a, hnext, ha⟩ := h.1 e
    obtain ⟨b, hb, hb'⟩ := hend call e a ha
    exact ⟨b, by simp only [hnext, Interaction.bind, hb], hb'⟩
  | note event next ih => exact ih h

variable {halted : Call → Failure → α → Prop} {p : Dialogue α}

theorem HaltsOn.last (h : HaltsOn halted p) (respond : (call : Call) → σ → call.Answer × σ) (s : σ)
    {front back : List (Interaction.Step Call Call.Answer)} {call : Call} {e : Failure}
    (hsteps : (p.run respond s).steps = front ++ .answered call (.error e) :: back) :
    back = [] ∧ halted call e (p.run respond s).result := by
  induction p generalizing s front with
  | done a => simp [Interaction.run] at hsteps
  | note event next ih =>
    cases front with
    | nil => simp [Interaction.run] at hsteps
    | cons step front =>
      simp only [Interaction.run, List.cons_append, List.cons.injEq] at hsteps
      exact ih h s hsteps.2
  | ask op next ih =>
    obtain ⟨hfail, hok⟩ := h
    cases front with
    | nil =>
      simp only [Interaction.run, List.nil_append, List.cons.injEq,
        Interaction.Step.answered.injEq] at hsteps ⊢
      obtain ⟨⟨rfl, he⟩, hback⟩ := hsteps
      have he := eq_of_heq he
      obtain ⟨a, hnext, ha⟩ := hfail e
      rw [he, hnext] at hback ⊢
      exact ⟨hback.symm, ha⟩
    | cons step front =>
      simp only [Interaction.run, List.cons_append, List.cons.injEq] at hsteps ⊢
      obtain ⟨-, hrest⟩ := hsteps
      cases ha : (respond op s).1 with
      | ok v =>
        rw [ha] at hrest
        exact ih (.ok v) (hok v) _ hrest
      | error e' =>
        obtain ⟨a, hnext, -⟩ := hfail e'
        rw [ha, hnext] at hrest
        simp [Interaction.run] at hrest

/-- Every value may be returned; the state is the list of what was. -/
def logging : Reply (List Success) := fun call v log log' => log' = log ++ [⟨call, v⟩]

theorem exists_leads_logging (p : Dialogue α) (log : List Success) :
    ∃ b rest, Leads logging p log b (log ++ rest) ∧ ∀ x ∈ rest, x.2 = x.1.blank := by
  induction p generalizing log with
  | done a => exact ⟨a, [], ⟨rfl, List.append_nil log⟩, by simp⟩
  | ask call next ih =>
    obtain ⟨b, rest, h, hblank⟩ := ih (.ok call.blank) (log ++ [⟨call, call.blank⟩])
    exact ⟨b, ⟨call, call.blank⟩ :: rest, ⟨call.blank, _, rfl, by simpa using h⟩,
      List.forall_mem_cons.2 ⟨rfl, hblank⟩⟩
  | note event next ih => exact ih log

theorem initial_of_leads {log log' : List Success} {b : α}
    (h : Leads logging p log b log') : log <+: log' := by
  induction p generalizing log with
  | done a => exact h.2 ▸ List.prefix_rfl
  | note event next ih => exact ih h
  | ask call next ih =>
    obtain ⟨v, m, rfl, hrest⟩ := h
    exact (List.prefix_append _ _).trans (ih _ hrest)

/-- Whoever answers, what is asked up to the first failure is what an unfailing run asks that goes on
with blank answers, and a run without failures is such a run itself. -/
theorem HaltsOn.exists_completion (h : HaltsOn halted p)
    (respond : (call : Call) → σ → call.Answer × σ) (s : σ) (log : List Success) :
    ∃ b later, Leads logging p log b (log ++ (heard (p.run respond s).steps ++ later)) ∧
      (∀ x ∈ later, x.2 = x.1.blank) ∧
      (p.run respond s).ops <+: (heard (p.run respond s).steps ++ later).map (·.1) ∧
      (Unfailed (p.run respond s).steps → b = (p.run respond s).result ∧
        (p.run respond s).ops = (heard (p.run respond s).steps ++ later).map (·.1)) := by
  induction p generalizing s log with
  | done a =>
    exact ⟨a, [], ⟨rfl, List.append_nil log⟩, by simp, List.prefix_rfl, fun _ => ⟨rfl, rfl⟩⟩
  | note event next ih =>
    obtain ⟨b, later, hleads, hblank, hops, hfull⟩ := ih h s log
    exact ⟨b, later, hleads, hblank, hops, fun hu => hfull fun call e he =>
      hu call e (List.mem_cons_of_mem _ he)⟩
  | ask op next ih =>
    obtain ⟨hfail, hok⟩ := h
    simp only [Interaction.run, Interaction.Run.ops]
    cases ha : (respond op s).1 with
    | ok v =>
      obtain ⟨b, later, hleads, hblank, hops, hfull⟩ :=
        ih (.ok v) (hok v) (respond op s).2 (log ++ [⟨op, v⟩])
      refine ⟨b, later, ⟨v, _, rfl, by simpa [heard] using hleads⟩, hblank, ?_, fun hu => ?_⟩
      · exact (List.prefix_cons_inj op).2 hops
      · obtain ⟨hb, hcalls⟩ := hfull fun call e he => hu call e (List.mem_cons_of_mem _ he)
        exact ⟨hb, congrArg (op :: ·) hcalls⟩
    | error e =>
      obtain ⟨a, hnext, -⟩ := hfail e
      obtain ⟨b, rest, hleads, hblank⟩ :=
        exists_leads_logging (next (.ok op.blank)) (log ++ [⟨op, op.blank⟩])
      refine ⟨b, ⟨op, op.blank⟩ :: rest, ?_, List.forall_mem_cons.2 ⟨rfl, hblank⟩, ?_, fun hu => ?_⟩
      · rw [hnext]
        exact ⟨op.blank, _, rfl, by simpa [heard, Interaction.run] using hleads⟩
      · simp [hnext, Interaction.run, Interaction.Step.op?, heard]
      · exact absurd (by simp) (hu op e)

end Dialogue

end AccessBaseline
