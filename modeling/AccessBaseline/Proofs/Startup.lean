import AccessBaseline.Proofs.CallOrder
import AccessBaseline.Proofs.Ownership

/-! When runs fail the way a start does. The service fails otherwise, and so does everything behind the
first question of a run, which is for the roles; what is left is the check that follows it. -/
namespace AccessBaseline

def IsLate {α : Type} (result : Except Failure α) : Prop := ∀ f, result = .error f → f.isStartup = false

theorem isLate_error {α : Type} {f : Failure} (h : f.isStartup = false) :
    IsLate (.error f : Except Failure α) := by
  intro f' hf'
  cases hf'
  exact h

theorem IsLate.error {α β : Type} {f : Failure} (h : IsLate (.error f : Except Failure α)) :
    IsLate (.error f : Except Failure β) := isLate_error (h f rfl)

namespace Dialogue
variable {α β : Type} {P : α → Prop} {Q : β → Prop}

/-- Whether every end is as `P` asks, whatever the answers are that are no failures of a start. -/
def Ends (P : α → Prop) : Dialogue α → Prop
  | .done a => P a
  | .note _ next => Ends P next
  | .ask call next => ∀ answer : call.Answer, IsLate answer → Ends P (next answer)

theorem Ends.bind {p : Dialogue α} {f : α → Dialogue β} (hp : Ends P p) (hf : ∀ a, P a → Ends Q (f a)) :
    Ends Q (p >>= f) := by
  change Ends Q (p.bind f)
  induction p with
  | done a => exact hf a hp
  | ask call next ih => exact fun answer hanswer => ih answer (hp answer hanswer)
  | note event next ih => exact ih hp

/-- A dialogue that a failed call ends does so with what its unfailing runs and its failed calls lead to. -/
theorem HaltsOn.ends {halted : Call → Failure → α → Prop} {p : Dialogue α} (h : HaltsOn halted p)
    (log : List Success) (hleads : ∀ a log', Leads logging p log a log' → P a)
    (hhalted : ∀ call e a, e.isStartup = false → halted call e a → P a) : Ends P p := by
  induction p generalizing log with
  | done a => exact hleads a log ⟨rfl, rfl⟩
  | note event next ih => exact ih h log hleads
  | ask call next ih =>
    obtain ⟨hfail, hok⟩ := h
    intro answer hanswer
    cases answer with
    | error e =>
      obtain ⟨a, hnext, ha⟩ := hfail e
      rw [hnext]
      exact hhalted call e a (hanswer e rfl) ha
    | ok v => exact ih (.ok v) (hok v) _ fun a log' hrest => hleads a log' ⟨v, _, rfl, hrest⟩

end Dialogue

namespace Attempt
variable {α β γ : Type}

end Attempt

theorem NotFound.isStartup {config : Config} {listed : List Role} {known : List Group} {f : Failure}
    (h : NotFound config listed known f) : f.isStartup = false := by
  cases h <;> rfl

namespace Baseline

end Baseline

namespace Ownership
open Attempt

def work (roles : RoleIndex) : Attempt Report := do
  let ids ← Attempt.ofExcept (RoleIds.find roles)
  let capabilities ← call .capabilities
  note (.info "fetched capabilities" [("count", toString capabilities.length)])
  let report ← bootstrapAll ids {} capabilities
  note (.info "<< Capability ownership bootstrap completed."
    [("processed", toString report.processed), ("grants", toString report.grants),
      ("skipped", toString report.skipped.length)])
  return report

theorem run_eq_work (config : Config) :
    run config = note (.info ">> Starting capability ownership bootstrap...") >>= fun _ =>
      call .assignableRoles >>= fun roles =>
        ((RoleIndex.clashes roles).forM fun clash =>
          note (.warn "duplicate role name in assignable roles; ignoring later entry"
            [("name", clash.1.name), ("id", clash.1.id), ("kept", clash.2.id)])) >>= fun _ =>
          Attempt.ofExcept (checkRequired (.ofRoles roles) config.requiredRoles) >>= fun _ =>
            work (.ofRoles roles) := by
  unfold run availableRoles
  simp only [bind_assoc, pure_bind]
  rfl

end Ownership

end AccessBaseline
