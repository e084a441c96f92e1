import AccessBaseline.Console.Program
import AccessBaseline.Proofs.Http.Replay
import AccessBaseline.Proofs.Startup

/-! The requests that a program sends. Logging sends none, and a dialogue with the service sends at most one
for each of its calls. -/
namespace AccessBaseline.Console

abbrev Steps := List (Interaction.Step SystemCall SystemCall.Answer)

def SystemCall.request? : SystemCall → Option Http.Request
  | exchange request => some request
  | _ => none

def requests (steps : Steps) : List Http.Request :=
  (steps.filterMap Interaction.Step.op?).filterMap SystemCall.request?

theorem requests_append (steps steps' : Steps) :
    requests (steps ++ steps') = requests steps ++ requests steps' := by
  rw [requests, List.filterMap_append, List.filterMap_append]
  rfl

section
variable {α β σ : Type} {P : α → Prop} {Q : β → Prop}
  (respond : (c : SystemCall) → σ → c.Answer × σ)

/-- Whether a program sends nothing, and ends as `P` asks, whatever it is answered. -/
def Offline (P : α → Prop) : Program α → Prop
  | .done a => P a
  | .note _ next => Offline P next
  | .ask c next => c.request? = none ∧ ∀ answer, Offline P (next answer)

theorem Offline.bind {p : Program α} {f : α → Program β} (hp : Offline P p)
    (hf : ∀ a, P a → Offline Q (f a)) : Offline Q (p >>= f) := by
  change Offline Q (p.bind f)
  induction p with
  | done a => exact hf a hp
  | ask c next ih => exact ⟨hp.1, fun answer => ih answer (hp.2 answer)⟩
  | note event next ih => exact ih hp

theorem Offline.logged {p : Program α} (h : Offline P p) (log : Log) : Offline P (logged log p) := by
  induction p with
  | done a => exact h
  | ask c next ih => exact ⟨h.1, fun answer => ih answer (h.2 answer)⟩
  | note event next ih =>
    unfold Console.logged
    split
    · exact ⟨rfl, fun _ => ⟨rfl, fun _ => ih h⟩⟩
    · exact ih h

theorem Offline.run {p : Program α} (h : Offline P p) (s : σ) :
    P (Interaction.run respond p s).result ∧ requests (Interaction.run respond p s).steps = [] := by
  induction p generalizing s with
  | done a => exact ⟨h, rfl⟩
  | note event next ih => exact ih h s
  | ask c next ih =>
    obtain ⟨hresult, hrequests⟩ := ih _ (h.2 _) (respond c s).2
    refine ⟨hresult, ?_⟩
    rw [← hrequests]
    simp [Interaction.run, requests, Interaction.Step.op?, h.1]

end

section
variable (library : Http.Library) (client : Http.Client)

/-- A dialogue with the service as a program. -/
def drive {α : Type} (dialogue : Dialogue α) : Program α :=
  (client.converse dialogue library.refusal?).through fun request => Program.call (.exchange request)

end

end AccessBaseline.Console

namespace AccessBaseline.Http.Client

end AccessBaseline.Http.Client

namespace AccessBaseline.Console
open Http (Client)
variable {α σ : Type} (library : Http.Library) (respond : (c : SystemCall) → σ → c.Answer × σ)
  {client : Client} (hbase : client.base.cannotBeBase = false)
include hbase

end AccessBaseline.Console
