import AccessBaseline.Proofs.Console.Requests
import Mathlib.Data.List.Forall2

/-! The requests that go out. A request may be redirected, and what then goes out is not seen by the program
that sent it: for each request of a program, this one and those that its redirects lead to. -/
namespace AccessBaseline.Console
open Http (Request)
variable {α σ : Type} (respond : (c : SystemCall) → σ → c.Answer × σ)
  (redirects : Request → σ → List Request)

/-- Whether a list is a request and those that its redirects lead to. -/
def Trail (q : Request) (out : List Request) : Prop := ∃ m, out = q :: redirects q m

def unredirected (_ : Request) (_ : σ) : List Request := []

variable {redirects}

variable (redirects)

/-- Whether a list is put together from the trails of some requests, in their order. -/
def Trails (sent out : List Request) : Prop :=
  ∃ trails, out = trails.flatten ∧ List.Forall₂ (Trail redirects) sent trails

variable {redirects} {out sent : List Request}

theorem Trails.trail {q : Request} (h : Trails redirects [q] out) : Trail redirects q out := by
  obtain ⟨trails, rfl, htrails⟩ := h
  obtain ⟨trail, rest, htrail, hrest, rfl⟩ := List.forall₂_cons_left_iff.1 htrails
  rw [List.forall₂_nil_left_iff.1 hrest]
  simpa using htrail

end AccessBaseline.Console
