import AccessBaseline.Event

/-! Programs that ask questions and act on the answers. What a program does is a value here: a tree
whose branches are the answers. Who answers, and from what state, is left to whoever runs it. -/
namespace AccessBaseline

inductive Interaction (Op : Type) (Answer : Op → Type) (α : Type) where
  | done (a : α)
  | ask (op : Op) (next : Answer op → Interaction Op Answer α)
  | note (event : Event) (next : Interaction Op Answer α)

namespace Interaction

variable {Op Op' : Type} {Answer : Op → Type} {Answer' : Op' → Type} {α β σ : Type}

def bind (p : Interaction Op Answer α) (f : α → Interaction Op Answer β) : Interaction Op Answer β :=
  match p with
  | done a => f a
  | ask op next => ask op fun answer => (next answer).bind f
  | note event next => note event (next.bind f)

instance : Monad (Interaction Op Answer) where
  pure := done
  bind := bind

theorem bind_done (p : Interaction Op Answer α) : p.bind done = p := by
  induction p with
  | done a => rfl
  | ask op next ih => simp [bind, ih]
  | note event next ih => simp [bind, ih]

theorem bind_assoc {γ : Type} (p : Interaction Op Answer α) (f : α → Interaction Op Answer β)
    (g : β → Interaction Op Answer γ) : (p.bind f).bind g = p.bind fun a => (f a).bind g := by
  induction p with
  | done a => rfl
  | ask op next ih => simp [bind, ih]
  | note event next ih => simp [bind, ih]

instance : LawfulMonad (Interaction Op Answer) := LawfulMonad.mk' _ bind_done (fun _ _ => rfl) bind_assoc

/-- One question. -/
def request (op : Op) : Interaction Op Answer (Answer op) := ask op done

inductive Step (Op : Type) (Answer : Op → Type) where
  | answered (op : Op) (answer : Answer op)
  | noted (event : Event)

def Step.op? : Step Op Answer → Option Op
  | answered op _ => some op
  | noted _ => none

def Step.event? : Step Op Answer → Option Event
  | answered _ _ => none
  | noted event => some event

structure Run (Op : Type) (Answer : Op → Type) (σ α : Type) where
  result : α
  state : σ
  steps : List (Step Op Answer)

def Run.ops (r : Run Op Answer σ α) : List Op := r.steps.filterMap Step.op?

def Run.events (r : Run Op Answer σ α) : List Event := r.steps.filterMap Step.event?

/-- Runs a program against a respondent with a state. -/
def run (respond : (op : Op) → σ → Answer op × σ) :
    Interaction Op Answer α → σ → Run Op Answer σ α
  | done a, s => ⟨a, s, []⟩
  | ask op next, s =>
    let a := respond op s
    let r := (next a.1).run respond a.2
    { r with steps := .answered op a.1 :: r.steps }
  | note event next, s =>
    let r := next.run respond s
    { r with steps := .noted event :: r.steps }

theorem run_bind (respond : (op : Op) → σ → Answer op × σ) (p : Interaction Op Answer α)
    (f : α → Interaction Op Answer β) (s : σ) :
    (p.bind f).run respond s =
      let r := p.run respond s
      let r' := (f r.result).run respond r.state
      ⟨r'.result, r'.state, r.steps ++ r'.steps⟩ := by
  induction p generalizing s with
  | done a => rfl
  | ask op next ih => simp [bind, run, ih]
  | note event next ih => simp [bind, run, ih]

/-- Answers each question by a program that asks questions of another kind. -/
def through (serve : (op : Op) → Interaction Op' Answer' (Answer op)) :
    Interaction Op Answer α → Interaction Op' Answer' α
  | done a => done a
  | ask op next => (serve op).bind fun answer => (next answer).through serve
  | note event next => note event (next.through serve)

def perform {m : Type → Type} [Monad m] (answer : (op : Op) → m (Answer op)) (tell : Event → m Unit) :
    Interaction Op Answer α → m α
  | done a => pure a
  | ask op next => do (next (← answer op)).perform answer tell
  | note event next => do tell event; next.perform answer tell

end Interaction

end AccessBaseline
