import AccessBaseline.Ownership
import AccessBaseline.Proofs.Persistence

/-! What a run for the owners of capabilities asks: it reads, and it grants roles to users. -/
namespace AccessBaseline

namespace Dialogue
variable {α β σ : Type} {allowed : Call → Prop}

/-- Whether all that is asked is allowed, whatever the answers are. -/
def Asks (allowed : Call → Prop) : Dialogue α → Prop
  | .done _ => True
  | .note _ next => Asks allowed next
  | .ask call next => allowed call ∧ ∀ answer, Asks allowed (next answer)

theorem Asks.bind {p : Dialogue α} {f : α → Dialogue β} (hp : Asks allowed p)
    (hf : ∀ a, Asks allowed (f a)) : Asks allowed (p >>= f) := by
  change Asks allowed (p.bind f)
  induction p with
  | done a => exact hf a
  | ask call next ih => exact ⟨hp.1, fun answer => ih answer (hp.2 answer)⟩
  | note event next ih => exact ih hp

theorem Asks.ops {p : Dialogue α} (h : Asks allowed p) (respond : (call : Call) → σ → call.Answer × σ)
    (s : σ) : ∀ call ∈ (p.run respond s).ops, allowed call := by
  induction p generalizing s with
  | done a => simp [Interaction.run, Interaction.Run.ops]
  | ask call next ih => exact List.forall_mem_cons.2 ⟨h.1, ih _ (h.2 _) _⟩
  | note event next ih => exact ih h s

theorem Asks.store {p : Dialogue α} (h : Asks allowed p)
    (hstill : ∀ call, allowed call → ∀ store : Memory.Store, store.write call = store)
    (service : Memory.Service) :
    (p.run Memory.Service.respond service).state.store = service.store := by
  induction p generalizing service with
  | done a => rfl
  | ask call next ih =>
    have hstore : (service.respond call).2.store = service.store := by
      obtain ⟨⟨-, hs⟩ | ⟨-, ⟨hs, -⟩ | hs⟩, -, -⟩ := service.respond_cases call
      · exact hs
      · exact hs
      · exact hs.trans (hstill call h.1 _)
    exact (ih _ (h.2 _) _).trans hstore
  | note event next ih => exact ih h service

end Dialogue

namespace Attempt
variable {α β γ : Type} {allowed : Call → Prop}

def Asks (allowed : Call → Prop) (x : Attempt α) : Prop := Dialogue.Asks allowed x.run

theorem asks_pure (a : α) : Asks allowed (pure a : Attempt α) := trivial

theorem asks_ofExcept (e : Except Failure α) : Asks allowed (ofExcept e) := trivial

theorem asks_note (event : Event) : Asks allowed (note event) := trivial

theorem asks_call {c : Call} (h : allowed c) : Asks allowed (call c) := ⟨h, fun _ => trivial⟩

theorem asks_outcome {c : Call} (h : allowed c) : Asks allowed (outcome c) := ⟨h, fun _ => trivial⟩

theorem asks_bind {x : Attempt α} {f : α → Attempt β} (hx : Asks allowed x)
    (hf : ∀ a, Asks allowed (f a)) : Asks allowed (x >>= f) := by
  refine Dialogue.Asks.bind hx fun a? => ?_
  cases a? with
  | error e => trivial
  | ok a => exact hf a

theorem asks_during {x : Attempt α} (h : Asks allowed x) (action key : String) :
    Asks allowed (x.during action key) :=
  Dialogue.Asks.bind h fun _ => trivial

theorem asks_forM {xs : List γ} {f : γ → Attempt Unit} (h : ∀ x, Asks allowed (f x)) :
    Asks allowed (xs.forM f) := by
  induction xs with
  | nil => exact asks_pure ()
  | cons x xs ih => exact asks_bind (h x) fun _ => ih

end Attempt

namespace Ownership
open Attempt

def Allowed (c : Call) : Prop :=
  c.isWrite = false ∨ ∃ roleId user capabilityId, c = .grantRole (.forMember roleId user capabilityId)

theorem asks_grant (ids : RoleIds) (capabilityId : String) (standing : Standing) (user : String) :
    Asks Allowed (grant ids capabilityId standing user) :=
  asks_bind (asks_during (asks_call (.inr ⟨_, _, _, rfl⟩)) _ _) fun _ => asks_note _

theorem asks_grantAll (ids : RoleIds) (capabilityId : String) (members : List CapabilityMember)
    (owner? : Option String) : Asks Allowed (grantAll ids capabilityId members owner?) := by
  cases owner? with
  | some owner =>
    exact asks_bind (asks_forM fun _ => asks_grant _ _ _ _) fun _ =>
      asks_bind (asks_grant _ _ _ _) fun _ => asks_pure _
  | none => exact asks_bind (asks_forM fun _ => asks_grant _ _ _ _) fun _ => asks_pure _

theorem asks_skip (capabilityId what cause : String) (reason : String → SkipReason) :
    Asks Allowed (skip capabilityId what cause reason) :=
  asks_bind (asks_note _) fun _ => asks_pure _

theorem asks_bootstrap (ids : RoleIds) (capability : Capability) :
    Asks Allowed (bootstrap ids capability) := by
  refine asks_bind (asks_note _) fun _ => ?_
  split
  · exact asks_pure _
  · refine asks_bind (asks_outcome (.inl rfl)) fun members? => ?_
    split
    · exact asks_skip _ _ _ _
    · split
      · exact asks_skip _ _ _ _
      · exact asks_grantAll _ _ _ _

theorem asks_bootstrapAll (ids : RoleIds) (report : Report) (capabilities : List Capability) :
    Asks Allowed (bootstrapAll ids report capabilities) := by
  induction capabilities generalizing report with
  | nil => exact asks_pure report
  | cons capability rest ih => exact asks_bind (asks_bootstrap ids capability) fun _ => ih _

theorem asks_availableRoles : Asks Allowed availableRoles :=
  asks_bind (asks_call (.inl rfl)) fun _ =>
    asks_bind (asks_forM fun _ => asks_note _) fun _ => asks_pure _

theorem asks_run (config : Config) : Asks Allowed (run config) :=
  asks_bind (asks_note _) fun _ =>
    asks_bind asks_availableRoles fun _ =>
      asks_bind (asks_ofExcept _) fun _ =>
        asks_bind (asks_ofExcept _) fun ids =>
          asks_bind (asks_call (.inl rfl)) fun _ =>
            asks_bind (asks_note _) fun _ =>
              asks_bind (asks_bootstrapAll ids _ _) fun _ =>
                asks_bind (asks_note _) fun _ => asks_pure _

theorem write_of_allowed {c : Call} (h : Allowed c) (store : Memory.Store) : store.write c = store := by
  obtain h | ⟨roleId, user, capabilityId, rfl⟩ := h
  · exact Memory.Store.write_of_read h store
  · rfl

end Ownership

end AccessBaseline
