import AccessBaseline.Proofs.Unfailing

/-! What stays in the memory service after a run, in terms of unfailing runs. Where writes can be lost,
a run leaves what some unfailing run leaves that loses writes too. Where none is lost, a run that an
error cuts short has made the first of the writes of the run that nothing disturbs. -/
namespace AccessBaseline.Memory

def Store.writeAll (store : Store) (calls : List Call) : Store := calls.foldl Store.write store

theorem Store.writeAll_append (store : Store) (calls calls' : List Call) :
    store.writeAll (calls ++ calls') = (store.writeAll calls).writeAll calls' :=
  List.foldl_append

theorem Store.writeAll_keeps {β : Type} (f : Store → β) {calls : List Call}
    (h : ∀ c ∈ calls, ∀ store : Store, f (store.write c) = f store) (store : Store) :
    f (store.writeAll calls) = f store := by
  induction calls generalizing store with
  | nil => rfl
  | cons c calls ih =>
    obtain ⟨hc, hcalls⟩ := List.forall_mem_cons.1 h
    exact (ih hcalls _).trans (hc store)

theorem Store.write_of_read {call : Call} (h : call.isWrite = false) (store : Store) :
    store.write call = store := by
  cases call with
  | createRole | grantPermission | createGroup | addGroupMember | removeGroupMember | grantRole =>
    cases h
  | assignableRoles | rolePermissions | groups | groupRoleGrants | capabilities
  | capabilityMembers => rfl

namespace Service

def reliable (store : Store) : Service := ⟨store, [], [], []⟩

/-- A call fails and changes nothing, or it returns what is stored; a write may then be lost. -/
theorem respond_cases (call : Call) (service : Service) :
    ((∃ e, (respond call service).1 = .error e) ∧ (respond call service).2.store = service.store ∨
      (respond call service).1 = .ok (service.store.read call) ∧
        ((respond call service).2.store = service.store ∧ call.name ∈ service.forgotten ∨
          (respond call service).2.store = service.store.write call)) ∧
    (respond call service).2.forgotten = service.forgotten ∧
    (respond call service).2.disruptions = service.disruptions := by
  unfold respond
  cases service.disruption? call.name with
  | some d => exact ⟨.inl ⟨⟨d.failure, rfl⟩, rfl⟩, rfl, rfl⟩
  | none =>
    by_cases h : call.name ∈ service.forgotten
    · simp [h]
    · simp [h]

def Steady (service : Service) : Prop := service.disruptions = [] ∧ service.forgotten = []

theorem Steady.respond {service : Service} (h : service.Steady) (call : Call) :
    (service.respond call).1 = .ok (service.store.read call) ∧
      (service.respond call).2.store = service.store.write call ∧
      (service.respond call).2.Steady := by
  obtain ⟨hd, hf⟩ := h
  simp [Service.respond, disruption?, Steady, hd, hf]

end Service

/-- What is stored is returned, and a write may be lost. -/
def lossy : Reply Store := fun call v s t => v = s.read call ∧ (t = s ∨ t = s.write call)

theorem lossy_read {call : Call} (h : call.isWrite = false) {v : call.Value} {s t : Store} :
    lossy call v s t ↔ v = s.read call ∧ t = s := by
  rw [lossy, Store.write_of_read h, or_self]

structure Ledger where
  store : Store
  writes : List Call

def Ledger.record (ledger : Ledger) (call : Call) : Ledger :=
  ⟨ledger.store.write call, ledger.writes ++ if call.isWrite then [call] else []⟩

/-- What is stored is returned, and every write has its effect. -/
def exact : Reply Ledger := fun call v s t => v = s.store.read call ∧ t = s.record call

theorem exact_read {call : Call} (h : call.isWrite = false) {v : call.Value} {s t : Ledger} :
    exact call v s t ↔ v = s.store.read call ∧ t = s := by
  have hrecord : s.record call = s := by
    rw [Ledger.record, Store.write_of_read h, h]
    simp
  rw [exact, hrecord]

end AccessBaseline.Memory

namespace AccessBaseline.Dialogue
open Memory
variable {α : Type} {halted : Call → Failure → α → Prop} {p : Dialogue α}

theorem exists_leads_lossy (p : Dialogue α) (s : Store) : ∃ b, Leads lossy p s b s := by
  induction p with
  | done a => exact ⟨a, rfl, rfl⟩
  | ask call next ih =>
    obtain ⟨b, h⟩ := ih (.ok (s.read call))
    exact ⟨b, s.read call, s, ⟨rfl, .inl rfl⟩, h⟩
  | note event next ih => exact ih

/-- Whatever fails and is lost, the store ends as after an unfailing run that loses writes: behind a
failed call nothing happens, as if all later writes were lost. -/
theorem HaltsOn.exists_lossy (h : HaltsOn halted p) (service : Service) :
    ∃ b, Leads lossy p service.store b (p.run Service.respond service).state.store := by
  induction p generalizing service with
  | done a => exact ⟨a, rfl, rfl⟩
  | note event next ih => exact ih h service
  | ask call next ih =>
    obtain ⟨hfail, hok⟩ := h
    simp only [Interaction.run]
    obtain ⟨⟨⟨e, ha⟩, hs⟩ | ⟨ha, hs⟩, -, -⟩ := service.respond_cases call
    · obtain ⟨a, hnext, -⟩ := hfail e
      obtain ⟨b, hb⟩ := exists_leads_lossy (next (.ok (service.store.read call))) service.store
      rw [ha, hnext]
      refine ⟨b, service.store.read call, service.store, ⟨rfl, .inl rfl⟩, ?_⟩
      simpa [Interaction.run, hs] using hb
    · obtain ⟨b, hb⟩ := ih (.ok (service.store.read call)) (hok _) (Service.respond call service).2
      rw [ha]
      exact ⟨b, service.store.read call, _, ⟨rfl, hs.imp_left And.left⟩, hb⟩

theorem leads_exact (p : Dialogue α) {service : Service} (h : service.Steady) (writes : List Call) :
    Leads exact p ⟨service.store, writes⟩ (p.run Service.respond service).result
      ⟨(p.run Service.respond service).state.store,
        writes ++ applied (p.run Service.respond service).steps⟩ := by
  induction p generalizing service writes with
  | done a => exact ⟨rfl, by simp [applied, heard, Interaction.run]⟩
  | note event next ih => exact ih h writes
  | ask call next ih =>
    obtain ⟨ha, hs, hsteady⟩ := h.respond call
    have hrest := ih (.ok (service.store.read call)) hsteady
      (writes ++ if call.isWrite then [call] else [])
    rw [hs, List.append_assoc] at hrest
    simp only [Interaction.run, ha, applied_answered]
    exact ⟨service.store.read call, _, ⟨rfl, rfl⟩, hrest⟩

theorem applied_of_steady (p : Dialogue α) {service : Service} (h : service.Steady) :
    applied (p.run Service.respond service).steps =
      (p.run Service.respond service).ops.filter Call.isWrite := by
  induction p generalizing service with
  | done a => rfl
  | note event next ih => exact ih h
  | ask call next ih =>
    obtain ⟨ha, -, hsteady⟩ := h.respond call
    simp only [Interaction.run, ha, applied_answered, ih _ hsteady]
    change _ = List.filter Call.isWrite (call :: _)
    cases hw : call.isWrite with
    | true => rw [List.filter_cons_of_pos hw]; rfl
    | false => rw [List.filter_cons_of_neg (by simp [hw])]; rfl

/-- Where no write is lost, a run that a failure may cut short makes the first writes of the run that
starts from the same store and nothing disturbs, and that whole run when there is no failure. -/
theorem HaltsOn.cut_short (h : HaltsOn halted p) {service calm : Service}
    (hkeeps : service.forgotten = []) (hcalm : calm.Steady) (hstore : service.store = calm.store) :
    applied (p.run Service.respond service).steps <+: applied (p.run Service.respond calm).steps ∧
      (p.run Service.respond service).state.store =
        service.store.writeAll (applied (p.run Service.respond service).steps) ∧
      (Unfailed (p.run Service.respond service).steps →
        (p.run Service.respond service).result = (p.run Service.respond calm).result ∧
        applied (p.run Service.respond service).steps =
          applied (p.run Service.respond calm).steps) := by
  induction p generalizing service calm with
  | done a => exact ⟨List.prefix_rfl, rfl, fun _ => ⟨rfl, rfl⟩⟩
  | note event next ih =>
    obtain ⟨hpre, hfinal, hfull⟩ := ih h hkeeps hcalm hstore
    exact ⟨hpre, hfinal, fun hu => hfull fun call e he => hu call e (List.mem_cons_of_mem _ he)⟩
  | ask call next ih =>
    obtain ⟨hfail, hok⟩ := h
    obtain ⟨hca, hcs, hcsteady⟩ := hcalm.respond call
    obtain ⟨⟨⟨e, ha⟩, hs⟩ | ⟨ha, hs⟩, hforgotten, -⟩ := service.respond_cases call
    · obtain ⟨a, hnext, -⟩ := hfail e
      simp only [Interaction.run, ha, hnext]
      refine ⟨by simp [applied, heard], by simp [applied, heard, hs, Store.writeAll], fun hu => ?_⟩
      exact absurd (by simp) (hu call e)
    · have hwrite : (service.respond call).2.store = service.store.write call :=
        hs.resolve_left fun hlost => by simp [hkeeps] at hlost
      obtain ⟨hpre, hfinal, hfull⟩ := ih (.ok (service.store.read call)) (hok _)
        (hforgotten.trans hkeeps) hcsteady (by rw [hwrite, hcs, hstore])
      simp only [Interaction.run, ha, hca, ← hstore, applied_answered]
      refine ⟨(List.prefix_append_right_inj _).2 hpre, ?_, fun hu => ?_⟩
      · rw [hfinal, hwrite, Store.writeAll_append]
        cases hw : call.isWrite
        · rw [Store.write_of_read hw]
          rfl
        · rfl
      · obtain ⟨hresult, happlied⟩ := hfull fun c e he => hu c e (List.mem_cons_of_mem _ he)
        exact ⟨hresult, by rw [happlied]⟩

end AccessBaseline.Dialogue
