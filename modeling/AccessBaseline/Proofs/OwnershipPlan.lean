import AccessBaseline.Ownership
import Mathlib.Data.List.Basic

/-! The policy of the bootstrap, as a plan: the fetches and grants that the capabilities call for, given
what the fetches return. A run carries the plan out up to the first grant that fails, and without one its
report counts what the plan grants. -/
namespace AccessBaseline.Ownership

inductive Action where
  | fetch (capabilityId : String)
  | grant (capabilityId : String) (standing : Standing) (user : String)
  deriving DecidableEq

namespace Action

def call (ids : RoleIds) : Action → Call
  | fetch id => .capabilityMembers id
  | grant id standing user => .grantRole ⟨ids.idFor standing, .user, user, .capability, id⟩

def grants (standing : Standing) : Action → Bool
  | fetch _ => false
  | grant _ standing' _ => standing' == standing

end Action

abbrev Fetched := Except Failure (List CapabilityMember)

def grantsFor (c : Capability) : Fetched → List Action
  | .error _ => []
  | .ok members =>
    match Metadata.parse c.metadata with
    | .error _ => []
    | .ok metadata =>
      match metadata.declaredOwner? with
      | some owner =>
        members.map (fun m => .grant c.id .contributor m.id) ++ [.grant c.id .owner owner]
      | none => members.map fun m => .grant c.id .owner m.id

def skipReason? (c : Capability) : Fetched → Option SkipReason
  | .error e => some (.membersUnavailable e.message)
  | .ok _ =>
    match Metadata.parse c.metadata with
    | .error e => some (.malformedMetadata e.message)
    | .ok _ => none

/-- The actions for capabilities in turn. Each one that is not deleted is fetched and takes the next of
the answers; while there is none, nothing is granted. -/
def plan : List Capability → List Fetched → List Action
  | [], _ => []
  | c :: cs, answers =>
    if c.isDeleted then plan cs answers
    else .fetch c.id :: (answers.head?.elim [] (grantsFor c) ++ plan cs answers.tail)

def skips : List Capability → List Fetched → List (String × SkipReason)
  | [], _ => []
  | c :: cs, answers =>
    if c.isDeleted then (c.id, .deleted) :: skips cs answers
    else ((answers.head?.bind (skipReason? c)).map (c.id, ·)).toList ++ skips cs answers.tail

def tally (cs : List Capability) (answers : List Fetched) : Report where
  processed := cs.length
  ownerGrants := (plan cs answers).countP (·.grants .owner)
  contributorGrants := (plan cs answers).countP (·.grants .contributor)
  skipped := skips cs answers

abbrev Steps := List (Interaction.Step Call Call.Answer)

def fetched (steps : Steps) : List Fetched :=
  steps.filterMap fun
    | .answered (.capabilityMembers _) answer => some answer
    | _ => none

def AllGranted (steps : Steps) : Prop := ∀ request e, .answered (.grantRole request) (.error e) ∉ steps

section
variable {α β γ σ : Type} {ids : RoleIds} {respond : (call : Call) → σ → call.Answer × σ} {s : σ}
  {p q : List Action} {a : α} {b : β} {r : Interaction.Run Call Call.Answer σ (Except Failure α)}

/-- Whether a run carries a plan out and ends with a value, or carries it out up to the first grant that
fails and ends with that failure, as one step that names the capability, the role and the user. -/
inductive Follows (ids : RoleIds) (r : Interaction.Run Call Call.Answer σ (Except Failure α))
    (p : List Action) (a : α) : Prop
  | whole (granted : AllGranted r.steps) (calls : r.ops = p.map (·.call ids)) (result : r.result = .ok a)
  | cut (front : Steps) (done : List Action) (id : String) (standing : Standing) (user : String)
      (e : Failure) (granted : AllGranted front)
      (steps : r.steps = front ++
        [.answered (.grantRole ⟨ids.idFor standing, .user, user, .capability, id⟩) (.error e)])
      (calls : r.ops = (done ++ [Action.grant id standing user]).map (·.call ids))
      (planned : done ++ [Action.grant id standing user] <+: p)
      (result : r.result = .error (.step "grant role" (id ++ "/" ++ standing.name ++ "/" ++ user) e))

theorem allGranted_append {steps steps' : Steps} :
    AllGranted (steps ++ steps') ↔ AllGranted steps ∧ AllGranted steps' := by
  simp only [AllGranted, List.mem_append, not_or, forall_and]

theorem run_bind_ok {x : Attempt α} (f : α → Attempt β)
    (h : (Interaction.run respond x.run s).result = .ok a) :
    Interaction.run respond (x >>= f).run s =
      let r := Interaction.run respond x.run s
      let r' := Interaction.run respond (f a).run r.state
      ⟨r'.result, r'.state, r.steps ++ r'.steps⟩ := by
  change Interaction.run respond (Interaction.bind x.run _) s = _
  rw [Interaction.run_bind]
  simp only [h]
  rfl

theorem run_bind_error {x : Attempt α} (f : α → Attempt β) {e : Failure}
    (h : (Interaction.run respond x.run s).result = .error e) :
    Interaction.run respond (x >>= f).run s =
      let r := Interaction.run respond x.run s
      ⟨.error e, r.state, r.steps⟩ := by
  change Interaction.run respond (Interaction.bind x.run _) s = _
  rw [Interaction.run_bind]
  simp only [h]
  change Interaction.Run.mk _ _ (_ ++ []) = _
  rw [List.append_nil]
  rfl

theorem follows_pure (a : α) : Follows ids (Interaction.run respond (pure a : Attempt α).run s) [] a :=
  .whole (fun _ _ h => by cases h) rfl rfl

theorem Follows.behind {r' : Interaction.Run Call Call.Answer σ (Except Failure α)} {front : Steps}
    (h : Follows ids r' q a) (hfront : AllGranted front)
    (hcalls : front.filterMap Interaction.Step.op? = p.map (·.call ids))
    (hsteps : r.steps = front ++ r'.steps) (hresult : r.result = r'.result) :
    Follows ids r (p ++ q) a := by
  have hops : r.ops = p.map (·.call ids) ++ r'.ops := by
    rw [Interaction.Run.ops, hsteps, List.filterMap_append, hcalls]
    rfl
  cases h with
  | whole granted calls result =>
    refine .whole ?_ ?_ (hresult.trans result)
    · rw [hsteps]
      exact allGranted_append.2 ⟨hfront, granted⟩
    · rw [hops, calls, List.map_append]
  | cut front' done id standing user e granted steps calls planned result =>
    refine .cut (front ++ front') (p ++ done) id standing user e
      (allGranted_append.2 ⟨hfront, granted⟩) ?_ ?_ ?_ (hresult.trans result)
    · rw [hsteps, steps, List.append_assoc]
    · rw [hops, calls, List.append_assoc, ← List.map_append]
    · rw [List.append_assoc]
      exact (List.prefix_append_right_inj p).2 planned

theorem Follows.bind {x : Attempt α} {f : α → Attempt β}
    (hx : Follows ids (Interaction.run respond x.run s) p a)
    (hf : Follows ids (Interaction.run respond (f a).run (Interaction.run respond x.run s).state) q b) :
    Follows ids (Interaction.run respond (x >>= f).run s) (p ++ q) b := by
  cases hx with
  | whole granted calls result =>
    rw [run_bind_ok f result]
    exact hf.behind granted calls rfl rfl
  | cut front done id standing user e granted steps calls planned result =>
    rw [run_bind_error f result]
    exact .cut front done id standing user e granted steps calls
      (planned.trans (List.prefix_append p q)) rfl

theorem follows_grant (id : String) (standing : Standing) (user : String) :
    Follows ids (Interaction.run respond (grant ids id standing user).run s)
      [.grant id standing user] () := by
  let op : Call := .grantRole (.forMember (ids.idFor standing) user id)
  let event : Event := .debug "granted role"
    [("capability", Text.quoted id), ("role", Text.quoted standing.name), ("user", Text.quoted user)]
  let key := id ++ "/" ++ standing.name ++ "/" ++ user
  have hgrant : (grant ids id standing user).run = .ask op fun
      | .ok _ => .note event (.done (.ok ()))
      | .error e => .done (.error (.step "grant role" key e)) := by
    change Interaction.ask op _ = Interaction.ask op _
    congr 1
    funext answer
    cases answer <;> rfl
  rw [hgrant, Interaction.run]
  cases hanswer : (respond op s).1 with
  | ok u =>
    refine .whole (fun request e hmem => ?_) rfl rfl
    simp [Interaction.run] at hmem
  | error e => exact .cut [] [] id standing user e (fun _ _ h => by cases h) rfl rfl List.prefix_rfl rfl

theorem follows_forM {xs : List γ} {f : γ → Attempt Unit} {action : γ → Action}
    (hf : ∀ x s, Follows ids (Interaction.run respond (f x).run s) [action x] ()) (s : σ) :
    Follows ids (Interaction.run respond (xs.forM f).run s) (xs.map action) () := by
  induction xs generalizing s with
  | nil => exact follows_pure ()
  | cons x xs ih => exact (hf x s).bind (ih _)

def outcome (c : Capability) : Fetched → Outcome
  | .error e => .skipped (.membersUnavailable e.message)
  | .ok members =>
    match Metadata.parse c.metadata with
    | .error e => .skipped (.malformedMetadata e.message)
    | .ok metadata =>
      match metadata.declaredOwner? with
      | some owner => .ownerDeclared owner members.length
      | none => .noOwnerDeclared members.length

def proceed (ids : RoleIds) (c : Capability) : Fetched → Attempt Outcome
  | .error e => skip c.id "failed to fetch members" e.message .membersUnavailable
  | .ok members =>
    match Metadata.parse c.metadata with
    | .error e => skip c.id "failed to parse metadata" e.message .malformedMetadata
    | .ok metadata => grantAll ids c.id members metadata.declaredOwner?

theorem bootstrap_run (ids : RoleIds) (c : Capability) :
    (bootstrap ids c).run = .note (.info "processing capability" [("capability", c.id)])
      (if c.isDeleted then .done (.ok (.skipped .deleted))
        else .ask (.capabilityMembers c.id) fun answer => (proceed ids c answer).run) := by
  unfold bootstrap
  change Interaction.note _ _ = Interaction.note _ _
  congr 1
  cases c.isDeleted with
  | true => rfl
  | false =>
    change Interaction.ask (Call.capabilityMembers c.id) _ = Interaction.ask _ _
    congr 1
    funext answer
    cases answer <;> rfl

theorem follows_skip (id what cause : String) (reason : String → SkipReason) :
    Follows ids (Interaction.run respond (skip id what cause reason).run s) []
      (.skipped (reason cause)) := by
  refine .whole (fun request e hmem => ?_) rfl rfl
  rcases List.mem_singleton.1 hmem with h
  cases h

theorem follows_grantAll (id : String) (members : List CapabilityMember) (owner? : Option String) :
    Follows ids (Interaction.run respond (grantAll ids id members owner?).run s)
      (match owner? with
        | some owner => members.map (fun m => .grant id .contributor m.id) ++ [.grant id .owner owner]
        | none => members.map fun m => .grant id .owner m.id)
      (match owner? with
        | some owner => .ownerDeclared owner members.length
        | none => .noOwnerDeclared members.length) := by
  have hmembers (standing : Standing) (s : σ) :
      Follows ids (Interaction.run respond (members.forM fun m => grant ids id standing m.id).run s)
        (members.map fun m => .grant id standing m.id) () :=
    follows_forM (fun m s => follows_grant id standing m.id) s
  cases owner? with
  | some owner =>
    refine (hmembers .contributor s).bind ?_
    rw [← List.append_nil [Action.grant id .owner owner]]
    exact (follows_grant id .owner owner).bind (follows_pure _)
  | none =>
    have h := (hmembers .owner s).bind (f := fun _ => pure (Outcome.noOwnerDeclared members.length))
      (follows_pure _)
    rw [List.append_nil] at h
    exact h

theorem follows_proceed (c : Capability) (answer : Fetched) (s : σ) :
    Follows ids (Interaction.run respond (proceed ids c answer).run s) (grantsFor c answer)
      (outcome c answer) := by
  cases answer with
  | error e => exact follows_skip _ _ _ _
  | ok members =>
    simp only [proceed, grantsFor, outcome]
    cases Metadata.parse c.metadata with
    | error e => exact follows_skip _ _ _ _
    | ok metadata => exact follows_grantAll c.id members metadata.declaredOwner?

theorem fetched_eq_nil {r : Interaction.Run Call Call.Answer σ α}
    (h : ∀ id, .capabilityMembers id ∉ r.ops) : fetched r.steps = [] := by
  refine List.filterMap_eq_nil_iff.2 fun step hstep => ?_
  cases step with
  | noted event => rfl
  | answered op answer =>
    cases op with
    | capabilityMembers id =>
      have hmem : .capabilityMembers id ∈ r.ops := List.mem_filterMap.2 ⟨_, hstep, rfl⟩
      exact absurd hmem (h id)
    | _ => rfl

theorem exists_of_mem_grantsFor {c : Capability} {answer : Fetched} {action : Action}
    (h : action ∈ grantsFor c answer) : ∃ standing user, action = .grant c.id standing user := by
  unfold grantsFor at h
  split at h
  · cases h
  · split at h
    · cases h
    · split at h
      · rcases List.mem_append.1 h with h | h
        · obtain ⟨m, -, rfl⟩ := List.mem_map.1 h
          exact ⟨_, _, rfl⟩
        · exact ⟨_, _, List.mem_singleton.1 h⟩
      · obtain ⟨m, -, rfl⟩ := List.mem_map.1 h
        exact ⟨_, _, rfl⟩

theorem Follows.ops (h : Follows ids r p a) : r.ops <+: p.map (·.call ids) := by
  cases h with
  | whole _ calls _ => exact calls ▸ List.prefix_rfl
  | cut front done id standing user e _ _ calls planned _ => exact calls ▸ planned.map _

theorem follows_bootstrap (c : Capability) (s : σ) :
    let r := Interaction.run respond (bootstrap ids c).run s
    if c.isDeleted then fetched r.steps = [] ∧ Follows ids r [] (.skipped .deleted)
    else ∃ answer, fetched r.steps = [answer] ∧
      Follows ids r (.fetch c.id :: grantsFor c answer) (outcome c answer) := by
  intro r
  have hr : r = Interaction.run respond (bootstrap ids c).run s := rfl
  rw [bootstrap_run, Interaction.run] at hr
  cases hdeleted : c.isDeleted with
  | true =>
    rw [hdeleted] at hr
    rw [hr]
    refine ⟨rfl, .whole (fun request e hmem => ?_) rfl rfl⟩
    cases List.mem_singleton.1 hmem
  | false =>
    let reply := respond (.capabilityMembers c.id) s
    let r' := Interaction.run respond (proceed ids c reply.1).run reply.2
    have hsteps : r.steps = [.noted (.info "processing capability" [("capability", c.id)]),
        .answered (.capabilityMembers c.id) reply.1] ++ r'.steps := by
      rw [hr, hdeleted]
      rfl
    have hresult : r.result = r'.result := by
      rw [hr, hdeleted]
      rfl
    have hproceed : Follows ids r' (grantsFor c reply.1) (outcome c reply.1) :=
      follows_proceed c reply.1 reply.2
    have hnone : fetched r'.steps = [] := by
      refine fetched_eq_nil fun id hmem => ?_
      obtain ⟨action, haction, hcall⟩ := List.mem_map.1 (hproceed.ops.subset hmem)
      obtain ⟨standing, user, rfl⟩ := exists_of_mem_grantsFor haction
      cases hcall
    refine ⟨reply.1, ?_, ?_⟩
    · rw [hsteps, fetched, List.filterMap_append, ← fetched, ← fetched, hnone]
      rfl
    · refine hproceed.behind (p := [.fetch c.id]) (fun request e hmem => ?_) rfl hsteps hresult
      simp at hmem

end

/-- The sums of two reports. -/
def Report.plus (a b : Report) : Report where
  processed := a.processed + b.processed
  ownerGrants := a.ownerGrants + b.ownerGrants
  contributorGrants := a.contributorGrants + b.contributorGrants
  skipped := a.skipped ++ b.skipped

theorem Report.plus_assoc (a b c : Report) : (a.plus b).plus c = a.plus (b.plus c) := by
  simp [plus, Nat.add_assoc]

theorem Report.empty_plus (a : Report) : ({} : Report).plus a = a := by
  simp [plus]

theorem countP_map_grant (id : String) (standing standing' : Standing) (members : List CapabilityMember) :
    (members.map fun m => Action.grant id standing m.id).countP (·.grants standing') =
      if standing = standing' then members.length else 0 := by
  rw [List.countP_map]
  by_cases h : standing = standing'
  · rw [if_pos h, List.countP_eq_length]
    intro m _
    simpa [Action.grants] using h
  · rw [if_neg h, List.countP_eq_zero]
    intro m _
    simpa [Action.grants] using h

theorem record_outcome (report : Report) (c : Capability) (answer : Fetched) :
    report.record c.id (outcome c answer) = report.plus
      ⟨1, (grantsFor c answer).countP (·.grants .owner),
        (grantsFor c answer).countP (·.grants .contributor),
        ((skipReason? c answer).map (c.id, ·)).toList⟩ := by
  cases answer with
  | error e => simp [outcome, grantsFor, skipReason?, Report.record, Report.plus]
  | ok members =>
    simp only [outcome, grantsFor, skipReason?]
    cases Metadata.parse c.metadata with
    | error e => simp [Report.record, Report.plus]
    | ok metadata =>
      cases howner : metadata.declaredOwner? with
      | some owner =>
        simp only [howner, List.countP_append, countP_map_grant]
        simp [Report.record, Report.plus, Action.grants]
      | none =>
        simp only [howner, countP_map_grant]
        simp [Report.record, Report.plus]

theorem tally_cons_deleted {c : Capability} (h : c.isDeleted = true) (cs : List Capability)
    (answers : List Fetched) :
    tally (c :: cs) answers = (⟨1, 0, 0, [(c.id, .deleted)]⟩ : Report).plus (tally cs answers) := by
  simp [tally, plan, skips, h, Report.plus, Nat.add_comm]

theorem tally_cons {c : Capability} (h : c.isDeleted = false) (cs : List Capability) (answer : Fetched)
    (answers : List Fetched) :
    tally (c :: cs) (answer :: answers) =
      (⟨1, (grantsFor c answer).countP (·.grants .owner),
        (grantsFor c answer).countP (·.grants .contributor),
        ((skipReason? c answer).map (c.id, ·)).toList⟩ : Report).plus (tally cs answers) := by
  simp [tally, plan, skips, h, Report.plus, Nat.add_comm, List.countP_append, Action.grants]

section
variable {σ : Type} {respond : (call : Call) → σ → call.Answer × σ}

/-- The first capability takes its part of the plan and of the report, and leaves the rest to those
behind it. -/
theorem follows_first (ids : RoleIds) (c : Capability) (s : σ) :
    let r := Interaction.run respond (bootstrap ids c).run s
    ∃ p o, Follows ids r p o ∧ ∀ cs rest,
      plan (c :: cs) (fetched r.steps ++ rest) = p ++ plan cs rest ∧
      ∀ report : Report, report.plus (tally (c :: cs) (fetched r.steps ++ rest)) =
        (report.record c.id o).plus (tally cs rest) := by
  intro r
  have h := @follows_bootstrap σ ids respond c s
  cases hdeleted : c.isDeleted with
  | true =>
    rw [hdeleted] at h
    obtain ⟨hnone, hfollows⟩ : fetched r.steps = [] ∧ Follows ids r [] (.skipped .deleted) := h
    refine ⟨[], _, hfollows, fun cs rest => ?_⟩
    rw [hnone, List.nil_append, tally_cons_deleted hdeleted]
    refine ⟨by simp [plan, hdeleted], fun report => ?_⟩
    rw [← Report.plus_assoc]
    rfl
  | false =>
    rw [hdeleted] at h
    obtain ⟨answer, hanswer, hfollows⟩ : ∃ answer, fetched r.steps = [answer] ∧
      Follows ids r (.fetch c.id :: grantsFor c answer) (outcome c answer) := h
    refine ⟨_, _, hfollows, fun cs rest => ?_⟩
    rw [hanswer, List.singleton_append, tally_cons hdeleted]
    refine ⟨by simp [plan, hdeleted], fun report => ?_⟩
    rw [← Report.plus_assoc, record_outcome]

theorem follows_bootstrapAll (ids : RoleIds) (report : Report) (cs : List Capability)
    (later : List Fetched) (s : σ) :
    let r := Interaction.run respond (bootstrapAll ids report cs).run s
    let answers := fetched r.steps ++ later
    Follows ids r (plan cs answers) (report.plus (tally cs answers)) := by
  induction cs generalizing report s with
  | nil =>
    change Follows ids (Interaction.run respond (pure report : Attempt Report).run s) []
      (report.plus ⟨0, 0, 0, []⟩)
    simpa [Report.plus] using follows_pure report
  | cons c cs ih =>
    obtain ⟨p, o, hfirst, hrest⟩ := @follows_first σ respond ids c s
    change let r := Interaction.run respond (bootstrap ids c >>= fun o =>
        bootstrapAll ids (report.record c.id o) cs).run s
      let answers := fetched r.steps ++ later
      Follows ids r (plan (c :: cs) answers) (report.plus (tally (c :: cs) answers))
    cases hfirst with
    | whole granted calls result =>
      rw [run_bind_ok _ result]
      intro r answers
      let first := Interaction.run respond (bootstrap ids c).run s
      let second := Interaction.run respond (bootstrapAll ids (report.record c.id o) cs).run first.state
      have hanswers : answers = fetched first.steps ++ (fetched second.steps ++ later) := by
        rw [← List.append_assoc]
        exact congrArg (· ++ later) List.filterMap_append
      have htake := hrest cs (fetched second.steps ++ later)
      rw [hanswers, htake.1, htake.2]
      exact (ih (report.record c.id o) first.state).behind granted calls rfl rfl
    | cut front done id standing user e granted steps calls planned result =>
      rw [run_bind_error _ result]
      intro r answers
      rw [(hrest cs later).1]
      exact .cut front done id standing user e granted steps calls
        (planned.trans (List.prefix_append p _)) rfl

/-- Whoever answers, the bootstrap carries out the plan that the answers to its fetches make, up to the
first grant that fails; answers that were still to come would not change what it did. When none fails, it
fetched and granted all that is planned, and reports the capabilities, the planned grants of each role
and the capabilities that were skipped, in their order and each with its reason. -/
theorem bootstrap_follows_plan (ids : RoleIds) (cs : List Capability)
    (respond : (call : Call) → σ → call.Answer × σ) (s : σ) (later : List Fetched) :
    let r := Interaction.run respond (bootstrapAll ids {} cs).run s
    let answers := fetched r.steps ++ later
    Follows ids r (plan cs answers)
      { processed := cs.length
        ownerGrants := (plan cs answers).countP (·.grants .owner)
        contributorGrants := (plan cs answers).countP (·.grants .contributor)
        skipped := skips cs answers } := by
  intro r answers
  have h : Follows ids r (plan cs answers) (({} : Report).plus (tally cs answers)) :=
    follows_bootstrapAll ids {} cs later s
  rw [Report.empty_plus] at h
  exact h

end

end AccessBaseline.Ownership
