import AccessBaseline.Proofs.OwnershipPlan
import AccessBaseline.Proofs.Startup

/-! How a bootstrap begins. Nothing is asked beyond the roles unless every role that it needs is listed, and
whatever is granted later is the first listed role of the name. -/
namespace AccessBaseline.Ownership

/-- The first listed role whose name is this one in lower case. -/
def named? (name : String) (listed : List Role) : Option Role :=
  listed.find? fun role => Text.lowercase role.name == name

/-- The first required name that no listed role has, up to case. -/
def unlisted? (required : List RoleName) (listed : List Role) : Option RoleName :=
  required.find? fun name => (named? (Text.lowercase name.text) listed).isNone

/-- What is missing among the listed roles: a required one, else the owner, else the contributor. -/
inductive Missing (required : List RoleName) (listed : List Role) : Failure → Prop
  | required (name : RoleName) (first : unlisted? required listed = some name) :
      Missing required listed (.missingRequiredRole name.text)
  | owner (complete : unlisted? required listed = none) (none : named? "owner" listed = none) :
      Missing required listed (.roleNotFound "owner")
  | contributor (complete : unlisted? required listed = none) (owner : (named? "owner" listed).isSome)
      (none : named? "contributor" listed = none) :
      Missing required listed (.roleNotFound "contributor")

section
variable {α σ : Type}

/-- How a run begins, by the answers about roles and about capabilities: it ends with the failure of the
first question, or with what is missing in the answer, and then nothing else was asked; or with the failure
of the second one; or the rest is a part of the plan for the capabilities, with the ids of the roles. -/
inductive Begun (config : Config) (r : Interaction.Run Call Call.Answer σ (Except Failure α)) :
    Except Failure (List Role) → Except Failure (List Capability) → Prop
  | unread (e : Failure) {capabilities : Except Failure (List Capability)}
      (ops : r.ops = [.assignableRoles]) (result : r.result = .error e) :
      Begun config r (.error e) capabilities
  | unready (listed : List Role) (f : Failure) {capabilities : Except Failure (List Capability)}
      (missing : Missing config.requiredRoles listed f) (ops : r.ops = [.assignableRoles])
      (result : r.result = .error f) : Begun config r (.ok listed) capabilities
  | unfetched (listed : List Role) (e : Failure)
      (complete : unlisted? config.requiredRoles listed = none)
      (owner : (named? "owner" listed).isSome) (contributor : (named? "contributor" listed).isSome)
      (ops : r.ops = [.assignableRoles, .capabilities]) (result : r.result = .error e) :
      Begun config r (.ok listed) (.error e)
  | granting (listed : List Role) (capabilities : List Capability) (owner contributor : Role)
      (done : List Action) (complete : unlisted? config.requiredRoles listed = none)
      (owned : named? "owner" listed = some owner)
      (contributed : named? "contributor" listed = some contributor)
      (planned : done <+: plan capabilities (fetched r.steps))
      (ops : r.ops =
        .assignableRoles :: .capabilities :: done.map (·.call ⟨owner.id, contributor.id⟩)) :
      Begun config r (.ok listed) (.ok capabilities)

end

theorem named?_eq (name : RoleName) (listed : List Role) :
    named? name.key listed = (RoleIndex.ofRoles listed).get? name := by
  rw [RoleIndex.get?_ofRoles]
  rfl

theorem checkRequired_eq (required : List RoleName) (listed : List Role) :
    checkRequired (.ofRoles listed) required =
      match unlisted? required listed with
      | some name => .error (.missingRequiredRole name.text)
      | none => .ok () := by
  have hsame : (fun name => !(RoleIndex.ofRoles listed).contains name) =
      fun name : RoleName => (named? (Text.lowercase name.text) listed).isNone := by
    funext name
    rw [RoleIndex.contains, ← named?_eq, Option.not_isSome]
    rfl
  rw [checkRequired, hsame]
  rfl

theorem requireId_eq (standing : Standing) (listed : List Role) :
    (RoleIndex.ofRoles listed).requireId ⟨standing.name⟩ =
      match named? standing.name listed with
      | some role => .ok role.id
      | none => .error (.roleNotFound standing.name) := by
  have hkey : RoleName.key ⟨standing.name⟩ = standing.name := by cases standing <;> decide
  rw [RoleIndex.requireId, RoleIndex.idOf?, ← named?_eq, hkey]
  cases named? standing.name listed <;> rfl

theorem ready_or_missing (required : List RoleName) (listed : List Role) :
    (∃ f, Missing required listed f ∧
      (checkRequired (.ofRoles listed) required >>= fun _ => RoleIds.find (.ofRoles listed)) = .error f) ∨
    (unlisted? required listed = none ∧ ∃ owner contributor, named? "owner" listed = some owner ∧
      named? "contributor" listed = some contributor ∧
      (checkRequired (.ofRoles listed) required >>= fun _ => RoleIds.find (.ofRoles listed)) =
        .ok ⟨owner.id, contributor.id⟩) := by
  have howner := requireId_eq .owner listed
  have hcontributor := requireId_eq .contributor listed
  rw [checkRequired_eq]
  unfold RoleIds.find
  rw [howner, hcontributor]
  simp only [Standing.name]
  cases hrequired : unlisted? required listed with
  | some name => exact .inl ⟨_, .required name hrequired, rfl⟩
  | none =>
    cases ho : named? "owner" listed with
    | none => exact .inl ⟨_, .owner hrequired ho, rfl⟩
    | some owner =>
      cases hc : named? "contributor" listed with
      | none => exact .inl ⟨_, .contributor hrequired (by simp [ho]) hc, rfl⟩
      | some contributor => exact .inr ⟨rfl, owner, contributor, rfl, rfl, rfl⟩

def summary (report : Report) : Event :=
  .info "<< Capability ownership bootstrap completed."
    [("processed", toString report.processed), ("grants", toString report.grants),
      ("skipped", toString report.skipped.length)]

def supply (ids : RoleIds) : Attempt Report := do
  let capabilities ← Attempt.call .capabilities
  Attempt.note (.info "fetched capabilities" [("count", toString capabilities.length)])
  let report ← bootstrapAll ids {} capabilities
  Attempt.note (summary report)
  return report

theorem work_eq_supply (required : List RoleName) (roles : RoleIndex) :
    (Attempt.ofExcept (checkRequired roles required) >>= fun _ => work roles) =
      Attempt.ofExcept (checkRequired roles required >>= fun _ => RoleIds.find roles) >>= supply := by
  unfold work
  cases checkRequired roles required with
  | error f => rfl
  | ok _ => rfl

section
variable {α γ σ : Type} (respond : (call : Call) → σ → call.Answer × σ)

theorem run_notes_bind (xs : List γ) (event : γ → Event) (x : Attempt α) (s : σ) :
    Interaction.run respond (xs.forM (fun y => Attempt.note (event y)) >>= fun _ => x).run s =
      let r := Interaction.run respond x.run s
      { r with steps := xs.map (fun y => .noted (event y)) ++ r.steps } := by
  induction xs with
  | nil => rfl
  | cons y ys ih =>
    change Interaction.run respond (.note (event y)
      (ys.forM (fun y => Attempt.note (event y)) >>= fun _ => x).run) s = _
    rw [Interaction.run, ih]
    rfl

theorem ops_summary (x : Attempt Report) (s : σ) :
    let r := Interaction.run respond x.run s
    let r' := Interaction.run respond (x >>= fun a => Attempt.note (summary a) >>= fun _ => pure a).run s
    r'.ops = r.ops ∧ fetched r'.steps = fetched r.steps := by
  intro r r'
  have hr' : r' = Interaction.run respond
      (x >>= fun a => Attempt.note (summary a) >>= fun _ => pure a).run s := rfl
  cases hresult : r.result with
  | error e =>
    rw [run_bind_error _ hresult] at hr'
    rw [hr']
    exact ⟨rfl, rfl⟩
  | ok a =>
    rw [run_bind_ok _ hresult] at hr'
    have hsteps : r'.steps = r.steps ++ [.noted (summary a)] := by
      rw [hr']
      rfl
    constructor
    · simp [Interaction.Run.ops, hsteps, Interaction.Step.op?]
    · simp [fetched, hsteps]

theorem ops_supply (ids : RoleIds) (s : σ) :
    let r := Interaction.run respond (supply ids).run s
    match (respond .capabilities s).1 with
    | .error e => r.ops = [.capabilities] ∧ r.result = .error e
    | .ok capabilities => ∃ done, done <+: plan capabilities (fetched r.steps) ∧
        r.ops = .capabilities :: done.map (·.call ids) := by
  intro r
  have hr : r = Interaction.run respond (.ask .capabilities fun
      | .error e => .done (.error e)
      | .ok capabilities =>
        .note (.info "fetched capabilities" [("count", toString capabilities.length)])
          (bootstrapAll ids {} capabilities >>= fun report =>
            Attempt.note (summary report) >>= fun _ => pure report).run) s := by
    change Interaction.run respond (.ask .capabilities _) s = _
    congr 2
    funext answer
    cases answer <;> rfl
  rw [hr, Interaction.run]
  cases (respond .capabilities s).1 with
  | error e => exact ⟨rfl, rfl⟩
  | ok capabilities =>
    let m := (respond .capabilities s).2
    obtain ⟨hops, hfetched⟩ := ops_summary respond (bootstrapAll ids {} capabilities) m
    have hprefix := (@follows_bootstrapAll σ respond ids {} capabilities [] m).ops
    rw [List.append_nil, ← hops, ← hfetched] at hprefix
    obtain ⟨done, hplanned, hdone⟩ := List.prefix_map_iff.1 hprefix
    exact ⟨done, hplanned, congrArg (Call.capabilities :: ·) hdone⟩

theorem Begun.asks_once {config : Config} {r : Interaction.Run Call Call.Answer σ (Except Failure α)}
    {listed? : Except Failure (List Role)} {capabilities? : Except Failure (List Capability)}
    (h : Begun config r listed? capabilities?) :
    r.ops.head? = some .assignableRoles ∧ r.ops.count .assignableRoles = 1 := by
  cases h with
  | unread e ops result | unready listed f missing ops result =>
    rw [ops]
    decide
  | unfetched listed e complete owner contributor ops result =>
    rw [ops]
    decide
  | granting listed capabilities owner contributor done complete owned contributed planned ops =>
    have hrest : (done.map (·.call ⟨owner.id, contributor.id⟩)).count .assignableRoles = 0 := by
      refine List.count_eq_zero.2 fun hmem => ?_
      obtain ⟨action, -, haction⟩ := List.mem_map.1 hmem
      cases action <;> cases haction
    rw [ops]
    simp [hrest]

theorem run_listed (config : Config) (s : σ) :
    let r := Interaction.run respond (run config).run s
    match (respond .assignableRoles s).1 with
    | .error e => r.ops = [.assignableRoles] ∧ r.result = .error e
    | .ok listed =>
      let r' := Interaction.run respond (Attempt.ofExcept (checkRequired (.ofRoles listed)
        config.requiredRoles >>= fun _ => RoleIds.find (.ofRoles listed)) >>= supply).run
        (respond .assignableRoles s).2
      r.ops = .assignableRoles :: r'.ops ∧ r.result = r'.result ∧ fetched r.steps = fetched r'.steps := by
  intro r
  let clash (c : Role × Role) : Event :=
    .warn "duplicate role name in assignable roles; ignoring later entry"
      [("name", c.1.name), ("id", c.1.id), ("kept", c.2.id)]
  have hr : r = Interaction.run respond (.note (.info ">> Starting capability ownership bootstrap...")
      (.ask .assignableRoles fun
        | .error e => .done (.error e)
        | .ok listed =>
          (((RoleIndex.clashes listed).forM fun c => Attempt.note (clash c)) >>= fun _ =>
            Attempt.ofExcept (checkRequired (.ofRoles listed) config.requiredRoles >>= fun _ =>
              RoleIds.find (.ofRoles listed)) >>= supply).run)) s := by
    change Interaction.run respond (run config).run s = _
    rw [run_eq_work]
    simp only [work_eq_supply]
    change Interaction.run respond (.note _ (.ask .assignableRoles _)) s = _
    congr 3
    funext answer
    cases answer <;> rfl
  rw [hr, Interaction.run, Interaction.run]
  cases (respond .assignableRoles s).1 with
  | error e => exact ⟨rfl, rfl⟩
  | ok listed =>
    dsimp only
    rw [run_notes_bind respond (RoleIndex.clashes listed) clash]
    refine ⟨?_, rfl, ?_⟩
    · simp [Interaction.Run.ops, List.filterMap_cons, List.filterMap_map, Interaction.Step.op?,
        Function.comp_def]
    · simp [fetched, List.filterMap_map]

/-- Whoever answers, the roles are asked for first, and only once. Nothing else is asked unless all roles
that are needed were listed, and what is granted then is a role of these, by the id of the first one listed
with the name. -/
theorem run_begins (config : Config) (s : σ) :
    let r := Interaction.run respond (run config).run s
    r.ops.head? = some .assignableRoles ∧ r.ops.count .assignableRoles = 1 ∧
      Begun config r (respond .assignableRoles s).1
        (respond .capabilities (respond .assignableRoles s).2).1 := by
  intro r
  suffices h : Begun config r (respond .assignableRoles s).1
      (respond .capabilities (respond .assignableRoles s).2).1 from ⟨h.asks_once.1, h.asks_once.2, h⟩
  have hlisted := run_listed respond config s
  cases hanswer : (respond .assignableRoles s).1 with
  | error e =>
    rw [hanswer] at hlisted
    exact .unread e hlisted.1 hlisted.2
  | ok listed =>
    rw [hanswer] at hlisted
    obtain ⟨hops, hresult, hfetched⟩ := hlisted
    obtain ⟨f, hmissing, hf⟩ | ⟨hcomplete, owner, contributor, howner, hcontributor, hids⟩ :=
      ready_or_missing config.requiredRoles listed
    · rw [hf] at hops hresult
      exact .unready listed f hmissing hops hresult
    · -- The ids are those of the roles found, and the rest is what their supply is.
      rw [hids] at hops hresult hfetched
      have hsupply := ops_supply respond ⟨owner.id, contributor.id⟩ (respond .assignableRoles s).2
      cases hcapabilities : (respond .capabilities (respond .assignableRoles s).2).1 with
      | error e =>
        rw [hcapabilities] at hsupply
        refine .unfetched listed e hcomplete (by simp [howner]) (by simp [hcontributor]) ?_ ?_
        · exact hops.trans (congrArg (Call.assignableRoles :: ·) hsupply.1)
        · exact hresult.trans hsupply.2
      | ok capabilities =>
        rw [hcapabilities] at hsupply
        obtain ⟨done, hplanned, hdone⟩ := hsupply
        refine .granting listed capabilities owner contributor done hcomplete howner hcontributor ?_ ?_
        · exact hfetched ▸ hplanned
        · exact hops.trans (congrArg (Call.assignableRoles :: ·) hdone)

end

end AccessBaseline.Ownership
