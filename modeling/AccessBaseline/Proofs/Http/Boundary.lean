import AccessBaseline.Proofs.Http.Replay
import Mathlib.Data.List.DropRight
import Mathlib.Data.List.Induction

/-! How far the token goes. Every request of a client leads below its base: whatever the identifiers of a call
hold, the URL differs from the base in its path alone, and the path goes on behind that of the base. -/
namespace AccessBaseline

namespace Url

def trimmedPath (u : Url) : List Char := u.path.text.toList.rdropWhile (· == '/')

def IsStep (s : String) : Prop := IsSegment s ∧ s ≠ "." ∧ s ≠ ".."

/-- Whether a URL lies below a base. It shares all but its path with the base; the path goes on behind that of
the base, and does not lead back. -/
structure IsBelow (base url : Url) : Prop where
  scheme : url.scheme = base.scheme
  userinfo : url.username = base.username ∧ url.password? = base.password?
  host : url.host? = base.host?
  port : url.port? = base.port?
  query : url.query? = base.query?
  fragment : url.fragment? = base.fragment?
  path : base.trimmedPath ++ ['/'] <+: url.path.text.toList
  onward : ∃ steps, url.path.text.toList = base.trimmedPath ++ (Path.segments steps).text.toList ∧
    ∀ s ∈ steps, IsStep s

section Trimming
variable {segments : List String}

/-- The segments up to the last one that is not empty. -/
def core (segments : List String) : List String := segments.rdropWhile (· == "")

theorem pathText_append (names names' : List String) :
    (Path.segments (names ++ names')).text.toList =
      (Path.segments names).text.toList ++ (Path.segments names').text.toList := by
  simp [Path.text]

/-- The slashes at the end of a path are its empty segments there. -/
theorem trimmed_pathText (h : ∀ s ∈ segments, IsSegment s) :
    (Path.segments segments).text.toList.rdropWhile (· == '/') =
      (Path.segments (core segments)).text.toList := by
  induction segments using List.reverseRecOn with
  | nil => rfl
  | append_singleton names s ih =>
    obtain ⟨hnames, hs⟩ := List.forall_mem_append.1 h
    rw [pathText_append, core]
    by_cases hempty : s = ""
    · have hslash : (Path.segments [s]).text.toList = ['/'] := by
        rw [hempty]
        rfl
      rw [hslash, List.rdropWhile_concat_pos _ _ _ (by rfl), ih hnames,
        List.rdropWhile_concat_pos _ _ _ (by simpa using hempty)]
      rfl
    · obtain ⟨cs, c, hchars⟩ := (List.eq_nil_or_concat s.toList).resolve_left
        fun hnil => hempty (String.toList_inj.1 hnil)
      have hlast : c ≠ '/' := (hs s (List.mem_singleton.2 rfl) c (by simp [hchars])).1
      have htext : (Path.segments [s]).text.toList = '/' :: cs ++ [c] := by
        simp [Path.text, hchars]
      rw [htext, List.rdropWhile_concat_neg _ _ _ (by simpa using hempty), pathText_append, htext,
        ← List.append_assoc, List.rdropWhile_concat_neg _ _ _ (by simpa using hlast)]

theorem core_ne_blank : core segments ≠ [""] := by
  intro h
  have hagain : core (core segments) = core segments := List.rdropWhile_idempotent _ _
  rw [h] at hagain
  exact absurd hagain (by decide)

theorem exists_dropEmptyLast_eq (segments : List String) :
    ∃ blanks, dropEmptyLast segments = core segments ++ blanks ∧ ∀ s ∈ blanks, s = "" := by
  let blanks := segments.rtakeWhile (· == "")
  have hsplit : core segments ++ blanks = segments := List.rdropWhile_append_rtakeWhile
  have hblank : ∀ s ∈ blanks, s = "" := fun s hs => by simpa using List.mem_rtakeWhile_imp hs
  unfold dropEmptyLast
  split
  · next hlast =>
    have hsome : blanks ≠ [] := by
      intro hnone
      rw [Bool.and_eq_true, beq_iff_eq, List.getLast?_eq_some_iff] at hlast
      obtain ⟨-, front, hfront⟩ := hlast
      refine List.rtakeWhile_eq_nil_iff.1 hnone (by simp [hfront]) ?_
      simp [hfront]
    refine ⟨blanks.dropLast, ?_, fun s hs => hblank s (List.dropLast_subset _ hs)⟩
    rw [← List.dropLast_append_of_ne_nil hsome, hsplit]
  · exact ⟨blanks, hsplit.symm, hblank⟩

end Trimming

section Appending
variable {trunk done : List String} {name : String}

def Beyond (trunk done : List String) : Prop :=
  ∃ steps, done = trunk ++ steps ∧ steps ≠ [] ∧ ∀ s ∈ steps, IsStep s

theorem isStep_empty : IsStep "" := ⟨isSegment_empty, by decide, by decide⟩

/-- A segment is added behind the steps. The one empty segment of the root path gives way to it, and then
there is no trunk. -/
theorem beyond_pushSegment {steps : List String} (hsteps : ∀ s ∈ steps, IsStep s)
    (hroot : trunk ++ steps = [""] → trunk = []) {s : String} (hs : IsStep s) :
    Beyond trunk (pushSegment (trunk ++ steps) s) := by
  unfold pushSegment
  split
  · next h => exact ⟨[s], by rw [hroot h]; rfl, by simp, by simpa using hs⟩
  · refine ⟨steps ++ [s], List.append_assoc .., by simp, ?_⟩
    exact List.forall_mem_append.2 ⟨hsteps, by simpa using hs⟩

theorem Beyond.pushSegment (h : Beyond trunk done) {s : String} (hs : IsStep s) :
    Beyond trunk (pushSegment done s) := by
  obtain ⟨steps, rfl, hsome, hsteps⟩ := h
  refine beyond_pushSegment hsteps (fun hroot => ?_) hs
  cases List.append_eq_singleton_iff.1 hroot with
  | inl h => exact h.1
  | inr h => exact absurd h.2 hsome

/-- No name leads back: of the names that stand for dots one takes the place of the last step. -/
theorem Beyond.appendName (special : Bool) (h : Beyond trunk done) (name : String) :
    Beyond trunk (appendName special done name) := by
  unfold Url.appendName
  by_cases hskip : (name = "." || name = "..") = true
  · rw [if_pos hskip]
    exact h
  rw [if_neg hskip]
  by_cases hup : segmentText special name = ".."
  · rw [if_pos hup]
    obtain ⟨steps, rfl, hsome, hsteps⟩ := h
    refine ⟨steps.dropLast ++ [""], ?_, by simp, ?_⟩
    · rw [List.dropLast_append_of_ne_nil hsome, List.append_assoc]
    · exact List.forall_mem_append.2
        ⟨fun s hs => hsteps s (List.dropLast_subset _ hs), by simpa using isStep_empty⟩
  rw [if_neg hup]
  by_cases hstay : segmentText special name = "."
  · rw [if_pos hstay]
    exact h.pushSegment isStep_empty
  · rw [if_neg hstay]
    exact h.pushSegment ⟨isSegment_segmentText special name, hstay, hup⟩

theorem Beyond.foldl_appendName (special : Bool) (h : Beyond trunk done) (names : List String) :
    Beyond trunk (names.foldl (Url.appendName special) done) := by
  induction names generalizing done with
  | nil => exact h
  | cons name names ih => exact ih (h.appendName special name)

theorem beyond_of_first (special : Bool) (segments : List String) (hname : IsAddressable name) :
    Beyond (core segments) (appendName special (dropEmptyLast segments) name) := by
  obtain ⟨blanks, hkept, hblanks⟩ := exists_dropEmptyLast_eq segments
  have hstep : IsStep (segmentText special name) :=
    ⟨isSegment_segmentText special name, hname.segmentText_ne special⟩
  have hblank : ∀ s ∈ blanks, IsStep s := fun s hs => (hblanks s hs).symm ▸ isStep_empty
  rw [appendName_eq_pushSegment _ hname, hkept]
  refine beyond_pushSegment hblank (fun hroot => ?_) hstep
  cases List.append_eq_singleton_iff.1 hroot with
  | inl h => exact h.1
  | inr h => exact absurd h.1 core_ne_blank

end Appending

theorem Hierarchical.isBelow {base : Url} (h : base.Hierarchical) {first : String}
    (hfirst : IsAddressable first) (names : List String) : base.IsBelow (base.below (first :: names)) := by
  obtain ⟨segments, hpath, hsegments⟩ := h.path
  obtain ⟨steps, hsteps, hsome, hon⟩ :=
    (beyond_of_first base.isSpecial segments hfirst).foldl_appendName base.isSpecial names
  have htrimmed : base.trimmedPath = (Path.segments (core segments)).text.toList := by
    rw [trimmedPath, hpath, trimmed_pathText hsegments]
  have htext : (base.below (first :: names)).path.text.toList =
      base.trimmedPath ++ (Path.segments steps).text.toList := by
    rw [htrimmed, ← pathText_append, ← hsteps, below, hpath]
    rfl
  have hslash : ['/'] <+: (Path.segments steps).text.toList := by
    obtain ⟨s, others, rfl⟩ := List.exists_cons_of_ne_nil hsome
    exact ⟨s.toList ++ (Path.segments others).text.toList, by simp [Path.text]⟩
  have hrest : (base.below (first :: names)) = { base with path := (base.below (first :: names)).path } := by
    simp only [below, hpath]
  constructor
  case path =>
    rw [htext]
    exact List.prefix_append_right_inj _ |>.2 hslash
  case onward => exact ⟨steps, htext, hon⟩
  all_goals rw [hrest]
  exact ⟨rfl, rfl⟩

end Url

theorem Call.exists_resource (call : Call) :
    ∃ first names, call.resource = first :: names ∧ Url.IsAddressable first := by
  cases call <;> exact ⟨_, _, rfl, by decide⟩

namespace Http.Client
variable {α σ : Type} (respond : Request → σ → Delivery × σ)

theorem isBelow_endpoint {client : Client} (h : client.base.Hierarchical) (call : Call) :
    client.base.IsBelow (client.endpoint call) := by
  obtain ⟨first, names, hresource, hfirst⟩ := call.exists_resource
  rw [endpoint, hresource]
  exact h.isBelow hfirst names

theorem eq_request_of_mem_ops (client : Client) (call : Call) (s : σ) :
    ∀ q ∈ (Interaction.run respond (client.serve call) s).ops, q = client.request call := by
  intro q hq
  unfold serve at hq
  cases haddress : client.address call with
  | error f =>
    simp only [haddress] at hq
    cases hq
  | ok url =>
    simp only [haddress] at hq
    cases hrefusal : (client.request call).refusal? with
    | some fault =>
      simp only [hrefusal] at hq
      cases hq
    | none =>
      simp only [hrefusal] at hq
      exact List.mem_singleton.1 hq

/-- Whatever is asked in a dialogue and however the service answers, each request is that of a call. -/
theorem exists_call_of_mem_ops (client : Client) (p : Dialogue α) (s : σ) :
    ∀ q ∈ (Interaction.run respond (client.converse p) s).ops, ∃ call, q = client.request call := by
  intro q hq
  induction p generalizing s with
  | done a => cases hq
  | note event next ih => exact ih s hq
  | ask call next ih =>
    rw [run_converse_ask Request.refusal?, Interaction.Run.ops, List.filterMap_append, List.mem_append] at hq
    cases hq with
    | inl hq => exact ⟨call, eq_request_of_mem_ops respond client call s q hq⟩
    | inr hq => exact ih _ _ hq

/-- Whether a client has a URL for every call and lets a token go to such URLs alone, all below a base. -/
structure Keeps (client : Client) (base : Url) (token : String) : Prop where
  addressed : ∀ call, ∃ url, client.address call = .ok url ∧ base.IsBelow url
  sent : ∀ {α σ : Type} (respond : Request → σ → Delivery × σ) (p : Dialogue α) (s : σ),
    ∀ q ∈ (Interaction.run respond (client.converse p) s).ops,
      q.bearer = token ∧ base.IsBelow q.url ∧ ∃ call, client.address call = .ok q.url

/-- With a base that a configuration gives and a token, there is a client, and the token stays below the base:
for every call with whatever identifiers, and in every dialogue with whatever replies. -/
theorem token_kept {config : Config} {base : Url} (hbase : config.baseUrl = .ok base) {token : String}
    (htoken : token ≠ "") :
    ∃ client, connect base ⟨token⟩ = .ok client ∧ ofConfig config (some token) = .ok client ∧
      client.Keeps base token := by
  have hhierarchical := Config.hierarchical_baseUrl hbase
  let client : Client := ⟨base, ⟨token⟩⟩
  have haddress : ∀ call, client.address call = .ok (client.endpoint call) :=
    address_eq hhierarchical.cannotBeBase
  have hbelow : ∀ call, client.base.IsBelow (client.endpoint call) := isBelow_endpoint hhierarchical
  refine ⟨client, connect_eq hhierarchical.cannotBeBase _,
    ofConfig_of_baseUrl hbase hhierarchical.cannotBeBase htoken,
    fun call => ⟨_, haddress call, hbelow call⟩, fun respond p s q hq => ?_⟩
  obtain ⟨call, rfl⟩ := exists_call_of_mem_ops respond client p s q hq
  exact ⟨rfl, hbelow call, call, haddress call⟩

/-- Dots around a tab take the place of the segment before them, and all else is escaped. -/
theorem awkward_kept :
    let source : Config := { Config.small with apiUrl := "https://user@localhost:8080/api//?q#f" }
    let base : Url := ⟨"https", "user", none, some (.name "localhost"), some 8080,
      .segments ["api", "", ""], some "q", some "f"⟩
    source.baseUrl = .ok base ∧ "secret" ≠ "" ∧
      (∃ client, connect base ⟨"secret"⟩ = .ok client ∧ ofConfig source (some "secret") = .ok client ∧
        client.Keeps base "secret") ∧
      (endpoint ⟨base, ⟨"secret"⟩⟩ (.capabilityMembers ".\t.")).path = .segments ["api", "", "", "members"] ∧
      (endpoint ⟨base, ⟨"secret"⟩⟩ (.removeGroupMember ".." "//evil.example?x#\\%2e")).path =
        .segments ["api", "", "rbac", "groups", "members", "%2F%2Fevil.example%3Fx%23%5C%252e"] := by
  intro source base
  have hbase : source.baseUrl = .ok base := Config.baseUrl_of_toOption (by decide +kernel)
  have htoken : "secret" ≠ "" := by decide
  exact ⟨hbase, htoken, token_kept hbase htoken, by decide +kernel, by decide +kernel⟩

end Http.Client

end AccessBaseline
