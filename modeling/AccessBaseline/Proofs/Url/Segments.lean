import AccessBaseline.Proofs.Url.Percent
import AccessBaseline.Url.Endpoint

/-! The segments of a path: what a parsed URL has, what is appended below it, and how the text of a path
gives them back. -/
namespace AccessBaseline

namespace Text

theorem not_mem_of_mem_fields {isBreak : Char → Bool} {cs f : List Char} (h : f ∈ fields isBreak cs) :
    ∀ c ∈ f, c ∈ cs ∧ isBreak c = false := by
  induction cs generalizing f with
  | nil =>
    rw [List.mem_singleton.1 h]
    simp
  | cons c cs ih =>
    intro d hd
    simp only [fields] at h
    split at h
    · cases List.mem_cons.1 h with
      | inl hnil =>
        rw [hnil] at hd
        cases hd
      | inr h => exact (ih h d hd).imp_left (List.mem_cons_of_mem c)
    · next hc =>
      obtain ⟨f', fs, hfs⟩ := List.exists_cons_of_ne_nil (fields_ne_nil isBreak cs)
      rw [hfs] at h ih
      cases List.mem_cons.1 h with
      | inl hhead =>
        rw [hhead] at hd
        cases List.mem_cons.1 hd with
        | inl hdc =>
          rw [hdc]
          exact ⟨List.mem_cons_self, Bool.eq_false_iff.2 hc⟩
        | inr hd => exact (ih List.mem_cons_self d hd).imp_left (List.mem_cons_of_mem c)
      | inr h => exact (ih (List.mem_cons_of_mem _ h) d hd).imp_left (List.mem_cons_of_mem c)

theorem fields_append {isBreak : Char → Bool} {f : List Char} (hf : ∀ c ∈ f, isBreak c = false)
    {cs g : List Char} {gs : List (List Char)} (h : fields isBreak cs = g :: gs) :
    fields isBreak (f ++ cs) = (f ++ g) :: gs := by
  induction f with
  | nil => exact h
  | cons c f ih =>
    obtain ⟨hc, hf⟩ := List.forall_mem_cons.1 hf
    rw [List.cons_append, fields, ih hf]
    simp [hc]

end Text

namespace Url

def IsSegment (s : String) : Prop := ∀ c ∈ s.toList, c ≠ '/' ∧ c ≠ '?' ∧ c ≠ '#'

theorem isSegment_empty : IsSegment "" := fun _ hc => by cases hc

theorem fields_pathText {names : List String} (h : ∀ s ∈ names, IsSegment s) :
    Text.fields (· == '/') (Path.segments names).text.toList = [] :: names.map String.toList := by
  induction names with
  | nil => rfl
  | cons s names ih =>
    obtain ⟨hs, hnames⟩ := List.forall_mem_cons.1 h
    have hunbroken : ∀ c ∈ s.toList, (c == '/') = false := fun c hc => beq_eq_false_iff_ne.2 (hs c hc).1
    have htext : (Path.segments (s :: names)).text.toList =
        '/' :: (s.toList ++ (Path.segments names).text.toList) := by
      simp [Path.text]
    rw [htext, Text.fields, Text.fields_append hunbroken (ih hnames), List.append_nil]
    rfl

/-- Whether a URL has an authority and a path of segments. -/
structure Hierarchical (u : Url) : Prop where
  host : u.host?.isSome = true
  path : ∃ segments, u.path = .segments segments ∧ ∀ s ∈ segments, IsSegment s

theorem Hierarchical.cannotBeBase {u : Url} (h : u.Hierarchical) : u.cannotBeBase = false := by
  obtain ⟨segments, hpath, -⟩ := h.path
  rw [Url.cannotBeBase, hpath]

theorem forall_mem_appendSegments {P : String → Prop} (hempty : P "") {done rest : List String}
    (hdone : ∀ s ∈ done, P s) (hrest : ∀ s ∈ rest, P s) : ∀ s ∈ appendSegments done rest, P s := by
  have hlast {done : List String} (hdone : ∀ s ∈ done, P s) {s : String} (hs : P s) :
      ∀ t ∈ done ++ [s], P t := by
    simpa [or_imp, forall_and] using ⟨hdone, hs⟩
  have hup {done : List String} (hdone : ∀ s ∈ done, P s) : ∀ s ∈ done.dropLast, P s :=
    fun s hs => hdone s (List.dropLast_subset _ hs)
  -- A segment goes up, stays or is added, each as the last of them or before others.
  induction done, rest using appendSegments.induct with
  | case1 done => exact hdone
  | case2 done s hs =>
    simp only [appendSegments, hs, if_true]
    exact hlast (hup hdone) hempty
  | case3 done s hs hs' =>
    simp only [appendSegments, hs, hs', if_true]
    exact hlast hdone hempty
  | case4 done s hs hs' =>
    simp only [appendSegments, hs, hs']
    exact hlast hdone (hrest s List.mem_cons_self)
  | case5 done s rest hne hs ih =>
    simp only [appendSegments, hs, if_true]
    exact ih (hup hdone) fun t ht => hrest t (List.mem_cons_of_mem _ ht)
  | case6 done s rest hne hs hs' ih =>
    simp only [appendSegments, hs, hs', if_true]
    exact ih hdone fun t ht => hrest t (List.mem_cons_of_mem _ ht)
  | case7 done s rest hne hs hs' ih =>
    simp only [appendSegments, hs, hs']
    exact ih (hlast hdone (hrest s List.mem_cons_self)) fun t ht => hrest t (List.mem_cons_of_mem _ ht)

theorem isSegment_of_percentEncode {cs : List Char} (h : ∀ c ∈ cs, c ≠ '/') :
    IsSegment (String.ofList (percentEncode inPathSet cs)) := by
  intro c hc
  rw [String.toList_ofList] at hc
  rcases of_mem_percentEncode hc with ⟨hmem, hset⟩ | rfl | halnum
  · refine ⟨h c hmem, ?_, ?_⟩
    · rintro rfl
      exact absurd hset (by decide)
    · rintro rfl
      exact absurd hset (by decide)
  · decide
  · refine ⟨?_, ?_, ?_⟩ <;> rintro rfl <;> exact absurd halnum (by decide)

theorem isSegment_of_mem_parseSegments (special : Bool) (cs : List Char) :
    ∀ s ∈ parseSegments special cs, IsSegment s := by
  refine forall_mem_appendSegments isSegment_empty (fun s hs => by cases hs) fun s hs => ?_
  obtain ⟨f, hf, rfl⟩ := List.mem_map.1 hs
  refine isSegment_of_percentEncode fun c hc => ?_
  obtain ⟨-, hbreak⟩ := Text.not_mem_of_mem_fields hf c hc
  rintro rfl
  exact absurd hbreak (by cases special <;> decide)

theorem hierarchical_of_parseHierarchical {scheme : String} {cs : List Char} {url : Url}
    (h : parseHierarchical scheme cs = .ok url) : url.Hierarchical := by
  let authority := cs.takeWhile (!endsAuthority (isSpecialScheme scheme) ·)
  unfold parseHierarchical at h
  cases ha : parseAuthority scheme authority (cs.drop authority.length).isEmpty with
  | error e =>
    simp only [authority, ha] at h
    cases h
  | ok a =>
    simp only [authority, ha] at h
    cases h
    refine ⟨rfl, _, rfl, ?_⟩
    split
    · exact isSegment_of_mem_parseSegments _ _
    · exact fun s hs => by cases hs

theorem hierarchical_of_parseFile {cs : List Char} {url : Url} (h : parseFile cs = .ok url) :
    url.Hierarchical := by
  have hsegments (rest : List Char) :
      let leading := (parseSegments true rest).dropWhile String.isEmpty
      ∀ s ∈ (if leading.isEmpty then [""] else leading), IsSegment s := by
    intro leading
    split
    · simpa using isSegment_empty
    · exact fun s hs => isSegment_of_mem_parseSegments _ _ s (List.dropWhile_subset _ hs)
  unfold parseFile at h
  generalize (if (cs.take 2).all (isSlash true) && 2 ≤ cs.length then _ else _ : List Char × List Char) =
    parts at h
  obtain ⟨hostText, rest⟩ := parts
  dsimp only at h
  split at h
  · cases h
    exact ⟨rfl, _, rfl, hsegments _⟩
  · cases hhost : parseHost true hostText with
    | error e =>
      rw [hhost] at h
      cases h
    | ok host =>
      rw [hhost] at h
      cases h
      exact ⟨rfl, _, rfl, hsegments _⟩

theorem hierarchical_of_parse {text : String} {url : Url} (h : parse text = .ok url)
    (hspecial : url.isSpecial = true) : url.Hierarchical := by
  unfold parse at h
  split at h
  · cases h
  · split at h
    · exact hierarchical_of_parseFile h
    · split at h
      · exact hierarchical_of_parseHierarchical h
      · next hother =>
        split at h
        · exact hierarchical_of_parseHierarchical h
        · cases h
          exact absurd hspecial hother

/-- Whether a name becomes a segment that stands for it. One or two dots are passed over, and tabs and
line breaks get lost. -/
def IsAddressable (name : String) : Prop :=
  name ≠ "." ∧ name ≠ ".." ∧ ∀ c ∈ name.toList, isTabOrBreak c = false

instance (name : String) : Decidable (IsAddressable name) :=
  decidable_of_iff (name ≠ "." ∧ name ≠ ".." ∧ name.toList.all (!isTabOrBreak ·) = true)
    (by simp [IsAddressable])

variable {special : Bool} {name : String}

theorem ofUtf8?_segmentText (special : Bool) (name : String) :
    ofUtf8? (percentDecode (segmentText special name).toList) =
      some (String.ofList (name.toList.filter (!isTabOrBreak ·))) := by
  have hpercent : segmentSet special '%' = true := by cases special <;> decide
  rw [segmentText, String.toList_ofList, ofUtf8?_percentEncode hpercent]

theorem IsAddressable.ofUtf8? (h : IsAddressable name) (special : Bool) :
    ofUtf8? (percentDecode (segmentText special name).toList) = some name := by
  have hkept : name.toList.filter (!isTabOrBreak ·) = name.toList :=
    List.filter_eq_self.2 fun c hc => by rw [h.2.2 c hc]; rfl
  rw [ofUtf8?_segmentText, hkept, String.ofList_toList]

theorem segmentText_inj {name' : String} (h : IsAddressable name) (h' : IsAddressable name')
    (hsame : segmentText special name = segmentText special name') : name = name' := by
  have hspelled := h.ofUtf8? special
  rw [hsame, h'.ofUtf8?] at hspelled
  exact (Option.some.inj hspelled).symm

theorem isSegment_segmentText (special : Bool) (name : String) : IsSegment (segmentText special name) := by
  intro c hc
  rw [segmentText, String.toList_ofList] at hc
  rcases of_mem_percentEncode hc with ⟨-, hset⟩ | rfl | halnum
  · refine ⟨?_, ?_, ?_⟩ <;> rintro rfl <;> exact absurd hset (by cases special <;> decide)
  · decide
  · refine ⟨?_, ?_, ?_⟩ <;> rintro rfl <;> exact absurd halnum (by decide)

theorem IsAddressable.segmentText_ne (h : IsAddressable name) (special : Bool) :
    segmentText special name ≠ "." ∧ segmentText special name ≠ ".." := by
  have hspelled := h.ofUtf8? special
  constructor
  · intro hdot
    rw [hdot, show Url.ofUtf8? (percentDecode ".".toList) = some "." from ofUtf8?_encode ['.']] at hspelled
    exact h.1 (Option.some.inj hspelled).symm
  · intro hdots
    rw [hdots, show Url.ofUtf8? (percentDecode "..".toList) = some ".." from ofUtf8?_encode ['.', '.']]
      at hspelled
    exact h.2.1 (Option.some.inj hspelled).symm

theorem appendName_eq_pushSegment (done : List String) (h : IsAddressable name) :
    appendName special done name = pushSegment done (segmentText special name) := by
  obtain ⟨hdot, hdots⟩ := h.segmentText_ne special
  simp [appendName, h.1, h.2.1, hdot, hdots]

theorem appendName_of_addressable {done : List String} (hdone : done ≠ [""]) (h : IsAddressable name) :
    appendName special done name = done ++ [segmentText special name] := by
  rw [appendName_eq_pushSegment done h, pushSegment, if_neg hdone]

theorem foldl_appendName {done names : List String} (hsome : done ≠ []) (hdone : done ≠ [""])
    (h : ∀ name ∈ names, IsAddressable name) :
    names.foldl (appendName special) done = done ++ names.map (segmentText special) := by
  induction names generalizing done with
  | nil => rw [List.map_nil, List.append_nil, List.foldl_nil]
  | cons name names ih =>
    obtain ⟨hname, hnames⟩ := List.forall_mem_cons.1 h
    have hmore : done ++ [segmentText special name] ≠ [""] := by
      intro hone
      have hlength := congrArg List.length hone
      have hpos := List.length_pos_iff.2 hsome
      simp only [List.length_append, List.length_cons, List.length_nil] at hlength
      omega
    rw [List.foldl_cons, appendName_of_addressable hdone hname, ih (by simp) hmore hnames,
      List.append_assoc, List.map_cons, List.singleton_append]

def root (base : Url) : List String :=
  match base.path with
  | .segments segments =>
    let kept := dropEmptyLast segments
    if kept = [""] then [] else kept
  | .plain _ => []

theorem Hierarchical.isSegment_root {base : Url} (h : base.Hierarchical) : ∀ s ∈ base.root, IsSegment s := by
  obtain ⟨segments, hpath, hsegments⟩ := h.path
  intro s hs
  simp only [root, hpath] at hs
  split at hs
  · cases hs
  · unfold dropEmptyLast at hs
    split at hs
    · exact hsegments s (List.dropLast_subset _ hs)
    · exact hsegments s hs

/-- Below a base, addressable names are one segment each, behind those of the base. -/
theorem Hierarchical.path_below {base : Url} (h : base.Hierarchical) {first : String} {names : List String}
    (hfirst : first ≠ "") (hnames : ∀ name ∈ first :: names, IsAddressable name) :
    (base.below (first :: names)).path =
      .segments (base.root ++ (first :: names).map (segmentText base.isSpecial)) := by
  obtain ⟨segments, hpath, -⟩ := h.path
  obtain ⟨hname, hnames⟩ := List.forall_mem_cons.1 hnames
  have hempty : IsAddressable "" := by decide
  have htext : segmentText base.isSpecial first ≠ "" := fun htext => hfirst (segmentText_inj hname hempty htext)
  simp only [below, root, hpath, List.foldl_cons]
  -- A path of one empty segment is filled by the first name; any other goes on behind its last segment.
  by_cases hkept : dropEmptyLast segments = [""]
  · rw [hkept, if_pos rfl, appendName_eq_pushSegment _ hname, pushSegment, if_pos rfl,
      foldl_appendName (by simp) (by simpa using htext) hnames]
    rfl
  · have hmore : dropEmptyLast segments ++ [segmentText base.isSpecial first] ≠ [""] := by
      intro hone
      exact htext (by simpa using congrArg List.getLast? hone)
    rw [if_neg hkept, appendName_of_addressable hkept hname, foldl_appendName (by simp) hmore hnames,
      List.append_assoc]
    rfl

theorem Hierarchical.authority_below {base : Url} (h : base.Hierarchical) (names : List String) :
    (base.below names).authority = base.authority := by
  obtain ⟨segments, hpath, -⟩ := h.path
  obtain ⟨host, hhost⟩ := Option.isSome_iff_exists.1 h.host
  simp only [below, hpath, authority, hhost, userinfo]

theorem Hierarchical.pathText_of_text_below {base : Url} (h : base.Hierarchical) {names names' : List String}
    (hsame : (base.below names).text = (base.below names').text) :
    (base.below names).path.text = (base.below names').path.text := by
  have hauthority := (h.authority_below names).trans (h.authority_below names').symm
  obtain ⟨segments, hpath, -⟩ := h.path
  rw [text, text, hauthority] at hsame
  simp only [below, hpath] at hsame ⊢
  simpa [← String.toList_inj] using hsame

theorem IsAddressable.length_le_segmentText (h : IsAddressable name) (special : Bool) :
    name.length ≤ (segmentText special name).length := by
  have hkept : name.toList.filter (!isTabOrBreak ·) = name.toList :=
    List.filter_eq_self.2 fun c hc => by rw [h.2.2 c hc]; rfl
  rw [← String.length_toList, segmentText, hkept, String.length_ofList]
  exact length_le_percentEncode (segmentSet special) name.toList

theorem length_le_utf8ByteSize (cs : List Char) : cs.length ≤ (String.ofList cs).utf8ByteSize := by
  induction cs with
  | nil => exact Nat.zero_le _
  | cons c cs ih =>
    have hsplit : String.ofList (c :: cs) = String.singleton c ++ String.ofList cs := by
      simp
    have hpos := c.utf8Size_pos
    rw [hsplit, String.utf8ByteSize_append, String.utf8ByteSize_singleton, List.length_cons]
    omega

/-- No segment is longer than the URL that it stands in. -/
theorem length_le_text (url : Url) {names : List String} (hpath : url.path = .segments names) (s : String)
    (hs : s ∈ names) : s.length ≤ url.text.utf8ByteSize := by
  obtain ⟨front, back, rfl⟩ := List.append_of_mem hs
  have hsegment : s.length ≤ url.path.text.length := by
    simp only [hpath, Path.text, List.map_append, List.map_cons, String.join_append, String.join_cons,
      String.length_append]
    omega
  have htext : url.path.text.length ≤ url.text.length := by
    simp only [text, String.length_append]
    omega
  have hbytes := length_le_utf8ByteSize url.text.toList
  rw [String.ofList_toList, String.length_toList] at hbytes
  omega

end Url

end AccessBaseline
