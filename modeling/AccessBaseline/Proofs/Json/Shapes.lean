import AccessBaseline.Proofs.Json.Refusing

/-! Objects that are not of the shape that a record reads. Such an object is refused for a member that is
missing, for one that occurs twice, and for one that is no string but should be. -/
namespace AccessBaseline.Json

/-- The keys of an object: those that there must be, those whose values are strings, and the others that are
known. -/
structure Shape where
  required : List String
  strings : List String
  others : List String := []

namespace Shape

inductive Misses (shape : Shape) (members : List (String × List Char)) : Prop
  | missing {key : String} (required : key ∈ shape.required) (absent : key ∉ members.map (·.1))
  | twice {key : String} (known : key ∈ shape.strings ++ shape.others)
      (twice : 2 ≤ (members.map (·.1)).count key)
  | notString {key : String} {value : List Char} (string : key ∈ shape.strings)
      (member : (key, value) ∈ members) (other : ∀ s, ¬StringText s value)

def Spoils (shape : Shape) (cs : List Char) : Prop :=
  ∃ members, ObjectText members cs ∧ (∀ m ∈ members, IsValue m.2) ∧ shape.Misses members

theorem Spoils.isValue {shape : Shape} {cs : List Char} (h : shape.Spoils cs) : IsValue cs := by
  obtain ⟨members, hobject, hvalues, -⟩ := h
  exact .object hobject hvalues

end Shape

namespace Record
variable {α : Type} {spec : Record α} {shape : Shape}

/-- Whether a record reads objects of a shape. -/
structure HasShape (spec : Record α) (shape : Shape) : Prop where
  unaliased : ∀ f ∈ spec.fields, f.alias? = none
  required : ∀ key ∈ shape.required, ∃ f ∈ spec.fields, f.name = key ∧ f.isRequired = true
  strings : ∀ key ∈ shape.strings, ∃ f, spec.fields.find? (·.answersTo key) = some f ∧
    ∃ store : α → String → α, f.read = fun a => store a <$> Reader.text
  others : ∀ key ∈ shape.others, (spec.fields.find? (·.answersTo key)).isSome = true

section Members
variable {seen : List String} {ms : List (String × List Char)}

theorem AcceptsMembers.countP_le (h : spec.AcceptsMembers seen ms) (name : String) :
    ms.countP (fun m => (spec.fields.find? (·.answersTo m.1)).map (·.name) == some name) ≤ 1 := by
  have hcount := List.nodup_iff_count_le_one.1 h.distinct name
  rwa [namesRead, List.count_filterMap] at hcount

theorem AcceptsMembers.count_le (h : spec.AcceptsMembers seen ms) {key : String} {f : Field α}
    (hfind : spec.fields.find? (·.answersTo key) = some f) : (ms.map (·.1)).count key ≤ 1 := by
  refine le_trans ?_ (h.countP_le f.name)
  rw [List.count, List.countP_map]
  refine List.countP_mono_left fun m _ hm => ?_
  have hkey : m.1 = key := by simpa using hm
  simp [hkey, hfind]

theorem AcceptsMembers.mem_keys (h : spec.AcceptsMembers [] ms)
    (hunaliased : ∀ f ∈ spec.fields, f.alias? = none) {f : Field α} (hf : f ∈ spec.fields)
    (hrequired : f.isRequired = true) : f.name ∈ ms.map (·.1) := by
  have hread := (h.complete f hf hrequired).resolve_left (by simp)
  obtain ⟨m, hm, hname⟩ := List.mem_filterMap.1 hread
  obtain ⟨g, hfind, hsame⟩ := Option.map_eq_some_iff.1 hname
  have hanswers : g.answersTo m.1 = true := by simpa using List.find?_some hfind
  have hkey : g.name = m.1 := by
    simpa [Field.answersTo, hunaliased g (List.mem_of_find?_eq_some hfind)] using hanswers
  exact List.mem_map.2 ⟨m, hm, hkey.symm.trans hsame⟩

theorem AcceptsMembers.not_misses (h : spec.AcceptsMembers [] ms) (hshape : spec.HasShape shape)
    (hvalues : ∀ m ∈ ms, IsValue m.2) : ¬shape.Misses ms := by
  intro hmisses
  cases hmisses with
  | missing required absent =>
    obtain ⟨f, hf, rfl, hrequired⟩ := hshape.required _ required
    exact absent (h.mem_keys hshape.unaliased hf hrequired)
  | @twice key known twice =>
    have hfind : ∃ f, spec.fields.find? (·.answersTo key) = some f := by
      cases List.mem_append.1 known with
      | inl hstring =>
        obtain ⟨f, hfind, -⟩ := hshape.strings key hstring
        exact ⟨f, hfind⟩
      | inr hother => exact Option.isSome_iff_exists.1 (hshape.others key hother)
    obtain ⟨f, hfind⟩ := hfind
    exact absurd (h.count_le hfind) (by omega)
  | notString string member other =>
    obtain ⟨f, hfind, store, hread⟩ := hshape.strings _ string
    obtain ⟨a, b, haccepts⟩ := h.values _ member f hfind
    rw [hread] at haccepts
    exact Reader.refuses_text.map (store a) (hvalues _ member) other haccepts

end Members

theorem refuses_spoilt (hspec : spec.Careful) (hshape : spec.HasShape shape) :
    spec.reader.Refuses shape.Spoils := by
  rintro cs a hvalue ⟨members, hobject, hvalues, hmisses⟩ ⟨pre, rest, more, hpre, -, hread⟩
  have hmembers := (reader_accepts hspec hpre hvalue hread).2 members hobject hvalues
  exact hmembers.not_misses hshape hvalues hmisses

end Record

end AccessBaseline.Json
