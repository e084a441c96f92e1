import AccessBaseline.Call
import AccessBaseline.Proofs.Json.TextFields

/-! The entries of listings and their texts. An entry is read from its members in any order and among others,
and refused when it is not of its shape; a listing is accepted only when each of its items is read as an
entry. -/
namespace AccessBaseline
open Json (TextField Part RecordText ListText StringText Shape ObjectText IsValue HasItem HasMember)
open Json.Record (takes_recordText fits_required fits_defaulted valueAfter valueAfter_of_seen)
open Json.Reader (takes_text takes_listText exact_text exact_list)

namespace Role

def parts (role : Role) : List Part :=
  [⟨"id", StringText role.id, False⟩, ⟨"name", StringText role.name, False⟩,
    ⟨"type", StringText role.scope, role.scope = ""⟩]

def texts : List (TextField Role) :=
  [⟨"id", true, id, fun r s => { r with id := s }⟩, ⟨"name", true, name, fun r s => { r with name := s }⟩,
    ⟨"type", false, scope, fun r s => { r with scope := s }⟩]

theorem ofTexts : record.OfTexts texts where
  fields := rfl
  distinct := by decide
  blank := by simp [texts, record]
  get_store := by simp [texts]
  ext := by
    rintro ⟨⟩ ⟨⟩ h
    simpa [texts] using h

def shape : Shape := ⟨["id", "name"], ["id", "name", "type"], []⟩

end Role

namespace Permission

def parts (p : Permission) : List Part :=
  [⟨"namespace", StringText p.space, False⟩, ⟨"permission", StringText p.name, False⟩,
    ⟨"type", StringText p.scope, p.scope = ""⟩, ⟨"resource", StringText p.resource, p.resource = ""⟩]

def texts : List (TextField Permission) :=
  [⟨"namespace", true, space, fun p s => { p with space := s }⟩,
    ⟨"permission", true, name, fun p s => { p with name := s }⟩,
    ⟨"type", false, scope, fun p s => { p with scope := s }⟩,
    ⟨"resource", false, resource, fun p s => { p with resource := s }⟩]

theorem ofTexts : record.OfTexts texts where
  fields := rfl
  distinct := by decide
  blank := by simp [texts, record]
  get_store := by simp [texts]
  ext := by
    rintro ⟨⟩ ⟨⟩ h
    simpa [texts] using h

def shape : Shape := ⟨["namespace", "permission"], ["namespace", "permission", "type", "resource"], []⟩

end Permission

namespace Assignment

def parts (a : Assignment) : List Part :=
  [⟨"roleId", StringText a.roleId, False⟩,
    ⟨"assignedEntityType", StringText a.holderKind, a.holderKind = ""⟩,
    ⟨"assignedEntityId", StringText a.holderId, a.holderId = ""⟩,
    ⟨"type", StringText a.scope, a.scope = ""⟩, ⟨"resource", StringText a.resource, a.resource = ""⟩]

def texts : List (TextField Assignment) :=
  [⟨"roleId", true, roleId, fun a s => { a with roleId := s }⟩,
    ⟨"assignedEntityType", false, holderKind, fun a s => { a with holderKind := s }⟩,
    ⟨"assignedEntityId", false, holderId, fun a s => { a with holderId := s }⟩,
    ⟨"type", false, scope, fun a s => { a with scope := s }⟩,
    ⟨"resource", false, resource, fun a s => { a with resource := s }⟩]

theorem ofTexts : record.OfTexts texts where
  fields := rfl
  distinct := by decide
  blank := by simp [texts, record]
  get_store := by simp [texts]
  ext := by
    rintro ⟨⟩ ⟨⟩ h
    simpa [texts] using h

def shape : Shape :=
  ⟨["roleId"], ["roleId", "assignedEntityType", "assignedEntityId", "type", "resource"], []⟩

end Assignment

namespace Group
variable {g : Group} {cs : List Char}

def memberParts (user : String) : List Part := [⟨"userId", StringText user, False⟩]

def memberTexts : List (TextField String) := [⟨"userId", true, fun user => user, fun _ s => s⟩]

theorem memberOfTexts : memberRecord.OfTexts memberTexts where
  fields := rfl
  distinct := by decide
  blank := by simp [memberTexts, memberRecord]
  get_store := by simp [memberTexts]
  ext := by
    intro user user' h
    simpa [memberTexts] using h

def memberShape : Shape := ⟨["userId"], ["userId"], []⟩

def parts (g : Group) : List Part :=
  [⟨"id", StringText g.id, False⟩, ⟨"name", StringText g.name, False⟩,
    ⟨"members", ListText (fun user => RecordText (memberParts user)) g.members, g.members = []⟩]

def after (g : Group) (seen : List String) : Group :=
  ⟨valueAfter seen "id" g.id "", valueAfter seen "name" g.name "",
    valueAfter seen "members" g.members []⟩

theorem takes_record (h : RecordText g.parts cs) : record.reader.Takes cs g := by
  have hmembers (cs : List Char) (h : ListText (fun user => RecordText (memberParts user)) g.members cs) :
      (Json.Reader.list memberRecord.reader).Takes cs g.members :=
    takes_listText h fun _ _ _ => memberOfTexts.takes
  refine takes_recordText h (show g.after [] = _ from rfl)
    (.cons (fits_required (fun _ => takes_text) fun seen => ?_)
      (.cons (fits_required (fun _ => takes_text) fun seen => ?_)
        (.cons (fits_defaulted hmembers (fun seen => ?_) _) .nil))) fun seen hseen => ?_
  · simp [after, valueAfter]
  · simp [after, valueAfter]
  · simp [after, valueAfter]
  · simp only [parts, List.forall_mem_cons, or_false] at hseen
    simp [after, valueAfter_of_seen, hseen]

theorem careful_record : record.Careful := by
  intro f hf g
  simp only [record, List.mem_cons, List.not_mem_nil, or_false] at hf
  rcases hf with rfl | rfl | rfl
  · exact exact_text.map _
  · exact exact_text.map _
  · exact (exact_list (Json.Record.exact_reader memberOfTexts.careful)).map _

def shape : Shape := ⟨["id", "name"], ["id", "name"], ["members"]⟩

theorem hasShape_record : record.HasShape shape where
  unaliased := by decide
  required := by decide
  strings := by
    simp only [shape, List.forall_mem_cons]
    exact ⟨⟨_, rfl, _, rfl⟩, ⟨_, rfl, _, rfl⟩, by simp⟩
  others := by decide

/-- Whether a text is that of a group, or of one of its members, that is not of its shape. -/
def IsSpoilt (cs : List Char) : Prop := shape.Spoils cs ∨ HasMember "members" (HasItem memberShape.Spoils) cs

theorem refuses_spoilt : record.reader.Refuses IsSpoilt := by
  rintro cs g hvalue (hgroup | hmember)
  · exact Json.Record.refuses_spoilt careful_record hasShape_record hvalue hgroup
  · have hmembers : (Json.Reader.list memberRecord.reader).Refuses (HasItem memberShape.Spoils) :=
      (Json.Record.refuses_spoilt memberOfTexts.careful memberOfTexts.hasShape).list
        (Json.Record.exact_reader memberOfTexts.careful)
    exact Json.Record.refuses_member careful_record rfl (fun _ => hmembers.map _) hvalue hmember

end Group

namespace Capability

def parts (c : Capability) : List Part :=
  [⟨"id", StringText c.id, False⟩, ⟨"status", StringText c.status, c.status = ""⟩,
    ⟨"jsonMetadata", StringText c.metadata, c.metadata = ""⟩]

def texts : List (TextField Capability) :=
  [⟨"id", true, id, fun c s => { c with id := s }⟩,
    ⟨"status", false, status, fun c s => { c with status := s }⟩,
    ⟨"jsonMetadata", false, metadata, fun c s => { c with metadata := s }⟩]

theorem ofTexts : record.OfTexts texts where
  fields := rfl
  distinct := by decide
  blank := by simp [texts, record]
  get_store := by simp [texts]
  ext := by
    rintro ⟨⟩ ⟨⟩ h
    simpa [texts] using h

def shape : Shape := ⟨["id"], ["id", "status", "jsonMetadata"], []⟩

end Capability

namespace CapabilityMember

def parts (m : CapabilityMember) : List Part :=
  [⟨"id", StringText m.id, False⟩, ⟨"email", StringText m.email, m.email = ""⟩]

def texts : List (TextField CapabilityMember) :=
  [⟨"id", true, id, fun m s => { m with id := s }⟩,
    ⟨"email", false, email, fun m s => { m with email := s }⟩]

theorem ofTexts : record.OfTexts texts where
  fields := rfl
  distinct := by decide
  blank := by simp [texts, record]
  get_store := by simp [texts]
  ext := by
    rintro ⟨⟩ ⟨⟩ h
    simpa [texts] using h

def shape : Shape := ⟨["id"], ["id", "email"], []⟩

end CapabilityMember

namespace Envelope
variable {α : Type} {item : Json.Reader α} {cs : List Char}

def listKeys : List String := ["Items", "items"]

/-- The text of an envelope: its list stands under one of the keys, or is left out when it is empty, among any
other members. -/
def IsText (IsItem : α → List Char → Prop) (as : List α) (cs : List Char) : Prop :=
  ∃ members, ObjectText members cs ∧
    (as = [] ∧ members.filter (·.1 ∈ listKeys) = [] ∨
      ∃ key text, ListText IsItem as text ∧ members.filter (·.1 ∈ listKeys) = [(key, text)]) ∧
    ∀ m ∈ members, m.1 ∉ listKeys → IsValue m.2

/-- Whether a text is that of an envelope with two lists or with a spoilt item. -/
inductive IsSpoilt (IsSpoiltItem : List Char → Prop) (cs : List Char) : Prop
  | twice {members : List (String × List Char)} (object : ObjectText members cs)
      (values : ∀ m ∈ members, IsValue m.2) (twice : 2 ≤ members.countP (·.1 ∈ listKeys))
  | item {key : String} (known : key ∈ listKeys) (item : HasMember key (HasItem IsSpoiltItem) cs)

theorem IsSpoilt.isValue {P : List Char → Prop} (h : IsSpoilt P cs) : IsValue cs := by
  cases h with
  | twice object values => exact .object object values
  | item _ hitem => exact hitem.isValue

theorem find?_of_mem {key : String} (h : key ∈ listKeys) :
    (record item).fields.find? (·.answersTo key) =
      some ⟨"Items", some "items", false, fun _ => .list item⟩ := by
  simp only [listKeys, List.mem_cons, List.not_mem_nil, or_false] at h
  obtain rfl | rfl := h <;> rfl

theorem find?_of_not_mem {key : String} (h : key ∉ listKeys) :
    (record item).fields.find? (·.answersTo key) = none := by
  simp only [listKeys, List.mem_cons, List.not_mem_nil, or_false, not_or] at h
  simp [record, Json.Field.answersTo, Ne.symm h.1, Ne.symm h.2]

theorem takes_record {IsItem : α → List Char → Prop} {as : List α} (h : IsText IsItem as cs)
    (hitem : ∀ a cs, IsItem a cs → item.Takes cs a) : (record item).reader.Takes cs as := by
  obtain ⟨members, hobject, hlist, hothers⟩ := h
  have hother (ms : List (String × List Char)) (hms : ∀ m ∈ ms, m ∈ members ∧ m.1 ∉ listKeys) :
      ∀ m ∈ ms, (record item).fields.find? (·.answersTo m.1) = none ∧ IsValue m.2 := fun m hm =>
    ⟨find?_of_not_mem (hms m hm).2, hothers m (hms m hm).1 (hms m hm).2⟩
  refine Json.Record.takes_object ?_ hobject
  obtain ⟨rfl, hnone⟩ | ⟨key, text, htext, hone⟩ := hlist
  · have hunknown : ∀ m ∈ members, m ∈ members ∧ m.1 ∉ listKeys := fun m hm =>
      ⟨hm, by simpa using List.filter_eq_nil_iff.1 hnone m hm⟩
    rw [← List.append_nil members]
    exact Json.Record.Assembles.behind (.done rfl) (hother members hunknown)
  · obtain ⟨before, after, rfl, hbefore, hkey, hafter⟩ := List.filter_eq_cons_iff.1 hone
    have hfront : ∀ m ∈ before, m ∈ before ++ (key, text) :: after ∧ m.1 ∉ listKeys := fun m hm =>
      ⟨List.mem_append_left _ hm, by simpa using hbefore m hm⟩
    have hback : ∀ m ∈ after, m ∈ before ++ (key, text) :: after ∧ m.1 ∉ listKeys := fun m hm =>
      ⟨by simp [hm], by simpa using List.filter_eq_nil_iff.1 hafter m hm⟩
    have htakes : (Json.Reader.list item).Takes text as := takes_listText htext fun a _ cs => hitem a cs
    refine Json.Record.Assembles.behind ?_ (hother before hfront)
    refine .member (find?_of_mem (by simpa using hkey)) (by simp) htakes ?_
    rw [← List.append_nil after]
    exact Json.Record.Assembles.behind (.done rfl) (hother after hback)

theorem careful_record (h : item.Exact) : (record item).Careful := by
  intro f hf as
  simp only [record, List.mem_singleton] at hf
  obtain rfl := hf
  exact exact_list h

theorem refuses_spoilt {P : List Char → Prop} (hexact : item.Exact) (h : item.Refuses P) :
    (record item).reader.Refuses (IsSpoilt P) := by
  rintro cs as hvalue hspoilt haccepts
  cases hspoilt with
  | @twice members object values twice =>
    obtain ⟨pre, rest, more, hpre, -, hread⟩ := haccepts
    have hmembers :=
      (Json.Record.reader_accepts (careful_record hexact) hpre hvalue hread).2 members object values
    have hone := hmembers.countP_le "Items"
    have hmono : members.countP (·.1 ∈ listKeys) ≤ members.countP fun m =>
        ((record item).fields.find? (·.answersTo m.1)).map (·.name) == some "Items" := by
      refine List.countP_mono_left fun m _ hm => ?_
      rw [find?_of_mem (by simpa using hm)]
      rfl
    omega
  | item known hitem =>
    exact Json.Record.refuses_member (careful_record hexact) (find?_of_mem known) (fun _ => h.list hexact)
      hvalue hitem haccepts

end Envelope

end AccessBaseline
