import AccessBaseline.Json.Document

/-! Readers for values of a fixed shape: scalars, lists, maps, and records, which are written as an
object or as the list of their fields. -/
namespace AccessBaseline.Json

namespace Reader

def numberFound : Json.Number → Found
  | .integer n => .integer n
  | .fraction x => .fraction x

/-- Refuses the value that starts with `c`. A scalar is read first; a list or an object is not. -/
def wrongType (c : Char) (expected : String) : Reader α :=
  let refuseFound (found : Found) : Reader α := refuse (.wrongType found expected)
  match c with
  | 'n' => do drop1; word ['u', 'l', 'l']; refuseFound .null
  | 't' => do drop1; word ['r', 'u', 'e']; refuseFound (.bool true)
  | 'f' => do drop1; word ['a', 'l', 's', 'e']; refuseFound (.bool false)
  | '-' => do drop1; refuseFound (numberFound (← number false))
  | '"' => do drop1; refuseFound (.string (← stringBody))
  | '[' => refuseFound .sequence
  | '\x7b' => refuseFound .map
  | c => if c.isDigit then do refuseFound (numberFound (← number true)) else failAhead .expectedValue

def string (expected : String) : Reader String := placed do
  match ← peekValue with
  | '"' => do drop1; stringBody
  | c => wrongType c expected

def text : Reader String := string "a string"

def bool : Reader Bool := placed do
  match ← peekValue with
  | 't' => do drop1; word ['r', 'u', 'e']; pure true
  | 'f' => do drop1; word ['a', 'l', 's', 'e']; pure false
  | c => wrongType c "a boolean"

def unit : Reader Unit := placed do
  match ← peekValue with
  | 'n' => do drop1; word ['u', 'l', 'l']
  | c => wrongType c "unit"

def optional (r : Reader α) : Reader (Option α) := do
  match ← peek? with
  | some 'n' => do drop1; word ['u', 'l', 'l']; pure none
  | _ => some <$> r

def list (item : Reader α) : Reader (List α) := placed do
  match ← peekValue with
  | '[' => listOf item
  | c => wrongType c "a sequence"

/-- Puts a value under a key: where the key stood already, or at the end. -/
def putKey (key : String) (a : α) : List (String × α) → List (String × α)
  | [] => [(key, a)]
  | (k, b) :: rest => if k == key then (k, a) :: rest else (k, b) :: putKey key a rest

/-- A map in the order in which its keys first occur, with the value that each had last. -/
def map (value : Reader α) : Reader (List (String × α)) := placed do
  match ← peekValue with
  | '\x7b' => do
    return (← membersOf value).foldl (fun done m => putKey m.1 m.2 done) []
  | c => wrongType c "a map"

def accepted (r : Reader α) (accept : α → Except String β) : Reader β := do
  match accept (← r) with
  | .ok b => pure b
  | .error reason => fun rest => (.error (.rejecting reason), rest)

/-- A string that names one of some variants, either alone or as the only key of an object whose
value is `null`. -/
def variant (variants : List (String × α)) : Reader α := do
  let name : Reader α := placed do
    let s ← string "variant identifier"
    match variants.lookup s with
    | some a => pure a
    | none => refuse (.unknownVariant s (variants.map (·.1)))
  match ← peek? with
  | none => failAhead .endOfValue
  | some '"' => name
  | some '\x7b' => do
    drop1
    let a ← name
    colon
    unit
    match ← peek? with
    | none => fail .endOfObject
    | some '\x7d' => do drop1; pure a
    | some _ => fail .expectedValue
  | some _ => failAhead .expectedValue

end Reader

/-- One field of a record: its name, a second name for it, and how its value is read into the
record. A field that is not required keeps the value of the blank record. -/
structure Field (α : Type) where
  name : String
  alias? : Option String := none
  isRequired : Bool
  read : α → Reader α

structure Record (α : Type) where
  title : String
  fields : List (Field α)
  blank : α

namespace Field

def answersTo (f : Field α) (key : String) : Bool := f.name == key || f.alias? == some key

def required (name : String) (r : Reader β) (store : α → β → α) : Field α :=
  { name := name, isRequired := true, read := fun a => store a <$> r }

def defaulted (name : String) (r : Reader β) (store : α → β → α) : Field α :=
  { name := name, isRequired := false, read := fun a => store a <$> r }

end Field

namespace Record

def expected (spec : Record α) : String := "struct " ++ spec.title

def expectedLength (spec : Record α) : String :=
  let n := spec.fields.length
  spec.expected ++ " with " ++ toString n ++ (if n = 1 then " element" else " elements")

/-- The first required field that is not among the names seen. -/
def missing? (spec : Record α) (seen : List String) : Option String :=
  (spec.fields.find? fun f => f.isRequired && !seen.contains f.name).map (·.name)

def readMembers (spec : Record α) : Nat → Bool → List String → α → Reader α
  | 0, _, _, _ => Reader.failAhead .endOfObject
  | fuel + 1, first, seen, a => do
    match ← Reader.nextKey? first with
    | none =>
      match spec.missing? seen with
      | some name => Reader.refuse (.missingField name)
      | none => pure a
    | some key =>
      match spec.fields.find? (·.answersTo key) with
      | none => do
        Reader.colon
        Reader.skipValue
        readMembers spec fuel false seen a
      | some f =>
        if seen.contains f.name then Reader.refuse (.duplicateField f.name)
        else do
          Reader.colon
          readMembers spec fuel false (f.name :: seen) (← f.read a)

/-- The fields in their order, as items of a list; `index` of them were read. -/
def readItems (spec : Record α) : List (Field α) → Nat → Bool → α → Reader α
  | [], _, _, a => pure a
  | f :: fields, index, first, a => do
    if ← Reader.nextItem first then
      readItems spec fields (index + 1) false (← f.read a)
    else if f.isRequired then Reader.refuse (.wrongLength index spec.expectedLength)
    else readItems spec fields (index + 1) first a

def reader (spec : Record α) : Reader α := Reader.placed do
  match ← Reader.peekValue with
  | '[' => do
    Reader.drop1
    Reader.enclosed (spec.readItems spec.fields 0 true spec.blank) Reader.closeList
  | '\x7b' => do
    Reader.drop1
    Reader.enclosed (do spec.readMembers (← Reader.fuel) true [] spec.blank) Reader.closeObject
  | c => Reader.wrongType c spec.expected

end Record

end AccessBaseline.Json
