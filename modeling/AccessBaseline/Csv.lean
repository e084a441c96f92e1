/-! Tables as text: a record a line, fields between semicolons, quoted where they hold a character
that has a meaning of its own. All records have as many fields as the first. -/
namespace AccessBaseline.Csv

structure Fault where
  found : Nat
  expected : Nat
  deriving DecidableEq

def Fault.message (f : Fault) : String :=
  "CSV error: found record with " ++ toString f.found ++
    " fields, but the previous record has " ++ toString f.expected ++ " fields"

def isSpecial (c : Char) : Bool := c == ';' || c == '"' || c == '\r' || c == '\n'

def quoteChar (c : Char) : List Char := if c = '"' then ['"', '"'] else [c]

def quoted (cs : List Char) : List Char := '"' :: cs.flatMap quoteChar ++ ['"']

def field (cell : String) : List Char :=
  if cell.toList.any isSpecial then quoted cell.toList else cell.toList

def moreFields : List String → List Char
  | [] => ['\n']
  | cell :: cells => ';' :: field cell ++ moreFields cells

/-- One record. An empty field that stands alone is quoted, so that its line is not blank. -/
def record : List String → List Char
  | [] | [""] => ['"', '"', '\n']
  | cell :: cells => field cell ++ moreFields cells

def render (header : List String) (rows : List (List String)) : List Char :=
  record header ++ rows.flatMap record

def write (header : List String) (rows : List (List String)) : Except Fault String :=
  match rows.find? (·.length ≠ header.length) with
  | some row => .error ⟨row.length, header.length⟩
  | none => .ok (String.ofList (render header rows))

theorem write_of_lengths {header : List String} {rows : List (List String)}
    (h : ∀ row ∈ rows, row.length = header.length) :
    write header rows = .ok (String.ofList (render header rows)) := by
  have hnone : rows.find? (·.length ≠ header.length) = none := by simpa using h
  rw [write, hnone]

theorem write_isOk_iff (header : List String) (rows : List (List String)) :
    (write header rows).isOk ↔ ∀ row ∈ rows, row.length = header.length := by
  refine ⟨fun hok row hm => ?_, fun h => by rw [write_of_lengths h]; rfl⟩
  unfold write at hok
  split at hok
  · exact nomatch hok
  · next hnone =>
    simp only [List.find?_eq_none, decide_eq_true_eq, Decidable.not_not] at hnone
    exact hnone row hm

end AccessBaseline.Csv
