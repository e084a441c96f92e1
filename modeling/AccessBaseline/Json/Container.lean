import AccessBaseline.Json.NumberReader

/-! The brackets, commas and colons of lists and objects, and the skipping of a value whose content
nobody asks for. -/
namespace AccessBaseline.Json.Reader

def nextItem (first : Bool) : Reader Bool := do
  match ← peek? with
  | none => failAhead .endOfList
  | some ']' => pure false
  | some c =>
    if first then pure true
    else if c == ',' then do
      drop1
      match ← peek? with
      | none => failAhead .endOfValue
      | some ']' => failAhead .trailingComma
      | some _ => pure true
    else failAhead .expectedItem

def closeList : Reader Unit := do
  match ← peek? with
  | none => failAhead .endOfList
  | some ']' => drop1
  | some ',' => do
    drop1
    match ← peek? with
    | some ']' => failAhead .trailingComma
    | _ => failAhead .trailingCharacters
  | some _ => failAhead .trailingCharacters

def nextKey? (first : Bool) : Reader (Option String) := do
  match ← peek? with
  | none => failAhead .endOfObject
  | some '\x7d' => pure none
  | some c =>
    if first then
      if c == '"' then do drop1; some <$> stringBody else failAhead .keyNotString
    else if c == ',' then do
      drop1
      match ← peek? with
      | none => failAhead .endOfValue
      | some '"' => do drop1; some <$> stringBody
      | some '\x7d' => failAhead .trailingComma
      | some _ => failAhead .keyNotString
    else failAhead .expectedMember

def colon : Reader Unit := do
  match ← peek? with
  | none => failAhead .endOfObject
  | some ':' => drop1
  | some _ => failAhead .expectedColon

def closeObject : Reader Unit := do
  match ← peek? with
  | none => failAhead .endOfObject
  | some '\x7d' => drop1
  | some ',' => failAhead .trailingComma
  | some _ => failAhead .trailingCharacters

/-- Reads what stands between brackets and then the closing one, also when the first failed; of two
faults the first counts. -/
def enclosed (body : Reader α) (close : Reader Unit) : Reader α := fun cs =>
  let (a, rest) := body cs
  let (b, rest) := close rest
  match a, b with
  | .ok a, .ok _ => (.ok a, rest)
  | .error f, _ => (.error f, rest)
  | .ok _, .error f => (.error f, rest)

/-- The items of a list. Each takes a character at least, so `fuel` as long as the text suffices. -/
def items (item : Reader α) : Nat → Bool → Reader (List α)
  | 0, _ => failAhead .endOfList
  | fuel + 1, first => do
    if ← nextItem first then
      let a ← item
      (a :: ·) <$> items item fuel false
    else pure []

def members (value : Reader α) : Nat → Bool → Reader (List (String × α))
  | 0, _ => failAhead .endOfObject
  | fuel + 1, first => do
    match ← nextKey? first with
    | none => pure []
    | some key => do
      colon
      let a ← value
      ((key, a) :: ·) <$> members value fuel false

def fuel : Reader Nat := do return (← get).length + 1

def listOf (item : Reader α) : Reader (List α) := do
  drop1
  enclosed (do items item (← fuel) true) closeList

def membersOf (value : Reader α) : Reader (List (String × α)) := do
  drop1
  enclosed (do members value (← fuel) true) closeObject

inductive Bracket where
  | list
  | object
  deriving DecidableEq

def Bracket.closing : Bracket → Char
  | list => ']'
  | object => '\x7d'

def Bracket.missingComma : Bracket → Cause
  | list => .expectedItem
  | object => .expectedMember

def Bracket.unclosed : Bracket → Cause
  | list => .endOfList
  | object => .endOfObject

/-- What comes next inside the innermost open bracket: a value, anything but a comma, or anything
but a value. -/
inductive SkipState where
  | value
  | opened
  | filled

def skipKey : Bracket → Reader Unit
  | .list => pure ()
  | .object => do
    match ← peek? with
    | none => failAhead .endOfObject
    | some '"' => do drop1; skipStringBody; colon
    | some _ => failAhead .keyNotString

/-- Skips until every open bracket is closed. No two steps in a row leave the text as it is. -/
def skipOpen : Nat → SkipState → List Bracket → Reader Unit
  | 0, _, _ => failAhead .endOfValue
  | fuel + 1, .value, stack => do
    match ← peekValue with
    | 'n' => do drop1; word ['u', 'l', 'l']; skipOpen fuel .filled stack
    | 't' => do drop1; word ['r', 'u', 'e']; skipOpen fuel .filled stack
    | 'f' => do drop1; word ['a', 'l', 's', 'e']; skipOpen fuel .filled stack
    | '-' => do drop1; skipNumber; skipOpen fuel .filled stack
    | '"' => do drop1; skipStringBody; skipOpen fuel .filled stack
    | '[' => do drop1; skipOpen fuel .opened (.list :: stack)
    | '\x7b' => do drop1; skipOpen fuel .opened (.object :: stack)
    | c =>
      if c.isDigit then do skipNumber; skipOpen fuel .filled stack
      else failAhead .expectedValue
  | _ + 1, _, [] => pure ()
  | fuel + 1, .opened, bracket :: stack => do
    match ← peek? with
    | none => failAhead bracket.unclosed
    | some c =>
      if c == bracket.closing then do drop1; skipOpen fuel .filled stack
      else do skipKey bracket; skipOpen fuel .value (bracket :: stack)
  | fuel + 1, .filled, bracket :: stack => do
    match ← peek? with
    | none => failAhead bracket.unclosed
    | some c =>
      if c == ',' then do drop1; skipKey bracket; skipOpen fuel .value (bracket :: stack)
      else if c == bracket.closing then do drop1; skipOpen fuel .filled stack
      else failAhead bracket.missingComma

def skipValue : Reader Unit := do skipOpen (2 * (← fuel)) .value []

end AccessBaseline.Json.Reader
