import AccessBaseline.Json.Container

/-! Reading any JSON value, and reading a whole text. -/
namespace AccessBaseline.Json

namespace Reader

/-- A value whose items and members are read by `inner`, or which must have none. -/
def valueOver (inner : Option (Reader Json)) : Reader Json := do
  match ← peekValue with
  | 'n' => do drop1; word ['u', 'l', 'l']; pure .null
  | 't' => do drop1; word ['r', 'u', 'e']; pure (.bool true)
  | 'f' => do drop1; word ['a', 'l', 's', 'e']; pure (.bool false)
  | '-' => do drop1; .number <$> number false
  | '"' => do drop1; .string <$> stringBody
  | '[' =>
    match inner with
    | none => failAhead .tooDeep
    | some item => .array <$> listOf item
  | '\x7b' =>
    match inner with
    | none => failAhead .tooDeep
    | some item => .object <$> membersOf item
  | c => if c.isDigit then .number <$> number true else failAhead .expectedValue

def value : Nat → Reader Json
  | 0 => valueOver none
  | depth + 1 => valueOver (some (value depth))

def nestingLimit : Nat := 127

def finish : Reader Unit := do
  match ← peek? with
  | none => pure ()
  | some _ => failAhead .trailingCharacters

end Reader

def decode (r : Reader α) (text : String) : Except Error α :=
  match (do let a ← r; Reader.finish; pure a : Reader α) text.toList with
  | (.ok a, _) => .ok a
  | (.error f, _) => .error (f.inText text)

def parse (text : String) : Except Error Json := decode (Reader.value Reader.nestingLimit) text

end AccessBaseline.Json
