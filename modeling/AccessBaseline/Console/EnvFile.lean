import AccessBaseline.Text.Lowercase

/-! Files of variables: a line for each, `NAME=value`, with comments, quotes that may span lines,
escapes, and `$NAME` for the value of another variable. -/
namespace AccessBaseline.Console

abbrev Environment := List (String × String)

namespace EnvFile

def isSpace (c : Char) : Bool :=
  (9 ≤ c.toNat && c.toNat ≤ 13) || (0x2000 ≤ c.toNat && c.toNat ≤ 0x200A) ||
    [0x20, 0x85, 0xA0, 0x1680, 0x2028, 0x2029, 0x202F, 0x205F, 0x3000].contains c.toNat

def isWordChar (c : Char) : Bool := c.isAlphanum || (128 ≤ c.toNat && Text.isCased c)

structure Fault where
  line : List Char
  index : Nat

def Fault.message (f : Fault) : String :=
  "Error parsing line: '" ++ String.ofList f.line ++ "', error at line index: " ++ toString f.index

inductive Scan where
  | plain
  | blank
  | escape
  | single
  | singleEscape
  | double
  | doubleEscape
  | comment
  deriving DecidableEq

def Scan.opened (c : Char) : Scan :=
  if c = '\\' then escape else if c = '"' then double else if c = '\'' then single else plain

def Scan.next (c : Char) : Scan → Scan
  | blank => if c = '#' then comment else opened c
  | plain => if isSpace c && c ≠ '\n' && c ≠ '\r' then blank else opened c
  | escape => plain
  | single => if c = '\\' then singleEscape else if c = '\'' then plain else single
  | singleEscape => single
  | double => if c = '\\' then doubleEscape else if c = '"' then plain else double
  | doubleEscape => double
  | comment => comment

/-- The part of a line before its comment, and where the scan stands behind it. -/
def Scan.line : Scan → List Char → List Char × Scan
  | scan, [] => ([], scan)
  | scan, c :: rest =>
    match scan.next c with
    | comment => ([], comment)
    | scan =>
      let (kept, last) := scan.line rest
      (c :: kept, last)

def physicalLines : List Char → List (List Char)
  | [] => []
  | c :: rest =>
    match c, physicalLines rest with
    | '\n', ls => ['\n'] :: ls
    | c, [] => [[c]]
    | c, l :: ls => (c :: l) :: ls

def withoutLineEnd (cs : List Char) : List Char :=
  match cs.reverse with
  | '\n' :: '\r' :: rest => rest.reverse
  | '\n' :: rest => rest.reverse
  | _ => cs

/-- The entries of a file; one whose quotes stay open to the end is a fault. -/
def entries (before : List Char) (scan : Scan) : List (List Char) → List (Except Fault (List Char))
  | [] => if scan = .plain then [] else [.error ⟨before, (String.ofList before).utf8ByteSize⟩]
  | line :: rest =>
    let whole := before ++ line
    if (whole.dropWhile isSpace).head? = some '#' then .ok [] :: entries [] .plain rest
    else
      match scan.line line with
      | (kept, .comment) => .ok (before ++ kept) :: entries [] .plain rest
      | (_, .plain) => .ok (withoutLineEnd whole) :: entries [] .plain rest
      | (_, scan) => entries whole scan rest

/-- How far a reference to a variable was read: its dollar sign, or also an opening brace. -/
inductive Reference where
  | none
  | bare
  | braced
  deriving DecidableEq

structure ValueState where
  single : Bool := false
  double : Bool := false
  escaped : Bool := false
  ended : Bool := false
  reference : Reference := .none
  name : List Char := []
  output : List Char := []

namespace ValueState

def emit (s : ValueState) (c : Char) : ValueState := { s with output := s.output ++ [c] }

def substitute (env : Environment) (s : ValueState) : ValueState :=
  { s with
    output := s.output ++ ((env.lookup (String.ofList s.name)).getD "").toList
    name := []
    reference := .none }

def refer (env : Environment) (s : ValueState) (c : Char) : ValueState :=
  if isWordChar c then { s with name := s.name ++ [c] }
  else if s.reference = .braced then
    if c = '\x7d' then s.substitute env else { s with name := s.name ++ [c] }
  else if c = '\x7b' && s.name.isEmpty then { s with reference := .braced }
  else
    let s := s.substitute env
    if c = '$' then { s with reference := .bare } else s.emit c

def next (env : Environment) (s : ValueState) (c : Char) : Option ValueState :=
  if s.ended then
    if c = ' ' || c = '\t' then some s else none
  else if s.escaped then
    if c = 'n' then some { s.emit '\n' with escaped := false }
    else if "\\'\"$ ".toList.contains c then some { s.emit c with escaped := false }
    else none
  else if s.single then
    some (if c = '\'' then { s with single := false } else s.emit c)
  else if s.reference ≠ .none then some (s.refer env c)
  else if c = '$' then some { s with reference := .bare }
  else if s.double then
    some (if c = '"' then { s with double := false }
      else if c = '\\' then { s with escaped := true } else s.emit c)
  else if c = '\'' then some { s with single := true }
  else if c = '"' then some { s with double := true }
  else if c = '\\' then some { s with escaped := true }
  else if c = ' ' || c = '\t' then some { s with ended := true }
  else some (s.emit c)

end ValueState

/-- The value that `input` stands for; `rest` is what is left of it from place `i` on. -/
def valueFrom (env : Environment) (input : List Char) (i : Nat) (s : ValueState) :
    List Char → Except Fault String
  | [] =>
    if s.reference = .braced || s.single || s.double then
      .error ⟨input, (String.ofList input).utf8ByteSize - 1⟩
    else .ok (String.ofList (s.substitute env).output)
  | c :: rest =>
    if s.ended && c = '#' then valueFrom env input i s []
    else
      match s.next env c with
      | none => .error ⟨input, i⟩
      | some s => valueFrom env input (i + 1) s rest

def isNameStart (c : Char) : Bool := c.isAlpha || c = '_'

def isNameChar (c : Char) : Bool := c.isAlphanum || c = '_' || c = '.'

def entry? (env : Environment) (line : List Char) : Except Fault (Option (String × String)) := do
  let text := (line.reverse.dropWhile isSpace).reverse
  let place (rest : List Char) : Fault :=
    ⟨line, (String.ofList text).utf8ByteSize - (String.ofList rest).utf8ByteSize⟩
  let name (rest : List Char) : Except Fault (List Char × List Char) :=
    if rest.head?.any isNameStart then
      .ok (rest.takeWhile isNameChar, (rest.dropWhile isNameChar).dropWhile isSpace)
    else .error (place rest)
  let afterEqual (rest : List Char) : Except Fault (List Char) :=
    match rest with
    | '=' :: rest => .ok rest
    | rest => .error (place rest)
  match text.dropWhile isSpace with
  | [] => return none
  | '#' :: _ => return none
  | rest =>
    let (key, rest) ← name rest
    let (key, rest) ←
      if key = "export".toList && rest.head? ≠ some '=' then name rest else pure (key, rest)
    let value := (← afterEqual rest).dropWhile isSpace
    if value.isEmpty || value.head? = some '#' then return some (String.ofList key, "")
    else return some (String.ofList key, ← valueFrom env value 0 {} value)

/-- Adds the variables that are not set yet, up to the first entry that cannot be read. -/
def load (env : Environment) : List (Except Fault (List Char)) → Environment × Option Fault
  | [] => (env, none)
  | .error f :: _ => (env, some f)
  | .ok line :: rest =>
    match entry? env line with
    | .error f => (env, some f)
    | .ok none => load env rest
    | .ok (some (name, value)) =>
      load (if (env.lookup name).isSome then env else env ++ [(name, value)]) rest

end EnvFile

def Environment.extended (env : Environment) (text : String) :
    Environment × Option EnvFile.Fault :=
  let cs := text.toList
  let cs := if cs.head? = some '\uFEFF' then cs.tail else cs
  EnvFile.load env (EnvFile.entries [] .plain (EnvFile.physicalLines cs))

end AccessBaseline.Console
