import AccessBaseline.Json.Value
import AccessBaseline.Text.Quoted

/-! Why a JSON text is refused, and where. A fault is located by the bytes left unread, so that no
reader has to count lines; line and column are worked out at the end from the whole text. -/
namespace AccessBaseline.Json

inductive Found where
  | null
  | bool (b : Bool)
  | integer (n : Int)
  | fraction (x : Number.Binary64)
  | string (s : String)
  | sequence
  | map

inductive Cause where
  | endOfList
  | endOfObject
  | endOfString
  | endOfValue
  | expectedColon
  | expectedItem
  | expectedMember
  | expectedWord
  | expectedValue
  | invalidEscape
  | invalidNumber
  | numberTooLarge
  | controlCharacter
  | keyNotString
  | loneSurrogate
  | halfSurrogatePair
  | trailingComma
  | trailingCharacters
  | tooDeep
  | wrongType (found : Found) (expected : String)
  | wrongLength (length : Nat) (expected : String)
  | missingField (name : String)
  | duplicateField (name : String)
  | unknownVariant (name : String) (variants : List String)
  | rejected (reason : String)

inductive Category where
  | syntactic
  | data
  | endOfText
  deriving DecidableEq

def Found.text : Found → String
  | null => "null"
  | bool b => "boolean `" ++ toString b ++ "`"
  | integer n => "integer `" ++ toString n ++ "`"
  | fraction x => "floating point `" ++ x.text ++ "`"
  | string s => "string " ++ Text.quoted s
  | sequence => "sequence"
  | map => "map"

def Found.ofJson : Json → Found
  | .null => .null
  | .bool b => .bool b
  | .number (.integer n) => .integer n
  | .number (.fraction x) => .fraction x
  | .string s => .string s
  | .array _ => .sequence
  | .object _ => .map

def Cause.text : Cause → String
  | endOfList => "EOF while parsing a list"
  | endOfObject => "EOF while parsing an object"
  | endOfString => "EOF while parsing a string"
  | endOfValue => "EOF while parsing a value"
  | expectedColon => "expected `:`"
  | expectedItem => "expected `,` or `]`"
  | expectedMember => "expected `,` or `\x7d`"
  | expectedWord => "expected ident"
  | expectedValue => "expected value"
  | invalidEscape => "invalid escape"
  | invalidNumber => "invalid number"
  | numberTooLarge => "number out of range"
  | controlCharacter => "control character (\\u0000-\\u001F) found while parsing a string"
  | keyNotString => "key must be a string"
  | loneSurrogate => "lone leading surrogate in hex escape"
  | halfSurrogatePair => "unexpected end of hex escape"
  | trailingComma => "trailing comma"
  | trailingCharacters => "trailing characters"
  | tooDeep => "recursion limit exceeded"
  | wrongType found expected => "invalid type: " ++ found.text ++ ", expected " ++ expected
  | wrongLength n expected => "invalid length " ++ toString n ++ ", expected " ++ expected
  | missingField name => "missing field `" ++ name ++ "`"
  | duplicateField name => "duplicate field `" ++ name ++ "`"
  | unknownVariant name variants =>
    "unknown variant `" ++ name ++ "`, expected one of " ++
      ", ".intercalate (variants.map fun v => "`" ++ v ++ "`")
  | rejected reason => reason

def Cause.category : Cause → Category
  | endOfList | endOfObject | endOfString | endOfValue => .endOfText
  | wrongType .. | wrongLength .. | missingField _ | duplicateField _ | unknownVariant ..
  | rejected _ => .data
  | _ => .syntactic

/-- Where a fault lies: not known yet, before the last `n` bytes of the text, or at a line and
column that the reason itself names. -/
inductive Place where
  | unknown
  | bytesLeft (n : Nat)
  | stated (line column : Nat)

structure Fault where
  cause : Cause
  place : Place

structure Error where
  cause : Cause
  position : Option (Nat × Nat)

def Error.message (e : Error) : String :=
  match e.position with
  | none => e.cause.text
  | some (line, column) =>
    e.cause.text ++ " at line " ++ toString line ++ " column " ++ toString column

def Error.category (e : Error) : Category := e.cause.category

def lineAndColumn (bytes : List UInt8) : Nat × Nat :=
  (bytes.count 10 + 1, (bytes.reverse.takeWhile (· != 10)).length)

def Fault.inText (f : Fault) (text : String) : Error :=
  match f.place with
  | .unknown => ⟨f.cause, none⟩
  | .bytesLeft n =>
    let bytes := text.toUTF8.toList
    ⟨f.cause, some (lineAndColumn (bytes.take (bytes.length - n)))⟩
  | .stated line column => ⟨f.cause, some (line, column)⟩

/-- A reason that ends in a line and a column, as in `… at line 3 column 4`, is split from them. -/
def splitPosition (reason : String) : Option (String × Nat × Nat) :=
  let column := (reason.toList.reverse.takeWhile Char.isDigit).reverse
  let beforeColumn := reason.toList.take (reason.length - column.length)
  let columnWord := " column ".toList
  let lineWord := " at line ".toList
  if column.isEmpty || !columnWord.isSuffixOf beforeColumn then none
  else
    let rest := beforeColumn.take (beforeColumn.length - columnWord.length)
    let line := (rest.reverse.takeWhile Char.isDigit).reverse
    let beforeLine := rest.take (rest.length - line.length)
    if line.isEmpty || !lineWord.isSuffixOf beforeLine then none
    else
      let message := String.ofList (beforeLine.take (beforeLine.length - lineWord.length))
      match (String.ofList line).toNat?, (String.ofList column).toNat? with
      | some l, some c => if l < wordEnd && c < wordEnd then some (message, l, c) else none
      | _, _ => none

def Fault.rejecting (reason : String) : Fault :=
  match splitPosition reason with
  | none => ⟨.rejected reason, .unknown⟩
  | some (message, 0, _) => ⟨.rejected message, .unknown⟩
  | some (message, line, column) => ⟨.rejected message, .stated line column⟩

end AccessBaseline.Json
