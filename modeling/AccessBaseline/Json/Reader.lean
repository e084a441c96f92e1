import AccessBaseline.Json.Fault

/-! Readers of JSON text. A reader takes what is left of the text and leaves the rest, also when it
fails: the reader of an enclosing list or object then still looks for its closing bracket, and that
is where a fault without a place of its own is put. -/
namespace AccessBaseline.Json

abbrev Reader := ExceptT Fault (StateM (List Char))

def byteCount (cs : List Char) : Nat := cs.foldl (fun n c => n + c.utf8Size) 0

namespace Reader

def fail (cause : Cause) : Reader α := fun rest => (.error ⟨cause, .bytesLeft (byteCount rest)⟩, rest)

def failAhead (cause : Cause) : Reader α :=
  fun rest => (.error ⟨cause, .bytesLeft (byteCount rest - 1)⟩, rest)

def refuse (cause : Cause) : Reader α := fun rest => (.error ⟨cause, .unknown⟩, rest)

def placed (r : Reader α) : Reader α := fun cs =>
  match r cs with
  | (.error ⟨cause, .unknown⟩, rest) => (.error ⟨cause, .bytesLeft (byteCount rest)⟩, rest)
  | answer => answer

def drop1 : Reader Unit := modify List.tail

def next? : Reader (Option Char) := do return (← get).head?

def isBlank (c : Char) : Bool := c == ' ' || c == '\n' || c == '\t' || c == '\r'

def peek? : Reader (Option Char) := do
  modify (List.dropWhile isBlank)
  next?

def peekValue : Reader Char := do
  match ← peek? with
  | none => failAhead .endOfValue
  | some c => pure c

def word : List Char → Reader Unit
  | [] => pure ()
  | c :: cs => do
    match ← next? with
    | none => fail .endOfValue
    | some d => if c == d then do drop1; word cs else failAhead .expectedWord

end Reader

/-- Where the scan of a string stands: between characters, behind a backslash, in the digits of an
escape by number, or before the second half of a surrogate pair whose first is `lead`. -/
inductive StringState where
  | plain
  | escaped
  | digits (count value : Nat) (lead : Option Nat)
  | second (lead : Nat)
  | secondEscape (lead : Nat)

def isLeadSurrogate (n : Nat) : Bool := 0xD800 ≤ n && n ≤ 0xDBFF

def isTrailSurrogate (n : Nat) : Bool := 0xDC00 ≤ n && n ≤ 0xDFFF

def hexValue? (c : Char) : Option Nat :=
  if c.isDigit then some (c.toNat - 48)
  else if 'a' ≤ c && c ≤ 'f' then some (c.toNat - 87)
  else if 'A' ≤ c && c ≤ 'F' then some (c.toNat - 55)
  else none

def shortEscape? (c : Char) : Option Char :=
  if c = '"' || c = '\\' || c = '/' then some c
  else if c = 'b' then some '\x08'
  else if c = 'f' then some '\x0c'
  else if c = 'n' then some '\n'
  else if c = 'r' then some '\r'
  else if c = 't' then some '\t'
  else none

def digitsFault (count : Nat) (rest : List Char) : Fault :=
  if byteCount rest + count < 4 then ⟨.endOfString, .bytesLeft 0⟩
  else ⟨.invalidEscape, .bytesLeft (byteCount rest + count - 4)⟩

def scanString : StringState → List Char → Except Fault (List Char × List Char)
  | .digits count _ _, [] => .error (digitsFault count [])
  | _, [] => .error ⟨.endOfString, .bytesLeft 0⟩
  | .plain, c :: rest =>
    if c = '"' then .ok ([], rest)
    else if c = '\\' then scanString .escaped rest
    else if c.toNat < 32 then .error ⟨.controlCharacter, .bytesLeft (byteCount rest)⟩
    else (scanString .plain rest).map fun s => (c :: s.1, s.2)
  | .escaped, c :: rest =>
    if c = 'u' then scanString (.digits 0 0 none) rest
    else
      match shortEscape? c with
      | none => .error ⟨.invalidEscape, .bytesLeft (byteCount (c :: rest) - 1)⟩
      | some d => (scanString .plain rest).map fun s => (d :: s.1, s.2)
  | .digits count value lead, c :: rest =>
    match hexValue? c with
    | none => .error (digitsFault count (c :: rest))
    | some d =>
      let n := 16 * value + d
      if count < 3 then scanString (.digits (count + 1) n lead) rest
      else
        match lead with
        | none =>
          if isTrailSurrogate n then .error ⟨.loneSurrogate, .bytesLeft (byteCount rest)⟩
          else if isLeadSurrogate n then scanString (.second n) rest
          else (scanString .plain rest).map fun s => (Char.ofNat n :: s.1, s.2)
        | some m =>
          if isTrailSurrogate n then
            (scanString .plain rest).map fun s =>
              (Char.ofNat (0x10000 + (m - 0xD800) * 0x400 + (n - 0xDC00)) :: s.1, s.2)
          else .error ⟨.loneSurrogate, .bytesLeft (byteCount rest)⟩
  | .second lead, c :: rest =>
    if c = '\\' then scanString (.secondEscape lead) rest
    else .error ⟨.halfSurrogatePair, .bytesLeft (byteCount (c :: rest) - 1)⟩
  | .secondEscape lead, c :: rest =>
    if c = 'u' then scanString (.digits 0 0 (some lead)) rest
    else .error ⟨.halfSurrogatePair, .bytesLeft (byteCount (c :: rest) - 1)⟩

/-- Like `scanString` for a string nobody reads: escapes by number need not be characters. -/
def skipString : StringState → List Char → Except Fault (List Char)
  | .digits count _ _, [] => .error (digitsFault count [])
  | _, [] => .error ⟨.endOfString, .bytesLeft 0⟩
  | .escaped, c :: rest =>
    if c = 'u' then skipString (.digits 0 0 none) rest
    else if (shortEscape? c).isSome then skipString .plain rest
    else .error ⟨.invalidEscape, .bytesLeft (byteCount (c :: rest) - 1)⟩
  | .digits count value lead, c :: rest =>
    if (hexValue? c).isNone then .error (digitsFault count (c :: rest))
    else if count < 3 then skipString (.digits (count + 1) value lead) rest
    else skipString .plain rest
  | _, c :: rest =>
    if c = '"' then .ok rest
    else if c = '\\' then skipString .escaped rest
    else if c.toNat < 32 then .error ⟨.controlCharacter, .bytesLeft (byteCount (c :: rest))⟩
    else skipString .plain rest

namespace Reader

def stringBody : Reader String := fun cs =>
  match scanString .plain cs with
  | .ok (s, rest) => (.ok (String.ofList s), rest)
  | .error f => (.error f, cs)

def skipStringBody : Reader Unit := fun cs =>
  match skipString .plain cs with
  | .ok rest => (.ok (), rest)
  | .error f => (.error f, cs)

def digits : Reader (List Char) := fun cs =>
  (.ok (cs.takeWhile Char.isDigit), cs.dropWhile Char.isDigit)

end Reader

end AccessBaseline.Json
