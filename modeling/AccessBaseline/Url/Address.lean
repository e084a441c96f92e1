import AccessBaseline.Url.Domain

/-! Numeric internet addresses as hosts: four bytes, also in the older spellings with fewer parts or
other bases, and eight pieces of sixteen bits. -/
namespace AccessBaseline.Url

def digitsValue (base : Nat) (cs : List Char) : Nat :=
  cs.foldl (fun n c => base * n + (hexDigitValue? c).getD 0) 0

def ipv4Part? (cs : List Char) : Option Nat :=
  let number (base : Nat) (digits : List Char) : Option Nat :=
    if digits.all fun c => (hexDigitValue? c).any (· < base) then some (digitsValue base digits)
    else none
  match cs with
  | [] => none
  | '0' :: 'x' :: rest | '0' :: 'X' :: rest => number 16 rest
  | ['0'] => some 0
  | '0' :: rest => number 8 rest
  | cs => number 10 cs

def dropLastEmpty (ls : List (List Char)) : List (List Char) :=
  if ls.getLast? == some [] then ls.dropLast else ls

def endsInNumber (name : List Char) : Bool :=
  match (dropLastEmpty (labels name)).getLast? with
  | none => false
  | some l => (!l.isEmpty && l.all Char.isDigit) || (ipv4Part? l).isSome

/-- The address that dotted parts denote; the last part fills the bytes that are left. -/
def ipv4? (name : List Char) : Option Nat := do
  let parts ← (dropLastEmpty (labels name)).mapM ipv4Part?
  let last ← parts.getLast?
  let front := parts.dropLast
  if 3 < front.length || Nat.pow 256 (4 - front.length) ≤ last || front.any (255 < ·) then none
  else some ((front.mapIdx fun i n => n * Nat.pow 256 (3 - i)).foldl (· + ·) last)

def ipv4Text (address : Nat) : String :=
  ".".intercalate ([3, 2, 1, 0].map fun i => toString (address / Nat.pow 256 i % 256))

def decimalByte? (cs : List Char) : Option (Nat × List Char) :=
  let digits := cs.takeWhile Char.isDigit
  let n := digitsValue 10 digits
  if digits.isEmpty || 255 < n || (digits.head? == some '0' && digits.length ≠ 1) then none
  else some (n, cs.drop digits.length)

def dottedPieces? (cs : List Char) : Option (List Nat) := do
  let (a, cs) ← decimalByte? cs
  let cs ← if cs.head? == some '.' then some cs.tail else none
  let (b, cs) ← decimalByte? cs
  let cs ← if cs.head? == some '.' then some cs.tail else none
  let (c, cs) ← decimalByte? cs
  let cs ← if cs.head? == some '.' then some cs.tail else none
  let (d, cs) ← decimalByte? cs
  if cs.isEmpty then some [256 * a + b, 256 * c + d] else none

def isHexDigit (c : Char) : Bool := (hexDigitValue? c).isSome

/-- The pieces from here on, and how many of them stand before a gap, if one comes. A gap takes the
place of one piece at least, which is read as a zero. -/
def ipv6Pieces : Nat → List Char → Option (List Nat × Option Nat)
  | 0, _ => none
  | _ + 1, [] => some ([], none)
  | fuel + 1, ':' :: rest => do
    let (pieces, gap) ← ipv6Pieces fuel rest
    if gap.isSome then none else some (0 :: pieces, some 1)
  | fuel + 1, cs =>
    let digits := (cs.take 4).takeWhile isHexDigit
    match cs.drop digits.length with
    | [] => some ([digitsValue 16 digits], none)
    | ':' :: rest =>
      if rest.isEmpty || digits.isEmpty then none
      else do
        let (pieces, gap) ← ipv6Pieces fuel rest
        some (digitsValue 16 digits :: pieces, gap.map (· + 1))
    | '.' :: _ => do return (← dottedPieces? cs, none)
    | _ => none

def ipv6? (cs : List Char) : Option (List Nat) := do
  let cs ←
    match cs with
    | ':' :: ':' :: rest => some (':' :: rest)
    | ':' :: _ => none
    | _ :: _ :: _ => some cs
    | _ => none
  let (pieces, gap) ← ipv6Pieces (cs.length + 1) cs
  match gap with
  | none => if pieces.length = 8 then some pieces else none
  | some n =>
    if pieces.length ≤ 8 then
      some (pieces.take n ++ List.replicate (8 - pieces.length) 0 ++ pieces.drop n)
    else none

def longestZeroRun : Nat → List Nat → Nat × Nat
  | _, [] => (0, 0)
  | i, piece :: rest =>
    let here := ((piece :: rest).takeWhile (· == 0)).length
    let later := longestZeroRun (i + 1) rest
    if later.2 ≤ here then (i, here) else later

def pieceText (n : Nat) : String := String.ofList (Nat.toDigits 16 n)

/-- Two zero pieces or more are left out once. -/
def ipv6Text (pieces : List Nat) : String :=
  let joined (ps : List Nat) := ":".intercalate (ps.map pieceText)
  let (start, length) := longestZeroRun 0 pieces
  if length < 2 then joined pieces
  else joined (pieces.take start) ++ "::" ++ joined (pieces.drop (start + length))

end AccessBaseline.Url
