import AccessBaseline.Json.Reader

/-! Numbers in JSON text. Digits are taken into a significand of 64 bits as long as they fit; those
after that only move the power of ten, or are dropped behind the point. -/
namespace AccessBaseline.Json

/-- The value of the leading digits that fit into 64 bits, and how many digits are left. -/
def absorb (significand : Nat) : List Char → Nat × Nat
  | [] => (significand, 0)
  | c :: cs =>
    let n := significand * 10 + (c.toNat - 48)
    if wordEnd ≤ n then (significand, cs.length + 1) else absorb n cs

/-- The digits of an exponent below `2 ^ 31`; `none` at the digit that reaches it. -/
def exponentDigits (e : Nat) : List Char → Option Nat × List Char
  | [] => (some e, [])
  | c :: cs =>
    if c.isDigit then
      let n := e * 10 + (c.toNat - 48)
      if 0x80000000 ≤ n then (none, cs) else exponentDigits n cs
    else (some e, c :: cs)

namespace Reader

def signed (positive : Bool) (x : Number.Binary64) : Json.Number :=
  .fraction (if positive then x else x.neg)

def fraction (positive : Bool) (significand : Nat) (exponent : Int) : Reader Json.Number :=
  match Number.Binary64.ofDecimal? significand exponent with
  | none => fail .numberTooLarge
  | some x => pure (signed positive x)

def exponentSign : Reader Bool := do
  match ← next? with
  | some '+' => do drop1; pure true
  | some '-' => do drop1; pure false
  | _ => pure true

def exponent (positive : Bool) (significand : Nat) (start : Int) : Reader Json.Number := do
  drop1
  let up ← exponentSign
  match ← next? with
  | none => fail .endOfValue
  | some c =>
    if c.isDigit then do
      let (e, rest) := exponentDigits 0 (← get)
      set rest
      match e with
      | some e => fraction positive significand (if up then start + e else start - e)
      | none =>
        if significand ≠ 0 ∧ up then fail .numberTooLarge
        else do
          let _ ← digits
          pure (signed positive .zero)
    else failAhead .invalidNumber

def exponentOrEnd (positive : Bool) (significand : Nat) (e : Int) : Reader Json.Number := do
  match ← next? with
  | some 'e' | some 'E' => exponent positive significand e
  | _ => fraction positive significand e

def decimals (positive : Bool) (significand : Nat) (before : Nat) : Reader Json.Number := do
  drop1
  let ds ← digits
  let (n, left) := absorb significand ds
  if ds.isEmpty then
    match ← next? with
    | some _ => failAhead .invalidNumber
    | none => failAhead .endOfValue
  else exponentOrEnd positive n ((before : Int) - (ds.length - left))

def integerPart (positive : Bool) (ds : List Char) : Reader Json.Number := do
  let (n, left) := absorb 0 ds
  match ← next? with
  | some '.' => decimals positive n left
  | some 'e' | some 'E' => exponent positive n left
  | _ =>
    if 0 < left then fraction positive n left
    else if positive then pure (.integer n)
    else if n = 0 ∨ 0x8000000000000000 < n then fraction false n 0
    else pure (.integer (-n))

def number (positive : Bool) : Reader Json.Number := do
  match ← next? with
  | none => fail .endOfValue
  | some '0' => do
    drop1
    match ← next? with
    | some c => if c.isDigit then failAhead .invalidNumber else integerPart positive ['0']
    | none => integerPart positive ['0']
  | some c =>
    if c.isDigit then do integerPart positive (← digits)
    else failAhead .invalidNumber

def skipExponent : Reader Unit := do
  drop1
  let _ ← exponentSign
  if (← digits).isEmpty then failAhead .invalidNumber

def skipDecimals : Reader Unit := do
  drop1
  if (← digits).isEmpty then failAhead .invalidNumber
  else
    match ← next? with
    | some 'e' | some 'E' => skipExponent
    | _ => pure ()

def skipFraction : Reader Unit := do
  match ← next? with
  | some '.' => skipDecimals
  | some 'e' | some 'E' => skipExponent
  | _ => pure ()

/-- A number nobody reads: it has no range. -/
def skipNumber : Reader Unit := do
  match ← next? with
  | some '0' => do
    drop1
    match ← next? with
    | some c => if c.isDigit then failAhead .invalidNumber else skipFraction
    | none => pure ()
  | _ => do
    if (← digits).isEmpty then failAhead .invalidNumber else skipFraction

end Reader

end AccessBaseline.Json
