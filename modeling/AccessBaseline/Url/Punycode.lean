/-! The ASCII form of a label in any script: its ASCII characters, and after a hyphen the places of
the others as differences in a variable-length base of 36 (RFC 3492). -/
namespace AccessBaseline.Url.Punycode

def digitChar (d : Nat) : Char := if d < 26 then Char.ofNat (97 + d) else Char.ofNat (22 + d)

def digitValue? (c : Char) : Option Nat :=
  if 'a' ≤ c ∧ c ≤ 'z' then some (c.toNat - 97)
  else if 'A' ≤ c ∧ c ≤ 'Z' then some (c.toNat - 65)
  else if '0' ≤ c ∧ c ≤ '9' then some (c.toNat - 22)
  else none

def threshold (k bias : Nat) : Nat :=
  if k ≤ bias + 1 then 1 else if bias + 26 ≤ k then 26 else k - bias

def damped : Nat → Nat → Nat → Nat
  | 0, delta, k => k + 36 * delta / (delta + 38)
  | fuel + 1, delta, k =>
    if 455 < delta then damped fuel (delta / 35) (k + 36) else k + 36 * delta / (delta + 38)

def adapt (delta count : Nat) (first : Bool) : Nat :=
  let delta := if first then delta / 700 else delta / 2
  damped delta (delta + delta / count) 0

/-- The digits of a difference, least first; each but the last is at or above its threshold. -/
def digits : Nat → Nat → Nat → Nat → List Char
  | 0, q, _, _ => [digitChar q]
  | fuel + 1, q, k, bias =>
    let t := threshold k bias
    if q < t then [digitChar q]
    else digitChar (t + (q - t) % (36 - t)) :: digits fuel ((q - t) / (36 - t)) (k + 36) bias

structure Progress where
  delta : Nat
  bias : Nat
  handled : Nat
  output : List Char

/-- Goes over the label once, writing the difference to each occurrence of code point `n`. -/
def pass (n basic : Nat) (label : List Nat) (p : Progress) : Progress :=
  let step (p : Progress) (c : Nat) : Progress :=
    if c < n then { p with delta := p.delta + 1 }
    else if c = n then
      { delta := 0
        bias := adapt p.delta (p.handled + 1) (p.handled == basic)
        handled := p.handled + 1
        output := p.output ++ digits p.delta p.delta 36 p.bias }
    else p
  label.foldl step p

def passes (basic : Nat) (label : List Nat) : Nat → Nat → Progress → Progress
  | 0, _, p => p
  | fuel + 1, n, p =>
    match (label.filter (n ≤ ·)).min? with
    | none => p
    | some m =>
      let p := { p with delta := p.delta + (m - n) * (p.handled + 1) }
      let p := pass m basic label p
      passes basic label fuel (m + 1) { p with delta := p.delta + 1 }

def encode (label : List Char) : List Char :=
  let basic := label.filter (·.toNat < 128)
  let start : Progress :=
    ⟨0, 72, basic.length, if basic.isEmpty then [] else basic ++ ['-']⟩
  (passes basic.length (label.map (·.toNat)) label.length 128 start).output

/-- Reads one difference; the result is the new index and the rest. -/
def readDifference : List Char → Nat → Nat → Nat → Nat → Option (Nat × List Char)
  | [], _, _, _, _ => none
  | c :: rest, i, w, k, bias => do
    let d ← digitValue? c
    let i := i + d * w
    let t := threshold k bias
    if 0x100000000 ≤ i then none
    else if d < t then some (i, rest)
    else readDifference rest i (w * (36 - t)) (k + 36) bias

def decodeFrom : Nat → List Char → Nat → Nat → Nat → List Char → Option (List Char)
  | 0, _, _, _, _, output => some output
  | _ + 1, [], _, _, _, output => some output
  | fuel + 1, input, n, i, bias, output => do
    let (next, rest) ← readDifference input i 1 36 bias
    let count := output.length + 1
    let bias := adapt (next - i) count (i == 0 && output.all (·.toNat < 128))
    let n := n + next / count
    let place := next % count
    if h : n.isValidChar then
      decodeFrom fuel rest n (place + 1) bias
        (output.take place ++ Char.ofNatAux n h :: output.drop place)
    else none

def decode? (input : List Char) : Option (List Char) :=
  let tail := (input.reverse.takeWhile (· != '-')).reverse
  let basic := input.take (input.length - tail.length - 1)
  if basic.all (·.toNat < 128) then decodeFrom input.length tail 128 0 72 basic else none

end AccessBaseline.Url.Punycode
