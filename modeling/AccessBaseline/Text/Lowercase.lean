import AccessBaseline.Text.CaseTable

/-! Lower case, once for ASCII letters only and once for every script. The second follows the
default algorithm of Unicode: letter by letter, except that a capital sigma at a word's end
becomes the final sigma. -/
namespace AccessBaseline.Text

def inRanges (ranges : List (Nat × Nat)) (c : Char) : Bool :=
  ranges.any fun r => r.1 ≤ c.toNat && c.toNat ≤ r.2

def CaseRun.partner? (run : CaseRun) (n : Nat) : Option Char :=
  if run.first ≤ n ∧ n ≤ run.last ∧ (n - run.first) % run.step = 0 then
    some (Char.ofNat ((n : Int) + run.shift).toNat)
  else none

def isCased (c : Char) : Bool :=
  if c.toNat < 128 then c.isAlpha else inRanges casedRanges c

def isCaseIgnorable (c : Char) : Bool := inRanges caseIgnorableRanges c

def lowerChar (c : Char) : List Char :=
  if c.toNat < 128 then [c.toLower]
  else if c = 'İ' then ['i', '\u0307']
  else [(lowerRuns.findSome? (·.partner? c.toNat)).getD c]

def capitalSigma : Char := 'Σ'

def casedNext (rest : List Char) : Bool :=
  match rest.dropWhile isCaseIgnorable with
  | [] => false
  | c :: _ => isCased c

/-- `after` tells whether a letter stands before the text, other than marks and such signs. -/
def lowerFrom (after : Bool) : List Char → List Char
  | [] => []
  | c :: rest =>
    (if c = capitalSigma then [if after && !casedNext rest then 'ς' else 'σ'] else lowerChar c) ++
      lowerFrom (if isCaseIgnorable c then after else isCased c) rest

def lowercase (s : String) : String := String.ofList (lowerFrom false s.toList)

def asciiLower (s : String) : String := String.ofList (s.toList.map Char.toLower)

/-- Equality up to the case of ASCII letters, and of no others. -/
def sameUpToAsciiCase (s t : String) : Bool := asciiLower s == asciiLower t

theorem lowercase_empty : lowercase "" = "" := rfl

end AccessBaseline.Text
