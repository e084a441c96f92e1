/-! How similar two words are, by the measure of Jaro: the characters that both have at about the
same place, and how many of those stand in another order. -/
namespace AccessBaseline.Console

/-- For each character of `a` at place `i` on, the first free place of the same character in `b` at
most `window` away. -/
def jaroMatches (window : Nat) (b : List Char) : Nat → List Nat → List Char → List (Nat × Char)
  | _, _, [] => []
  | i, taken, c :: rest =>
    let fits (e : Char × Nat) : Bool :=
      e.1 == c && i ≤ e.2 + window && e.2 ≤ i + window && !taken.contains e.2
    match b.zipIdx.find? fits with
    | none => jaroMatches window b (i + 1) taken rest
    | some (_, j) => (j, c) :: jaroMatches window b (i + 1) (j :: taken) rest

def similarity (a b : String) : Nat × Nat :=
  let window := max a.length b.length / 2 - 1
  let found := jaroMatches window b.toList 0 [] a.toList
  let m := found.length
  let inOrder := (b.toList.zipIdx.filter fun e => found.any (·.1 == e.2)).map (·.1)
  let moved := ((found.map (·.2)).zip inOrder).countP fun p => p.1 != p.2
  if m = 0 then (0, 1)
  else
    (m * b.length * m + m * a.length * m + (m - moved / 2) * a.length * b.length,
      3 * a.length * b.length * m)

/-- The most similar of some words, if its similarity is above seven tenths. -/
def mostSimilar? (word : String) (words : List String) : Option String :=
  let better (best : Option (String × Nat × Nat)) (w : String) : Option (String × Nat × Nat) :=
    let (n, d) := similarity word w
    let (n', d') := (best.map (·.2)).getD (7, 10)
    if n' * d < n * d' then some (w, n, d) else best
  (words.foldl better none).map (·.1)

end AccessBaseline.Console
