import AccessBaseline.Number.Binary64

/-! The decimal text of a 64-bit number: the fewest digits that read back as the number, and of
those the nearest to it; positional from `1e-5` up to below `1e16`, with an exponent elsewhere. -/
namespace AccessBaseline.Number.Binary64

def decimalLe (c : Nat) (p : Int) (h : Nat) (q : Int) : Bool :=
  c * tenTo p.toNat * twoTo (-q).toNat ≤ h * twoTo q.toNat * tenTo (-p).toNat

def binaryLe (h : Nat) (q : Int) (c : Nat) (p : Int) : Bool :=
  h * twoTo q.toNat * tenTo (-p).toNat ≤ c * tenTo p.toNat * twoTo (-q).toNat

/-- Whether `c * 10 ^ p` reads back as the number: it lies between the midpoints to the neighbours,
which themselves count when the significand is even. -/
def readsBack (x : Binary64) (c : Nat) (p : Int) : Bool :=
  let m := x.significand
  let q := x.exponent - 2
  let below := if m = twoTo 52 && x.exponent != -1074 then 4 * m - 1 else 4 * m - 2
  let above := 4 * m + 2
  if m % 2 = 0 then binaryLe below q c p && decimalLe c p above q
  else !decimalLe c p below q && !binaryLe above q c p

/-- The number's place on the grid of multiples of `10 ^ p`: the multiple at or below it, and
whether the next one is nearer. -/
def onGrid (x : Binary64) (p : Int) : Nat × Bool :=
  let (n, d) := scale x.significand 1 x.exponent
  let n := n * tenTo (-p).toNat
  let d := d * tenTo p.toNat
  let c := n / d
  let r := n % d
  (c, d < 2 * r || (d == 2 * r && c % 2 == 1))

def leadingExponent (x : Binary64) : Int :=
  let (n, d) := scale x.significand 1 x.exponent
  if d ≤ n then ((Nat.toDigits 10 (n / d)).length : Int) - 1
  else -((Nat.toDigits 10 (d / n)).length : Int)

/-- Tries grids of more and more digits; a hit is a multiple that reads back. -/
def search (x : Binary64) : Nat → Int → Nat × Int
  | 0, p => ((x.onGrid p).1, p)
  | tries + 1, p =>
    let (c, up) := x.onGrid p
    let (near, far) := if up then (c + 1, c) else (c, c + 1)
    if x.readsBack near p then (near, p)
    else if x.readsBack far p then (far, p)
    else search x tries (p - 1)

def shortest (x : Binary64) : Nat × Int := x.search 18 (x.leadingExponent + 1)

def dropTrailingZeros (ds : List Char) : List Char :=
  (ds.reverse.dropWhile (· == '0')).reverse

def layOut (ds : List Char) (e : Int) : List Char :=
  if 0 ≤ e ∧ e ≤ 15 then
    let k := e.toNat + 1
    if ds.length ≤ k then ds ++ List.replicate (k - ds.length) '0' ++ ['.', '0']
    else ds.take k ++ '.' :: ds.drop k
  else if -5 ≤ e ∧ e < 0 then
    ['0', '.'] ++ List.replicate (e.natAbs - 1) '0' ++ ds
  else
    ds.take 1 ++ (if ds.length ≤ 1 then [] else '.' :: ds.drop 1) ++
      ['e', if e < 0 then '-' else '+'] ++ Nat.toDigits 10 e.natAbs

def text (x : Binary64) : String :=
  let body :=
    if x.isZero then ['0', '.', '0']
    else
      let (c, p) := x.shortest
      let ds := Nat.toDigits 10 c
      layOut (dropTrailingZeros ds) (p + ds.length - 1)
  String.ofList (if x.negative then '-' :: body else body)

end AccessBaseline.Number.Binary64
