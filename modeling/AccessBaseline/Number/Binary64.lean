/-! Finite numbers of the 64-bit binary format, as sign, significand and power of two. Products and
quotients are taken exactly and then rounded to the nearest number of the format, ties to even. -/
namespace AccessBaseline.Number

/-- The number `± significand * 2 ^ exponent`. -/
structure Binary64 where
  negative : Bool
  significand : Nat
  exponent : Int
  deriving DecidableEq

namespace Binary64

def zero : Binary64 := ⟨false, 0, -1074⟩

def neg (x : Binary64) : Binary64 := { x with negative := !x.negative }

def isZero (x : Binary64) : Bool := x.significand == 0

def twoTo (k : Nat) : Nat := Nat.pow 2 k

def tenTo (k : Nat) : Nat := Nat.pow 10 k

def scale (num den : Nat) (e : Int) : Nat × Nat :=
  if 0 ≤ e then (num * twoTo e.toNat, den) else (num, den * twoTo (-e).toNat)

/-- The power of two at which a ratio has 53 significant bits, or the least one of the format. -/
def exponentOf (num den : Nat) : Int :=
  let guess : Int := (num.log2 : Int) - den.log2 - 52
  let (n, d) := scale num den (-guess)
  max (if n < d * twoTo 52 then guess - 1 else guess) (-1074)

def roundHalfEven (num den : Nat) : Nat :=
  let q := num / den
  let r := num % den
  if 2 * r < den then q else if den < 2 * r then q + 1 else q + q % 2

def ofRatio? (num den : Nat) : Option Binary64 :=
  if num = 0 then some zero
  else
    let e := exponentOf num den
    let (n, d) := scale num den (-e)
    let m := roundHalfEven n d
    let (m, e) := if m = twoTo 53 then (twoTo 52, e + 1) else (m, e)
    if 971 < e then none else some ⟨false, m, e⟩

def ofNat? (n : Nat) : Option Binary64 := ofRatio? n 1

/-- The rounded product of two numbers that are not negative. -/
def mul? (x y : Binary64) : Option Binary64 :=
  let (n, d) := scale (x.significand * y.significand) 1 (x.exponent + y.exponent)
  ofRatio? n d

def div? (x y : Binary64) : Option Binary64 :=
  let (n, d) := scale x.significand y.significand (x.exponent - y.exponent)
  ofRatio? n d

def powerOfTen? (k : Nat) : Option Binary64 := ofNat? (tenTo k)

/-- Divides by powers of ten no larger than the format holds, rounding each time; after three steps
nothing is left of a significand of 64 bits. -/
def divPowerOfTen? : Nat → Binary64 → Nat → Option Binary64
  | 0, _, _ => some zero
  | steps + 1, x, k =>
    if x.isZero then some x
    else if k ≤ 308 then do x.div? (← powerOfTen? k)
    else do divPowerOfTen? steps (← x.div? (← powerOfTen? 308)) (k - 308)

/-- The number written `significand * 10 ^ exponent`, rounded once for the significand and once for
each power of ten that is needed; `none` when it is too large. -/
def ofDecimal? (significand : Nat) (exponent : Int) : Option Binary64 := do
  let x ← ofNat? significand
  if exponent < 0 then divPowerOfTen? 4 x exponent.natAbs
  else if exponent ≤ 308 then x.mul? (← powerOfTen? exponent.toNat)
  else if x.isZero then some x else none

end Binary64

end AccessBaseline.Number
