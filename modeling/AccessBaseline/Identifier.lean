/-! Identifiers made of random bytes (RFC 9562, version 4). -/
namespace AccessBaseline.Identifier

def hexByte (b : UInt8) : String :=
  let digit (n : Nat) : Char := (Nat.toDigits 16 n).headD '0'
  String.ofList [digit (b.toNat / 16), digit (b.toNat % 16)]

/-- Marks the seventh byte with the version and the ninth with the variant. -/
def marked (bytes : List UInt8) : List UInt8 :=
  bytes.mapIdx fun i b =>
    if i = 6 then b % 16 + 64 else if i = 8 then b % 64 + 128 else b

def text (bytes : List UInt8) : String :=
  let part (first count : Nat) : String :=
    String.join ((((marked bytes).drop first).take count).map hexByte)
  "-".intercalate [part 0 4, part 4 2, part 6 2, part 8 2, part 10 6]

end AccessBaseline.Identifier
