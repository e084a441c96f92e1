import AccessBaseline.Text.Fields
import AccessBaseline.Text.Quoted
import AccessBaseline.Url.Fault
import AccessBaseline.Url.Percent
import AccessBaseline.Url.Punycode

/-! Domain names. Letters are lower-cased, full-width forms and invisible characters are levelled,
and labels beyond ASCII get their ASCII form. -/
namespace AccessBaseline.Url

def isForbiddenInDomain (c : Char) : Bool :=
  isControl c || " %#/:<>?@[\\]^|".toList.contains c

def isInvisible (c : Char) : Bool :=
  c.toNat == 0xAD || c.toNat == 0x200B || c.toNat == 0x2060 || c.toNat == 0xFEFF ||
    (0xFE00 ≤ c.toNat && c.toNat ≤ 0xFE0F)

def isFullStop (c : Char) : Bool :=
  c == '.' || c.toNat == 0x3002 || c.toNat == 0xFF0E || c.toNat == 0xFF61

def levelChar (c : Char) : List Char :=
  if isInvisible c then []
  else if isFullStop c then ['.']
  else if 0xFF01 ≤ c.toNat ∧ c.toNat ≤ 0xFF5E then [(Char.ofNat (c.toNat - 0xFEE0)).toLower]
  else Text.lowerChar c

def labels (name : List Char) : List (List Char) := Text.fields (· == '.') name

def asciiLabel? (label : List Char) : Option (List Char) :=
  if label.all (·.toNat < 128) then
    if label.take 4 == ['x', 'n', '-', '-'] then do
      let decoded ← Punycode.decode? (label.drop 4)
      if decoded.any (128 ≤ ·.toNat) && decoded.flatMap levelChar == decoded &&
          decoded.all Text.isPrintable then some label
      else none
    else some label
  else if label.all Text.isPrintable then some (['x', 'n', '-', '-'] ++ Punycode.encode label)
  else none

def domainToAscii (cs : List Char) : Except UrlFault (List Char) :=
  match ofUtf8? (percentDecode cs) with
  | none => .error .invalidDomain
  | some s =>
    let levelled := s.toList.flatMap levelChar
    if levelled.any isForbiddenInDomain then .error .invalidDomain
    else
      match (labels levelled).mapM asciiLabel? with
      | none => .error .invalidDomain
      | some ls => .ok (Text.joined '.' ls)

end AccessBaseline.Url
