import AccessBaseline.Http.Exchange
import AccessBaseline.Json.Printer
import AccessBaseline.Text.Fields
import AccessBaseline.Text.Lowercase

/-! Requests and replies as they go over a connection that serves one exchange (HTTP/1.1). -/
namespace AccessBaseline.Http

def Request.lines (r : Request) : List String :=
  let host := (r.url.host?.map Url.Host.text).getD ""
  let port := (r.url.port?.map fun p => ":" ++ toString p).getD ""
  let target := r.url.path.text ++ (r.url.query?.map ("?" ++ ·)).getD ""
  [r.method ++ " " ++ target ++ " HTTP/1.1", "host: " ++ host ++ port,
    "authorization: Bearer " ++ r.bearer, "accept: */*", "connection: close"] ++
    match r.body? with
    | none => if r.method = "POST" then ["content-length: 0"] else []
    | some body =>
      ["content-type: application/json", "content-length: " ++ toString body.text.utf8ByteSize]

def Request.text (r : Request) : String :=
  String.join (r.lines.map (· ++ "\r\n")) ++ "\r\n" ++ (r.body?.map Json.text).getD ""

namespace Reply

def byteChar (b : UInt8) : Char := Char.ofNat b.toNat

def bodyText (bytes : List UInt8) : String :=
  let shown (b : UInt8) : Char := if b < 128 then byteChar b else '\uFFFD'
  let text := (String.fromUTF8? ⟨bytes.toArray⟩).getD (String.ofList (bytes.map shown))
  if text.front? = some '\uFEFF' then String.ofList text.toList.tail else text

def splitHead : List UInt8 → Option (List Char × List UInt8)
  | [] => none
  | 13 :: 10 :: 13 :: 10 :: rest => some ([], rest)
  | b :: rest => (splitHead rest).map fun (head, body) => (byteChar b :: head, body)

def trimmed (cs : List Char) : List Char :=
  let blank (c : Char) : Bool := c == ' ' || c == '\t' || c == '\r'
  ((cs.dropWhile blank).reverse.dropWhile blank).reverse

def header (line : List Char) : String × String :=
  let name := line.takeWhile (· ≠ ':')
  (Text.asciiLower (String.ofList name), String.ofList (trimmed (line.drop (name.length + 1))))

def status? (line : List Char) : Option Nat := do
  (String.ofList (((line.dropWhile (· ≠ ' ')).drop 1).take 3)).toNat?

def hexNumber (cs : List Char) : Nat :=
  cs.foldl (fun n c => 16 * n + (Url.hexDigitValue? c).getD 0) 0

def unchunk : Nat → List UInt8 → Option (List UInt8)
  | 0, _ => none
  | fuel + 1, bytes => do
    let line := bytes.takeWhile (· ≠ 10)
    let rest := bytes.drop (line.length + 1)
    let digits := (line.map byteChar).takeWhile Url.isHexDigit
    let size := hexNumber digits
    if digits.isEmpty || rest.length < size then none
    else if size = 0 then some []
    else
      let more ← unchunk fuel (rest.drop (size + 2))
      some (rest.take size ++ more)

/-- The body of a reply, as far as its headers say how long it is; none when it ended early. -/
def body? (headers : List (String × String)) (bytes : List UInt8) : Option (List UInt8) :=
  if (headers.lookup "transfer-encoding").any fun v => Text.asciiLower v == "chunked" then
    unchunk bytes.length bytes
  else
    match (headers.lookup "content-length").bind String.toNat? with
    | some n => if bytes.length < n then none else some (bytes.take n)
    | none => some bytes

def delivery (bytes : List UInt8) : Delivery :=
  match splitHead bytes with
  | none => .dropped
  | some (head, rest) =>
    match Text.fields (· == '\n') head with
    | [] => .dropped
    | first :: lines =>
      match status? first with
      | none => .dropped
      | some status =>
        if status = 204 || status = 304 then .whole status ""
        else
          match body? (lines.map header) rest with
          | some body => .whole status (bodyText body)
          | none => .cutShort status

end Reply

end AccessBaseline.Http
