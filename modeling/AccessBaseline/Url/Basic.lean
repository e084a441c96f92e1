import AccessBaseline.Url.Address

/-! Absolute URLs in their parts, as the URL standard of the WHATWG has them, and their text. -/
namespace AccessBaseline

inductive Url.Host where
  | name (text : String)
  | ipv4 (address : Nat)
  | ipv6 (pieces : List Nat)
  deriving DecidableEq

/-- The path of a URL: segments, or a text without structure, to which none can be appended. -/
inductive Url.Path where
  | segments (names : List String)
  | plain (text : String)
  deriving DecidableEq

structure Url where
  scheme : String
  username : String
  password? : Option String
  host? : Option Url.Host
  port? : Option Nat
  path : Url.Path
  query? : Option String
  fragment? : Option String
  deriving DecidableEq

namespace Url

def Host.text : Host → String
  | name t => t
  | ipv4 a => ipv4Text a
  | ipv6 ps => "[" ++ ipv6Text ps ++ "]"

def Path.text : Path → String
  | segments names => String.join (names.map ("/" ++ ·))
  | plain t => t

def isSpecialScheme (scheme : String) : Bool :=
  ["http", "https", "ws", "wss", "ftp", "file"].contains scheme

def defaultPort? (scheme : String) : Option Nat :=
  [("http", 80), ("ws", 80), ("https", 443), ("wss", 443), ("ftp", 21)].lookup scheme

def isSpecial (u : Url) : Bool := isSpecialScheme u.scheme

def cannotBeBase (u : Url) : Bool :=
  match u.path with
  | .segments _ => false
  | .plain _ => true

def userinfo (u : Url) : String :=
  let password := (u.password?.map (":" ++ ·)).getD ""
  let both := u.username ++ password
  if both.isEmpty then "" else both ++ "@"

/-- What stands between the scheme and the path. Without a host, a path that starts with two slashes
is kept apart from one by a dot segment. -/
def authority (u : Url) : String :=
  match u.host? with
  | some h => "//" ++ u.userinfo ++ h.text ++ (u.port?.map fun p => ":" ++ toString p).getD ""
  | none =>
    match u.path with
    | .segments ("" :: _ :: _) => "/."
    | _ => ""

def text (u : Url) : String :=
  u.scheme ++ ":" ++ u.authority ++ u.path.text ++ (u.query?.map ("?" ++ ·)).getD "" ++
    (u.fragment?.map ("#" ++ ·)).getD ""

def withoutUserinfo (u : Url) : Url := { u with username := "", password? := none }

end Url

end AccessBaseline
