import AccessBaseline.Url.Basic

/-! Reading absolute URLs, leniently as the URL standard asks: blanks around the text and tabs and
line breaks inside it are dropped, and what a part cannot hold is escaped. -/
namespace AccessBaseline.Url

def isTabOrBreak (c : Char) : Bool := c == '\t' || c == '\n' || c == '\r'

def trimmed (cs : List Char) : List Char :=
  let blank (c : Char) : Bool := c.toNat ≤ 32
  (((cs.dropWhile blank).reverse.dropWhile blank).reverse).filter (!isTabOrBreak ·)

def isSchemeChar (c : Char) : Bool := c.isAlphanum || c == '+' || c == '-' || c == '.'

def splitScheme? (cs : List Char) : Option (String × List Char) :=
  let scheme := cs.takeWhile isSchemeChar
  match scheme, cs.drop scheme.length with
  | c :: _, ':' :: rest => if c.isAlpha then some (String.ofList (scheme.map Char.toLower), rest) else none
  | _, _ => none

def isSlash (special : Bool) (c : Char) : Bool := c == '/' || (special && c == '\\')

def endsAuthority (special : Bool) (c : Char) : Bool := isSlash special c || c == '?' || c == '#'

def isForbiddenInHost (c : Char) : Bool := c == '\x00' || " #/:<>?@[\\]^|".toList.contains c

def bracketed? (cs : List Char) : Option (List Char) :=
  match cs, cs.getLast? with
  | '[' :: rest, some ']' => some rest.dropLast
  | _, _ => none

def parseHost (special : Bool) (cs : List Char) : Except UrlFault Host :=
  if cs.head? == some '[' then
    match (bracketed? cs).bind ipv6? with
    | some pieces => .ok (.ipv6 pieces)
    | none => .error .invalidIpv6
  else if special then do
    let name ← domainToAscii cs
    if name.isEmpty then .error .emptyHost
    else if endsInNumber name then
      match ipv4? name with
      | some address => .ok (.ipv4 address)
      | none => .error .invalidIpv4
    else .ok (.name (String.ofList name))
  else if cs.any isForbiddenInHost then .error .invalidHostCharacter
  else .ok (.name (String.ofList (percentEncode isControl cs)))

def splitHost : Bool → List Char → List Char × List Char
  | _, [] => ([], [])
  | inBrackets, c :: rest =>
    if c = ':' && !inBrackets then ([], c :: rest)
    else
      let (host, after) := splitHost (c = '[' || (inBrackets && c ≠ ']')) rest
      (c :: host, after)

def parsePort (scheme : String) (cs : List Char) : Except UrlFault (Option Nat) :=
  if cs.isEmpty then .ok none
  else if !cs.all Char.isDigit then .error .invalidPort
  else
    let port := digitsValue 10 cs
    if 65535 < port then .error .invalidPort
    else .ok (if some port = defaultPort? scheme then none else some port)

/-- The user name and the password that stand before the last `@`. -/
def parseUserinfo (cs : List Char) : String × Option String :=
  let encode (part : List Char) : String := String.ofList (percentEncode inUserinfoSet part)
  let username := cs.takeWhile (· ≠ ':')
  match cs.drop username.length with
  | [] | [_] => (encode username, none)
  | _ :: password => (encode username, some (encode password))

structure Authority where
  username : String := ""
  password? : Option String := none
  host : Host
  port? : Option Nat

def parseAuthority (scheme : String) (cs : List Char) (atEnd : Bool) : Except UrlFault Authority := do
  let special := isSpecialScheme scheme
  let hostAndPort := (cs.reverse.takeWhile (· ≠ '@')).reverse
  let userinfo := cs.take (cs.length - hostAndPort.length - 1)
  let marked := hostAndPort.length < cs.length
  if marked && userinfo.isEmpty && hostAndPort.isEmpty && !atEnd then throw .emptyHost
  let (hostText, after) := splitHost false hostAndPort
  if special && hostText.isEmpty then throw .emptyHost
  let host ← parseHost special hostText
  if hostText.isEmpty && !after.isEmpty then throw .emptyHost
  let port? ← parsePort scheme after.tail
  let (username, password?) := parseUserinfo userinfo
  if hostText.isEmpty && !(username.isEmpty && password?.isNone) then throw .emptyHost
  return { username, password?, host, port? }

def isSingleDot (segment : String) : Bool := [".", "%2e"].contains (Text.asciiLower segment)

def isDoubleDot (segment : String) : Bool :=
  ["..", ".%2e", "%2e.", "%2e%2e"].contains (Text.asciiLower segment)

/-- Appends segments in turn. Dot segments name this place or the one above, and at the end of a
path they leave an empty segment. -/
def appendSegments : List String → List String → List String
  | done, [] => done
  | done, [s] =>
    if isDoubleDot s then done.dropLast ++ [""]
    else if isSingleDot s then done ++ [""]
    else done ++ [s]
  | done, s :: rest =>
    if isDoubleDot s then appendSegments done.dropLast rest
    else if isSingleDot s then appendSegments done rest
    else appendSegments (done ++ [s]) rest

def parseSegments (special : Bool) (cs : List Char) : List String :=
  let cs := if cs.head?.any (isSlash special) then cs.tail else cs
  appendSegments [] ((Text.fields (isSlash special) cs).map fun s => String.ofList (percentEncode inPathSet s))

/-- The text before a query or fragment, the query and the fragment. -/
def splitTail (special : Bool) (cs : List Char) : List Char × Option String × Option String :=
  let isHash (c : Char) : Bool := c == '#'
  let beforeFragment := cs.takeWhile (!isHash ·)
  let fragment? :=
    match cs.drop beforeFragment.length with
    | [] => none
    | _ :: f => some (String.ofList (percentEncode inFragmentSet f))
  let front := beforeFragment.takeWhile (· ≠ '?')
  let query? :=
    match beforeFragment.drop front.length with
    | [] => none
    | _ :: q =>
      some (String.ofList (percentEncode (if special then inSpecialQuerySet else inQuerySet) q))
  (front, query?, fragment?)

def parseHierarchical (scheme : String) (cs : List Char) : Except UrlFault Url := do
  let special := isSpecialScheme scheme
  let authorityText := cs.takeWhile (!endsAuthority special ·)
  let rest := cs.drop authorityText.length
  let a ← parseAuthority scheme authorityText rest.isEmpty
  let (pathText, query?, fragment?) := splitTail special rest
  let segments := if special || !pathText.isEmpty then parseSegments special pathText else []
  return { scheme, username := a.username, password? := a.password?, host? := some a.host
           port? := a.port?, path := .segments segments, query?, fragment? }

/-- A file's URL. Its host may be left out, and `localhost` is left out. -/
def parseFile (cs : List Char) : Except UrlFault Url := do
  let (hostText, rest) :=
    if (cs.take 2).all (isSlash true) && 2 ≤ cs.length then
      let host := (cs.drop 2).takeWhile (!endsAuthority true ·)
      (host, (cs.drop 2).drop host.length)
    else ([], cs)
  let host ← if hostText.isEmpty then .ok (.name "") else parseHost true hostText
  let (pathText, query?, fragment?) := splitTail true rest
  let segments := parseSegments true pathText
  let leading := segments.dropWhile String.isEmpty
  return { scheme := "file", username := "", password? := none
           host? := some (if host = .name "localhost" then .name "" else host), port? := none
           path := .segments (if leading.isEmpty then [""] else leading), query?, fragment? }

def parse (text : String) : Except UrlFault Url :=
  match splitScheme? (trimmed text.toList) with
  | none => .error .relative
  | some (scheme, rest) =>
    if scheme = "file" then parseFile rest
    else if isSpecialScheme scheme then parseHierarchical scheme (rest.dropWhile (isSlash true))
    else
      match rest with
      | '/' :: '/' :: rest => parseHierarchical scheme rest
      | _ =>
        let (front, query?, fragment?) := splitTail false rest
        let path : Path :=
          if front.head? = some '/' then .segments (parseSegments false front)
          else .plain (String.ofList (percentEncode isControl front))
        .ok { scheme, username := "", password? := none, host? := none, port? := none
              path, query?, fragment? }

end AccessBaseline.Url
