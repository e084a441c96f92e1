import AccessBaseline.Url.Parser

/-! URLs below a base URL: names are appended to its path as segments, with all that has a meaning
in a path escaped. -/
namespace AccessBaseline.Url

def segmentSet (special : Bool) : Char → Bool :=
  if special then inSpecialSegmentSet else inSegmentSet

def segmentText (special : Bool) (name : String) : String :=
  String.ofList (percentEncode (segmentSet special) (name.toList.filter (!isTabOrBreak ·)))

/-- Appends a segment; the one empty segment of the root path gives way to it. -/
def pushSegment (done : List String) (segment : String) : List String :=
  if done = [""] then [segment] else done ++ [segment]

/-- Appends a name. A name of one or two dots is passed over. One that has dots alone besides tabs
and line breaks stands for this place or the one above. -/
def appendName (special : Bool) (done : List String) (name : String) : List String :=
  if name = "." || name = ".." then done
  else
    let segment := segmentText special name
    if segment = ".." then done.dropLast ++ [""]
    else if segment = "." then pushSegment done ""
    else pushSegment done segment

def dropEmptyLast (segments : List String) : List String :=
  if 2 ≤ segments.length && segments.getLast? == some "" then segments.dropLast else segments

/-- The URL of the resource that `names` lead to from a base. A base without segments has none below
it and stays as it is. -/
def below (base : Url) (names : List String) : Url :=
  match base.path with
  | .segments segments =>
    { base with
      path := .segments (names.foldl (appendName base.isSpecial) (dropEmptyLast segments)) }
  | .plain _ => base

end AccessBaseline.Url
