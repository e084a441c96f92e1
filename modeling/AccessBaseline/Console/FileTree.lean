import AccessBaseline.IoFault
import AccessBaseline.Text.Fields

/-! Files and directories below one place, held in memory. -/
namespace AccessBaseline.Console

/-- Files with their texts, and directories; a path is the list of the names that lead to it. -/
structure FileTree where
  files : List (List String × String)
  directories : List (List String)

namespace FileTree

def empty : FileTree := ⟨[], []⟩

def parts (path : String) : List String := (Text.fields (· == '/') path.toList).map String.ofList

def above (path : String) : String :=
  (if path.startsWith "/" then "/" else "") ++
    "/".intercalate ((parts path).filter (· ≠ "")).dropLast

def isHere (part : String) : Bool := part = "" || part = "."

def ofFiles (files : List (String × String)) : FileTree :=
  let files := files.map fun f => ((parts f.1).filter (!isHere ·), f.2)
  ⟨files, files.flatMap fun f => (List.range f.1.length).map f.1.take⟩

def isFile (tree : FileTree) (names : List String) : Bool := (tree.files.lookup names).isSome

def isDirectory (tree : FileTree) (names : List String) : Bool :=
  names.isEmpty || tree.directories.contains names

def obstacle? (tree : FileTree) (names : List String) : Option IoFault :=
  if tree.isDirectory names then none
  else if tree.isFile names then some .notADirectory
  else some .notFound

/-- The place that the parts of a path lead to from another. It need not exist, but all that the
path passes through does. -/
def follow (tree : FileTree) (names : List String) : List String → Except IoFault (List String)
  | [] => .ok names
  | part :: rest =>
    match tree.obstacle? names with
    | some fault => .error fault
    | none =>
      follow tree
        (if isHere part then names else if part = ".." then names.dropLast else names ++ [part]) rest

def read (tree : FileTree) (path : String) : Except IoFault String := do
  let names ← tree.follow [] (parts path)
  match tree.files.lookup names with
  | some text => return text
  | none => throw (if tree.isDirectory names then .isADirectory else .notFound)

def put (names : List String) (text : String) :
    List (List String × String) → List (List String × String)
  | [] => [(names, text)]
  | (n, t) :: rest => if n = names then (names, text) :: rest else (n, t) :: put names text rest

def write (tree : FileTree) (path text : String) : Except IoFault FileTree := do
  let names ← tree.follow [] (parts path)
  if tree.isDirectory names then throw .isADirectory
  return { tree with files := put names text tree.files }

def createFrom (tree : FileTree) (names : List String) : List String → Except IoFault FileTree
  | [] => .ok tree
  | part :: rest =>
    if isHere part then createFrom tree names rest
    else if part = ".." then createFrom tree names.dropLast rest
    else
      let names := names ++ [part]
      if tree.isFile names then .error (if rest.all isHere then .fileExists else .notADirectory)
      else if tree.isDirectory names then createFrom tree names rest
      else createFrom { tree with directories := tree.directories ++ [names] } names rest

def createDirectories (tree : FileTree) (path : String) : Except IoFault FileTree :=
  tree.createFrom [] (parts path)

end FileTree

end AccessBaseline.Console
