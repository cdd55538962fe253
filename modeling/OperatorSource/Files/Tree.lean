import OperatorSource.Files.System

/-!
# File trees

A file tree is a small file system: an empty place of its own with directories, and with files that
hold texts. Reading never changes it. Writing either replaces the whole content of one file, which
it may create, or fails and changes nothing; it never makes a directory.

A path is a list of names between slashes, which leads on from the root of the tree. Repeated
slashes and single dots mean nothing, a double dot leads back, and a slash at the end asks for a
directory. A path that begins with a slash, or that leads back beyond the root, leaves the tree, and
finds nothing.
-/

namespace OperatorSource

/-- Directories and files by their names from the root on. The root itself is always there. -/
structure FileTree where
  directories : List (List String) := []
  files : List (List String × String) := []

namespace FileTree

def isDirectory (tree : FileTree) (place : List String) : Bool :=
  place.isEmpty || tree.directories.contains place

def content? (tree : FileTree) (place : List String) : Option String := tree.files.lookup place

/-- Puts a file into a place, or replaces the one that is there. -/
def put (place : List String) (content : String) :
    List (List String × String) → List (List String × String)
  | [] => [(place, content)]
  | file :: rest =>
    if file.1 = place then (place, content) :: rest else file :: put place content rest

/-- What a path leads to: a directory, or a name in a directory and whether a slash follows it. -/
inductive Target where
  | directory
  | entry (place : List String) (slash : Bool)
  deriving DecidableEq

/-- Goes on from a directory by one name, to a directory. -/
def step (tree : FileTree) (place : List String) (name : String) :
    Except FileFault (List String) :=
  if name = "" ∨ name = "." then .ok place
  else if name = ".." then if place.isEmpty then .error .notFound else .ok place.dropLast
  else if 255 < name.utf8ByteSize then .error .nameTooLong
  else
    let next := place ++ [name]
    if tree.isDirectory next then .ok next
    else if (tree.content? next).isSome then .error .notDirectory
    else .error .notFound

/-- Goes on from a directory by several names, to a directory. -/
def walk (tree : FileTree) (place : List String) : List String → Except FileFault (List String)
  | [] => .ok place
  | name :: rest => do tree.walk (← tree.step place name) rest

def names (path : String) : List String := (path.toList.splitOn '/').map String.ofList

/-- What a path leads to. -/
def target (tree : FileTree) (path : String) : Except FileFault Target :=
  if path.toList.contains '\x00' then .error .zeroCharacter
  else if path = "" then .error .notFound
  else if 4096 ≤ path.utf8ByteSize then .error .nameTooLong
  else if path.toList.head? = some '/' then
    if path.toList.all (fun character => character == '/') then .ok .directory
    else .error .notFound
  else
    let kept := ((names path).reverse.dropWhile (fun name => name == "")).reverse
    let slash := decide (kept.length < (names path).length)
    match kept.getLast? with
    | none => .ok .directory
    | some last => do
      let parent ← tree.walk [] kept.dropLast
      if last = "." ∨ last = ".." then
        let _ ← tree.step parent last
        return .directory
      else if 255 < last.utf8ByteSize then .error .nameTooLong
      else return .entry (parent ++ [last]) slash

/-- The content of the file that a path leads to. -/
def read (tree : FileTree) (path : String) : Except FileFault String := do
  match ← tree.target path with
  | .directory => .error .isDirectory
  | .entry place slash =>
    if tree.isDirectory place then .error .isDirectory
    else
      match tree.content? place with
      | none => .error .notFound
      | some content => if slash then .error .notDirectory else .ok content

/-- The tree after a text was written to the file that a path leads to. -/
def write (tree : FileTree) (path content : String) : Except FileFault FileTree := do
  match ← tree.target path with
  | .directory => .error .isDirectory
  | .entry place slash =>
    if slash || tree.isDirectory place then .error .isDirectory
    else return { tree with files := put place content tree.files }

instance : FileSystem FileTree where
  read := read
  write tree path text :=
    match tree.write path text with
    | .ok after => (.ok (), after)
    | .error fault => (.error fault, tree)

def parents (place : List String) : List (List String) :=
  (List.range place.length).filterMap (fun count =>
    if count = 0 then none else some (place.take count))

/-- The tree that holds some named files, and an empty directory for each name without a
content. -/
def ofList (entries : List (String × Option String)) : FileTree :=
  entries.foldl (fun tree entry =>
    let place := (names entry.1).filter (fun name => name != "")
    match entry.2 with
    | none => { tree with directories := tree.directories ++ parents place ++ [place] }
    | some content => {
      directories := tree.directories ++ parents place
      files := put place content tree.files }) {}

def placeText (place : List String) : String := "/".intercalate place

/-- The named files of a tree whose content is not the one they have in an earlier tree. -/
def changes (earlier tree : FileTree) : List (String × String) :=
  (tree.files.filter (fun file => earlier.content? file.1 ≠ some file.2)).map (fun file =>
    (placeText file.1, file.2))

end FileTree

end OperatorSource
