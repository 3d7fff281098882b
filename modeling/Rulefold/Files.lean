/-!
# Files

Files are opened by name. What a name leads to is up to the system, which can find a file or a
directory there, or fail for a reason of its own.

One such system is a tree of files that is seen from one of its directories. A name that starts
with a slash is followed from the root, and any other from that directory. It leads nowhere if the
tree has no such entry or if a plain file stands in the way.
-/

namespace Rulefold

/-- An entry of a file tree. -/
inductive Entry where
  /-- A plain file with its bytes. -/
  | file (content : List UInt8)
  /-- A directory. -/
  | directory
  deriving DecidableEq

/-- Why a name cannot be opened. -/
inductive OpenError where
  | notFound | notADirectory
  /-- The system has another reason, in words of its own. -/
  | refused (words : String)
  deriving DecidableEq

/-- The system's words for a failure to open. -/
def OpenError.message : OpenError → String
  | notFound => "No such file or directory (os error 2)"
  | notADirectory => "Not a directory (os error 20)"
  | refused words => words

/-- The files of a system: what it finds under a name when it is asked to open it. -/
structure Files where
  openName : String → Except OpenError Entry

/-- A tree of files, seen from one of its directories. -/
structure FileTree where
  /-- The entries by the path that leads to them from the root. -/
  entries : List (List String × Entry)
  /-- The path of the directory that names are followed from unless they start with a slash. -/
  working : List String

namespace FileTree

/-- The parts of a name between slashes. -/
def parts (name : String) : List String := name.splitToList (· == '/')

/-- Says whether a part of a name leads from a directory to that directory itself. -/
def staysHere (part : String) : Bool := part == "" || part == "."

/-- The path of the directory that a name is followed from. -/
def origin (working : List String) (name : String) : List String :=
  if name.startsWith "/" then [] else working

/-- The tree with the given entries; of several with one path the first counts. -/
def ofList (working : List String) (entries : List (String × Entry)) : FileTree where
  entries := entries.map fun (name, entry) =>
    (origin working name ++ (parts name).filter (!staysHere ·), entry)
  working

/-- What stands at a path. The root is a directory, and so is whatever leads to an entry or to the
directory that names are followed from. -/
def entryAt? (tree : FileTree) (place : List String) : Option Entry :=
  if place.isPrefixOf tree.working then some .directory
  else
    match tree.entries.find? (·.1 == place) with
    | some (_, entry) => some entry
    | none => if tree.entries.any (place.isPrefixOf ·.1) then some .directory else none

/-- Walks from a place along the parts of a name. What is above the root is the root. -/
def walk (tree : FileTree) (place : List String) : List String → Except OpenError Entry
  | [] =>
    match tree.entryAt? place with
    | some entry => .ok entry
    | none => .error .notFound
  | part :: rest =>
    match tree.entryAt? place with
    | none => .error .notFound
    | some (.file _) => .error .notADirectory
    | some .directory =>
      if staysHere part then tree.walk place rest
      else if part = ".." then tree.walk place.dropLast rest
      else tree.walk (place ++ [part]) rest

/-- Opens a name. The empty name leads nowhere. -/
def openName (tree : FileTree) (name : String) : Except OpenError Entry :=
  if name = "" then .error .notFound else tree.walk (origin tree.working name) (parts name)

/-- A tree as the files of a system. -/
def files (tree : FileTree) : Files where
  openName := tree.openName

end FileTree

/-- The files with the given names, which are followed from a directory of their own. -/
def Files.ofList (entries : List (String × Entry)) : Files :=
  (FileTree.ofList ["work"] entries).files

end Rulefold
