import RouteOverrides.Failure
import RouteOverrides.Text.Split

/-! # Where the database file lies

The configured path names the database file, or a directory to put it in. Directories above the file
are made when they are missing.

* `Place.ofPath`: the steps that a path takes from the working directory, with `.` and `..` worked
  out on the text alone.
* `FileTree.locate`: the place of the file, and the tree with its directories made.
* `FileTree.openDatabase`: opens the database file, which is made when it is missing, and writes to
  it. Writing keeps a rollback journal beside the file and looks for a write-ahead log there; a
  directory in the place of either is in the way. -/

namespace RouteOverrides

/-- The way to a file or directory from the working directory. Steps up come first. -/
abbrev Place := List String

namespace Place

def follow (place : Place) (step : String) : Place :=
  if step = "" ∨ step = "." then place
  else if step = ".." then
    match place.getLast? with
    | some last => if last = ".." then place ++ [step] else place.dropLast
    | none => [step]
  else place ++ [step]

def ofPath (path : String) : Place :=
  ((Text.split '/' path.toList).map String.ofList).foldl follow []

def toPath (place : Place) : String := if place = [] then "." else String.intercalate "/" place

def name (place : Place) : String := place.getLast?.getD ""

/-- The place beside this one whose name is longer by a suffix. -/
def beside (place : Place) (suffix : String) : Place := place.dropLast ++ [place.name ++ suffix]

def parent (place : Place) : Place :=
  match place.getLast? with
  | some last => if last = ".." then place ++ [".."] else place.dropLast
  | none => [".."]

end Place

/-- The directories and files that there are, besides the working directory and those above it. -/
structure FileTree where
  /-- The way from the root to the working directory. -/
  workingDirectory : List String
  directories : List Place := []
  files : List Place := []
  deriving DecidableEq, Repr

/-- Why a directory cannot be made. -/
inductive LocationFault where
  /-- A file is in the way. -/
  | notADirectory
  /-- A name or a path is longer than a file system takes. -/
  | tooLong
  /-- A name holds the character that ends paths. -/
  | nullCharacter
  deriving DecidableEq, Repr

namespace FileTree

/-- The most bytes that a name may have. -/
def maxNameBytes : Nat := 255

/-- The most bytes that the path of a directory may have. -/
def maxPathBytes : Nat := 4095

/-- The most bytes that the path of a database file may have, so that there is room for suffixes. -/
def maxDatabasePathBytes : Nat := 504

/-- The number of bytes of the path from the root to a place. -/
def pathBytes (tree : FileTree) (place : Place) : Nat :=
  let below := place.dropWhile (· == "..")
  let above := tree.workingDirectory.take
    (tree.workingDirectory.length - (place.length - below.length))
  (above ++ below).foldr (fun step bytes => 1 + step.utf8ByteSize + bytes) 0

def isDirectory (tree : FileTree) (place : Place) : Bool :=
  place.all (· == "..") || tree.directories.contains place

def isFile (tree : FileTree) (place : Place) : Bool := tree.files.contains place

/-- Whether a name holds the character that ends paths. -/
def holdsNull (name : String) : Bool := name.toList.contains '\x00'

/-- Makes a directory, and with it all those above it. -/
def makeDirectories (tree : FileTree) : Place → Except LocationFault FileTree
  | [] => .ok tree
  | step :: rest => go tree [] (step :: rest)
where
  /-- Goes down from a directory that is there, and makes one directory a step. -/
  go (tree : FileTree) (above : Place) : List String → Except LocationFault FileTree
    | [] => .ok tree
    | step :: rest =>
      let place := above ++ [step]
      -- What is there already is only passed through.
      if tree.isDirectory place then go tree place rest
      else if tree.isFile place then
        -- The file is in the way only of a name that can be looked up.
        .error (if (rest.head?.map holdsNull).getD false then .nullCharacter else .notADirectory)
      else if holdsNull step then .error .nullCharacter
      else if step.utf8ByteSize > maxNameBytes || tree.pathBytes place > maxPathBytes then
        .error .tooLong
      else go { tree with directories := tree.directories ++ [place] } place rest

/-- The place of the database file for a configured path, and the tree with the directories above it
made. A path that names a directory means the file `vsr.db` in it. -/
def locate (tree : FileTree) (path : String) : Except LocationFault (Place × FileTree) := do
  let configured := Place.ofPath path
  let place := if tree.isDirectory configured then configured ++ ["vsr.db"] else configured
  let above := place.parent
  let made ← if tree.isDirectory above || tree.isFile above then pure tree
    else tree.makeDirectories above
  if holdsNull place.name then throw .nullCharacter
  pure (place, made)

/-- Makes a file where there is none; none if that is not possible. -/
def touch (tree : FileTree) (place : Place) : Option FileTree :=
  if tree.isFile place then some tree
  else if tree.isDirectory place || !tree.isDirectory place.parent
      || place.name.utf8ByteSize > maxNameBytes then none
  else some { tree with files := tree.files ++ [place] }

def remove (tree : FileTree) (place : Place) : FileTree :=
  { tree with files := tree.files.filter (· != place) }

/-- Opens a database file and writes to it. When that fails the file may have been made all the
same. -/
def openDatabase (tree : FileTree) (place : Place) : Except Failure Unit × FileTree :=
  if tree.pathBytes place > maxDatabasePathBytes then (.error .databaseUnavailable, tree)
  else
    match tree.touch place with
    | none => (.error .databaseUnavailable, tree)
    | some opened =>
      let rollback := place.beside "-journal"
      if opened.isDirectory (place.beside "-wal") then (.error .databaseUnreadable, opened)
      else
        match opened.touch rollback with
        | none => (.error .databaseUnavailable, opened)
        | some journaled => (.ok (), journaled.remove rollback)

/-- All paths below the working directory, in order; those of directories end in a slash. -/
def paths (tree : FileTree) : List String :=
  let directories := tree.directories.map fun place => place.toPath ++ "/"
  let files := tree.files.map Place.toPath
  ((directories ++ files).filter fun path => !"../".toList.isPrefixOf path.toList).mergeSort
    fun first second => first ≤ second

end FileTree

end RouteOverrides
