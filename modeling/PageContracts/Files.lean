import PageContracts.Failure
import PageContracts.Text.Quoted

/-! # Files

The directory the program works in, and paths as it names them. A path is shown the way it is
normalised: no empty and no single-dot parts. A double dot stays, because it leads back from
wherever the parts before it lead.
-/
namespace PageContracts

/-- A path: the slashes it starts with, none for a path from the working directory, and its
parts. -/
structure FilePath where
  root : String := ""
  parts : List String := []
  deriving DecidableEq, Repr, Inhabited

namespace FilePath

/-- The slashes a path keeps of those it starts with: two stay two, any other number counts as
one. -/
def rootOf (text : List Char) : String :=
  match (text.takeWhile (· = '/')).length with
  | 0 => ""
  | 2 => "//"
  | _ => "/"

/-- Read a path. Empty parts and single dots are left out. -/
def parse (text : String) : FilePath :=
  let pieces := (Characters.splitOn '/' text.toList).map String.ofList
  { root := rootOf text.toList
    parts := pieces.filter fun piece => piece ≠ "" && piece ≠ "." }

/-- Whether a path starts at the root of all files. -/
def isAbsolute (path : FilePath) : Bool :=
  path.root ≠ ""

/-- A path as messages show it. -/
def display (path : FilePath) : String :=
  if !path.isAbsolute && path.parts.isEmpty then "."
  else path.root ++ String.intercalate "/" path.parts

/-- A path behind another: an absolute one replaces it. -/
def append (path other : FilePath) : FilePath :=
  if other.isAbsolute then other else { path with parts := path.parts ++ other.parts }

/-- The path of what a path is an entry of. -/
def parent (path : FilePath) : FilePath :=
  { path with parts := path.parts.dropLast }

end FilePath

/-- What a path can lead to. -/
inductive FileEntry where
  | directory
  | file (text : String)
  deriving DecidableEq, Repr, Inhabited

/-- Why a path cannot be used. -/
inductive PathFault where
  /-- A null character, which no path holds. -/
  | nullCharacter
  /-- Nothing is there. -/
  | missing
  /-- The path goes on behind a file. -/
  | notDirectory
  /-- A name, or the path as a whole, is too long. -/
  | tooLong
  /-- Something is there already. -/
  | taken
  /-- A directory is there, where a file is wanted. -/
  | isDirectory
  deriving DecidableEq, Repr, Inhabited

namespace PathFault

/-- The failure of using a path in spite of a fault. -/
def failure (path : FilePath) : PathFault → Failure
  | .nullCharacter => .valueBreach "embedded null byte"
  | .missing => at_ .missingFile "[Errno 2] No such file or directory"
  | .notDirectory => at_ .notDirectory "[Errno 20] Not a directory"
  | .tooLong => at_ .unfitName "[Errno 36] File name too long"
  | .taken => at_ .fileExists "[Errno 17] File exists"
  | .isDirectory => at_ .isDirectory "[Errno 21] Is a directory"
where
  /-- A failure that names the path. -/
  at_ (kind : FailureKind) (message : String) : Failure :=
    .breach kind (message ++ ": " ++ Quoted.quoted path.display)

end PathFault

/-- The path that a text names; an empty text names none. -/
def FilePath.named (text : String) : Except Failure FilePath :=
  if text.isEmpty then .error (PathFault.missing.failure {}) else .ok (.parse text)

/-- The entries of a directory tree, by the way that leads to them. The top itself is always
there. -/
structure FileStore where
  entries : List (List String × FileEntry) := []
  deriving DecidableEq, Repr, Inhabited

namespace FileStore

/-- The longest name an entry can have, in bytes. -/
def longestName : Nat := 255

/-- The longest path that can be followed, in bytes. -/
def longestPath : Nat := 4095

/-- The entry at the end of a way without detours. -/
def entryAt? (store : FileStore) (way : List String) : Option FileEntry :=
  if way.isEmpty then some .directory
  else store.entries.lookup way

/-- Follow parts from a place in the tree; a double dot goes back up. Every place on the way must
be a directory, but nothing need be at its end. -/
def follow (store : FileStore) (place : List String) :
    List String → Except PathFault (List String)
  | [] => .ok place
  | part :: rest =>
    match store.entryAt? place with
    | none => .error .missing
    | some (.file _) => .error .notDirectory
    | some .directory =>
      if part = ".." then store.follow place.dropLast rest
      else if longestName < part.utf8ByteSize then .error .tooLong
      else store.follow (place ++ [part]) rest

/-- The place a path leads to. Nothing is known of places outside of the working directory. -/
def locate (store : FileStore) (path : FilePath) : Except PathFault (List String) :=
  if path.display.toList.contains '\x00' then .error .nullCharacter
  else if longestPath < path.display.utf8ByteSize then .error .tooLong
  else if path.isAbsolute then .error .missing
  else store.follow [] path.parts

/-- What a path leads to, if it leads anywhere. A path that is too long cannot even be asked
for. -/
def find? (store : FileStore) (path : FilePath) : Except Failure (Option FileEntry) :=
  match store.locate path with
  | .ok place => .ok (store.entryAt? place)
  | .error .tooLong => .error (PathFault.tooLong.failure path)
  | .error _ => .ok none

/-- Whether a path leads to a directory. -/
def isDirectory (store : FileStore) (path : FilePath) : Except Failure Bool := do
  return (← store.find? path) = some .directory

/-- Set the entry at the end of a way. -/
def put (store : FileStore) (way : List String) (entry : FileEntry) : FileStore :=
  ⟨(way, entry) :: store.entries.filter fun known => known.1 ≠ way⟩

/-- Remove the entry at the end of a way. -/
def erase (store : FileStore) (way : List String) : FileStore :=
  ⟨store.entries.filter fun known => known.1 ≠ way⟩

/-- Make one directory, where nothing may be yet. -/
def makeOne (store : FileStore) (path : FilePath) : Except PathFault FileStore := do
  let place ← store.locate path
  if (store.entryAt? place).isSome then throw .taken
  return store.put place .directory

end FileStore

/-- A change of files. One that fails keeps what it did before it failed. -/
abbrev FileChange : Type :=
  EStateM Failure FileStore Unit

namespace FileChange

/-- Make a directory where nothing is yet; with `keep` one that is there already will do. -/
def makeSingle (path : FilePath) (keep : Bool) : FileChange := do
  match (← get).makeOne path with
  | .ok store => set store
  | .error fault =>
    let kept := keep && fault ≠ .nullCharacter &&
      ((← get).find? path).toOption = some (some .directory)
    if !kept then throw (fault.failure path)

/-- Make a directory together with those above it that are missing. The fuel is the number of
parts of the path. -/
def makeUpward (path : FilePath) (keep : Bool) : Nat → FileChange
  | 0 => makeSingle path keep
  | fuel + 1 => do
    if (← get).makeOne path matches .error .missing then makeUpward path.parent true fuel
    makeSingle path keep

/-- Make a directory that is not there yet, with all directories above it. -/
def makeDirectory (path : FilePath) : FileChange :=
  makeUpward path false path.parts.length

/-- Make sure that a path is a directory, with all directories above it. -/
def ensureDirectory (path : FilePath) : FileChange :=
  if path.isAbsolute then pure () else makeUpward path true path.parts.length

/-- Write a file, with the directories above it. -/
def write (path : FilePath) (text : String) : FileChange := do
  ensureDirectory path.parent
  let store ← get
  match store.locate path with
  | .error fault => throw (fault.failure path)
  | .ok place =>
    if store.entryAt? place = some .directory then throw (PathFault.isDirectory.failure path)
    set (store.put place (.file text))

/-- Remove a file. -/
def remove (path : FilePath) : FileChange := do
  let store ← get
  match store.locate path with
  | .error fault => throw (fault.failure path)
  | .ok place =>
    match store.entryAt? place with
    | none => throw (PathFault.missing.failure path)
    | some .directory => throw (PathFault.isDirectory.failure path)
    | some (.file _) => set (store.erase place)

end FileChange
end PageContracts
