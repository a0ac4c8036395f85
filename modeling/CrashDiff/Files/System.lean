import CrashDiff.Failure
import CrashDiff.Files.Path

/-!
# The file system

A tree of directories and text files, as a table from locations to entries. A location is the list
of names from the entry up to the root, so the root is the empty list. Paths are resolved name by
name from the root or from the working directory, and a name of two points goes to the parent
directory. Every operation fails with the cause that the operating system reports.

* `lookup_put_self`, `lookup_put_of_ne`, `lookup_erase_self`, `lookup_erase_of_ne`: what a write
  and a removal do to the entry at each location.
-/

namespace CrashDiff

/-- The names from an entry up to the root. -/
abbrev Location := List String

/-- What a location holds. -/
inductive Entry where
  | file (text : String)
  | directory
deriving DecidableEq, Repr

/-- The causes of failure of the operating system. -/
inductive SystemError where
  | notFound
  | exists
  | notDirectory
  | isDirectory
  | nameTooLong
deriving DecidableEq, Repr

namespace SystemError

/-- The number of a cause. -/
def number : SystemError → Int
  | .notFound => 2
  | .exists => 17
  | .notDirectory => 20
  | .isDirectory => 21
  | .nameTooLong => 36

/-- The text of a cause. -/
def text : SystemError → String
  | .notFound => "No such file or directory"
  | .exists => "File exists"
  | .notDirectory => "Not a directory"
  | .isDirectory => "Is a directory"
  | .nameTooLong => "File name too long"

/-- The kind of failure that a cause makes. -/
def kind : SystemError → FailureKind
  | .notFound => .fileNotFound
  | .exists => .fileExists
  | .notDirectory => .notADirectory
  | .isDirectory => .isADirectory
  | _ => .os

/-- The failure of an operation on a path. -/
def failure (e : SystemError) (p : Path) : Failure :=
  ⟨e.kind, [.int e.number, .str e.text, .str p.toText]⟩

end SystemError

/-- A file system and the working directory of the program. -/
structure FileSystem where
  entries : List (Location × Entry) := []
  workingDirectory : Location := []
deriving DecidableEq, Repr

namespace FileSystem

/-! ## Entries -/

/-- The entry at a location. -/
def lookup (fs : FileSystem) (location : Location) : Option Entry :=
  if location = [] then some .directory
  else (fs.entries.find? fun e => e.1 = location).map (·.2)

/-- The file system with an entry at a location. -/
def put (fs : FileSystem) (location : Location) (entry : Entry) : FileSystem :=
  { fs with entries := (location, entry) :: fs.entries.filter fun e => e.1 ≠ location }

/-- The file system without the entry at a location. -/
def erase (fs : FileSystem) (location : Location) : FileSystem :=
  { fs with entries := fs.entries.filter fun e => e.1 ≠ location }

theorem find?_filter_of_ne {location other : Location} (different : other ≠ location)
    (entries : List (Location × Entry)) :
    (entries.filter fun e => e.1 ≠ location).find? (fun e => e.1 = other) =
      entries.find? fun e => e.1 = other := by
  induction entries with
  | nil => rfl
  | cons e rest ih =>
    by_cases same : e.1 = location
    · simp [same, Ne.symm different, ← ih]
    · by_cases hit : e.1 = other
      · simp [hit, different]
      · simp [same, hit, ← ih]

theorem find?_filter_self (location : Location) (entries : List (Location × Entry)) :
    (entries.filter fun e => e.1 ≠ location).find? (fun e => e.1 = location) = none := by
  induction entries with
  | nil => rfl
  | cons e rest ih =>
    by_cases same : e.1 = location <;> simp [same]

theorem lookup_put_self {fs : FileSystem} {location : Location} {entry : Entry}
    (below : location ≠ []) : (fs.put location entry).lookup location = some entry := by
  simp [lookup, put, below]

theorem lookup_put_of_ne {fs : FileSystem} {location other : Location} {entry : Entry}
    (different : other ≠ location) :
    (fs.put location entry).lookup other = fs.lookup other := by
  simp only [lookup, put]
  split
  · rfl
  · have miss : location ≠ other := Ne.symm different
    simp only [List.find?_cons, miss, decide_false]
    rw [find?_filter_of_ne different]

theorem lookup_erase_self {fs : FileSystem} {location : Location} (below : location ≠ []) :
    (fs.erase location).lookup location = none := by
  simp only [lookup, erase, below, if_false]
  rw [find?_filter_self]
  rfl

theorem lookup_erase_of_ne {fs : FileSystem} {location other : Location}
    (different : other ≠ location) : (fs.erase location).lookup other = fs.lookup other := by
  simp only [lookup, erase]
  split
  · rfl
  · rw [find?_filter_of_ne different]

/-- The text of the file at a location. -/
def contents? (fs : FileSystem) (location : Location) : Option String :=
  match fs.lookup location with
  | some (.file text) => some text
  | _ => none

/-- Whether a location holds a directory. -/
def isDirectoryAt (fs : FileSystem) (location : Location) : Bool :=
  fs.lookup location = some .directory

/-! ## Resolving -/

/-- The most bytes of a name. -/
def maxNameBytes : Nat := 255

/-- The most bytes of the text of a path. -/
def maxPathBytes : Nat := 4095

/-- Fails unless the location holds a directory. -/
def needDirectory (fs : FileSystem) (location : Location) : Except SystemError Unit :=
  match fs.lookup location with
  | some .directory => .ok ()
  | some (.file _) => .error .notDirectory
  | none => .error .notFound

/-- The location that names lead to from a location. Every name but the last must lead to a
directory, and the last one to an entry. -/
def walk (fs : FileSystem) : Location → List String → Except SystemError Location
  | here, [] => .ok here
  | here, name :: names =>
    match fs.needDirectory here with
    | .error e => .error e
    | .ok () =>
      if name = ".." then fs.walk here.tail names
      else if maxNameBytes < name.utf8ByteSize then .error .nameTooLong
      else if (fs.lookup (name :: here)).isSome then fs.walk (name :: here) names
      else .error .notFound

/-- The location where the names of a path start. -/
def start (fs : FileSystem) (p : Path) : Location :=
  if p.anchor = .relative then fs.workingDirectory else []

/-- Fails if the text of a path is too long. -/
def needShort (p : Path) : Except SystemError Unit :=
  if maxPathBytes < p.toText.utf8ByteSize then .error .nameTooLong else .ok ()

/-- The location of the entry that a path leads to. -/
def resolve (fs : FileSystem) (p : Path) : Except SystemError Location :=
  match needShort p with
  | .error e => .error e
  | .ok () => fs.walk (fs.start p) p.names

/-- What the last name of a path stands for. -/
inductive Target where
  /-- The root, the working directory or a parent directory. -/
  | special
  /-- A name in a directory, whether it exists or not. -/
  | named (location : Location)
deriving DecidableEq, Repr

/-- Resolves all names but the last one, which must lie in a directory. -/
def locate (fs : FileSystem) (p : Path) : Except SystemError Target :=
  match needShort p with
  | .error e => .error e
  | .ok () =>
    match p.names.getLast? with
    | none => .ok .special
    | some name =>
      match fs.walk (fs.start p) p.names.dropLast with
      | .error e => .error e
      | .ok directory =>
        match fs.needDirectory directory with
        | .error e => .error e
        | .ok () =>
          if name = ".." then .ok .special
          else if maxNameBytes < name.utf8ByteSize then .error .nameTooLong
          else .ok (.named (name :: directory))

/-- The location of a file that is to be written: it may be new, but not a directory. -/
def locateFile (fs : FileSystem) (p : Path) : Except SystemError Location :=
  match fs.locate p with
  | .error e => .error e
  | .ok .special => .error .isDirectory
  | .ok (.named location) =>
    if fs.isDirectoryAt location then .error .isDirectory else .ok location

/-! ## Operations -/

/-- An operation: its result and the file system after it. -/
abbrev Action (α : Type) := FileSystem → Except Failure α × FileSystem

/-- Whether the text of a path holds the character that no path may hold. -/
def hasNull (p : Path) : Bool :=
  p.names.any fun name => name.toList.any fun c => c.toNat = 0

/-- The failure of a path that holds the character that no path may hold. -/
def nullFailure : Failure :=
  .withText .value "embedded null byte"

/-- Empties the file at a path, or creates it. The result is its location. -/
def create (p : Path) : Action Location := fun fs =>
  if hasNull p then (.error nullFailure, fs)
  else
    match fs.locateFile p with
    | .error e => (.error (e.failure p), fs)
    | .ok location => (.ok location, fs.put location (.file ""))

/-- Makes a text the whole content of the file at a path. -/
def write (p : Path) (text : String) : Action Unit := fun fs =>
  match create p fs with
  | (.error e, fs) => (.error e, fs)
  | (.ok location, fs) => (.ok (), fs.put location (.file text))

/-- Adds a text at the end of the file at a path, which is created if there is none. -/
def append (p : Path) (text : String) : Action Unit := fun fs =>
  if hasNull p then (.error nullFailure, fs)
  else
    match fs.locateFile p with
    | .error e => (.error (e.failure p), fs)
    | .ok location =>
      (.ok (), fs.put location (.file ((fs.contents? location).getD "" ++ text)))

/-- Removes the file at a path. The result is the location where it was. -/
def remove (p : Path) : Action Location := fun fs =>
  if hasNull p then (.error nullFailure, fs)
  else
    match fs.locate p with
    | .error e => (.error (e.failure p), fs)
    | .ok .special => (.error (SystemError.isDirectory.failure p), fs)
    | .ok (.named location) =>
      match fs.lookup location with
      | none => (.error (SystemError.notFound.failure p), fs)
      | some .directory => (.error (SystemError.isDirectory.failure p), fs)
      | some (.file _) => (.ok location, fs.erase location)

/-- The cause for which a directory cannot be made, or its location. -/
def locateNew (fs : FileSystem) (p : Path) : Except SystemError Location :=
  match fs.locate p with
  | .error e => .error e
  | .ok .special => .error .exists
  | .ok (.named location) =>
    if (fs.lookup location).isSome then .error .exists else .ok location

/-- Makes a directory in a directory. -/
def makeOne (p : Path) : FileSystem → Except SystemError Unit × FileSystem := fun fs =>
  match fs.locateNew p with
  | .error e => (.error e, fs)
  | .ok location => (.ok (), fs.put location .directory)

/-- Whether a path leads to a directory. -/
def isDirectory (fs : FileSystem) (p : Path) : Bool :=
  match fs.resolve p with
  | .ok location => fs.isDirectoryAt location
  | .error _ => false

/-- Forgives that a directory is already there, if that is asked for. -/
def forgive (existing : Bool) (p : Path) :
    Except SystemError Unit × FileSystem → Except Failure Unit × FileSystem
  | (.ok (), fs) => (.ok (), fs)
  | (.error e, fs) =>
    if e ≠ .notFound && existing && fs.isDirectory p then (.ok (), fs)
    else (.error (e.failure p), fs)

/-- Makes the directory with the given names, the last one first, and the missing ones above
it. -/
def makeAll (anchor : Anchor) : (existing : Bool) → List String → Action Unit
  | existing, [] => fun fs =>
    let p : Path := ⟨anchor, []⟩
    forgive existing p (makeOne p fs)
  | existing, name :: above => fun fs =>
    let p : Path := ⟨anchor, (name :: above).reverse⟩
    match makeOne p fs with
    | (.error .notFound, fs) =>
      match makeAll anchor true above fs with
      | (.error e, fs) => (.error e, fs)
      | (.ok (), fs) => forgive existing p (makeOne p fs)
    | attempt => forgive existing p attempt

/-- Makes a directory and the missing ones above it. `existing` tells whether the directory may
already be there. -/
def makeDirectory (existing : Bool) (p : Path) : Action Unit := fun fs =>
  if hasNull p then (.error nullFailure, fs)
  else makeAll p.anchor existing p.names.reverse fs

/-! ## Writing through an open file -/

/-- The bytes of a text with new ones put over them from an offset on; a gap is filled with
zeros. -/
def splice (old : ByteArray) (offset : Nat) (new : ByteArray) : ByteArray :=
  old.extract 0 offset ++ ⟨Array.replicate (offset - old.size) 0⟩ ++ new ++
    old.extract (offset + new.size) old.size

/-- A text with a new one written over it from an offset on, in bytes. At the end of the text the
new one is added. -/
def overwrite (old : String) (offset : Nat) (new : String) : String :=
  if offset = old.utf8ByteSize then old ++ new
  else (String.fromUTF8? (splice old.toUTF8 offset new.toUTF8)).getD (old ++ new)

/-- Writes into the file at a location from an offset on. -/
def writeAt (fs : FileSystem) (location : Location) (offset : Nat) (text : String) : FileSystem :=
  fs.put location (.file (overwrite ((fs.contents? location).getD "") offset text))

end FileSystem

end CrashDiff
