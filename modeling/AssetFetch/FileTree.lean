/-
**A tree of files.**

Files with their bytes and their permission bits: those below the working directory, and those
outside it, of which nothing is there at first but the directories on the way up and the root. Every
operation answers the new tree or the reason why it is refused, and a refused operation changes
nothing. Permission bits do not bind a privileged user, and such a user's writing leaves them alone.

* `FileTree`, `get?`, `put`, `erase`: the entries by location, and whether the user is privileged;
* `locate`: the place that a path names, every directory on the way existing;
* `createNew`, `openForWriting`, `append`, `setMode`, `rename`, `remove`, `makeDirectory`, `status`,
  `read`: the operations;
* `FileFault`: the reasons for a refusal.
-/

import AssetFetch.Path

namespace AssetFetch

/-- Why an operation on files is refused. -/
inductive FileFault where
  | notFound
  | denied
  | busy
  | alreadyThere
  | notDirectory
  | isDirectory
  | nameTooLong
  | nullCharacter
  | unencodable (fault : Text.Unencodable)
  deriving DecidableEq, Repr, Inhabited

/-- The names from the working directory to an entry: two dots for each step up, and a slash first
for an entry below the root. -/
abbrev Location := List Text.FileName

namespace Location

/-- The working directory. -/
def here : Location := []

/-- The root. -/
def root : Location := ["/"]

/-- The directory above; nothing is above the root. -/
def above (location : Location) : Location :=
  if location == root then root
  else if location.all (· == "..") then location ++ ([".."] : Location)
  else location.dropLast

/-- Whether a directory is there in every tree. -/
def isGiven (location : Location) : Bool :=
  location == root || location.all (· == "..")

/-- Whether an entry lies outside the working directory. -/
def isOutside (location : Location) : Bool :=
  location.head? == some "/" || location.head? == some ".."

end Location

/-- A directory, or a file with its bytes and permission bits. -/
inductive Entry where
  | directory
  | file (content : Bytes) (mode : Nat)
  deriving DecidableEq, Repr, Inhabited

/-- Entries, each at one location, and whether whoever works with them is privileged. -/
structure FileTree where
  entries : List (Location × Entry)
  privileged : Bool
  deriving DecidableEq, Repr, Inhabited

namespace FileTree

/-- A tree without entries, of an ordinary user. -/
def empty : FileTree := ⟨[], false⟩

/-- The entry at a location; some directories are always there. -/
def get? (tree : FileTree) (location : Location) : Option Entry :=
  if location.isGiven then some .directory else tree.entries.lookup location

/-- The entries below the working directory. -/
def entriesBelow (tree : FileTree) : List (Location × Entry) :=
  tree.entries.filter fun entry => !entry.1.isOutside

/-- The tree without the entry at a location. -/
def erase (tree : FileTree) (location : Location) : FileTree :=
  { tree with entries := tree.entries.filter fun entry => entry.1 != location }

/-- The tree with an entry at a location. -/
def put (tree : FileTree) (location : Location) (entry : Entry) : FileTree :=
  { tree with entries := (location, entry) :: (tree.erase location).entries }

/-! ### Places -/

/-- The most bytes of a name. -/
def nameLimit : Nat := 255

/-- The number of bytes that no path reaches. -/
def pathLimit : Nat := 4096

/-- Whether a name has too many bytes. -/
def isTooLong (name : Text.FileName) : Bool :=
  name.bytes.length > nameLimit

/-- Follows names through directories; two dots lead to the directory above. -/
def walk (tree : FileTree) (here : Location) : List Text.FileName → Except FileFault Location
  | [] => .ok here
  | name :: rest =>
    if name == ".." then walk tree here.above rest
    else if isTooLong name then .error .nameTooLong
    else
      match tree.get? (here ++ [name]) with
      | some .directory => walk tree (here ++ [name]) rest
      | some (.file _ _) => .error .notDirectory
      | none => .error .notFound

/-- What a path names: a directory by way of dots, or a name within a directory. -/
inductive Place where
  | fixed (location : Location)
  | named (location : Location)
  deriving DecidableEq, Repr, Inhabited

/-- The names of a path as they are handed to the system. -/
def systemNames (path : Path) : Except FileFault (List Text.FileName) :=
  match path.unnameable? with
  | some fault => .error (.unencodable fault)
  | none =>
    if path.bytes.contains 0 then .error .nullCharacter
    else if path.bytes.length ≥ pathLimit then .error .nameTooLong
    else .ok (path.names.map Text.LooseText.fileName)

/-- Where a path starts. -/
def startOf (path : Path) : Location :=
  if path.slashes == 0 then .here else .root

/-- The place that a path names, however long its final name is. -/
def placeOf (tree : FileTree) (path : Path) : Except FileFault Place :=
  match systemNames path with
  | .error fault => .error fault
  | .ok names =>
    match names.getLast? with
    | none => .ok (.fixed (startOf path))
    | some name =>
      if name == ".." then (tree.walk (startOf path) names).map .fixed
      else
        (tree.walk (startOf path) names.dropLast).map fun directory =>
          .named (directory ++ [name])

/-- Whether the final name of a location has too many bytes. -/
def endsTooLong (location : Location) : Bool :=
  location.getLast?.any isTooLong

/-- The place that a path names. -/
def locate (tree : FileTree) (path : Path) : Except FileFault Place :=
  match tree.placeOf path with
  | .ok (.named location) =>
    if endsTooLong location then .error .nameTooLong else .ok (.named location)
  | other => other

/-! ### Permission bits -/

/-- The permission bits that count. -/
def modeBits (mode : Int) : Nat :=
  (mode % 0x1000).toNat

/-- The permission bits that a new file does not get. -/
def withheldBits : Nat := 0o022

/-- The permission bits of a new file. -/
def newMode (mode : Int) : Nat :=
  modeBits mode &&& (0xFFF ^^^ withheldBits)

/-- The permission bits of files created without a wish. -/
def plainMode : Int := 0o666

/-- Whether the owner may read. -/
def isReadable (mode : Nat) : Bool :=
  mode &&& 0o400 != 0

/-- Whether the owner may write. -/
def isWritable (mode : Nat) : Bool :=
  mode &&& 0o200 != 0

/-- Whether a file of some permission bits may be read. -/
def mayRead (tree : FileTree) (mode : Nat) : Bool :=
  tree.privileged || isReadable mode

/-- Whether a file of some permission bits may be written. -/
def mayWrite (tree : FileTree) (mode : Nat) : Bool :=
  tree.privileged || isWritable mode

/-- The permission bits after writing. If an ordinary user writes, the user identity bit goes, and
where the group may execute the group identity bit goes too. -/
def modeAfterWriting (privileged : Bool) (mode : Nat) : Nat :=
  if privileged then mode
  else
    let cleared := mode &&& (0xFFF ^^^ 0o4000)
    if mode &&& 0o010 != 0 then cleared &&& (0xFFF ^^^ 0o2000) else cleared

/-! ### Operations -/

/-- The entry that a path names. -/
def status (tree : FileTree) (path : Path) : Except FileFault Entry :=
  match tree.locate path with
  | .error fault => .error fault
  | .ok (.fixed _) => .ok .directory
  | .ok (.named location) =>
    match tree.get? location with
    | some entry => .ok entry
    | none => .error .notFound

/-- The bytes of a file. -/
def read (tree : FileTree) (path : Path) : Except FileFault Bytes :=
  match tree.status path with
  | .error fault => .error fault
  | .ok .directory => .error .isDirectory
  | .ok (.file content mode) => if tree.mayRead mode then .ok content else .error .denied

/-- Creates a file where nothing is. -/
def createNew (tree : FileTree) (path : Path) (mode : Int) : Except FileFault FileTree :=
  match tree.locate path with
  | .error fault => .error fault
  | .ok (.fixed _) => .error .alreadyThere
  | .ok (.named location) =>
    match tree.get? location with
    | some _ => .error .alreadyThere
    | none => .ok (tree.put location (.file [] (newMode mode)))

/-- Opens a file for writing, creating it if needed; `keep` tells whether its bytes stay. Answers
its location as well. -/
def openForWriting (tree : FileTree) (path : Path) (keep : Bool) :
    Except FileFault (Location × FileTree) :=
  match tree.locate path with
  | .error fault => .error fault
  | .ok (.fixed _) => .error .isDirectory
  | .ok (.named location) =>
    match tree.get? location with
    | some .directory => .error .isDirectory
    | some (.file content mode) =>
      if !tree.mayWrite mode then .error .denied
      else if keep then .ok (location, tree.put location (.file content mode))
      else .ok (location, tree.put location (.file [] (modeAfterWriting tree.privileged mode)))
    | none => .ok (location, tree.put location (.file [] (newMode plainMode)))

/-- The tree with bytes added to the file at a location. -/
def appendAt (tree : FileTree) (location : Location) (bytes : Bytes) : FileTree :=
  match tree.get? location with
  | some (.file content mode) =>
    if bytes.isEmpty then tree
    else
      tree.put location (.file (content ++ bytes) (modeAfterWriting tree.privileged mode))
  | _ => tree

/-- Adds bytes to a file that is open for writing. -/
def append (tree : FileTree) (path : Path) (bytes : Bytes) : Except FileFault FileTree :=
  match tree.locate path with
  | .error fault => .error fault
  | .ok (.fixed _) => .error .isDirectory
  | .ok (.named location) => .ok (tree.appendAt location bytes)

/-- Sets the permission bits of a file. -/
def setMode (tree : FileTree) (path : Path) (mode : Int) : Except FileFault FileTree :=
  match tree.locate path with
  | .error fault => .error fault
  | .ok (.fixed _) => .ok tree
  | .ok (.named location) =>
    match tree.get? location with
    | some (.file content _) => .ok (tree.put location (.file content (modeBits mode)))
    | some .directory => .ok tree
    | none => .error .notFound

/-- Moves a file to another place, where it replaces a file. Both places are found before either
final name is looked at. -/
def rename (tree : FileTree) (source target : Path) : Except FileFault FileTree :=
  match tree.placeOf source, tree.placeOf target with
  | .error fault, _ => .error fault
  | _, .error fault => .error fault
  | .ok (.named location), .ok (.named destination) =>
    if endsTooLong location then .error .nameTooLong
    else
      match tree.get? location, tree.get? destination with
      | none, _ => .error .notFound
      | some _, some .directory => .error .isDirectory
      | some entry, _ =>
        if endsTooLong destination then .error .nameTooLong
        else if location == destination then .ok tree
        else .ok ((tree.erase location).put destination entry)
  | _, _ => .error .busy

/-- Removes a file. -/
def remove (tree : FileTree) (path : Path) : Except FileFault FileTree :=
  match tree.locate path with
  | .error fault => .error fault
  | .ok (.fixed _) => .error .isDirectory
  | .ok (.named location) =>
    match tree.get? location with
    | some .directory => .error .isDirectory
    | some (.file _ _) => .ok (tree.erase location)
    | none => .error .notFound

/-- Makes a directory where nothing is. -/
def makeDirectory (tree : FileTree) (path : Path) : Except FileFault FileTree :=
  match tree.locate path with
  | .error fault => .error fault
  | .ok (.fixed _) => .error .alreadyThere
  | .ok (.named location) =>
    match tree.get? location with
    | some _ => .error .alreadyThere
    | none => .ok (tree.put location .directory)

end FileTree

/-! ### Wording -/

/-- The error number of a refusal. -/
def FileFault.number : FileFault → Int
  | notFound => 2
  | denied => 13
  | busy => 16
  | alreadyThere => 17
  | notDirectory => 20
  | isDirectory => 21
  | nameTooLong => 36
  | nullCharacter => 22
  | unencodable _ => 22

/-- The text of a refusal. -/
def FileFault.reason : FileFault → String
  | notFound => "No such file or directory"
  | denied => "Permission denied"
  | busy => "Device or resource busy"
  | alreadyThere => "File exists"
  | notDirectory => "Not a directory"
  | isDirectory => "Is a directory"
  | nameTooLong => "File name too long"
  | nullCharacter => "Invalid argument"
  | unencodable _ => "Invalid argument"

end AssetFetch
