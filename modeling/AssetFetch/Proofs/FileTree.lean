/-
**What an operation leaves of a tree.**

* `get?_put_of_ne`, `get?_erase_of_ne`: an entry put or erased is the only one that differs;
* `erase_put_of_absent`: erasing what was put where nothing was gives the same tree again, entry by
  entry and not only for look-ups;
* `walk_of_directories`: a walk depends on the directories alone, so that it goes the same way in
  every tree that keeps them;
* `Vacant`, `Beside`: a place where a file can be created, and two names in one directory;
* `status_of_beside`: what a path names does not depend on the file beside it;
* `privileged_of_createNew` and its kin: no operation makes a user privileged.
-/

import AssetFetch.FileTree
import Mathlib.Data.List.Basic

namespace AssetFetch

namespace FileTree

/-! ### Entries -/

section Entries

variable {tree other : FileTree} {location place : Location} {entry : Entry}

theorem lookup_filter_key (keep : Location → Bool) (entries : List (Location × Entry)) :
    (entries.filter fun entry => keep entry.1).lookup place
      = if keep place then entries.lookup place else none := by
  induction entries with
  | nil => simp
  | cons first rest ih =>
    obtain ⟨key, value⟩ := first
    simp only [List.filter_cons]
    by_cases same : place = key
    · subst same
      cases kept : keep place <;> simp [kept, ih]
    · have apart : (place == key) = false := beq_eq_false_iff_ne.mpr same
      cases keep key <;> simp [List.lookup_cons, apart, ih]

theorem filter_of_lookup_eq_none {entries : List (Location × Entry)}
    (absent : entries.lookup location = none) :
    (entries.filter fun entry => entry.1 != location) = entries := by
  induction entries with
  | nil => rfl
  | cons first rest ih =>
    obtain ⟨key, value⟩ := first
    by_cases same : key = location
    · subst same
      simp at absent
    · have apart : (location == key) = false := beq_eq_false_iff_ne.mpr (Ne.symm same)
      have kept : (key != location) = true := bne_iff_ne.mpr same
      simp only [List.lookup_cons, apart] at absent
      simp only [List.filter_cons, kept, if_true, ih absent]

theorem get?_of_given (given : location.isGiven = true) : tree.get? location = some .directory := by
  simp [get?, given]

theorem get?_of_not_given (free : location.isGiven = false) :
    tree.get? location = tree.entries.lookup location := by
  simp [get?, free]

/-- Only a place that is not always a directory can hold anything else. -/
theorem not_given_of_ne_directory (apart : tree.get? location ≠ some .directory) :
    location.isGiven = false := by
  by_cases given : location.isGiven = true
  · exact absurd (get?_of_given given) apart
  · simpa using given

theorem get?_put_of_ne (different : place ≠ location) :
    (tree.put location entry).get? place = tree.get? place := by
  have apart : (place == location) = false := beq_eq_false_iff_ne.mpr different
  have kept : (place != location) = true := bne_iff_ne.mpr different
  simp only [get?, put, erase, List.lookup_cons, apart, lookup_filter_key (· != location), kept,
    if_true]

theorem get?_put_self (free : location.isGiven = false) :
    (tree.put location entry).get? location = some entry := by
  simp [get?, put, free]

theorem get?_erase_of_ne (different : place ≠ location) :
    (tree.erase location).get? place = tree.get? place := by
  have kept : (place != location) = true := bne_iff_ne.mpr different
  simp only [get?, erase, lookup_filter_key (· != location), kept, if_true]

theorem get?_erase_self (free : location.isGiven = false) :
    (tree.erase location).get? location = none := by
  simp [get?, erase, free, lookup_filter_key (· != location)]

theorem erase_put : (tree.put location entry).erase location = tree.erase location := by
  simp [put, erase]

theorem put_put {later : Entry} :
    (tree.put location entry).put location later = tree.put location later := by
  show FileTree.mk ((location, later) :: ((tree.put location entry).erase location).entries)
    tree.privileged = _
  rw [erase_put]
  rfl

@[simp] theorem privileged_put : (tree.put location entry).privileged = tree.privileged := rfl

@[simp] theorem privileged_erase : (tree.erase location).privileged = tree.privileged := rfl

@[simp] theorem privileged_appendAt (bytes : Bytes) :
    (tree.appendAt location bytes).privileged = tree.privileged := by
  unfold appendAt
  split
  · split <;> rfl
  · rfl

/-- Erasing where nothing is changes nothing. -/
theorem erase_of_absent (absent : tree.get? location = none) : tree.erase location = tree := by
  have apart : tree.get? location ≠ some .directory := by simp [absent]
  have free : location.isGiven = false := not_given_of_ne_directory apart
  rw [get?_of_not_given free] at absent
  simp only [erase, filter_of_lookup_eq_none absent]

/-- **A new entry leaves no trace when it is erased.** -/
theorem erase_put_of_absent (absent : tree.get? location = none) :
    (tree.put location entry).erase location = tree := by
  rw [erase_put, erase_of_absent absent]

end Entries

/-! ### Walks -/

section Walks

variable {tree other : FileTree}

theorem walk_append (here : Location) (names more : List Text.FileName) :
    tree.walk here (names ++ more)
      = tree.walk here names >>= fun place => tree.walk place more := by
  induction names generalizing here with
  | nil => rfl
  | cons name rest ih =>
    simp only [List.cons_append, walk]
    split
    · exact ih _
    · split
      · rfl
      · split
        · exact ih _
        · rfl
        · rfl

/-- **A walk that arrives goes the same way wherever its directories are.** -/
theorem walk_of_directories
    (kept : ∀ place, tree.get? place = some .directory → other.get? place = some .directory)
    {names : List Text.FileName} {here last : Location}
    (arrives : tree.walk here names = .ok last) :
    other.walk here names = .ok last := by
  induction names generalizing here with
  | nil => exact arrives
  | cons name rest ih =>
    simp only [walk] at arrives ⊢
    by_cases up : (name == "..") = true
    · rw [if_pos up] at arrives ⊢
      exact ih arrives
    · rw [if_neg up] at arrives ⊢
      by_cases long : isTooLong name = true
      · rw [if_pos long] at arrives
        cases arrives
      · rw [if_neg long] at arrives ⊢
        split at arrives
        · rename_i directory
          rw [kept _ directory]
          exact ih arrives
        · cases arrives
        · cases arrives

end Walks

/-! ### Places -/

section Places

variable {tree other : FileTree} {path file destination : Path} {location : Location}

/-- The place is one that the path names and where nothing is. -/
def Vacant (tree : FileTree) (path : Path) (location : Location) : Prop :=
  tree.locate path = .ok (.named location) ∧ tree.get? location = none

/-- Two paths with different final names in one directory. -/
structure Beside (file destination : Path) : Prop where
  parent : file.parent = destination.parent
  name : file.fileName ≠ destination.fileName

theorem systemNames_eq_ok {names : List Text.FileName} (encoded : systemNames path = .ok names) :
    names = path.names.map Text.LooseText.fileName := by
  unfold systemNames at encoded
  split at encoded
  · cases encoded
  · split at encoded
    · cases encoded
    · split at encoded
      · cases encoded
      · cases encoded
        rfl

theorem locate_eq_named_iff :
    tree.locate path = .ok (.named location)
      ↔ tree.placeOf path = .ok (.named location) ∧ endsTooLong location = false := by
  unfold locate
  constructor
  · intro located
    split at located
    · rename_i place placed
      split at located
      · cases located
      · rename_i short
        cases located
        exact ⟨placed, by simpa using short⟩
    · rename_i other
      exact absurd located (other location)
  · rintro ⟨placed, short⟩
    simp [placed, short]

/-- A path names an entry within a directory if the walk to its last name arrives there. -/
theorem placeOf_eq_named_iff :
    tree.placeOf path = .ok (.named location)
      ↔ ∃ names name directory, systemNames path = .ok names ∧ names.getLast? = some name
          ∧ name ≠ ".." ∧ tree.walk (startOf path) names.dropLast = .ok directory
          ∧ location = directory ++ [name] := by
  unfold placeOf
  constructor
  · intro placed
    split at placed
    · cases placed
    · rename_i names encoded
      split at placed
      · cases placed
      · rename_i name final
        split at placed
        · cases walked : tree.walk (startOf path) names <;> simp [walked, Except.map] at placed
        · rename_i down
          cases walked : tree.walk (startOf path) names.dropLast with
          | error fault => simp [walked, Except.map] at placed
          | ok directory =>
            simp only [walked, Except.map, Except.ok.injEq, Place.named.injEq] at placed
            exact ⟨names, name, directory, encoded, final, by simpa using down, walked, placed.symm⟩
  · rintro ⟨names, name, directory, encoded, final, down, walked, rfl⟩
    simp [encoded, final, down, walked, Except.map]

/-- Where the walk to the last name arrives, that name alone decides what the path names. -/
theorem placeOf_of_arrives {names : List Text.FileName} {directory : Location}
    (encoded : systemNames path = .ok names)
    (walked : tree.walk (startOf path) names.dropLast = .ok directory) :
    tree.placeOf path = .ok (match names.getLast? with
      | none => .fixed (startOf path)
      | some name =>
        if name == ".." then .fixed directory.above else .named (directory ++ [name])) := by
  unfold placeOf
  simp only [encoded]
  cases final : names.getLast? with
  | none => rfl
  | some name =>
    by_cases up : (name == "..") = true
    · have whole : names = names.dropLast ++ [name] :=
        (List.dropLast_append_getLast? name final).symm
      have last : tree.walk directory [name] = .ok directory.above := by simp only [walk, if_pos up]
      have arrives : tree.walk (startOf path) names = .ok directory.above := by
        rw [whole, walk_append, walked]
        exact last
      simp only [if_pos up, arrives]
      rfl
    · simp only [if_neg up, walked]
      rfl

theorem systemNames_getLast? {names : List Text.FileName} (encoded : systemNames path = .ok names) :
    path.fileName = names.getLast?.getD "" := by
  rw [systemNames_eq_ok encoded, List.getLast?_map, Path.fileName, Path.finalName]
  cases path.names.getLast? <;> rfl

/-- The last name of a place is that of every path to it. -/
theorem getLast?_of_placed (placed : tree.placeOf path = .ok (.named location)) :
    location.getLast? = some path.fileName := by
  obtain ⟨names, name, directory, encoded, final, _, _, rfl⟩ := placeOf_eq_named_iff.mp placed
  rw [systemNames_getLast? encoded, final]
  simp

/-- A path that names an entry names the same entry in every tree that keeps the directories. -/
theorem locate_of_directories
    (kept : ∀ place, tree.get? place = some .directory → other.get? place = some .directory)
    (located : tree.locate path = .ok (.named location)) :
    other.locate path = .ok (.named location) := by
  obtain ⟨placed, short⟩ := locate_eq_named_iff.mp located
  obtain ⟨names, name, directory, encoded, final, down, walked, same⟩ :=
    placeOf_eq_named_iff.mp placed
  refine locate_eq_named_iff.mpr ⟨placeOf_eq_named_iff.mpr ?_, short⟩
  exact ⟨names, name, directory, encoded, final, down, walk_of_directories kept walked, same⟩

/-- Where a file is created, no directory is lost. -/
theorem directories_put (free : tree.get? location ≠ some .directory) (entry : Entry) :
    ∀ place, tree.get? place = some .directory →
      (tree.put location entry).get? place = some .directory := by
  intro place directory
  have different : place ≠ location := fun same => free (same ▸ directory)
  rw [get?_put_of_ne different, directory]

/-- **Two paths in one directory**: where one of them names an entry, the other names the same place
in every tree that keeps the directories. -/
theorem placeOf_of_sibling (parent : file.parent = destination.parent)
    (placed : tree.placeOf file = .ok (.named location))
    (kept : ∀ place, tree.get? place = some .directory → other.get? place = some .directory) :
    other.placeOf destination = tree.placeOf destination := by
  obtain ⟨fileNames, fileName, directory, encoded, _, _, walked, rfl⟩ :=
    placeOf_eq_named_iff.mp placed
  have start : startOf file = startOf destination := by
    have slashes := congrArg Path.slashes parent
    simp only [Path.parent] at slashes
    simp only [startOf, slashes]
  cases handed : systemNames destination with
  | error fault => simp [placeOf, handed]
  | ok names =>
    have here : tree.walk (startOf destination) names.dropLast = .ok directory := by
      have above := congrArg Path.names parent
      simp only [Path.parent] at above
      rw [systemNames_eq_ok handed, ← List.map_dropLast, ← above, List.map_dropLast,
        ← systemNames_eq_ok encoded, ← start]
      exact walked
    rw [placeOf_of_arrives handed here,
      placeOf_of_arrives handed (walk_of_directories kept here)]

/-- Paths with different final names name different entries. -/
theorem ne_of_name_ne {place : Location} (names : file.fileName ≠ destination.fileName)
    (placed : tree.placeOf file = .ok (.named location))
    (target : tree.placeOf destination = .ok (.named place)) : place ≠ location := by
  rintro rfl
  exact names (Option.some.inj ((getLast?_of_placed placed).symm.trans (getLast?_of_placed target)))

/-- **The path beside a file names the same place whatever becomes of the file**, and another place
than the file. -/
theorem placeOf_of_beside (beside : Beside file destination)
    (located : tree.locate file = .ok (.named location))
    (kept : ∀ place, tree.get? place = some .directory → other.get? place = some .directory) :
    other.placeOf destination = tree.placeOf destination
      ∧ ∀ place, tree.placeOf destination = .ok (.named place) → place ≠ location := by
  have placed := (locate_eq_named_iff.mp located).1
  exact ⟨placeOf_of_sibling beside.parent placed kept,
    fun _ target => ne_of_name_ne beside.name placed target⟩

/-- **What a path names does not depend on the file beside it.** -/
theorem status_of_beside (beside : Beside file destination)
    (located : tree.locate file = .ok (.named location))
    (kept : ∀ place, tree.get? place = some .directory → other.get? place = some .directory)
    (same : ∀ place, place ≠ location → other.get? place = tree.get? place) :
    other.status destination = tree.status destination := by
  obtain ⟨equal, apart⟩ := placeOf_of_beside beside located kept
  unfold status locate
  rw [equal]
  cases placed : tree.placeOf destination with
  | error fault => rfl
  | ok place =>
    cases place with
    | fixed place => rfl
    | named place =>
      by_cases long : endsTooLong place = true
      · simp [long]
      · simp only [if_neg long, same place (apart place placed)]

end Places

/-! ### A new file -/

section Modes

variable (privileged : Bool)

/-- The permission bits after writing some bytes; writing none leaves them. -/
def modeWith (bytes : Bytes) (mode : Nat) : Nat :=
  if bytes.isEmpty then mode else modeAfterWriting privileged mode

theorem modeAfterWriting_twice (mode : Nat) :
    modeAfterWriting privileged (modeAfterWriting privileged mode)
      = modeAfterWriting privileged mode := by
  cases privileged with
  | true => rfl
  | false =>
    by_cases group : mode &&& 0o010 = 0
    · simp [modeAfterWriting, group, Nat.and_assoc]
    · simp [modeAfterWriting, group, Nat.and_assoc]

@[simp]
theorem modeWith_true (bytes : Bytes) (mode : Nat) : modeWith true bytes mode = mode := by
  unfold modeWith
  split <;> rfl

/-- Bytes may be written in parts. -/
theorem modeWith_append (bytes more : Bytes) (mode : Nat) :
    modeWith privileged (bytes ++ more) mode
      = modeWith privileged more (modeWith privileged bytes mode) := by
  cases bytes with
  | nil => rfl
  | cons first rest =>
    cases more with
    | nil => simp [modeWith]
    | cons next others => simp [modeWith, modeAfterWriting_twice]

end Modes

section NewFile

variable {tree after : FileTree} {file destination : Path} {location place : Location}
  {content : Bytes} {mode : Nat}

/-- The place is one that the path names and that can take a file. -/
def Accepts (tree : FileTree) (path : Path) (place : Location) : Prop :=
  tree.locate path = .ok (.named place) ∧ tree.get? place ≠ some .directory

theorem Vacant.ne_directory (vacant : tree.Vacant file location) :
    tree.get? location ≠ some .directory := by
  rw [vacant.2]
  simp

theorem Vacant.accepts (vacant : tree.Vacant file location) : tree.Accepts file location :=
  ⟨vacant.1, vacant.ne_directory⟩

/-- A file that a path can take is what the path names then. -/
theorem Accepts.status_put (accepts : tree.Accepts file location) (entry : Entry) :
    (tree.put location entry).status file = .ok entry := by
  have located := locate_of_directories (directories_put accepts.2 entry) accepts.1
  simp only [status, located, get?_put_self (not_given_of_ne_directory accepts.2)]

theorem createNew_eq_ok_iff (wished : Int) :
    tree.createNew file wished = .ok after
      ↔ ∃ location, tree.Vacant file location
          ∧ after = tree.put location (.file [] (newMode wished)) := by
  unfold createNew
  constructor
  · intro created
    split at created
    · cases created
    · cases created
    · rename_i location located
      split at created
      · cases created
      · rename_i absent
        cases created
        exact ⟨location, ⟨located, absent⟩, rfl⟩
  · rintro ⟨location, ⟨located, absent⟩, rfl⟩
    simp only [located, absent]

/-- The path of a new file goes on naming it. -/
theorem Accepts.locate_put (accepts : tree.Accepts file location) (entry : Entry) :
    (tree.put location entry).locate file = .ok (.named location) :=
  locate_of_directories (directories_put accepts.2 entry) accepts.1

theorem Accepts.get?_put (accepts : tree.Accepts file location) (entry : Entry) :
    (tree.put location entry).get? location = some entry :=
  get?_put_self (not_given_of_ne_directory accepts.2)

/-- Writing to a file that a path has taken. -/
theorem Accepts.append_put (accepts : tree.Accepts file location) (bytes : Bytes) :
    (tree.put location (.file content mode)).append file bytes
      = .ok (tree.put location
          (.file (content ++ bytes) (modeWith tree.privileged bytes mode))) := by
  simp only [append, accepts.locate_put, appendAt, accepts.get?_put, modeWith]
  cases bytes with
  | nil => simp
  | cons first rest => simp [put_put]

theorem Vacant.locate_put (vacant : tree.Vacant file location) (entry : Entry) :
    (tree.put location entry).locate file = .ok (.named location) :=
  vacant.accepts.locate_put entry

theorem Vacant.get?_put (vacant : tree.Vacant file location) (entry : Entry) :
    (tree.put location entry).get? location = some entry :=
  vacant.accepts.get?_put entry

theorem Vacant.status_put (vacant : tree.Vacant file location) (entry : Entry) :
    (tree.put location entry).status file = .ok entry :=
  vacant.accepts.status_put entry

/-- Writing to a new file. -/
theorem Vacant.append_put (vacant : tree.Vacant file location) (bytes : Bytes) :
    (tree.put location (.file content mode)).append file bytes
      = .ok (tree.put location (.file (content ++ bytes) (modeWith tree.privileged bytes mode))) :=
  vacant.accepts.append_put bytes

/-- Setting the permission bits of a new file. -/
theorem Vacant.setMode_put (vacant : tree.Vacant file location) (wished : Int) :
    (tree.put location (.file content mode)).setMode file wished
      = .ok (tree.put location (.file content (modeBits wished))) := by
  simp only [setMode, vacant.locate_put, vacant.get?_put, put_put]

/-- **Removing a new file gives back the tree before it.** -/
theorem Vacant.remove_put (vacant : tree.Vacant file location) :
    (tree.put location (.file content mode)).remove file = .ok tree := by
  simp only [remove, vacant.locate_put, vacant.get?_put, erase_put_of_absent vacant.2]

/-- What the destination names is the same with and without the new file. -/
theorem Vacant.status_beside (vacant : tree.Vacant file location) (beside : Beside file destination)
    (entry : Entry) : (tree.put location entry).status destination = tree.status destination :=
  status_of_beside beside vacant.1 (directories_put vacant.ne_directory entry)
    fun _ different => get?_put_of_ne different

/-- **A new file takes the place of the destination in one step**: it is renamed exactly when the
destination can take a file, and then nothing else differs from the tree before it was created. -/
theorem Vacant.rename_put (vacant : tree.Vacant file location) (beside : Beside file destination) :
    (tree.put location (.file content mode)).rename file destination = .ok after
      ↔ ∃ place, tree.Accepts destination place
          ∧ after = tree.put place (.file content mode) := by
  obtain ⟨equal, apart⟩ := placeOf_of_beside beside vacant.1
    (directories_put vacant.ne_directory (.file content mode))
  obtain ⟨placed, short⟩ := locate_eq_named_iff.mp (vacant.locate_put (.file content mode))
  unfold rename
  rw [placed, equal]
  cases target : tree.placeOf destination with
  | error fault => simp [Accepts, locate, target]
  | ok found =>
    cases found with
    | fixed found => simp [Accepts, locate, target]
    | named found =>
      have other : found ≠ location := apart found target
      have differ : (location == found) = false := beq_eq_false_iff_ne.mpr (Ne.symm other)
      simp only [short, Bool.false_eq_true, if_false, vacant.get?_put, get?_put_of_ne other, differ,
        erase_put_of_absent vacant.2]
      constructor
      · intro renamed
        split at renamed
        · contradiction
        · cases renamed
        · rename_i entry present free
          cases present
          split at renamed
          · cases renamed
          · rename_i fits
            cases renamed
            exact ⟨found, ⟨locate_eq_named_iff.mpr ⟨target, by simpa using fits⟩, free⟩, rfl⟩
      · rintro ⟨place, ⟨located, free⟩, rfl⟩
        obtain ⟨again, fits⟩ := locate_eq_named_iff.mp located
        rw [target] at again
        cases again
        split
        · contradiction
        · rename_i directory
          exact absurd directory free
        · simp_all

end NewFile

/-! ### The user -/

section User

variable {tree other : FileTree} {path source target : Path}

theorem privileged_of_createNew {mode : Int} (created : tree.createNew path mode = .ok other) :
    other.privileged = tree.privileged := by
  obtain ⟨_, _, rfl⟩ := (createNew_eq_ok_iff mode).mp created
  rfl

theorem privileged_of_openForWriting {keep : Bool} {location : Location}
    (opened : tree.openForWriting path keep = .ok (location, other)) :
    other.privileged = tree.privileged := by
  unfold openForWriting at opened
  grind [privileged_put]

theorem privileged_of_append {bytes : Bytes} (appended : tree.append path bytes = .ok other) :
    other.privileged = tree.privileged := by
  unfold append at appended
  grind [privileged_appendAt]

theorem privileged_of_setMode {mode : Int} (set : tree.setMode path mode = .ok other) :
    other.privileged = tree.privileged := by
  unfold setMode at set
  grind [privileged_put]

theorem privileged_of_rename (renamed : tree.rename source target = .ok other) :
    other.privileged = tree.privileged := by
  unfold rename at renamed
  grind [privileged_put, privileged_erase]

theorem privileged_of_remove (removed : tree.remove path = .ok other) :
    other.privileged = tree.privileged := by
  unfold remove at removed
  grind [privileged_erase]

theorem privileged_of_makeDirectory (made : tree.makeDirectory path = .ok other) :
    other.privileged = tree.privileged := by
  unfold makeDirectory at made
  grind [privileged_put]

end User

end FileTree

end AssetFetch
