import VisualRegression.FileSystem.Path
import VisualRegression.Ordered.Map

/-!
# File systems

Files and directories from the top down, and what can be done with them. A relative path begins in
the working directory, so that all spellings of a path lead to one place. There are no links. An
operation that fails leaves the files as they are, except that directories made on the way stay.
Main statements: `node?_put_self` and `node?_put_of_ne` give what is at a place after something is
put there.
-/

namespace VisualRegression

/-- What a name stands for. -/
inductive Node where
  | file (bytes : List UInt8)
  | directory
deriving DecidableEq, Inhabited

/-- Files and directories. The working directory and those above it are always there. -/
structure FileSystem where
  entries : OrderedMap Place Node
deriving Inhabited

namespace FileSystem

/-- The file system with an empty working directory. -/
def empty : FileSystem := ⟨∅⟩

variable [WorkingDirectory]

/-- The place is there without an entry. -/
def isGiven (place : Place) : Bool := place.isPrefixOf WorkingDirectory.place

/-- What is at a place. -/
def node? (fs : FileSystem) (place : Place) : Option Node :=
  if isGiven place then some .directory else fs.entries.get? place

/-- The file system with something put at a place. -/
def put (fs : FileSystem) (place : Place) (node : Node) : FileSystem :=
  ⟨fs.entries.insert place node⟩

/-- What was put is there. -/
theorem node?_put_self (fs : FileSystem) {place : Place} (node : Node)
    (h : isGiven place = false) : (fs.put place node).node? place = some node := by
  simp [node?, put, h]

/-- All other places are as before. -/
theorem node?_put_of_ne (fs : FileSystem) {place other : Place} (node : Node)
    (h : other ≠ place) : (fs.put place node).node? other = fs.node? other := by
  simp only [node?, put]
  rw [OrderedMap.get?_insert_of_ne _ _ h]

/-- The place above; there is none above the top. -/
def above (place : Place) : Place := place.dropLast

/-- Goes from a directory to a name in it. -/
def enter (fs : FileSystem) (place : Place) (name : String) : Except FileFault Place :=
  match fs.node? place with
  | none => .error .notFound
  | some (.file _) => .error .notDirectory
  | some .directory =>
    if name = ".." then .ok (above place)
    else if name.utf8ByteSize > FilePath.maxNameLength then .error .nameTooLong
    else .ok (place ++ [name])

/-- Goes from a directory along names. The last name need not stand for anything. -/
def follow (fs : FileSystem) : Place → List FilePath.Segment → Except FileFault Place
  | place, [] => .ok place
  | place, part :: rest => do follow fs (← fs.enter place part.name) rest

/-- Where a path begins. -/
def start (p : FilePath) : Place := if p.absolute then [] else WorkingDirectory.place

/-- The place that a path leads to. -/
def locate (fs : FileSystem) (p : FilePath) : Except FileFault Place :=
  match p.fault? with
  | some fault => .error fault
  | none => fs.follow (start p) p.parts

/-- The places that a path goes through, whether or not something is there. -/
def placesAlong (p : FilePath) : List Place :=
  go (start p) p.parts
where
  /-- The places from a place along names. -/
  go (place : Place) : List FilePath.Segment → List Place
    | [] => []
    | part :: rest =>
      let place := if part.name = ".." then above place else place ++ [part.name]
      place :: go place rest

/-- What a path leads to. -/
def find (fs : FileSystem) (p : FilePath) : Except FileFault Node := do
  match fs.node? (← fs.locate p) with
  | none => .error .notFound
  | some .directory => .ok .directory
  | some (.file bytes) => if p.asDirectory then .error .notDirectory else .ok (.file bytes)

/-- The path leads to a file or a directory. -/
def exists? (fs : FileSystem) (p : FilePath) : Bool := (fs.find p).toOption.isSome

/-- The path leads to a directory. -/
def isDirectory (fs : FileSystem) (p : FilePath) : Bool :=
  (fs.find p).toOption == some .directory

/-- The bytes of a file. -/
def readFile (fs : FileSystem) (p : FilePath) : Except FileFault (List UInt8) := do
  match ← fs.find p with
  | .directory => .error .isDirectory
  | .file bytes => .ok bytes

/-- The directory in which a path ends and the name there. -/
def locateParent (fs : FileSystem) (p : FilePath) : Except FileFault (Place × Option String) := do
  match p.fault? with
  | some fault => .error fault
  | none =>
    match p.parts.getLast? with
    | none => .ok (start p, none)
    | some last =>
      let place ← fs.follow (start p) p.parts.dropLast
      match fs.node? place with
      | none => .error .notFound
      | some (.file _) => .error .notDirectory
      | some .directory => .ok (place, if last.name = ".." then none else some last.name)

/-- Makes a directory whose parent is there. -/
def makeDirectory (fs : FileSystem) (p : FilePath) : Except FileFault FileSystem := do
  match ← fs.locateParent p with
  | (_, none) => .error .alreadyExists
  | (place, some name) =>
    let place ← fs.enter place name
    if (fs.node? place).isSome then .error .alreadyExists else .ok (fs.put place .directory)

/-- Writes a file whose directory is there; a file that is there gives way to it. -/
def writeFile (fs : FileSystem) (p : FilePath) (bytes : List UInt8) :
    Except FileFault FileSystem := do
  match ← fs.locateParent p with
  | (_, none) => .error .isDirectory
  | (place, some name) =>
    if p.asDirectory then .error .isDirectory
    else
      let place ← fs.enter place name
      if fs.node? place = some .directory then .error .isDirectory
      else .ok (fs.put place (.file bytes))

/-- Gives a file a new path; a file that is there gives way to it. Directories are not moved. -/
def moveFile (fs : FileSystem) (source target : FilePath) : Except FileFault FileSystem := do
  let sourcePlace ← fs.locate source
  match ← fs.find source with
  | .directory => .error .isDirectory
  | .file bytes =>
    let removed : FileSystem := ⟨fs.entries.erase sourcePlace⟩
    match ← fs.locateParent target with
    | (_, none) => .error .isDirectory
    | (place, some name) =>
      let place ← fs.enter place name
      if fs.node? place = some .directory then .error .isDirectory
      else .ok (removed.put place (.file bytes))

/-- Makes the directory that names lead to, given from the last one on, and those above it. -/
def makeAll (absolute : Bool) :
    List FilePath.Segment → FileSystem → Except FileFault Unit × FileSystem
  | [], fs => (.ok (), fs)
  | last :: up, fs =>
    let p : FilePath := ⟨absolute, (last :: up).reverse, []⟩
    match fs.makeDirectory p with
    | .ok fs => (.ok (), fs)
    | .error .notFound =>
      match makeAll absolute up fs with
      | (.error fault, fs) => (.error fault, fs)
      | (.ok (), fs) =>
        match fs.makeDirectory p with
        | .ok fs => (.ok (), fs)
        | .error fault => (if fs.isDirectory p then .ok () else .error fault, fs)
    | .error fault => (if fs.isDirectory p then .ok () else .error fault, fs)

/-- Makes a directory and those above it, as far as they are not there. -/
def makeDirectories (fs : FileSystem) (p : FilePath) : Except FileFault Unit × FileSystem :=
  makeAll p.absolute p.parts.reverse fs

/-- What is below the working directory, with the names from there on. -/
def listing (fs : FileSystem) : List (Place × Node) :=
  let below := fs.entries.toList.filter fun e => WorkingDirectory.place.isPrefixOf e.1
  below.map fun e => (e.1.drop WorkingDirectory.place.length, e.2)

end FileSystem

end VisualRegression
