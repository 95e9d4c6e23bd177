import RelayGateway.Http.Target
import RelayGateway.Startup.FileTree

/-! # Where the tables are kept

* `DatabaseLocation`: what the address of a database says; `DatabaseLocation.ofUrl?` reads it.
* `ensureFile`: makes the file of a database, with the directories above it.
* `openDatabase`, `migrate`: opens a database, and makes its tables.

The file is made under the name as it is written in the address, but it is opened under the decoded one.
-/

set_option autoImplicit false

namespace RelayGateway

/-- Why a database cannot be used. -/
inductive DatabaseError where
  | directory (path : String) (cause : FileError)
  | file (path : String) (cause : FileError)
  /-- The database itself, or its address, is refused. -/
  | refused (reason : String)
  deriving DecidableEq

def DatabaseError.message : DatabaseError → String
  | .directory path cause => s!"无法创建数据库目录 {path}: {cause.message}"
  | .file path cause => s!"无法创建数据库文件 {path}: {cause.message}"
  | .refused reason => reason

def DatabaseError.toService (err : DatabaseError) : ServiceError := .ofDatabase err.message

/-- What the address of a database says. -/
structure DatabaseLocation where
  /-- The decoded path of the file. -/
  path : String
  inMemory : Bool
  readOnly : Bool
  createIfMissing : Bool
  immutable : Bool
  /-- The way to reach the file, if one is named. -/
  access : Option String
  deriving DecidableEq

/-- What follows a beginning, however often it is repeated. -/
def afterAll (start : List Char) : Nat → List Char → List Char
  | 0, cs => cs
  | fuel + 1, cs =>
    match Text.charsAfter? start cs with
    | some rest => afterAll start fuel rest
    | none => cs

namespace DatabaseLocation

/-- A file that is opened for reading and writing and has to be there. -/
def ofPath (path : String) : DatabaseLocation := ⟨path, false, false, false, false, none⟩

def withParameter (location : DatabaseLocation) (name value : String) : Option DatabaseLocation :=
  match name, value with
  | "mode", "ro" => some { location with readOnly := true }
  | "mode", "rw" => some location
  | "mode", "rwc" => some { location with createIfMissing := true }
  | "mode", "memory" => some { location with inMemory := true }
  | "cache", "private" | "cache", "shared" => some location
  | "immutable", "true" | "immutable", "1" => some { location with immutable := true }
  | "immutable", "false" | "immutable", "0" => some { location with immutable := false }
  | "vfs", value => some { location with access := some value }
  | _, _ => none

/-- The location with all parameters of its address. -/
def withParameters (location : DatabaseLocation) :
    List (List UInt8 × List UInt8) → Option DatabaseLocation
  | [] => some location
  | (name, value) :: rest => do
    let name ← Http.ofUtf8? name
    let value ← Http.ofUtf8? value
    withParameters (← location.withParameter name value) rest

def ofName? (name : String) : Option DatabaseLocation :=
  if name = ":memory:" then some { ofPath "" with inMemory := true }
  else (Http.ofUtf8? (Http.percentDecode (Http.utf8 name))).map ofPath

def ofUrl? (url : String) : Option DatabaseLocation := do
  if !Text.startsWith url "sqlite:" then none
  let cs := url.toList
  let body := afterAll "sqlite:".toList cs.length (afterAll "sqlite://".toList cs.length cs)
  let (name, query) := body.span fun c => c != '?'
  let location ← ofName? (String.ofList name)
  location.withParameters (Http.queryPairs (String.ofList (query.drop 1)))

def knownAccess : List String := ["unix", "unix-dotfile", "unix-excl", "unix-none"]

end DatabaseLocation

/-- The path in the address of a database, as it is written. -/
def writtenPath (url : String) : String :=
  let rest := ((Text.after? "sqlite://" url).or (Text.after? "sqlite:" url)).getD url
  String.ofList (rest.toList.takeWhile fun c => c != '?')

/-- Makes the directory in which a path lies unless something is there. -/
def ensureParent (path : String) : FileProgram (Except DatabaseError Unit) := do
  match parentPath path with
  | none => return .ok ()
  | some "" => return .ok ()
  | some parent =>
    match ← Program.request (FileCall.kind parent) with
    | some _ => return .ok ()
    | none =>
      match ← Program.request (FileCall.makeDirectories parent) with
      | .ok () => return .ok ()
      | .error cause => return .error (.directory parent cause)

/-- Makes the file of a database unless something is there. -/
def ensureFile (path : String) : FileProgram (Except DatabaseError Unit) := do
  match ← ensureParent path with
  | .error err => return .error err
  | .ok () =>
    match ← Program.request (FileCall.kind path) with
    | some _ => return .ok ()
    | none =>
      match ← Program.request (FileCall.makeFile path) with
      | .ok () => return .ok ()
      | .error cause => return .error (.file path cause)

def unopened : DatabaseError := .refused "unable to open database file"

def openLocation (location : DatabaseLocation) : FileProgram (Except DatabaseError Unit) := do
  if !(location.access.all DatabaseLocation.knownAccess.contains) then return .error unopened
  if location.inMemory then return .ok ()
  match ← Program.request (FileCall.kind location.path) with
  | some .file => return .ok ()
  | some .directory => return .error unopened
  | none =>
    if location.createIfMissing && !location.readOnly then
      match ← Program.request (FileCall.makeFile location.path) with
      | .ok () => return .ok ()
      | .error _ => return .error unopened
    else return .error unopened

/-- Opens the database of the settings; the file of a database that is not in memory is made first.
Opening takes time, so that a database without any time to open is never opened. -/
def openDatabase (database : DatabaseSettings) :
    FileProgram (Except DatabaseError DatabaseLocation) := do
  let prepared ←
    if database.isSqlite && !database.isMemory then ensureFile (writtenPath database.url)
    else pure (.ok ())
  match prepared with
  | .error err => return .error err
  | .ok () =>
    match DatabaseLocation.ofUrl? database.url with
    | none => return .error (.refused "unsupported database address")
    | some location =>
      match ← openLocation location with
      | .error err => return .error err
      | .ok () =>
        if database.connectTimeout = 0 then return .error (.refused "timed out")
        else return .ok location

def migrate (location : DatabaseLocation) : FileProgram (Except DatabaseError Unit) := do
  if location.inMemory then return .ok ()
  if location.readOnly || location.immutable then
    return .error (.refused "attempt to write a readonly database")
  let made : Bool ← Program.request (FileCall.makeTables location.path)
  if made then return .ok () else return .error (.refused "file is not a database")

end RelayGateway
