import Highlighting.Effect
import Highlighting.Text.Newlines
import Highlighting.Text.Utf8

/-!
# Files

A program sees a tree of directories and files, and works in one of the directories. A path is a
row of names between slashes. It is followed name by name, from the root if it starts with a
slash and from the working directory otherwise: an empty name and a dot stay where they are, two
dots go up, and any other name must be that of a directory or, at the end of the path, of a file.
Neither a name nor a path can have more bytes than the system allows.

Files hold text in UTF-8. A program sees it with a newline at the end of every line. What the
program appends to a file is there when the file is read the next time.

## Main definitions

* `Files`, `Files.entry?` -- the files that a program sees.
* `Files.after` -- the files once effects took place.
* `Files.find` -- what a path leads to.
* `Files.readText` -- the text of a file.
* `Files.openLog` -- the file or stream that records are sent to.
-/
namespace Highlighting

/-- What a path can lead to. -/
inductive FileEntry where
  | file (bytes : List Nat)
  | directory
deriving DecidableEq, Repr

/-- Names on the way from one directory to another or to a file. -/
abbrev PathNames := List Text

/-- Files and directories by the names on the way to them from the root, and the names on the way
to the working directory. -/
structure Files where
  home : PathNames
  entries : List (PathNames × FileEntry)
deriving DecidableEq, Repr

/-- The names of a path, also those that are empty. -/
def pathNames (path : Text) : PathNames :=
  path.splitOn '/'

/-- The path from the root along names. -/
def rootedPath (names : PathNames) : Text :=
  '/' :: Text.joinWith ['/'] names

/-- The most bytes that a name has. -/
def nameLimit : Nat := 255

/-- The most bytes that a path has. -/
def pathLimit : Nat := 4095

/-- A text has more bytes than allowed. -/
def isLongerThan (limit : Nat) (t : Text) : Bool :=
  limit < (Utf8.encode t).length

namespace Files

/-- What stands at the end of a row of names. There is a directory wherever something is below,
and on the way to the working directory. -/
def entry? (fs : Files) (names : PathNames) : Option FileEntry :=
  match fs.entries.lookup names with
  | some e => some e
  | none =>
    if names.isPrefixOf fs.home || fs.entries.any fun e => names.isPrefixOf e.1 then
      some .directory
    else none

/-- Where a path has led so far. -/
inductive Place where
  | directory (names : PathNames)
  | file (bytes : List Nat)
deriving DecidableEq, Repr

/-- Where one more name leads. Above the root there is only the root. -/
def step (fs : Files) (path : Text) (place : Place) (name : Text) : Except SystemError Place :=
  match place with
  | .file _ => .error (.notADirectory path)
  | .directory names =>
    if name = [] ∨ name = ['.'] then .ok place
    else if name = ['.', '.'] then .ok (.directory names.dropLast)
    else if isLongerThan nameLimit name then .error (.nameTooLong path)
    else
      match fs.entry? (names ++ [name]) with
      | some .directory => .ok (.directory (names ++ [name]))
      | some (.file bytes) => .ok (.file bytes)
      | none => .error (.noSuchFile path)

/-- The names on the way to where a path starts. -/
def start (fs : Files) (path : Text) : PathNames :=
  if path.head? = some '/' then [] else fs.home

/-- Follow names from a directory, on the path to which errors refer. The empty path leads
nowhere. -/
def follow (fs : Files) (path : Text) (names before : PathNames) : Except SystemError Place :=
  if path = [] then .error (.noSuchFile path)
  else if isLongerThan pathLimit path then .error (.nameTooLong path)
  else names.foldlM (fs.step path) (.directory before)

/-- Where a path leads to. -/
def find (fs : Files) (path : Text) : Except SystemError Place :=
  fs.follow path (pathNames path) (fs.start path)

/-- The bytes of the file that a path leads to. -/
def readBytes (fs : Files) (path : Text) : Except SystemError (List Nat) :=
  match fs.find path with
  | .ok (.file bytes) => .ok bytes
  | .ok (.directory _) => .error (.isADirectory path)
  | .error e => .error e

/-- The text that bytes from outside stand for. -/
def textOf (bytes : List Nat) : Except Failure Text :=
  match Utf8.decode bytes with
  | .ok t => .ok t.unifyNewlines
  | .error e => .error (.undecodable e)

/-- A path must not hold the null character. -/
def checkPath (path : Text) : Except Failure Unit :=
  if path.contains (Char.ofNat 0) then .error (.foreign "embedded null byte") else .ok ()

/-- The text of the file that a path leads to. -/
def readText (fs : Files) (path : Text) : Except Failure Text := do
  checkPath path
  match fs.readBytes path with
  | .ok bytes => textOf bytes
  | .error e => throw (.system e)

/-! ## Direct paths -/

/-- A row of names with one more: names that stay drop out, and two dots undo the name before
them. -/
def pushName (names : PathNames) (name : Text) : PathNames :=
  if name = [] ∨ name = ['.'] then names
  else if name = ['.', '.'] then names.dropLast
  else names ++ [name]

/-- The names on the way from the root to where a path leads, without detours. -/
def directNames (fs : Files) (path : Text) : PathNames :=
  (pathNames path).foldl pushName (fs.start path)

/-- A path that leads from the root to where a path leads, without detours. Two slashes at its
start are kept, and any other number of them is one. -/
def direct (fs : Files) (path : Text) : Text :=
  let rooted := rootedPath (fs.directNames path)
  if (path.takeWhile (· = '/')).length = 2 then '/' :: rooted else rooted

/-! ## Effects on files -/

/-- The bytes of the file at the end of a row of names, none if there is no file. -/
def bytesAt (fs : Files) (names : PathNames) : List Nat :=
  match fs.entry? names with
  | some (.file bytes) => bytes
  | _ => []

/-- The files with one more entry, in place of what was there. -/
def put (fs : Files) (names : PathNames) (entry : FileEntry) : Files :=
  { fs with entries := (names, entry) :: fs.entries }

@[simp] theorem entry?_put (fs : Files) (names : PathNames) (entry : FileEntry) :
    Files.entry? (fs.put names entry) names = some entry := by
  simp [put, entry?]

/-- The files once an effect took place. -/
def afterOne (fs : Files) : Effect → Files
  | .append path text =>
    let names := fs.directNames path
    fs.put names (.file (fs.bytesAt names ++ Utf8.encode text))
  | .makeDirectory path => fs.put (fs.directNames path) .directory
  | .print _ | .complain _ => fs

/-- The files once effects took place, one after the other. -/
def after (fs : Files) (effects : List Effect) : Files :=
  effects.foldl afterOne fs

/-- An act on files, followed by one on the files that it leaves. -/
def followed {α : Type} (fs : Files) (first : Act Unit) (next : Files → Act α) : Act α :=
  first.bind fun () => next (fs.after first.effects)

/-! ## Log files -/

/-- A file can be written at the end of a direct path: there is a file, or nothing in a
directory. -/
def checkWritable (fs : Files) (path : Text) (names : PathNames) : Except SystemError Unit :=
  match fs.follow path names [], fs.follow path names.dropLast [] with
  | .ok (.file _), _ => .ok ()
  | .ok (.directory _), _ => .error (.isADirectory path)
  | .error (.noSuchFile _), .ok (.directory _) => .ok ()
  | .error e, _ => .error e

/-- A directory can be had at the end of names: there is one, or nothing. -/
def checkDirectory (fs : Files) (names : PathNames) : Except SystemError Unit :=
  match fs.entry? names with
  | some (.file _) => .error (.fileExists (rootedPath names))
  | _ => .ok ()

/-- Open a file for records. It must be writable, and is known by its direct path. -/
def openLogFile (fs : Files) (path : Text) : Act LogSink := do
  Act.ofResult (checkPath path)
  let sink := LogSink.file (fs.direct path)
  Act.ofResult ((fs.checkWritable (fs.direct path) (fs.directNames path)).mapError .system)
  Act.does sink.opening
  return sink

/-- Make the directory of a file if there is none. -/
def openDirectory (fs : Files) (path : Text) : Act Unit := do
  let names := (fs.directNames path).dropLast
  Act.ofResult ((fs.checkDirectory names).mapError .system)
  Act.does [.makeDirectory (rootedPath names)]

/-- The sink for records that are asked to go somewhere. The directory of the file that is used
unless another is named is made if need be. -/
def openLog (fs : Files) : LogTarget → Act LogSink
  | .nowhere => pure .nowhere
  | .stdout => pure .stdout
  | .standard =>
    fs.followed (fs.openDirectory standardLogFile) fun made => made.openLogFile standardLogFile
  | .file path => fs.openLogFile path

end Files

end Highlighting
