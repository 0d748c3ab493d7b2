/-!
Files as a command sees them: contents under a path, or the reason why there are none. A folder
that holds files and no other folders is one way to have such files.
-/
namespace IncrementalGlr.CommandLine

/-- Why a file cannot be read or written. -/
inductive FileError where
  | notFound
  | isFolder
  /-- Something stands behind the name of a file. -/
  | notFolder
  | notText
  /-- The path, or a name in it, has too many bytes. -/
  | tooLong
  /-- The path holds a null character. -/
  | nullInPath
  | other (message : String)
  deriving DecidableEq, Repr, Inhabited

def FileError.message : FileError → String
  | notFound => "No such file or directory (os error 2)"
  | isFolder => "Is a directory (os error 21)"
  | notFolder => "Not a directory (os error 20)"
  | notText => "stream did not contain valid UTF-8"
  | tooLong => "File name too long (os error 36)"
  | nullInPath => "file name contained an unexpected NUL byte"
  | other message => message

/-- Files by name, each name once. -/
structure Folder where
  entries : List (String × ByteArray) := []
  deriving Inhabited

namespace Folder

def find? (f : Folder) (name : String) : Option ByteArray := f.entries.lookup name

/-- Puts a file in the place of the one of its name, if there is one. -/
def insert (f : Folder) (name : String) (bytes : ByteArray) : Folder :=
  if (f.find? name).isSome then
    ⟨f.entries.map fun e => if e.1 == name then (name, bytes) else e⟩
  else ⟨f.entries ++ [(name, bytes)]⟩

/-- The names, in order. -/
def names (f : Folder) : List String := (f.entries.map (·.1)).mergeSort (· ≤ ·)

/-- Where a path leads: to a folder, or to a name in this one, behind which the parts `rest`
follow, or to a name elsewhere. -/
inductive Place where
  | folder
  | entry (name : String) (rest : List String)
  | elsewhere (name : String)
  deriving DecidableEq, Repr, Inhabited

/-- Follows the parts of a path. -/
def placeOf : List String → Place
  | [] => .folder
  | part :: rest =>
    if part.isEmpty || part == "." then placeOf rest
    else if part == ".." then
      match rest.find? fun p => !(p.isEmpty || p == "." || p == "..") with
      | some name => .elsewhere name
      | none => .folder
    else .entry part rest

/-- The place that a path names. A path from the root leads elsewhere. -/
def place (path : String) : Place :=
  let parts := path.splitOn "/"
  match placeOf parts with
  | .entry name rest => if parts.head? == some "" then .elsewhere name else .entry name rest
  | other => other

/-- A path has fewer bytes than this. -/
def maxPathBytes : Nat := 4096

/-- A name has no more bytes than this. -/
def maxNameBytes : Nat := 255

/-- What is wrong with a path, whatever files there are. -/
def pathError? (path : String) : Option FileError :=
  if path.contains (Char.ofNat 0) then some .nullInPath
  else if path.isEmpty then some .notFound
  else if maxPathBytes ≤ path.utf8ByteSize then some .tooLong
  else none

/-- Why a name that others follow leads nowhere: there are no folders in this one. -/
def noFolder (f : Folder) (name : String) : FileError :=
  if maxNameBytes < name.utf8ByteSize then .tooLong
  else if (f.find? name).isSome then .notFolder
  else .notFound

/-- Reads the file that a path names. -/
def read (f : Folder) (path : String) : Except FileError ByteArray :=
  match pathError? path with
  | some why => .error why
  | none =>
    match place path with
    | .folder => .error .isFolder
    | .elsewhere name => .error (if maxNameBytes < name.utf8ByteSize then .tooLong else .notFound)
    | .entry name rest =>
      match f.find? name with
      | some bytes => if rest.isEmpty then .ok bytes else .error .notFolder
      | none => .error (f.noFolder name)

/-- Writes the file that a path names. A file elsewhere changes nothing here. -/
def write (f : Folder) (path : String) (bytes : ByteArray) : Except FileError Folder :=
  match pathError? path with
  | some why => .error why
  | none =>
    match place path with
    | .folder => .error .isFolder
    | .elsewhere name => if maxNameBytes < name.utf8ByteSize then .error .tooLong else .ok f
    | .entry name rest =>
      if !rest.all String.isEmpty then .error (f.noFolder name)
      else if !rest.isEmpty then .error .isFolder
      else if maxNameBytes < name.utf8ByteSize then .error .tooLong
      else .ok (f.insert name bytes)

end Folder

/-! ## Extensions -/

/-- The part of a file's name in front of its last point. A point at the beginning does not
count. -/
def stem (name : List Char) : List Char :=
  match (name.reverse.dropWhile (· ≠ '.')).drop 1 with
  | [] => name
  | front => front.reverse

/-- Gives the file that a path names another extension. -/
def withExtension (path extension : String) : String :=
  let cs := path.toList
  let name := (cs.reverse.takeWhile (· ≠ '/')).reverse
  let front := cs.take (cs.length - name.length)
  String.ofList (front ++ stem name ++ '.' :: extension.toList)

end IncrementalGlr.CommandLine
