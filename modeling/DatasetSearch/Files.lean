import DatasetSearch.Text.Basic

/-! A tree of files and folders.

Paths are written with slashes and start at the folder that a program runs in, or at the root of
all folders if they begin with a slash. A path is walked name by name: `.` stays, `..` goes to the
folder above, and every name but the last has to be that of a folder. One that ends in a slash can
only be that of a folder. Reading gives text only if a file holds UTF-8. Renaming puts a file in the
place of another at once. -/
namespace DatasetSearch.Files

/-- Why a file cannot be read, written or renamed. -/
inductive Fault where
  | notFound
  | notFolder
  | isFolder
  /-- The folder is one that the path only passes through. -/
  | busy
  | nameTooLong
  | notText
  | other (reason : String)
deriving DecidableEq, Repr

def Fault.message : Fault → String
  | .notFound => "No such file or directory (os error 2)"
  | .notFolder => "Not a directory (os error 20)"
  | .isFolder => "Is a directory (os error 21)"
  | .busy => "Device or resource busy (os error 16)"
  | .nameTooLong => "File name too long (os error 36)"
  | .notText => "stream did not contain valid UTF-8"
  | .other reason => reason

/-! ### Paths -/

/-- The most bytes that a name in a path has, and that a whole path has. -/
def nameLimit : Nat := 255
def pathLimit : Nat := 4095

/-- The names along a path. -/
def names (path : String) : List String :=
  ((Text.splitAll '/' path.toList).map String.ofList).filter (· ≠ "")

/-- Whether a path names a folder by a slash at its end. -/
def namesFolder (path : String) : Bool := path.toList.getLast? == some '/'

/-- A path, last character first, without the slashes and the points after slashes that it ends
in. -/
def dropStops : List Char → List Char
  | '/' :: before => dropStops before
  | '.' :: '/' :: before => dropStops before
  | path => path

/-- A file name without its last ending. The first character belongs to the name even if it is a
point. -/
def stem (name : List Char) : List Char :=
  match name.reverse.dropWhile (· ≠ '.') with
  | _ :: c :: before => (c :: before).reverse
  | _ => name

/-- The path of the file that is written first and then put in the place of the one at `path`: the
same path with `.tmp` for the ending of its last name. The ending is cut off first, and where that
leaves the folder above, there is no ending to replace any more. -/
def temporary (path : String) : String :=
  let kept := dropStops path.toList.reverse
  let folder := (kept.dropWhile (· ≠ '/')).reverse
  let name := (kept.takeWhile (· ≠ '/')).reverse
  if name = [] ∨ name = ['.'] ∨ name = ['.', '.'] then path
  else if stem name = ['.'] ∧ kept.length = path.length then
    String.ofList (folder ++ ['.', '.'])
  else String.ofList (folder ++ stem name ++ ['.', 't', 'm', 'p'])

/-! ### Trees -/

inductive Entry where
  | file (content : ByteArray)
  | folder

/-- What stands at each place. A place is given by the names that lead to it, either from the folder
that a program runs in, where `..` comes first if at all, or from the root, whose name is `/`. -/
structure Tree where
  entries : List (List String × Entry)

/-- Where a path leads: to a name in a folder, or to a folder that it only passes through. -/
structure Target where
  folder : List String
  name? : Option String

def Target.place (x : Target) : List String := x.folder ++ x.name?.toList

namespace Tree

def empty : Tree := ⟨[]⟩

/-- The folder that a program runs in and those above it are always there, and so is the root. -/
def entry? (t : Tree) (place : List String) : Option Entry :=
  if place.all (· == "..") || place == ["/"] then some .folder else t.entries.lookup place

/-- The folder above a folder; above the root there is none but itself. -/
def above (place : List String) : List String :=
  if place == ["/"] then place
  else if place.all (· == "..") then ".." :: place
  else place.dropLast

/-- Walks to the name that comes last. -/
def walk (t : Tree) (place : List String) : List String → Except Fault Target
  | [] | ["."] => .ok ⟨place, none⟩
  | [".."] => .ok ⟨above place, none⟩
  | [name] =>
    if nameLimit < name.utf8ByteSize then .error .nameTooLong else .ok ⟨place, some name⟩
  | "." :: rest => t.walk place rest
  | ".." :: rest => t.walk (above place) rest
  | name :: rest =>
    if nameLimit < name.utf8ByteSize then .error .nameTooLong
    else
      match t.entry? (place ++ [name]) with
      | none => .error .notFound
      | some (.file _) => .error .notFolder
      | some .folder => t.walk (place ++ [name]) rest

/-- The place that a path starts at. -/
def start (path : String) : List String := if path.startsWith "/" then ["/"] else []

/-- Where a path leads. -/
def target (t : Tree) (path : String) : Except Fault Target :=
  if path.contains '\x00' then .error (.other "file name contained an unexpected NUL byte")
  else if path.isEmpty then .error .notFound
  else if pathLimit < path.utf8ByteSize then .error .nameTooLong
  else t.walk (start path) (names path)

def set (t : Tree) (place : List String) (e : Entry) : Tree :=
  ⟨(place, e) :: t.entries.filter (·.1 != place)⟩

def remove (t : Tree) (place : List String) : Tree := ⟨t.entries.filter (·.1 != place)⟩

/-- The text of a file. -/
def read (t : Tree) (path : String) : Except Fault String := do
  let x ← t.target path
  match t.entry? x.place with
  | none => .error .notFound
  | some .folder => .error .isFolder
  | some (.file content) =>
    if namesFolder path then .error .notFolder
    else
      match String.fromUTF8? content with
      | some text => .ok text
      | none => .error .notText

/-- Makes a file or fills it anew. -/
def write (t : Tree) (path : String) (content : ByteArray) : Except Fault Tree := do
  let x ← t.target path
  match t.entry? x.place with
  | some .folder => .error .isFolder
  | _ => if namesFolder path then .error .isFolder else .ok (t.set x.place (.file content))

/-- Moves a file to another path, in the place of any file there. Folders are not moved. -/
def rename (t : Tree) (source target : String) : Except Fault Tree := do
  let x ← t.target source
  let y ← t.target target
  if x.name?.isNone || y.name?.isNone then .error .busy
  else
    match t.entry? x.place, t.entry? y.place with
    | none, _ => .error .notFound
    | some .folder, _ => .error .isFolder
    | some (.file content), found =>
      if namesFolder source || namesFolder target then .error .notFolder
      else
        match found with
        | some .folder => .error .isFolder
        | _ => .ok ((t.remove x.place).set y.place (.file content))

end Tree
end DatasetSearch.Files
