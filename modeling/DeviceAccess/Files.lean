import DeviceAccess.Fault
import DeviceAccess.Text.Cut
import DeviceAccess.Text.Utf8

/-!
# Files and paths

What a program sees of a file system: where a path leads. Reading is a question to that view, so that
everything that looks for files is a plain function of it. `FileTree.files` is the view of given
files and folders.
-/

namespace DeviceAccess

open Text

/-! ## §1 Paths -/

namespace Path

/-- The path begins at the root. -/
def isAbsolute (path : String) : Bool := path.toList.head? == some '/'

/-- The path `inner` as it is seen from `outer`. -/
def join (outer inner : String) : String :=
  if isAbsolute inner then inner
  else if outer.isEmpty || outer.toList.getLast? == some '/' then outer ++ inner
  else outer ++ "/" ++ inner

/-- The names without those at the end that lead nowhere, which are empty or a dot. -/
def dropIdle (names : List (List Char)) : List (List Char) :=
  (names.reverse.dropWhile fun n => n.isEmpty || n == ['.']).reverse

/-- The folder of a path, whose first name is empty if it begins at the root. -/
def folderOf (first : List Char) (rest : List (List Char)) : Option (List Char) :=
  match (dropIdle rest).reverse with
  | [] => if first.isEmpty then none else some []
  | _ :: before =>
    match dropIdle before.reverse with
    | [] => some (if first.isEmpty then ['/'] else first)
    | names => some (joinWith ['/'] (first :: names))

/-- The folder that a path lies in. The root and the empty path lie in none. -/
def parent? (path : String) : Option String :=
  match pieces '/' path.toList with
  | [] => none
  | first :: rest => (folderOf first rest).map String.ofList

end Path

/-! ## §2 What a path leads to -/

/-- What a path leads to. -/
inductive Node where
  | file (content : Octets) (executable : Bool)
  | folder
  /-- Something is there, but reading it fails. -/
  | sealed (fault : IoFault)

/-- A view of the file system: what each path leads to, or why it leads nowhere. -/
structure Files where
  look : String → Except IoFault Node

/-- A path that leads nowhere. -/
def noSuchFile : IoFault :=
  { kind := .notFound, message := "No such file or directory (os error 2)" }

/-- A path through something that is no folder. -/
def notAFolder : IoFault :=
  { kind := .notADirectory, message := "Not a directory (os error 20)" }

/-- A path to a folder where a file is needed. -/
def isAFolder : IoFault := { kind := .isADirectory, message := "Is a directory (os error 21)" }

/-- A path to something that must not be used. -/
def notPermitted : IoFault :=
  { kind := .permissionDenied, message := "Permission denied (os error 13)" }

/-- A file that is no text. -/
def notText : IoFault :=
  { kind := .invalidData, message := "stream did not contain valid UTF-8" }

namespace Files

/-- The path leads somewhere. -/
def exists_ (f : Files) (path : String) : Bool := (f.look path).toBool

/-- The content of a file. -/
def read (f : Files) (path : String) : Except IoFault Octets :=
  match f.look path with
  | .ok (.file content _) => .ok content
  | .ok .folder => .error isAFolder
  | .ok (.sealed fault) => .error fault
  | .error fault => .error fault

/-- The text of a file. -/
def readText (f : Files) (path : String) : Except IoFault String := do
  match textOfUtf8? (← f.read path) with
  | some text => return text
  | none => throw notText

/-- A file at the path can be written at its end, and is made if there is none. -/
def canAppend (f : Files) (path : String) : Except IoFault Unit :=
  match f.look path with
  | .ok (.file ..) => .ok ()
  | .ok .folder => .error isAFolder
  | .ok (.sealed fault) => .error fault
  | .error fault =>
    if fault.kind = .notFound ∧ path.toList.getLast? ≠ some '/' then
      match Path.parent? path with
      | some "" => .ok ()
      | some outer =>
        match f.look outer with
        | .ok .folder => .ok ()
        | .ok _ => .error notAFolder
        | .error e => .error e
      | none => .error fault
    else .error fault

end Files

/-! ## §3 Given files and folders -/

/-- Files and folders by their names from the root on. What lies on the way to them is a folder. -/
structure FileTree where
  nodes : List (List (List Char) × Node)

namespace FileTree

/-- What stands under names from the root on. -/
def at? (t : FileTree) (names : List (List Char)) : Option Node :=
  match t.nodes.lookup names with
  | some node => some node
  | none =>
    if names.isEmpty || t.nodes.any fun (other, _) => names.isPrefixOf other then some .folder
    else none

/-- Follows names from a place, which is given last name first. -/
def walk (t : FileTree) (place : List (List Char)) : List (List Char) → Except IoFault Node
  | [] =>
    match t.at? place.reverse with
    | some node => .ok node
    | none => .error noSuchFile
  | name :: rest =>
    match t.at? place.reverse with
    | none => .error noSuchFile
    | some .folder =>
      if name.isEmpty || name == ['.'] then walk t place rest
      else if name == ['.', '.'] then walk t (place.drop 1) rest
      else walk t (name :: place) rest
    | some _ => .error notAFolder

/-- The view of the files and folders from a folder. -/
def files (t : FileTree) (workingFolder : String) : Files where
  look path :=
    let cs := path.toList
    if cs.isEmpty then .error noSuchFile
    else if cs.contains '\x00' then
      .error { kind := .invalidInput, message := "file name contained an unexpected NUL byte" }
    else
      let start := if Path.isAbsolute path then [] else pieces '/' workingFolder.toList
      walk t [] (start ++ pieces '/' cs)

/-- The names on a path from the root on. -/
def namesOf (path : String) : List (List Char) :=
  (pieces '/' path.toList).filter fun n => !n.isEmpty && n != ['.']

/-- The tree with something at a path from the root on. -/
def add (t : FileTree) (path : String) (node : Node) : FileTree :=
  ⟨t.nodes ++ [(namesOf path, node)]⟩

/-- A file system in which there is nothing but the root. -/
def empty : FileTree := ⟨[]⟩

end FileTree

example : Path.parent? "a//b" = some "a" := by decide
example : Path.parent? "/x" = some "/" := by decide
example : Path.parent? "./x" = some "." := by decide
example : Path.parent? "/" = none := by decide

end DeviceAccess
