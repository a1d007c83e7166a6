/-! Files, as far as a command reads them. -/

namespace TagTemplate

/-- What a path leads to. -/
inductive FileEntry where
  | directory
  | file (content : ByteArray)
  /-- A file whose content cannot be had. -/
  | unreadable

/-- What each path leads to, if it leads anywhere; paths start at the working directory. -/
abbrev Files := (path : String) → Option FileEntry

namespace Files

/-- A path below a root; a path from the top of all files stays as it is. -/
def join (root : Option String) (path : String) : String :=
  match root with
  | none => path
  | some root =>
    if path.startsWith "/" || root.isEmpty then path
    else if root.endsWith "/" then root ++ path
    else root ++ "/" ++ path

/-- Whether a path leads to a file, readable or not. -/
def isFile (files : Files) (path : String) : Bool :=
  match files path with
  | some (.file _) => true
  | some .unreadable => true
  | _ => false

/-- The text of a file, if it can be read and is text. -/
def readText? (files : Files) (path : String) : Option String :=
  match files path with
  | some (.file content) => String.fromUTF8? content
  | _ => none

end Files

end TagTemplate
