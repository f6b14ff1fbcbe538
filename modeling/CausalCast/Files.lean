import CausalCast.Config
import CausalCast.Membership.Parser
import CausalCast.Text.Utf8

/-!
# Files

A path leads to a file, to a directory, or nowhere.  The configuration is
read through a view that says where each path leads, so that nothing else can
influence what is read.  A tree of files gives such a view: it is walked from
a working directory along the parts of a path.
-/

namespace CausalCast

/-- Where a path leads. -/
inductive FileEntry where
  | file (bytes : List UInt8)
  | directory
  | nowhere (problem : FileProblem)
deriving DecidableEq, Repr

/-- Where every path leads. -/
abbrev FileView := String → FileEntry

/-- The number of bytes that a path has to stay below. -/
def FileView.pathLimit : Nat := 4096

namespace FileEntry

/-- The text that reading gives. -/
def text : FileEntry → Except FileProblem (List Char)
  | file bytes =>
      match Text.Utf8.decode? bytes with
      | some text => .ok text
      | none => .error .notText
  | directory => .error .isDirectory
  | nowhere problem => .error problem

end FileEntry

def FileView.read (files : FileView) (path : String) :
    Except ConfigError (List Char) :=
  match (files path).text with
  | .ok text => .ok text
  | .error problem => .error (.unreadable path problem)

def Membership.load (files : FileView) (lookup : NameLookup) (path : String) :
    Except ConfigError Membership := do
  Membership.parse lookup (← files.read path)

def Config.load (files : FileView) (path : String) (membership : Membership) :
    Except ConfigError Config := do
  Config.parse (← files.read path) membership

/-- Files and directories with their contents. -/
inductive FileTree where
  | file (bytes : List UInt8)
  | directory (entries : List (String × FileTree))

namespace FileTree

/-- What a tree is when nothing of the path is left. -/
def entry : FileTree → FileEntry
  | file bytes => .file bytes
  | directory _ => .directory

/-- Follow the parts of a path; `above` holds the directories that lead here,
the nearest first.  The directory above the topmost is itself. -/
def walk (tree : FileTree) (above : List FileTree) :
    List String → FileEntry
  | [] => tree.entry
  | part :: rest =>
      match tree with
      | file _ => .nowhere .notDirectory
      | directory entries =>
          if part = "" ∨ part = "." then (directory entries).walk above rest
          else if part = ".." then
            match above with
            | [] => (directory entries).walk [] rest
            | parent :: older => parent.walk older rest
          else if 255 < part.utf8ByteSize then .nowhere .nameTooLong
          else
            match entries.lookup part with
            | none => .nowhere .missing
            | some child => child.walk (directory entries :: above) rest

/-- Where paths lead from a working directory, given by its parts from the
root. -/
def view (root : FileTree) (working : List String) : FileView := fun path =>
  let parts := path.splitOn "/"
  if FileView.pathLimit ≤ path.utf8ByteSize then .nowhere .nameTooLong
  else
    match path.toList with
    | [] => .nowhere .missing
    | '/' :: _ => root.walk [] parts
    | _ => root.walk [] (working ++ parts)

end FileTree

/-- A path for a new file: its directory part, its last part, and whether
slashes follow. -/
structure TargetPath where
  directory : String
  name : String
  closed : Bool
deriving DecidableEq, Repr

/-- Split a path before its last part. -/
def TargetPath.ofPath (path : String) : TargetPath :=
  let backwards := path.toList.reverse
  let named := backwards.dropWhile (· = '/')
  let name := named.takeWhile (· ≠ '/')
  let before := named.dropWhile (· ≠ '/')
  ⟨if before.isEmpty then (if named.isEmpty then "/" else ".")
    else String.ofList before.reverse,
    String.ofList name.reverse, named.length < backwards.length⟩

/-- Why no file can be created at a path, if none can.  The directory part has
to lead to a directory.  A path that ends in a slash or in dots is taken for a
directory, whether or not there is one. -/
def FileView.creationProblem? (files : FileView) (path : String) :
    Option FileProblem :=
  let target := TargetPath.ofPath path
  if path.isEmpty then some .missing
  else if pathLimit ≤ path.utf8ByteSize then some .nameTooLong
  else
    match files target.directory with
    | .nowhere problem => some problem
    | .file _ => some .notDirectory
    | .directory =>
        if target.closed || ["", ".", ".."].contains target.name then
          some .isDirectory
        else
          match files path with
          | .directory => some .isDirectory
          | .nowhere .nameTooLong => some .nameTooLong
          | _ => none

end CausalCast
