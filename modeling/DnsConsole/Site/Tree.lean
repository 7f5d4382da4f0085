import DnsConsole.Text.Pieces

/-!
# Paths and directory trees

A path is a text of names between slashes.  `Path.push` puts a name behind a path, and `Path.pieces` are
what a path is followed by: its names, `..`, and the pieces that lead nowhere, which are the empty ones
and `.`.

The files that the console serves lie in a tree of directories.  `Tree.locate` follows a path from the top
piece by piece, also back through `..`; it goes no further than a file, and only a directory that it has
reached can refuse a name for its length.  `Tree.lookup` is what the path finds.
-/

namespace DnsConsole.Site.Path

/-- The path of the top. -/
def top : List Char := ['/']

/-- A path with a name behind it.  A name that starts with a slash is a path of its own. -/
def push (path : List Char) (name : String) : List Char :=
  if name.toList.head? = some '/' then name.toList
  else if path = [] ∨ path.getLast? = some '/' then path ++ name.toList
  else path ++ '/' :: name.toList

/-- What stands between the slashes of a path. -/
def pieces (path : List Char) : List String :=
  (Text.split '/' path).map String.ofList

/-- The last name of a path. -/
def lastName (path : List Char) : String :=
  ((pieces path).filter fun piece => piece ≠ "" ∧ piece ≠ ".").getLast?.getD ""

end DnsConsole.Site.Path

namespace DnsConsole.Site

/-- A file: its bytes, and the second since 1970 at which they were last changed. -/
structure File where
  content : List UInt8
  modified : Nat
  deriving DecidableEq, Repr

/-- A file, or a directory of named files and directories. -/
inductive Tree
  | file (f : File)
  | directory (entries : List (String × Tree))
  deriving Repr

/-- What is at a path. -/
inductive Found
  | file (f : File)
  | directory
  | missing
  | nameTooLong
  deriving DecidableEq, Repr

namespace Tree

/-- The directory that holds nothing. -/
def empty : Tree := .directory []

/-- What a tree is itself. -/
def found : Tree → Found
  | .file f => .file f
  | .directory _ => .directory

/-- The entries with a tree under a name, in place of the one that was there. -/
def putEntry (name : String) (t : Tree) : List (String × Tree) → List (String × Tree)
  | [] => [(name, t)]
  | (n, old) :: rest => if n = name then (n, t) :: rest else (n, old) :: putEntry name t rest

/-- The tree with another one put at a path, through directories that are made where there are none. -/
def insert (t : Tree) (path : List String) (new : Tree) : Tree :=
  match path with
  | [] =>
    match new, t with
    | .directory [], .directory entries => .directory entries
    | new, _ => new
  | name :: path =>
    let entries := match t with
      | .file _ => []
      | .directory entries => entries
    .directory (putEntry name (((entries.lookup name).getD empty).insert path new) entries)

/-- The tree of some files and directories, each with its path. -/
def ofList (pairs : List (List String × Tree)) : Tree :=
  pairs.foldl (fun t p => t.insert p.1 p.2) empty

end Tree

/-! ### Following a path -/

/-- A place in a tree: what is there, and the directories around it, the innermost first. -/
structure Place where
  here : Tree
  around : List Tree

/-- The place one piece of a path further on, or what is found where the path cannot go on.  No name is
longer than 255 bytes, and nothing is around the top. -/
def Place.step (p : Place) (piece : String) : Except Found Place :=
  match p.here with
  | .file _ => .error .missing
  | .directory entries =>
    if piece = "" ∨ piece = "." then .ok p
    else if piece = ".." then
      match p.around with
      | [] => .ok p
      | parent :: around => .ok ⟨parent, around⟩
    else if 255 < piece.utf8ByteSize then .error .nameTooLong
    else
      match entries.lookup piece with
      | some child => .ok ⟨child, p.here :: p.around⟩
      | none => .error .missing

namespace Tree

/-- The place that a path leads to from the top of a tree. -/
def locate (t : Tree) (path : List Char) : Except Found Place :=
  (Path.pieces path).foldlM Place.step ⟨t, []⟩

/-- What is at a path from the top of a tree. -/
def lookup (t : Tree) (path : List Char) : Found :=
  match t.locate path with
  | .ok p => p.here.found
  | .error found => found

end Tree

end DnsConsole.Site
