import RecordHold.Bytes
/-!
# Config.FileTree — files and directories by path

A file tree holds directories and files.  A path is its text: the names between its separators, of which an empty
one and `.` stay where they are and `..` goes up.  A path is followed name by name, and everything on the way has to
be a directory: `a/../b` leads nowhere if there is no `a`.  A path that ends in a separator or a dot can only be a
directory.

A name holds at most 255 bytes, a path fewer than 4096, and neither the NUL character.
-/
namespace RecordHold

/-- Where something is: the names from the root, or, above the root, as often `..` as it is above. -/
abbrev Place := List String

structure FileTree where
  files       : List (Place × Bytes)
  directories : List Place
deriving Repr

namespace FileTree

/-- Why a path leads nowhere: there is nothing under one of its names, or it is no way to go. -/
inductive Fault where
  | missing
  | refused
deriving DecidableEq, Repr

/-- A tree with nothing in it but its root. -/
def empty : FileTree := ⟨[], []⟩

/-! ## Following a path -/

/-- The names of a path. -/
def names (path : String) : List String := path.splitToList (· == '/')

def isDirectory (t : FileTree) (p : Place) : Bool := p.all (· == "..") || t.directories.contains p

def isFile (t : FileTree) (p : Place) : Bool := t.files.any (fun f => f.1 == p)

def above (p : Place) : Place := if p.all (· == "..") then p ++ [".."] else p.dropLast

/-- Is the name the name of something, and not a way to say here or above? -/
def isProper (name : String) : Bool := name != "" && name != "." && name != ".."

/-- Go through directories. -/
def walk (t : FileTree) : Place → List String → Except Fault Place
  | here, []        => .ok here
  | here, n :: rest =>
    if n = "" ∨ n = "." then walk t here rest
    else if n = ".." then walk t (above here) rest
    else if 255 < n.utf8ByteSize then .error .refused
    else if t.isDirectory (here ++ [n]) then walk t (here ++ [n]) rest
    else if t.isFile (here ++ [n]) then .error .refused
    else .error .missing

/-- The place of a path that ends in a proper name; nothing need be there. -/
def locate (t : FileTree) (path : List String) : Except Fault Place :=
  match path.getLast? with
  | none   => .error .refused
  | some n =>
    if isProper n then
      match t.walk [] path.dropLast with
      | .ok dir  => if 255 < n.utf8ByteSize then .error .refused else .ok (dir ++ [n])
      | .error e => .error e
    else .error .refused

def isPath (path : String) : Bool := path.utf8ByteSize < 4096 && !path.toList.contains '\x00'

/-! ## Files -/

def read? (t : FileTree) (path : String) : Option Bytes :=
  if isPath path then
    match t.locate (names path) with
    | .ok p    => t.files.lookup p
    | .error _ => none
  else none

/-- Write a file into a directory that is there. -/
def write? (t : FileTree) (path : String) (content : Bytes) : Option FileTree :=
  if isPath path then
    match t.locate (names path) with
    | .ok p    =>
      if t.isDirectory p then none
      else some { t with files := (p, content) :: t.files.filter (fun f => f.1 != p) }
    | .error _ => none
  else none

/-! ## Directories -/

def dropLastWhile (drop : String → Bool) (path : List String) : List String :=
  (path.reverse.dropWhile drop).reverse

/-- A path without the names at its end that stay where they are; its first name stays. -/
def trimmed : List String → List String
  | []     => []
  | n :: t => n :: dropLastWhile (fun m => m == "" || m == ".") t

/-- The path without its last name, if it has one. -/
def parent? (path : List String) : Option (List String) :=
  match trimmed path with
  | []    => none
  | [""]  => none
  | [_]   => some [""]
  | names => some (trimmed names.dropLast)

/-- Make one directory, where nothing is yet. -/
def makeDirectory (t : FileTree) (path : List String) : Except Fault FileTree :=
  if isPath ("/".intercalate path) then
    let path := dropLastWhile (· == "") path
    match t.locate path with
    | .ok p    =>
      if t.isDirectory p || t.isFile p then .error .refused else .ok { t with directories := p :: t.directories }
    | .error e =>
      match t.walk [] path.dropLast with
      | .ok _    => .error e
      | .error e => .error e
  else .error .refused

def leadsToDirectory (t : FileTree) (path : List String) : Bool :=
  isPath ("/".intercalate path) &&
    match t.walk [] path with
    | .ok _    => true
    | .error _ => false

/-- Make a directory and those on the way to it that are missing, and say whether it is there in the end.  What was
made stays.  The fuel bounds the names. -/
def makeDirectories : Nat → List String → FileTree → Bool × FileTree
  | 0,        _,    t => (false, t)
  | fuel + 1, path, t =>
    if path = [""] then (true, t)
    else
      match t.makeDirectory path with
      | .ok t           => (true, t)
      | .error .refused => (t.leadsToDirectory path, t)
      | .error .missing =>
        match parent? path with
        | none    => (false, t)
        | some up =>
          match makeDirectories fuel up t with
          | (false, t) => (false, t)
          | (true, t)  =>
            match t.makeDirectory path with
            | .ok t    => (true, t)
            | .error _ => (t.leadsToDirectory path, t)

end FileTree
end RecordHold
