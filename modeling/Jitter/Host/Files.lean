import Jitter.Error

/-! A tree of files, and where a path leads in it. -/

namespace Jitter

inductive FileNode where
  /-- A directory that takes new names, or refuses them. -/
  | directory (refusal : Option IoError)
  | regular (text : String)
  /-- A device that swallows what is written to it, or refuses it. -/
  | device (refusal : Option IoError)
  deriving DecidableEq, Repr

/-- The nodes by the names that lead to them from the root, and the directory where a path begins that does
not begin at the root. -/
structure FileTree where
  nodes : List (List String × FileNode)
  here : List String
  deriving DecidableEq, Repr

namespace FileTree

def nameLimit : Nat := 255

/-- The bytes that a path may not have. -/
def pathLimit : Nat := 4096

def split : List Char → List (List Char)
  | [] => [[]]
  | c :: s =>
    if c = '/' then [] :: split s
    else
      match split s with
      | [] => [[c]]
      | name :: names => (c :: name) :: names

/-- The names of a path; two slashes are as good as one. -/
def names (path : String) : List String :=
  ((split path.toList).filter (· ≠ [])).map String.ofList

def node (t : FileTree) (place : List String) : Option FileNode :=
  if place = [] then some (.directory none) else t.nodes.lookup place

def find (t : FileTree) (place : List String) (name : String) : Except IoError (Option FileNode) :=
  if nameLimit < name.utf8ByteSize then .error .nameTooLong else .ok (t.node (place ++ [name]))

def refusal (t : FileTree) (place : List String) : Option IoError :=
  match t.node place with
  | some (.directory refusal) => refusal
  | _ => none

/-- From a directory to one of its own, or to the one that it is in; the root is in itself. -/
def step (t : FileTree) (place : List String) (name : String) : Except IoError (List String) := do
  if name = "." then return place
  if name = ".." then return place.dropLast
  match ← t.find place name with
  | some (.directory _) => return place ++ [name]
  | some _ => throw .notDirectory
  | none => throw .notFound

def enter (t : FileTree) (path : String) : Except IoError (List String) :=
  (names path).dropLast.foldlM t.step (if path.startsWith "/" then [] else t.here)

def fileName (path : String) : Except IoError String :=
  match (names path).getLast? with
  | none | some "." | some ".." => .error .isDirectory
  | some name => if path.endsWith "/" then .error .isDirectory else .ok name

def entry (t : FileTree) (place : List String) (name : String) :
    Except IoError (List String × Option FileNode) := do
  match ← t.find place name, t.refusal place with
  | some (.directory _), _ => throw .isDirectory
  | none, some refusal => throw refusal
  | node, _ => return (place ++ [name], node)

def locate (t : FileTree) (path : String) : Except IoError (List String × Option FileNode) := do
  if path = "" then throw .notFound
  if pathLimit ≤ path.utf8ByteSize then throw .nameTooLong
  let place ← t.enter path
  let name ← fileName path
  t.entry place name

def write (t : FileTree) (path text : String) : Except IoError FileTree := do
  let (place, node) ← t.locate path
  match node with
  | some (.device (some refusal)) => if text = "" then return t else throw refusal
  | some (.device none) => return t
  | _ => return { t with nodes := (place, .regular text) :: t.nodes.filter (·.1 ≠ place) }

def read (t : FileTree) (path : String) : Option String :=
  match t.locate path with
  | .ok (_, some (.regular text)) => some text
  | _ => none

end FileTree

end Jitter
