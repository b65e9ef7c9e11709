import Jitter.CommandLine.Arguments

/-! Reading the command line. -/

namespace Jitter.CommandLine

inductive Stop where
  | help
  | version
  | unknown (text : String)
  | missingValue (item : Item)
  | invalidValue (item : Item) (value message : String)
  | repeated (item : Item)
  /-- An option without a value was given one. -/
  | unwanted (item : Item) (value : String)
  deriving DecidableEq, Repr

structure Pending where
  item : Item
  value : Option String
  deriving DecidableEq, Repr

structure Progress where
  arguments : Arguments
  given : List Item
  pending : Option Pending
  deriving DecidableEq, Repr

namespace Progress

def start : Progress := ⟨.standard, [], none⟩

/-- Sets an option, which may be done once. -/
def settle (p : Progress) (item : Item) (value : String) : Except Stop Progress :=
  if item ∈ p.given then .error (.repeated item)
  else
    match p.arguments.set value item with
    | .ok arguments => .ok ⟨arguments, item :: p.given, none⟩
    | .error .empty => .error (.missingValue item)
    | .error (.invalid message) => .error (.invalidValue item value message)

def resolve (p : Progress) : Except Stop Progress :=
  match p.pending with
  | none => .ok p
  | some ⟨item, none⟩ => .error (.missingValue item)
  | some ⟨item, some value⟩ => p.settle item value

def awaited (p : Progress) : Option Item :=
  match p.pending with
  | some ⟨item, none⟩ => some item
  | _ => none

def expect (p : Progress) (item : Item) : Progress := { p with pending := some ⟨item, none⟩ }

def supply (p : Progress) (item : Item) (value : String) : Progress :=
  { p with pending := some ⟨item, some value⟩ }

def option (p : Progress) (item : Item) (attached : Option String) : Except Stop Progress := do
  let p ← p.resolve
  match attached with
  | some value => p.settle item value
  | none => pure (p.expect item)

def switch (p : Progress) (item : Item) : Except Stop Progress := do
  let p ← p.resolve
  match item with
  | .help => throw .help
  | .version => throw .version
  | item => p.settle item ""

def splitValue (s : List Char) : String × Option String :=
  let name := s.takeWhile (· ≠ '=')
  match s.drop name.length with
  | _ :: value => (String.ofList name, some (String.ofList value))
  | [] => (String.ofList name, none)

def long (p : Progress) (s : List Char) : Except Stop Progress :=
  let (name, attached) := splitValue s
  match Item.ofLong? name with
  | none => .error (.unknown ("--" ++ name))
  | some item =>
    if item.takesValue then p.option item attached
    else
      match attached with
      | some value => .error (.unwanted item value)
      | none => p.switch item

/-- What follows an option of one letter is its value. -/
def attachedTo : List Char → Option String
  | [] => none
  | '=' :: rest => some (String.ofList rest)
  | rest => some (String.ofList rest)

def short (p : Progress) : List Char → Except Stop Progress
  | [] => .ok p
  | c :: rest =>
    match Item.ofShort? c with
    | none => .error (.unknown (String.ofList ['-', c]))
    | some item =>
      if item.takesValue then p.option item (attachedTo rest)
      else do short (← p.switch item) rest

def dashed (p : Progress) : List Char → Option (Except Stop Progress)
  | '-' :: '-' :: s => some (p.long s)
  | '-' :: c :: s => some (p.short (c :: s))
  | _ => none

def plain (p : Progress) (s : String) : Except Stop Progress :=
  match p.awaited with
  | some item => .ok (p.supply item s)
  | none => .error (.unknown s)

def argument (p : Progress) (s : String) : Except Stop Progress :=
  if p.awaited.any Item.greedy then p.plain s
  else (p.dashed s.toList).getD (p.plain s)

/-- Nothing may follow a lone `--` that is not a value. -/
def readAll (p : Progress) : List String → Except Stop Progress
  | [] => p.resolve
  | s :: rest =>
    if s = "--" ∧ ¬p.awaited.any Item.greedy then
      match rest with
      | [] => p.resolve
      | extra :: _ => .error (.unknown extra)
    else do readAll (← p.argument s) rest

end Progress

def parse (args : List String) : Except Stop Arguments := do
  pure (← Progress.start.readAll args).arguments

namespace Stop

def kind : Stop → String
  | help => "DisplayHelp"
  | version => "DisplayVersion"
  | unknown _ => "UnknownArgument"
  | missingValue _ => "InvalidValue"
  | invalidValue _ _ _ => "ValueValidation"
  | repeated _ => "ArgumentConflict"
  | unwanted _ _ => "TooManyValues"

def message : Stop → Option String
  | help => some helpText
  | version => some versionText
  | invalidValue _ _ message => some message
  | _ => none

def argument : Stop → Option String
  | help | version => none
  | unknown text => some text
  | missingValue item | invalidValue item _ _ | repeated item | unwanted item _ => some item.name

def value : Stop → Option String
  | missingValue _ => some ""
  | invalidValue _ value _ | unwanted _ value => some value
  | _ => none

def usage : String :=
  "\n\nUsage: " ++ programName ++ " [OPTIONS]\n\nFor more information, try '--help'.\n"

def hint : String := "\n\nFor more information, try '--help'.\n"

def complaint : Stop → String
  | help => helpText
  | version => versionText
  | unknown text => "error: unexpected argument '" ++ text ++ "' found" ++ usage
  | missingValue item =>
    "error: a value is required for '" ++ item.name ++ "' but none was supplied" ++ hint
  | invalidValue item value message =>
    "error: invalid value '" ++ value ++ "' for '" ++ item.name ++ "': " ++ message ++ hint
  | repeated item => "error: the argument '" ++ item.name ++ "' cannot be used multiple times" ++ usage
  | unwanted item value =>
    "error: unexpected value '" ++ value ++ "' for '" ++ item.name ++
      "' found; no more were expected" ++ usage

/-- Help is no failure. -/
def exitCode : Stop → Nat
  | help | version => 0
  | _ => 2

end Stop

end Jitter.CommandLine
