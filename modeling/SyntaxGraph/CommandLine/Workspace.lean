import SyntaxGraph.CommandLine.Host
import SyntaxGraph.Path

/-!
The files and directories around a working directory, and the program that writes images there. A path is
walked from the working directory, or from the top if it begins with a slash; every component but the last must
be a directory. There are no links: a file or a directory has one place.
-/

namespace SyntaxGraph.CommandLine

open Word (spelling ofSpelling ofText)

inductive Content where
  | text (s : String)
  | bytes
  deriving DecidableEq, Repr

structure Base where above ::
  levels : Nat
  deriving DecidableEq, Repr

structure Location (ω : Type := String) where
  base : Base := .above 0
  names : List ω := []
  deriving DecidableEq, Repr

structure Places (ω : Type := String) where
  /-- The name of the working directory, of the one that it lies in, and so on up to the top. -/
  working : List ω := []
  directories : List (Location ω) := []

namespace Places

variable {ω : Type}

/-- What is named so in the directory of a location. The way down to the working directory is the way up to it. -/
def child [DecidableEq ω] (p : Places ω) (l : Location ω) (name : ω) : Location ω :=
  match l.names, l.base with
  | [], .above (n + 1) =>
    if p.working[n]? = some name then { base := .above n } else { l with names := [name] }
  | _, _ => { l with names := l.names ++ [name] }

def parent (p : Places ω) (l : Location ω) : Location ω :=
  match l.names, l.base with
  | _ :: _, _ => { l with names := l.names.dropLast }
  | [], .above n => { l with base := .above (min (n + 1) p.working.length) }

def isDirectory [DecidableEq ω] (p : Places ω) (l : Location ω) : Bool :=
  l.names.isEmpty || p.directories.contains l

def start [Word ω] (p : Places ω) (path : ω) : Location ω :=
  if Path.startsWithSlash path then { base := .above p.working.length } else {}

def absolute (p : Places ω) (l : Location ω) : List ω :=
  (p.working.drop l.base.levels).reverse ++ l.names

end Places

abbrev Renderer (ω : Type) := String → ω → String → Bool → Except FileError (Rendering × Option Content)

def Renderer.absent {ω : Type} : Renderer ω := fun _ _ _ _ => .error .notFound

structure Workspace (ω : Type := String) extends Places ω where
  files : List (Location ω × Content) := []
  input : String := ""
  renderer : Renderer ω := Renderer.absent

namespace Workspace

variable {ω : Type} [DecidableEq ω]

def file? (w : Workspace ω) (l : Location ω) : Option Content :=
  w.files.lookup l

def put (w : Workspace ω) (l : Location ω) (c : Content) : Workspace ω :=
  { w with files := (l, c) :: w.files.filter (·.1 ≠ l) }

variable [Word ω]

def step (w : Workspace ω) (l : Location ω) (name : ω) : Except FileError (Location ω) :=
  if w.isDirectory l then
    if name = ofText "" ∨ name = ofText "." then .ok l
    else if name = ofText ".." then .ok (w.parent l)
    else .ok (w.child l name)
  else if (w.file? l).isSome then .error .notADirectory
  else .error .notFound

def walk (w : Workspace ω) (l : Location ω) (names : List ω) : Except FileError (Location ω) :=
  names.foldlM w.step l

def locate (w : Workspace ω) (path : ω) : Except FileError (Location ω) :=
  w.walk (w.start path) (Path.parts path)

def readFile (w : Workspace ω) (path : ω) : Except FileError String := do
  let l ← w.locate path
  if w.isDirectory l then throw .isADirectory
  match w.file? l with
  | some (.text s) => return s
  | some .bytes => throw .notText
  | none => throw .notFound

def reversedComponents (path : ω) : List ω :=
  (Path.parts path).reverse.dropWhile (· = ofText "")

def target (w : Workspace ω) (path : ω) : Except FileError (Location ω) := do
  match reversedComponents path with
  | [] => throw .isADirectory
  | name :: above =>
    let directory ← w.walk (w.start path) above.reverse
    let l ← w.step directory name
    if Path.endsWithSlash path ∨ w.isDirectory l then throw .isADirectory
    if l = directory ∨ name = ofText ".." then throw .isADirectory
    return l

def writeFile (w : Workspace ω) (path : ω) (text : String) : Except FileError Unit × Workspace ω :=
  match w.target path with
  | .error e => (.error e, w)
  | .ok l => (.ok (), w.put l (.text text))

/-- The program writes to no other file than the one that it is told to write to. -/
def pipeToDot (w : Workspace ω) (format : String) (path : ω) (text : String) :
    Except FileError Rendering × Workspace ω :=
  match w.renderer format path text (w.target path).isOk with
  | .error e => (.error e, w)
  | .ok (rendering, left) =>
    match left, w.target path with
    | some c, .ok l => (.ok rendering, w.put l c)
    | _, _ => (.ok rendering, w)

def makeOne (w : Workspace ω) (path : ω) : Except FileError Unit × Workspace ω :=
  match reversedComponents path with
  | [] => (.error .alreadyExists, w)
  | name :: above =>
    match w.walk (w.start path) above.reverse >>= (w.step · name) with
    | .error e => (.error e, w)
    | .ok l =>
      if w.isDirectory l ∨ (w.file? l).isSome then (.error .alreadyExists, w)
      else (.ok (), { w with directories := l :: w.directories })

def hasDirectory (w : Workspace ω) (path : ω) : Bool :=
  match w.locate path with
  | .ok l => w.isDirectory l
  | .error _ => false

def ensureOne (w : Workspace ω) (path : ω) : Except FileError Unit × Workspace ω :=
  match w.makeOne path with
  | (.error e, w) => if w.hasDirectory path then (.ok (), w) else (.error e, w)
  | made => made

def makeDirectories (w : Workspace ω) (root : List Char) (path : ω) :
    (above : List ω) → Except FileError Unit × Workspace ω
  | [] => w.ensureOne path
  | name :: above =>
    match w.ensureOne path with
    | (.error .notFound, w) =>
      let names := (name :: above).reverse.map spelling
      match w.makeDirectories root (ofSpelling (root ++ ['/'].intercalate names)) above with
      | (.ok (), w) => w.ensureOne path
      | failed => failed
    | done => done

def makeDirectory (w : Workspace ω) (path : ω) : Except FileError Unit × Workspace ω :=
  let root := if Path.startsWithSlash path then ['/'] else []
  w.makeDirectories root path (Path.components path).reverse.tail

instance : Host ω (StateM (Workspace ω)) where
  readInput := do return .ok (← get).input
  readFile path := do return (← get).readFile path
  writeFile path text := fun w => w.writeFile path text
  makeDirectory path := fun w => w.makeDirectory path
  pipeToDot format path text := fun w => w.pipeToDot format path text

end Workspace

end SyntaxGraph.CommandLine
