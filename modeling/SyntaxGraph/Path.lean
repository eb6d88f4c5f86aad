import SyntaxGraph.Word

namespace SyntaxGraph.Path

open Word (spelling ofSpelling ofText)

variable {ω : Type} [Word ω]

def startsWithSlash (path : ω) : Bool :=
  (spelling path).head? = some '/'

def endsWithSlash (path : ω) : Bool :=
  (spelling path).getLast? = some '/'

def parts (path : ω) : List ω :=
  ((spelling path).splitOn '/').map ofSpelling

def components [DecidableEq ω] (path : ω) : List ω :=
  match parts path with
  | [] => []
  | first :: rest =>
    (if first = ofText "" then [] else [first]) ++ rest.filter fun c => c ≠ ofText "" ∧ c ≠ ofText "."

def fileName? [DecidableEq ω] (path : ω) : Option ω :=
  match (components path).getLast? with
  | some name => if name = ofText "." ∨ name = ofText ".." then none else some name
  | none => none

def splitAtDot (name : ω) : ω × Option ω :=
  let reversed := (spelling name).reverse
  let after := reversed.takeWhile (· ≠ '.')
  match reversed.dropWhile (· ≠ '.') with
  | [] => (name, none)
  | _ :: [] => (name, none)
  | _ :: before => (ofSpelling before.reverse, some (ofSpelling after.reverse))

def stem? [DecidableEq ω] (path : ω) : Option ω :=
  (fileName? path).map fun name => (splitAtDot name).1

def extension? [DecidableEq ω] (path : ω) : Option ω :=
  (fileName? path).bind fun name => (splitAtDot name).2

def join (directory name : ω) : ω :=
  let front := spelling directory
  ofSpelling (if front = [] ∨ endsWithSlash directory then front ++ spelling name
    else front ++ '/' :: spelling name)

end SyntaxGraph.Path
