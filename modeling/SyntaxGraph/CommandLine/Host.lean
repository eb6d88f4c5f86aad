namespace SyntaxGraph.CommandLine

inductive FileError where
  | notFound
  | alreadyExists
  | notADirectory
  | isADirectory
  | notText
  | other (message : String)
  deriving DecidableEq, Repr

def FileError.message : FileError → String
  | notFound => "No such file or directory (os error 2)"
  | alreadyExists => "File exists (os error 17)"
  | notADirectory => "Not a directory (os error 20)"
  | isADirectory => "Is a directory (os error 21)"
  | notText => "stream did not contain valid UTF-8"
  | other message => message

structure Exit where
  succeeded : Bool
  status : String
  complaint : String
  deriving DecidableEq, Repr

structure Rendering where
  sent : Except FileError Unit
  ended : Except FileError Exit

class Host (ω : outParam Type) (m : Type → Type) where
  readInput : m (Except FileError String)
  readFile (path : ω) : m (Except FileError String)
  writeFile (path : ω) (text : String) : m (Except FileError Unit)
  makeDirectory (path : ω) : m (Except FileError Unit)
  pipeToDot (format : String) (path : ω) (text : String) : m (Except FileError Rendering)

end SyntaxGraph.CommandLine
