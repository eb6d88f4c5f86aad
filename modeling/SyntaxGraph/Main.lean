import SyntaxGraph.CommandLine.Run

namespace SyntaxGraph.CommandLine

def FileError.ofError : IO.Error → FileError
  | .noFileOrDirectory _ _ _ => notFound
  | .alreadyExists _ _ _ => alreadyExists
  | .inappropriateType _ code _ => ofCode code
  | .resourceVanished code _ => ofCode code
  | e => other (toString e)
where
  ofCode (code : UInt32) : FileError :=
    if code = 20 ∨ -code = 20 then notADirectory
    else if code = 21 ∨ -code = 21 then isADirectory
    else other ("os error " ++ toString code)

def guarded {α : Type} (operation : IO α) : IO (Except FileError α) := do
  try return .ok (← operation) catch e => return .error (FileError.ofError e)

def decoded (bytes : ByteArray) : Except FileError String :=
  match String.fromUTF8? bytes with
  | some text => .ok text
  | none => .error .notText

instance : Host String IO where
  readInput := do return (← guarded (do (← IO.getStdin).readBinToEnd)).bind decoded
  readFile path := do return (← guarded (IO.FS.readBinFile path)).bind decoded
  writeFile path text := guarded (IO.FS.writeFile path text)
  makeDirectory path := guarded (IO.FS.createDirAll path)
  -- No other program is started from here.
  pipeToDot _ _ _ := return .error .notFound

end SyntaxGraph.CommandLine

def main (words : List String) : IO UInt32 := do
  let outcome ← SyntaxGraph.CommandLine.run (m := IO) words
  IO.print outcome.output
  unless outcome.report.isEmpty do IO.eprintln outcome.report
  return outcome.status.toUInt32
