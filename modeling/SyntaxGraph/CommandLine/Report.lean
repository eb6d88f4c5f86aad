import SyntaxGraph.CommandLine.Arguments
import SyntaxGraph.CommandLine.Host
import SyntaxGraph.Pipeline
import SyntaxGraph.Settings.Reader

namespace SyntaxGraph.CommandLine

inductive RenderError where
  | notStarted (error : FileError)
  | notAwaited (error : FileError)
  | failed (exit : Exit)
  | notSent (error : FileError)
  deriving DecidableEq, Repr

namespace RenderError

def isSpace (c : Char) : Bool :=
  let n := c.toNat
  9 ≤ n && n ≤ 13 || 0x2000 ≤ n && n ≤ 0x200a ||
    [0x20, 0x85, 0xa0, 0x1680, 0x2028, 0x2029, 0x202f, 0x205f, 0x3000].contains n

def trimmed (text : String) : String :=
  String.ofList ((text.toList.dropWhile isSpace).reverse.dropWhile isSpace).reverse

def messages : RenderError → List String
  | notStarted error => ["Failed to execute 'dot'. Is Graphviz installed?", error.message]
  | notAwaited error => ["Failed to wait for Graphviz", error.message]
  | failed exit => ["dot failed (" ++ exit.status ++ "): " ++ trimmed exit.complaint]
  | notSent error => ["Failed to send graph to Graphviz", error.message]

end RenderError

def Rendering.verdict (r : Rendering) : Except RenderError Unit := do
  let exit ← r.ended.mapError .notAwaited
  unless exit.succeeded do throw (.failed exit)
  r.sent.mapError .notSent

inductive RunError where
  | unreadableConfig (path : String) (error : FileError)
  | invalidConfig (path : String) (error : SettingsError)
  | cycle (error : Cycle)
  | unknownLanguage (name : String)
  | unreadableInput (error : FileError)
  | unreadableFile (path : String) (error : FileError)
  | noOutput (format : OutputFormat)
  | noDirectory
  | noSuchDirectory (path : String) (error : FileError)
  | pipeline (error : PipelineError)
  | unwritable (path : String) (error : FileError)
  | unrendered (error : RenderError)
  | failures (count total : Nat)
  deriving DecidableEq, Repr

namespace RunError

def messages : RunError → List String
  | unreadableConfig path error => ["Failed to read config " ++ path, error.message]
  | invalidConfig path error => ("In config " ++ path) :: error.messages
  | cycle error => [error.message]
  | unknownLanguage name => [Language.unknownMessage name]
  | unreadableInput error => ["Failed to read stdin", error.message]
  | unreadableFile path error => ["Cannot read input file " ++ path, error.message]
  | noOutput format => ["--output is required for " ++ format.name ++ " output"]
  | noDirectory => ["--output <DIR> is required when several files are given"]
  | noSuchDirectory path error => ["Failed to create output directory " ++ path, error.message]
  | pipeline error => error.messages
  | unwritable path error => ["Failed to write " ++ path, error.message]
  | unrendered error => error.messages
  | failures count total => [toString count ++ " of " ++ toString total ++ " inputs failed"]

end RunError

def briefReport (messages : List String) : String :=
  "Error: " ++ ": ".intercalate messages

def indented (first others text : String) : String :=
  first ++ ("\n" ++ others).intercalate (text.splitOn "\n")

def numberedCause (number : Nat) (text : String) : String :=
  let digits := toString number
  indented ("".pushn ' ' (5 - digits.length) ++ digits ++ ": ") "       " text

def fullReport : List String → String
  | [] => "Error: "
  | message :: causes =>
    let listed := match causes with
      | [] => []
      | [cause] => [indented "    " "    " cause]
      | _ => causes.zipIdx.map fun (cause, i) => numberedCause i cause
    let heading := if causes.isEmpty then "" else "\n\nCaused by:\n"
    "Error: " ++ message ++ heading ++ "\n".intercalate listed

end SyntaxGraph.CommandLine
