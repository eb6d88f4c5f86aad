import SyntaxGraph.CommandLine.Report

/-!
A run: settings are read, then all inputs, then each input is drawn and its text written. One input
goes to standard output or to a file of its own; several go to a directory, each to a file named after
it, and one that fails there is left out.
-/

namespace SyntaxGraph.CommandLine

structure Outcome where
  status : Nat := 0
  output : String := ""
  report : String := ""
  deriving DecidableEq, Repr

open Word (ofText text)

abbrev Attempt (m : Type → Type) := ExceptT RunError m

section

variable {ω : Type} [Word ω] [DecidableEq ω] {m : Type → Type} [Monad m] [Host ω m]

def attempt {α : Type} (operation : m (Except FileError α)) (failed : FileError → RunError) :
    Attempt m α := do
  match ← operation with
  | .ok a => return a
  | .error e => throw (failed e)

def readSettings (config : Option ω) : Attempt m Settings := do
  match config with
  | none => return {}
  | some path =>
    let contents ← attempt (Host.readFile path) (.unreadableConfig (text path))
    match Settings.read contents with
    | .ok s => return s
    | .error e => throw (.invalidConfig (text path) e)

def languageOf (name : String) : Except RunError Language :=
  match Language.ofName? name with
  | some l => .ok l
  | none => .error (.unknownLanguage name)

def chooseLanguage (asked : Option Language) (path : ω) : Language :=
  (asked.or (Language.ofPath? path)).getD Language.fallback

def readFiles (asked : Option Language) (paths : List ω) : Attempt m (List SourceText) :=
  paths.mapM fun path => do
    let code ← attempt (Host.readFile path) (.unreadableFile (text path))
    return ⟨text path, chooseLanguage asked path, code⟩

def readTexts (a : Arguments ω) : Attempt m (List SourceText) := do
  let asked ← liftM (a.language.mapM languageOf)
  if a.files.isEmpty then
    let code ← attempt Host.readInput .unreadableInput
    return [⟨"<stdin>", asked.getD Language.fallback, code⟩]
  else readFiles asked a.files

/-- The name of what is written for an input. What is no text in its stem is replaced. -/
def outputStem (path : ω) : String :=
  ((Path.stem? path).map text).getD "graph"

def targetOf (directory : ω) (format : OutputFormat) (path : ω) : ω :=
  Path.join directory (ofText (outputStem path ++ "." ++ format.name))

def chooseTargets (a : Arguments ω) : Attempt m (List (Option ω)) := do
  let format := a.outputFormat
  if a.files.length ≤ 1 then
    if a.output.isNone && format.isImage then throw (.noOutput format)
    return [a.output]
  else
    match a.output with
    | none => throw .noDirectory
    | some directory =>
      attempt (Host.makeDirectory directory) (.noSuchDirectory (text directory))
      return a.files.map fun path => some (targetOf directory format path)

def render (format : OutputFormat) (picture : String) (path : ω) : Attempt m Unit := do
  let rendering ← attempt (Host.pipeToDot format.name path picture) (.unrendered <| .notStarted ·)
  liftM (rendering.verdict.mapError RunError.unrendered)

def deliver (format : OutputFormat) (picture : String) : Option ω → Attempt m String
  | none => return picture ++ "\n"
  | some path => do
    if format.isImage then render format picture path
    else attempt (Host.writeFile path picture) (.unwritable (text path))
    return ""

def deliverPicture (format : OutputFormat) (picture : Except PipelineError String)
    (target : Option ω) : Attempt m String := do
  match picture with
  | .ok picture => deliver format picture target
  | .error e => throw (.pipeline e)

def deliverAll (format : OutputFormat) :
    List (Except PipelineError String × Option ω) → m Nat
  | [] => return 0
  | (picture, target) :: rest => do
    let result ← (deliverPicture format picture target).run
    let failed ← deliverAll format rest
    return failed + (match result with
      | .ok _ => 0
      | .error _ => 1)

def execute (a : Arguments ω) : Attempt m String := do
  let settings ← readSettings a.config
  let kinds ← liftM (settings.kinds.mapError RunError.cycle)
  let texts ← readTexts a
  let targets ← chooseTargets a
  let format := a.outputFormat
  let pipeline : Pipeline := { registry := .standard settings kinds }
  let pictures := pipeline.pictures (format.textFormat settings.layout) texts
  match pictures, targets with
  | [picture], [target] => deliverPicture format picture target
  | _, _ =>
    let failed ← ExceptT.lift (deliverAll format (pictures.zip targets))
    if failed = 0 then return ""
    else throw (.failures failed texts.length)

def Outcome.ofResult (traceback : Bool) : Except RunError String → Outcome
  | .ok output => { output := output }
  | .error e =>
    { status := 1, report := if traceback then fullReport e.messages else briefReport e.messages }

def versionText : String := "astgraph 0.1.0"

def usage : String :=
  "Usage: astgraph [OPTIONS] [FILES]...

Options:
  -o, --output <OUTPUT>  Output file, or directory when several files are given
  -f, --format <FORMAT>  dot, json, svg, png or pdf
  -l, --lang <LANG>      Input language (rust, json)
  -c, --config <CONFIG>  TOML configuration file
  -v, --verbose          Increase logging
      --with-traceback   Print the full error chain on failure
  -h, --help             Print help
  -V, --version          Print version"

def run (words : List ω) : m Outcome := do
  match Arguments.parse words with
  | .error .help => return { output := usage ++ "\n" }
  | .error .version => return { output := versionText ++ "\n" }
  | .error .misuse => return { status := 2, report := usage }
  | .ok a => return .ofResult a.traceback (← (execute a).run)

end

end SyntaxGraph.CommandLine
