import SyntaxGraph.Graph.Format
import SyntaxGraph.Word

namespace SyntaxGraph.CommandLine

open Word (spelling ofSpelling ofText text?)

inductive OutputFormat where
  | dot
  | json
  | svg
  | png
  | pdf
  deriving DecidableEq, Repr

namespace OutputFormat

def all : List OutputFormat := [dot, json, svg, png, pdf]

def name : OutputFormat → String
  | dot => "dot"
  | json => "json"
  | svg => "svg"
  | png => "png"
  | pdf => "pdf"

def ofName? (s : String) : Option OutputFormat :=
  all.find? (·.name = s)

def isImage : OutputFormat → Bool
  | svg | png | pdf => true
  | _ => false

def textFormat (layout : Layout) : OutputFormat → TextFormat
  | json => .json
  | _ => .dot layout

end OutputFormat

inductive Setting where
  | output
  | format
  | language
  | config
  deriving DecidableEq, Repr

inductive Switch where
  | verbose
  | traceback
  | help
  | version
  deriving DecidableEq, Repr

namespace Setting

def ofLetter? : Char → Option Setting
  | 'o' => some output
  | 'f' => some format
  | 'l' => some language
  | 'c' => some config
  | _ => none

def ofWord? : String → Option Setting
  | "output" => some output
  | "format" => some format
  | "lang" => some language
  | "config" => some config
  | _ => none

end Setting

namespace Switch

def ofLetter? : Char → Option Switch
  | 'v' => some verbose
  | 'h' => some help
  | 'V' => some version
  | _ => none

def ofWord? : String → Option Switch
  | "verbose" => some verbose
  | "with-traceback" => some traceback
  | "help" => some help
  | "version" => some version
  | _ => none

end Switch

inductive Directive (ω : Type) where
  | file (path : ω)
  | set (s : Setting) (value : ω)
  | switch (s : Switch)
  | mistake
  deriving DecidableEq, Repr

structure Arguments (ω : Type := String) where
  files : List ω := []
  output : Option ω := none
  format : Option OutputFormat := none
  language : Option String := none
  config : Option ω := none
  verbosity : Nat := 0
  traceback : Bool := false
  deriving DecidableEq, Repr

inductive Interruption where
  | help
  | version
  | misuse
  deriving DecidableEq, Repr

section

variable {ω : Type} [Word ω]

def isValue (argument : ω) : Bool :=
  spelling argument = ['-'] || (spelling argument).head? ≠ some '-'

/-- The single-letter options of one argument. The first that takes a value takes the rest of the
argument, behind an equals sign if there is one; with nothing left it is still in need of a value. -/
def letters : List Char → List (Directive ω) × Option Setting
  | [] => ([], none)
  | c :: rest =>
    match Setting.ofLetter? c, Switch.ofLetter? c with
    | some s, _ =>
      match rest with
      | [] => ([], some s)
      | '=' :: value => ([.set s (ofSpelling value)], none)
      | value => ([.set s (ofSpelling value)], none)
    | none, some s =>
      let (others, open?) := letters rest
      (.switch s :: others, open?)
    | none, none => ([.mistake], none)

def word (text : List Char) : List (Directive ω) × Option Setting :=
  let name := String.ofList (text.takeWhile (· ≠ '='))
  match Setting.ofWord? name, Switch.ofWord? name, text.dropWhile (· ≠ '=') with
  | some s, _, [] => ([], some s)
  | some s, _, _ :: value => ([.set s (ofSpelling value)], none)
  | none, some s, [] => ([.switch s], none)
  | none, _, _ => ([.mistake], none)

def reading (argument : ω) : List (Directive ω) × Option Setting :=
  match spelling argument with
  | '-' :: '-' :: text => word text
  | '-' :: c :: text => letters (c :: text)
  | _ => ([.file argument], none)

def directives : List ω → List (Directive ω)
  | [] => []
  | argument :: rest =>
    if spelling argument = ['-', '-'] then rest.map .file
    else
      match reading argument with
      | (found, none) => found ++ directives rest
      | (found, some s) =>
        match rest with
        | [] => found ++ [.mistake]
        | value :: others =>
          if isValue value then found ++ .set s value :: directives others
          else found ++ [.mistake]

end

namespace Arguments

section

variable {ω : Type} [Word ω] [DecidableEq ω]

def setting {α : Type} (old : Option α) (value : Option α) (update : Option α → Arguments ω) :
    Except Interruption (Arguments ω) :=
  match old, value with
  | none, some v => .ok (update (some v))
  | _, _ => .error .misuse

def path? (w : ω) : Option ω :=
  if w = ofText "" then none else some w

def follow (a : Arguments ω) : Directive ω → Except Interruption (Arguments ω)
  | .file path => if path = ofText "" then .error .misuse else .ok { a with files := a.files ++ [path] }
  | .set .output w => setting a.output (path? w) fun v => { a with output := v }
  | .set .format w => setting a.format ((text? w).bind OutputFormat.ofName?) fun v => { a with format := v }
  | .set .language w => setting a.language (text? w) fun v => { a with language := v }
  | .set .config w => setting a.config (path? w) fun v => { a with config := v }
  | .switch .verbose => .ok { a with verbosity := a.verbosity + 1 }
  | .switch .traceback =>
    if a.traceback then .error .misuse else .ok { a with traceback := true }
  | .switch .help => .error .help
  | .switch .version => .error .version
  | .mistake => .error .misuse

def parse (words : List ω) : Except Interruption (Arguments ω) :=
  (directives words).foldlM follow {}

end

def outputFormat {ω : Type} (a : Arguments ω) : OutputFormat :=
  a.format.getD .dot

end Arguments

end SyntaxGraph.CommandLine
