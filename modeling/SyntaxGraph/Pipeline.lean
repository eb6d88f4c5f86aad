import SyntaxGraph.Drawing.Walk
import SyntaxGraph.Frontend
import SyntaxGraph.Graph.Format

namespace SyntaxGraph

structure SourceText where
  name : String
  language : Language
  code : String
  deriving DecidableEq, Repr

inductive PipelineError where
  | noFrontend (language : Language)
  | unparsed (name : String) (error : ParseError)
  | noRoot (name : String)
  | undrawn (name : String) (error : DrawError)
  deriving DecidableEq, Repr

def PipelineError.messages : PipelineError → List String
  | noFrontend l => ["No parser available for " ++ l.name]
  | unparsed name error => ("Failed to parse " ++ name) :: error.messages
  | noRoot name => ["Parser produced no root for " ++ name]
  | undrawn name error => ["Failed to visualize " ++ name, error.message]

structure Pipeline where
  registry : Registry
  frontends : List Frontend := Frontend.stock

namespace Pipeline

def frontend? (p : Pipeline) (l : Language) : Option Frontend :=
  p.frontends.find? (·.language = l)

def tree (p : Pipeline) (t : SourceText) : Except PipelineError Tree :=
  match p.frontend? t.language with
  | none => .error (.noFrontend t.language)
  | some f => (f.parse t.code).mapError (.unparsed t.name)

def graph (p : Pipeline) (t : SourceText) : Except PipelineError Graph := do
  let tree ← p.tree t
  match tree.root with
  | none => throw (.noRoot t.name)
  | some root =>
    match View.draw ⟨tree, p.registry⟩ root .empty with
    | (.ok (), g) => return g
    | (.error e, _) => throw (.undrawn t.name e)

def picture (p : Pipeline) (format : TextFormat) (t : SourceText) : Except PipelineError String :=
  (p.graph t).map (·.write format)

def pictures (p : Pipeline) (format : TextFormat) (ts : List SourceText) :
    List (Except PipelineError String) :=
  ts.map (p.picture format)

end Pipeline

end SyntaxGraph
