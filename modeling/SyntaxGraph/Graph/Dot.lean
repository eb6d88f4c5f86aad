import SyntaxGraph.Graph.Basic
import SyntaxGraph.Settings.Basic

namespace SyntaxGraph.Dot

def replace (old : Char) (new text : List Char) : List Char :=
  text.flatMap fun c => if c = old then new else [c]

/-- The backslashes come first: those that stand for the others are not escaped once more. -/
def escape (s : String) : String :=
  let slashed := replace '\\' ['\\', '\\'] s.toList
  let marked := replace '"' ['\\', '"'] slashed
  String.ofList (replace '\n' ['\\', 'n'] marked)

def quoted (s : String) : String :=
  "\"" ++ escape s ++ "\""

def vertexName (number : Nat) : String :=
  "n" ++ toString number

def header (l : Layout) : List String :=
  let size := toString l.fontSize.toNat
  ["digraph AST \x7b",
    "    rankdir=" ++ l.direction ++ ";",
    "    node [shape=" ++ l.shape ++ ", style=filled, fontname=\"Helvetica\", fontsize=" ++ size
      ++ "];",
    "    edge [fontname=\"Helvetica\", fontsize=" ++ size ++ "];",
    ""]

def vertexStatement (number : Nat) (v : Vertex) : String :=
  let label := "label=" ++ quoted ((v.style.bind Style.label).getD "")
  let color := match v.style.bind Style.color with
    | some c => ", fillcolor=" ++ quoted c
    | none => ""
  "    " ++ vertexName number ++ " [" ++ label ++ color ++ "];"

def edgeStatement (e : Edge) : String :=
  let label := match e.label with
    | some l => " [label=" ++ quoted l ++ "]"
    | none => ""
  "    " ++ vertexName e.tail ++ " -> " ++ vertexName e.head ++ label ++ ";"

def lines (l : Layout) (g : Graph) : List String :=
  header l
    ++ g.vertices.toList.zipIdx.map (fun (v, number) => vertexStatement number v)
    ++ [""]
    ++ g.edges.toList.map edgeStatement
    ++ ["\x7d"]

end Dot

def Graph.toDot (g : Graph) (l : Layout) : String :=
  "\n".intercalate (Dot.lines l g)

end SyntaxGraph
