import SyntaxGraph.Source.Literal
import SyntaxGraph.Source.Syntax
import SyntaxGraph.Text.Utf8
import SyntaxGraph.Tree.Basic

namespace SyntaxGraph.Source

def ArithmeticOperator.kind : ArithmeticOperator → Kind
  | add => "Add"
  | sub => "Sub"
  | mul => "Mult"
  | div => "Div"
  | rem => "Mod"
  | bitXor => "BitXor"
  | bitAnd => "BitAnd"
  | bitOr => "BitOr"
  | shiftLeft => "LShift"
  | shiftRight => "RShift"

def BooleanOperator.kind : BooleanOperator → Kind
  | and => "And"
  | or => "Or"

def ComparisonOperator.kind : ComparisonOperator → Kind
  | eq => "Eq"
  | ne => "NotEq"
  | lt => "Lt"
  | le => "LtE"
  | gt => "Gt"
  | ge => "GtE"

def UnaryOperator.kind : UnaryOperator → Kind
  | not => "Not"
  | negate => "USub"
  | dereference => "Deref"
  | reference => "Ref"

def floatValue (written : String) : Float :=
  ((Decimal.readUnsigned (written.toList.filter (· ≠ '_'))).map Decimal.toFloat).getD 0

/-- Numbers beyond 64 bits are kept as their digits. -/
def integerScalar (n : Nat) : Scalar :=
  if n < Nat.pow 2 64 then .ofUInt64 n.toUInt64 else .str (toString n)

def Literal.scalar? : Literal → Option Scalar
  | text s => some (.str s)
  | character c => some (.str c.toString)
  | bytes b => some (.str (Text.decodeLossy b))
  | byte n => some (.int (Int64.ofNat n))
  | integer n _ => some (integerScalar n)
  | float written _ => some (.float (floatValue written))
  | other => none

def Pattern.name : Pattern → String
  | ident n => n
  | typed inner => inner.name
  | reference inner => inner.name
  | _ => "_"

def Parameter.name : Parameter → String
  | receiver => "self"
  | pattern p => p.name

def UseTree.text : UseTree → String
  | path first rest => first ++ "::" ++ rest.text
  | name n => n
  | rename n other => n ++ " as " ++ other
  | glob => "*"
  | group => "\x7b..\x7d"

def MacroCall.name (m : MacroCall) : String :=
  m.path.text ++ "!"

def implementationName (ofTrait : Option Path) (self : TypeExpr) : String :=
  match ofTrait with
  | some p => p.lastName ++ " for " ++ self.title
  | none => self.title

end SyntaxGraph.Source
