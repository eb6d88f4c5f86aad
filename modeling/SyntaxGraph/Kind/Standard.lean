import SyntaxGraph.Kind.Hierarchy

namespace SyntaxGraph

def Kind.root : Kind := "AST"

namespace Hierarchy

def standardFamilies : List (Kind × List Kind) := [
  (Kind.root, [
    "mod", "stmt", "expr", "operator", "cmpop", "boolop", "unaryop", "expr_context", "arguments",
    "arg", "keyword", "alias", "comprehension", "excepthandler", "withitem", "match_case",
    "pattern", "type_ignore", "type_param"]),
  ("mod", ["Module", "Interactive", "Expression", "FunctionType"]),
  ("stmt", [
    "FunctionDef", "AsyncFunctionDef", "ClassDef", "Return", "Delete", "Assign", "AugAssign",
    "AnnAssign", "For", "AsyncFor", "While", "If", "With", "AsyncWith", "Match", "Raise", "Try",
    "TryStar", "Assert", "Import", "ImportFrom", "Global", "Nonlocal", "Expr", "Pass", "Break",
    "Continue", "TypeAlias", "Loop", "ModuleDef"]),
  ("expr", [
    "BoolOp", "NamedExpr", "BinOp", "UnaryOp", "Lambda", "IfExp", "Dict", "Set", "ListComp",
    "SetComp", "DictComp", "GeneratorExp", "Await", "Yield", "YieldFrom", "Compare", "Call",
    "FormattedValue", "JoinedStr", "TemplateStr", "Interpolation", "Constant", "Attribute",
    "Subscript", "Starred", "Name", "List", "Tuple", "Slice", "Block", "Macro"]),
  ("operator", [
    "Add", "Sub", "Mult", "MatMult", "Div", "Mod", "Pow", "LShift", "RShift", "BitOr", "BitXor",
    "BitAnd", "FloorDiv"]),
  ("cmpop", ["Eq", "NotEq", "Lt", "LtE", "Gt", "GtE", "Is", "IsNot", "In", "NotIn"]),
  ("boolop", ["And", "Or"]),
  ("unaryop", ["Invert", "Not", "UAdd", "USub", "Ref", "Deref"]),
  ("expr_context", ["Load", "Store", "Del"]),
  ("excepthandler", ["ExceptHandler"]),
  ("pattern", [
    "MatchValue", "MatchSingleton", "MatchSequence", "MatchMapping", "MatchClass", "MatchStar",
    "MatchAs", "MatchOr"]),
  ("type_ignore", ["TypeIgnore"]),
  ("type_param", ["TypeVar", "ParamSpec", "TypeVarTuple"])]

def standard : Hierarchy :=
  ⟨standardFamilies.flatMap fun (parent, kinds) => kinds.map (·, parent)⟩

end Hierarchy

end SyntaxGraph
