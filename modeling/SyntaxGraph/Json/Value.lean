namespace SyntaxGraph.Json

inductive Number where
  | natural (value : UInt64)
  | negative (value : Int64)
  | float (value : Float)
  deriving DecidableEq, Repr

inductive Value where
  | null
  | bool (value : Bool)
  | number (value : Number)
  | string (value : String)
  | array (items : List Value)
  | object (members : List (String × Value))
  deriving Repr, Inhabited

namespace Value

def isObject : Value → Bool
  | object _ => true
  | _ => false

def member? (name : String) : Value → Option Value
  | object members => members.lookup name
  | _ => none

end Value

end SyntaxGraph.Json
