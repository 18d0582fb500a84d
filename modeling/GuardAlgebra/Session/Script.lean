import GuardAlgebra.Call.Operator
import GuardAlgebra.Construction.Declaration

/-!
Scripts: what a session is told to do. Expressions make new objects every time
they are evaluated; only a reference gives an object that is there already.
-/
namespace GuardAlgebra.Session

/-- A type as it is written: a name, or a name with type arguments. -/
inductive TypeText where
  | name (text : String)
  | applied (head : String) (arguments : List TypeText)
  deriving Repr

mutual

inductive Expr where
  | none
  | bool (truth : Bool)
  | int (number : Int)
  | float (text : String)
  | str (text : String)
  | bytes (octets : List UInt8)
  | list (items : List Expr)
  | tuple (items : List Expr)
  | dict (entries : List (Expr × Expr))
  | reference (name : String)
  | type (text : TypeText)
  | instance (cls : TypeText) (positional : List Expr) (named : List (String × Expr))
  | leaf (cls : TypeText) (leaf : LeafExpr)
  | post (cls : TypeText) (leaf : LeafExpr)
  | callable (callable : CallableExpr)
  | request (request : RequestExpr)

/-- An application guard: its name, its pauses, and its reply. -/
inductive LeafExpr where
  | mk (name : String) (pauses : Nat) (reply : ReplyExpr)

inductive ReplyExpr where
  | allow
  | deny (error : Expr)
  | gives (value : Expr)
  | raises (value : Expr)

inductive CallableExpr where
  | mk (name : Option String) (label : String) (mode : Mode) (pauses : Nat) (body : BodyExpr)

inductive BodyExpr where
  | gives (value : Expr)
  | raises (value : Expr)
  | argument (index : Nat)
  | echo
  | test (test : TestExpr)

inductive TestExpr where
  | authenticated
  | organization (expected : Expr)
  | user (key expected : Expr)
  | extra (key expected : Expr)
  | contextIs (expected : Expr)
  | above (bound : Int)
  | shorter (bound : Int)
  | truthy
  | owner

inductive RequestExpr where
  | mk (method path query url : String) (urlPath : Except Fault String)
      (parameters : List (Expr × Expr)) (user : Option Expr)

end

/-- Arguments as they are written. -/
structure ArgumentsExpr where
  positional : List Expr
  named : List (String × Expr)

inductive Handler where
  | failure
  | status
  deriving DecidableEq, Repr

/-- Operations that only look at what there is and make new values. -/
inductive Question where
  | give (value : Expr)
  | make (cls : TypeText) (arguments : ArgumentsExpr)
  | read (object : Expr) (name : String)
  | equal (left right : Expr)
  | identical (left right : Expr)
  | display (object : Expr)
  | text (object : Expr)
  | truth (object : Expr)
  | distinct (members : List Expr)
  | isInstance (object : Expr) (cls : TypeText)
  | isSubclass (cls ancestor : TypeText)
  | registered
  | buildSettings (arguments : List (String × Expr)) (environment : List (String × Text))
      (file : Option String)
  | settings
  | exported (module : String)

/-- Operations that call application objects, which can pause and leave traces. -/
inductive Action where
  | declare (declaration : Declaration) (arguments : ArgumentsExpr)
  | apply (function : Expr) (arguments : ArgumentsExpr)
  | method (object : Expr) (name : String) (arguments : ArgumentsExpr)
  | operate (operator : Operator) (left right : Expr)
  | check (guard context : Expr) (value : Option Expr)
  | gather (guard : Expr) (contexts : List Expr) (value : Option Expr)
  | resolve (resolver context function : Expr) (arguments : ArgumentsExpr)
  | invoke (function : Expr) (arguments : ArgumentsExpr)
  | handle (handler : Handler) (cause request : Expr)

/-- Operations that change what the session remembers. -/
inductive Change where
  | declareClass (name : String) (bases : List TypeText) (attributes : List (String × Expr))
      (isAbstract : Bool)
  | write (object : Expr) (name : String) (value : Expr)
  | erase (object : Expr) (name : String)
  | setSetting (name : String) (value : Expr)
  | configureLogging (arguments : ArgumentsExpr)

inductive Operation where
  | ask (question : Question)
  | act (action : Action)
  | change (change : Change)

/-- One step: an operation, and the variables that keep its value or its exception. -/
structure Step where
  operation : Operation
  target : Option String
  caught : Option String

end GuardAlgebra.Session
