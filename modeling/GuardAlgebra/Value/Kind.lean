import GuardAlgebra.Value

/-!
The class of a value, and the name by which messages speak of it.
-/
namespace GuardAlgebra

/-- Classes whose own class admits abstract methods: the two kinds of guard and all their
descendants. -/
def ClassId.isGuardClass : ClassId → Bool
  | .declared .. => true
  | .outside _ => false
  | .known name =>
      ["Guard", "PostGuard", "And", "Or", "PostAnd", "AllowAll", "DenyAll", "FunctionGuard",
        "FunctionPostGuard"].contains name

def TypeExpr.kind : TypeExpr → String
  | .any => "_AnyMeta"
  | .variable _ => "TypeVar"
  | .named cls => if cls.isGuardClass then "ABCMeta" else "type"
  | .container .. => "GenericAlias"
  | .listOf .. | .applied .. => "_GenericAlias"
  | .union _ barred _ => if barred then "UnionType" else "_UnionGenericAlias"
  | .guest _ => "ForwardRef"

def Exception.cls : Exception → ClassId
  | .plain _ cls _ | .domain _ cls .. => cls
  | .http .. => .known "HTTPException"
  | .invalid .. => .known "ValidationError"
  | .fault _ cause => .known cause.className

/-- The class a value is a direct instance of. -/
def Value.cls : Value → ClassId
  | .none => .known "NoneType"
  | .bool _ => .known "bool"
  | .int _ => .known "int"
  | .float .. => .known "float"
  | .str _ => .known "str"
  | .bytes _ => .known "bytes"
  | .list .. => .known "list"
  | .tuple .. => .known "tuple"
  | .dict .. => .known "dict"
  | .type expr => .known expr.kind
  | .result .. => .known "GuardResult"
  | .context .. => .known "GuardContext"
  | .guard tree => tree.cls
  | .post tree => tree.cls
  | .exception raised => raised.cls
  | .callable _ => .known "Fn"
  | .request _ => .known "Request"
  | .outcome .. => .known "FieldOutcome"
  | .resolver .. => .known "FieldResolver"
  | .routine .. => .known "function"
  | .method _ => .known "function"
  | .bound .. => .known "method"
  | .instance _ cls => cls
  | .pending _ => .known "coroutine"

def Value.typeName (value : Value) : String := value.cls.name

end GuardAlgebra
