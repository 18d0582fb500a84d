import GuardAlgebra.Value

/-!
A request as a mapping: what the server hands over with it, by name. Some entries bear on the
connection alone; they count, but have no value here.
-/
namespace GuardAlgebra.Request

/-- The parameters of the path, which are the same object whenever they are asked for. -/
def pathParameters (request : Request) : Value :=
  .dict (request.site.child 2) request.parameters

/-- The entries that have a value, by name. -/
def entries (request : Request) : List (Value × Value) :=
  [(.str "type", .str "http"), (.str "method", .str request.method),
    (.str "path", .str request.path), (.str "query_string", .bytes request.query.toUTF8.toList),
    (.str "scheme", .str "http"), (.str "path_params", request.pathParameters)]

/-- How many entries there are, those of the connection among them. -/
def entryCount : Nat := 10

end GuardAlgebra.Request
