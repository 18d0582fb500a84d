import GuardAlgebra.Class.TypeExpr
import GuardAlgebra.Method
import GuardAlgebra.Text.Quoted

/-!
The values of a session. Guards, post guards and application callables are values among others, and
carry values themselves (errors, names, replies), so all of them are declared together.

An object that has an identity carries the site at which it was made. Numbers, texts and bytes have
none; floating-point numbers have one, because a number that differs from itself is still the same
object. A type that is made of other types has its own.
-/
namespace GuardAlgebra

/-- How an application callable gives its outcome: at once, by a suspended computation, by such a
computation behind another awaitable object, or by a computation whose outcome is a computation
that nobody awaits. -/
inductive Mode where
  | sync
  | async
  | awaitable
  | nested
  deriving DecidableEq, Repr

/-- A refused setting: the kind of the problem, the name of the field, and what is wrong. -/
structure Problem where
  kind : String
  field : String
  text : String
  deriving DecidableEq, Repr

/-- Why an operation of the library itself fails. -/
inductive Fault where
  | missingAttribute (owner name : String)
  | frozen (name : String)
  | unsettable (kind : String)
  | badArguments (callee : String)
  | badIndex
  | notCallable (kind : String)
  | notAwaitable (kind : String)
  | notSubscriptable (kind : String)
  | notIterable (kind : String)
  | notAnException (kind : String)
  | unsupportedOperands (operator left right : String)
  | unorderable (left right : String)
  | unsized (kind : String)
  | unhashable (kind : String)
  | undecided (kind : String)
  | badClass (name : String)
  | badTypeArguments (name : String)
  | badReference (shown : String)
  | notInstantiable (name : String)
  | badClassTest (kind : String)
  | badReply (kind : String)
  | notAnInteger (base : Nat) (shown : String)
  | tooManyDigits (count : Nat)
  | unspellable
  | badBase
  | undefinedInteger
  | infiniteInteger
  | notANumber (shown : String)
  | tooLargeNumber
  | notAByte
  | negativeCount
  | badAddress
  | badEntry (place length : Nat)
  | notAnEntry (place : Nat)
  | unsupported (part : String)
  | badLevelType (kind : String)
  | unknownLevel (shown : String)
  | unknownSetting (name : String)
  | unknownStatus (shown : String)
  | nonFiniteNumber
  | unencodable (text : Text)
  | unwritable (kind : String)
  | unbound (name : String)
  | unfollowed (option : String)
  | tooDeep
  deriving DecidableEq, Repr

mutual

inductive Value where
  | none
  | bool (truth : Bool)
  | int (number : Int)
  | float (site : Site) (number : Float)
  | str (text : Text)
  | bytes (octets : List UInt8)
  | list (site : Site) (items : List Value)
  | tuple (site : Site) (items : List Value)
  /-- Entries in the order their keys first arrived; no two keys are equal. -/
  | dict (site : Site) (entries : List (Value × Value))
  | type (expr : TypeExpr)
  /-- The result of a check. -/
  | result (site : Site) (allowed error : Value)
  | context (site : Site) (request user organization extra : Value)
  | guard (guard : Guard)
  | post (post : PostGuard)
  | exception (exception : Exception)
  | callable (callable : Callable)
  | request (request : Request)
  /-- The outcome of resolving a field. -/
  | outcome (site : Site) (field value error resolved stage : Value)
  | resolver (site : Site) (guard post field : Value)
  | routine (site : Site) (routine : Routine)
  /-- A function that a class brings along, by itself. -/
  | method (method : Method)
  /-- A function taken from an object, which it receives in front of its arguments. -/
  | bound (function receiver : Value)
  /-- An object of a class that gives it no contents. -/
  | instance (site : Site) (cls : ClassId)
  /-- A computation that was never awaited. -/
  | pending (site : Site)

/-- Conditions on a context. -/
inductive Guard where
  | both (site : Site) (left right : Guard)
  | either (site : Site) (left right : Guard)
  | allowAll (site : Site)
  | denyAll (site : Site) (error : Value)
  | function (site : Site) (callable error name : Value)
  | leaf (site : Site) (cls : ClassId) (leaf : Leaf)

/-- Conditions on a context and a value that was computed under it. The pin holds the type arguments
that were written where the guard was made. The kin of an application guard are the classes of
library post guards it descends from. -/
inductive PostGuard where
  | both (site : Site) (pin : Value) (left right : PostGuard) (resultType : Value)
  | function (site : Site) (pin callable error resultType name : Value)
  | leaf (site : Site) (cls : ClassId) (kin : List String) (pin : Value) (leaf : Leaf)

/-- What an application guard does: it suspends so many times, and then replies. -/
structure Leaf where
  name : String
  pauses : Nat
  reply : Reply

inductive Reply where
  | gives (value : Value)
  | raises (value : Value)

inductive Exception where
  /-- An exception of a class that this library does not know. It keeps its arguments. -/
  | plain (site : Site) (cls : ClassId) (arguments : List Value)
  /-- An exception of the guard library or derived from one. Denials carry a value. -/
  | domain (site : Site) (cls : ClassId) (message code details : Value) (carried : Option Value)
  /-- An exception that answers a request; it keeps the arguments given by position too. -/
  | http (site : Site) (arguments : List Value) (status detail headers : Value)
  | invalid (site : Site) (problems : List Problem)
  | fault (site : Site) (fault : Fault)

/-- A callable of the application. -/
structure Callable where
  site : Site
  name : Option String
  label : String
  mode : Mode
  pauses : Nat
  body : Body

inductive Body where
  | reply (reply : Reply)
  | argument (index : Nat)
  | echo
  | test (test : Test)

/-- Tests of the first argument, the context, and of the second, the value. -/
inductive Test where
  | authenticated
  | organization (expected : Value)
  | user (key expected : Value)
  | extra (key expected : Value)
  | contextIs (expected : Value)
  | above (bound : Int)
  | shorter (bound : Int)
  | truthy
  | owner

structure Request where
  site : Site
  method : String
  path : String
  query : String
  /-- The address, as the server gives it. -/
  url : String
  /-- The path that is read back from the address; there is none in an address of no host. -/
  urlPath : Except Fault String
  parameters : List (Value × Value)
  user : Option Value

/-- Callables that the library makes. -/
inductive Routine where
  | guardMaker (error : Value)
  | postMaker (error resultType : Value)
  | fieldMaker (guard post field : Value)
  /-- A field resolver around a function of the application, with what the function held when it was
  wrapped. -/
  | guardedField (resolver function : Value) (name : Text) (held : List (String × Value))
  /-- Admits a request by a guard; the factory makes the context, if another than the usual one. -/
  | admission (guard : Guard) (factory : Option Value)

end

/-- What a callable is called with. -/
structure Arguments where
  positional : List Value
  named : List (String × Value)

namespace Guard

def site : Guard → Site
  | .both site .. | .either site .. | .allowAll site | .denyAll site _ | .function site ..
  | .leaf site .. => site

/-- The class a guard is an instance of. -/
def cls : Guard → ClassId
  | .both .. => .known "And"
  | .either .. => .known "Or"
  | .allowAll _ => .known "AllowAll"
  | .denyAll .. => .known "DenyAll"
  | .function .. => .known "FunctionGuard"
  | .leaf _ cls _ => cls

end Guard

namespace PostGuard

def site : PostGuard → Site
  | .both site .. | .function site .. | .leaf site .. => site

def pin : PostGuard → Value
  | .both _ pin .. | .function _ pin .. | .leaf _ _ _ pin _ => pin

def cls : PostGuard → ClassId
  | .both .. => .known "PostAnd"
  | .function .. => .known "FunctionPostGuard"
  | .leaf _ cls .. => cls

end PostGuard

namespace Exception

def site : Exception → Site
  | .plain site .. | .domain site .. | .http site .. | .invalid site _ | .fault site _ => site

end Exception

namespace Fault

/-- The class of exception a fault is raised as. -/
def className : Fault → String
  | .missingAttribute .. => "AttributeError"
  | .frozen _ => "FrozenInstanceError"
  | .badIndex => "IndexError"
  | .infiniteInteger | .tooLargeNumber => "OverflowError"
  | .notAnInteger .. | .tooManyDigits _ | .unspellable | .badBase | .undefinedInteger | .notANumber _
  | .notAByte | .negativeCount | .badAddress | .badEntry .. | .unknownLevel _ | .unknownSetting _
  | .unknownStatus _ | .nonFiniteNumber => "ValueError"
  | .unencodable _ => "UnicodeEncodeError"
  | .unsupported _ => "AssertionError"
  | .badReference _ => "SyntaxError"
  | .unbound _ | .unfollowed _ => "DriverError"
  | .tooDeep => "RecursionError"
  | .badArguments _ | .notCallable _ | .notAwaitable _ | .notSubscriptable _ | .notIterable _
  | .notAnException _
  | .unsupportedOperands .. | .unorderable .. | .unsized _ | .unhashable _ | .undecided _
  | .badClass _ | .badTypeArguments _ | .notInstantiable _ | .badClassTest _ | .badReply _
  | .badLevelType _ | .unwritable _ | .unsettable _ | .notAnEntry _ => "TypeError"

/-- Where a text has halves in a row, and what they are. -/
def placeOf (text : Text) : String :=
  match text.firstHalves? with
  | some (place, [half]) =>
      "character '" ++ String.ofList (Text.escapeCode half.code) ++ "' in position " ++ toString place
  | some (place, halves) =>
      "characters in position " ++ toString place ++ "-" ++ toString (place + halves.length - 1)
  | none => ""

def message : Fault → String
  | .missingAttribute owner name => "'" ++ owner ++ "' object has no attribute '" ++ name ++ "'"
  | .frozen name => "cannot assign to field '" ++ name ++ "'"
  | .unsettable kind => "cannot set an attribute of '" ++ kind ++ "'"
  | .badArguments callee => callee ++ "() got arguments it does not take"
  | .badIndex => "list index out of range"
  | .notCallable kind => "'" ++ kind ++ "' object is not callable"
  | .notAwaitable kind => "object " ++ kind ++ " can't be used in 'await' expression"
  | .notSubscriptable kind => "'" ++ kind ++ "' object is not subscriptable"
  | .notIterable kind => "'" ++ kind ++ "' object is not iterable"
  | .notAnException _ => "exceptions must derive from BaseException"
  | .unsupportedOperands operator left right =>
      "unsupported operand type(s) for " ++ operator ++ ": '" ++ left ++ "' and '" ++ right ++ "'"
  | .unorderable left right =>
      "'>' not supported between instances of '" ++ left ++ "' and '" ++ right ++ "'"
  | .unsized kind => "object of type '" ++ kind ++ "' has no len()"
  | .unhashable kind => "unhashable type: '" ++ kind ++ "'"
  | .undecided kind => "__bool__ should return bool, returned " ++ kind
  | .badClass name => "cannot create the class " ++ name
  | .badTypeArguments name => name ++ " does not take these type arguments"
  | .badReference shown => "Forward reference must be an expression -- got " ++ shown
  | .notInstantiable name => "Can't instantiate " ++ name
  | .badClassTest _ => "isinstance() arg 2 must be a type, a tuple of types, or a union"
  | .badReply kind => "Guard callables must return GuardResult or bool, got " ++ kind
  | .notAnInteger base shown =>
      "invalid literal for int() with base " ++ toString base ++ ": " ++ shown
  | .tooManyDigits count =>
      "Exceeds the limit (4300 digits) for integer string conversion: value has " ++
        toString count ++ " digits; use sys.set_int_max_str_digits() to increase the limit"
  | .unspellable =>
      "Exceeds the limit (4300 digits) for integer string conversion; " ++
        "use sys.set_int_max_str_digits() to increase the limit"
  | .badBase => "int() base must be >= 2 and <= 36, or 0"
  | .undefinedInteger => "cannot convert float NaN to integer"
  | .infiniteInteger => "cannot convert float infinity to integer"
  | .notANumber shown => "could not convert string to float: " ++ shown
  | .tooLargeNumber => "int too large to convert to float"
  | .notAByte => "bytes must be in range(0, 256)"
  | .negativeCount => "negative count"
  | .badAddress => "Invalid IPv6 URL"
  | .badEntry place length =>
      "dictionary update sequence element #" ++ toString place ++ " has length " ++
        toString length ++ "; 2 is required"
  | .notAnEntry place =>
      "cannot convert dictionary update sequence element #" ++ toString place ++ " to a sequence"
  | .unsupported part =>
      (if part = "session" then "SessionMiddleware" else "AuthenticationMiddleware") ++
        " must be installed to access request." ++ part
  | .badLevelType kind => "Level not an integer or a valid string: " ++ kind
  | .unknownLevel shown => "Unknown level: " ++ shown
  | .unknownSetting name => "\"Settings\" object has no field \"" ++ name ++ "\""
  | .unknownStatus shown => shown ++ " is not a valid HTTPStatus"
  | .nonFiniteNumber => "Out of range float values are not JSON compliant"
  | .unencodable text =>
      "'utf-8' codec can't encode " ++ placeOf text ++ ": surrogates not allowed"
  | .unwritable kind => "Object of type " ++ kind ++ " is not JSON serializable"
  | .unbound name => "unbound " ++ name
  | .unfollowed option => "unfollowed " ++ option
  | .tooDeep => "maximum recursion depth exceeded"

/-- What the exception of a fault is made with. One of a text that cannot be sent tells of the text and
where in it the halves stand. -/
def arguments : Fault → List Value
  | .unencodable text =>
      let (place, halves) := text.firstHalves?.getD (0, [])
      [.str "utf-8", .str text, .int place, .int (place + halves.length),
        .str "surrogates not allowed"]
  | fault => [.str fault.message]

end Fault

/-- The text as it is sent, in UTF-8; a half of a character cannot be. -/
def Text.encoded : Text → Except Fault String
  | .whole text => .ok text
  | text => .error (.unencodable text)

namespace Value

/-- The site of an object that has an identity. -/
def site? : Value → Option Site
  | .float site _ | .list site _ | .tuple site _ | .dict site _ | .result site .. | .context site ..
  | .outcome site .. | .resolver site .. | .routine site _ | .instance site _ | .pending site =>
      some site
  | .guard tree => some tree.site
  | .post tree => some tree.site
  | .exception raised => some raised.site
  | .callable function => some function.site
  | .request received => some received.site
  | .type expr => expr.site?
  | .none | .bool _ | .int _ | .str _ | .bytes _ | .method _ | .bound .. => Option.none

/-- The very same object. Values without an identity are the same when they are equal, and there is
but one tuple without items. -/
def identical : Value → Value → Bool
  | .none, .none => true
  | .bool truth, .bool other => truth = other
  | .int number, .int other => number = other
  | .str text, .str other => text = other
  | .bytes octets, .bytes other => octets = other
  | .type expr, .type other => expr.identical other
  | .method first, .method other => first = other
  | .tuple _ [], .tuple _ [] => true
  | value, other =>
      match value.site?, other.site? with
      | some site, some place => site = place
      | _, _ => false

def isNone : Value → Bool
  | .none => true
  | _ => false

end Value

end GuardAlgebra
