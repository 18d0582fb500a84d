import GuardAlgebra.Class.Linearization
import GuardAlgebra.Value.Kind

/-!
The classes of a session: how each was declared, its type variables, and its lineage, the order in
which it and its ancestors are asked for an attribute.
-/
namespace GuardAlgebra

/-- Whether a class says how to check: itself, only that its descendants must, or not at all. -/
inductive Checking where
  | given
  | required
  | inherited
  deriving DecidableEq, Repr

structure ClassEntry where
  id : ClassId
  /-- The bases as written, when one of them is parameterised. -/
  written : Option (List TypeExpr)
  /-- The classes that the bases stand for. -/
  parents : List ClassId
  /-- The type variables it takes arguments for. -/
  parameters : List String
  /-- The class itself, then its ancestors. -/
  lineage : List ClassId
  checking : Checking
  /-- The attributes that its declaration gives to the class itself. -/
  attributes : List (String × Value)

/-- What the class itself says of checking. -/
def ClassEntry.checks? (entry : ClassEntry) : Option Checking :=
  match entry.checking with
  | .inherited => none
  | said => some said

/-- The latest declaration first. -/
structure Hierarchy where
  entries : List ClassEntry

namespace Hierarchy

def objectClass : ClassId := .known "object"

def genericClass : ClassId := .known "Generic"

def find? (hierarchy : Hierarchy) (id : ClassId) : Option ClassEntry :=
  hierarchy.entries.find? fun entry => entry.id = id

/-- The class and its ancestors; an unknown class descends from nothing but the root. -/
def lineage (hierarchy : Hierarchy) (id : ClassId) : List ClassId :=
  match hierarchy.find? id with
  | some entry => entry.lineage
  | none => [id, objectClass]

def parents (hierarchy : Hierarchy) (id : ClassId) : List ClassId :=
  match hierarchy.find? id with
  | some entry => entry.parents
  | none => []

def parameters (hierarchy : Hierarchy) (id : ClassId) : List String :=
  match hierarchy.find? id with
  | some entry => entry.parameters
  | none => []

def descends (hierarchy : Hierarchy) (id ancestor : ClassId) : Bool :=
  (hierarchy.lineage id).contains ancestor

/-- The bases in whose place a class inherits: the first along its lineage that were written with
type arguments. -/
def writtenBases (hierarchy : Hierarchy) (id : ClassId) : List TypeExpr :=
  ((hierarchy.lineage id).findSome? fun ancestor =>
    (hierarchy.find? ancestor).bind ClassEntry.written).getD []

/-- How the class checks, as the first of its lineage that says so. -/
def checking (hierarchy : Hierarchy) (id : ClassId) : Checking :=
  ((hierarchy.lineage id).findSome? fun ancestor =>
    (hierarchy.find? ancestor).bind ClassEntry.checks?).getD .inherited

/-- A type that brings type variables along when it is written as a base. -/
def isTyped (hierarchy : Hierarchy) : TypeExpr → Bool
  | .named cls => hierarchy.descends cls genericClass
  | .applied .. | .listOf .. => true
  | _ => false

/-- The classes that written bases stand for; none when one cannot be a base. A parameterised
`Generic` gives way to any parameterised class behind it. -/
def parentsOf (hierarchy : Hierarchy) : List TypeExpr → Option (List ClassId)
  | [] => some []
  | base :: rest => do
      let others ← parentsOf hierarchy rest
      match base with
      | .named cls => some (cls :: others)
      | .container _ cls _ => some (cls :: others)
      | .applied _ cls _ =>
          if cls = genericClass ∧ rest.any (fun type => match type with
              | .applied .. | .listOf .. => true
              | _ => false) then some others
          else some (cls :: others)
      | .listOf .. =>
          if rest.any hierarchy.isTyped then some (.known "list" :: others)
          else some (.known "list" :: genericClass :: others)
      | .any | .variable _ | .union .. | .guest _ => none

def genericArguments? : TypeExpr → Option (List TypeExpr)
  | .applied _ cls arguments => if cls = genericClass then some arguments else none
  | _ => none

/-- The type variables of a class with the given bases. Those written behind `Generic` come in that
order and must cover all others; none when they do not, or when `Generic` is written twice. -/
def parametersOf (bases : List TypeExpr) : Option (List String) :=
  let used := TypeExpr.variableNamesOf bases
  match bases.filterMap genericArguments? with
  | [] => some used
  | [arguments] =>
      let listed := TypeExpr.variableNamesOf arguments
      if used.all listed.contains then some listed else none
  | _ => none

def isPlain : TypeExpr → Bool
  | .named _ => true
  | _ => false

/-- The kinds of contents that the instances of a class are made of, each an addition to the one
before; a class of this library adds none. -/
def ownContents : ClassId → List String
  | .known "int" => ["int"]
  | .known "str" => ["str"]
  | .known "bytes" => ["bytes"]
  | .known "float" => ["float"]
  | .known "list" => ["list"]
  | .known "tuple" => ["tuple"]
  | .known "dict" => ["dict"]
  | .known "type" => ["type"]
  | .known "BaseException" => ["exception"]
  | .known "SystemExit" => ["exception", "code"]
  | .known "OSError" => ["exception", "number"]
  | .known "UnicodeEncodeError" => ["exception", "encoding"]
  | .known "AttributeError" => ["exception", "name"]
  | _ => []

/-- The contents of a class are those of the first of its lineage that has any. -/
def contents (hierarchy : Hierarchy) (id : ClassId) : List String :=
  ((hierarchy.lineage id).map ownContents).find? (fun contents => !contents.isEmpty) |>.getD []

/-- One of the contents of two parents must be an addition to the other's. -/
def contentsAgree : List (List String) → Bool
  | [] => true
  | first :: rest =>
      rest.all (fun other => first.isPrefixOf other || other.isPrefixOf first) &&
        contentsAgree rest

/-- Classes that nothing descends from. -/
def isSealed (id : ClassId) : Bool := [ClassId.known "bool", .known "NoneType"].contains id

/-- The entry of a new class, or none when there can be no such class. -/
def newClass? (hierarchy : Hierarchy) (id : ClassId) (bases : List TypeExpr) (checking : Checking)
    (attributes : List (String × Value)) : Option ClassEntry := do
  let parents ← hierarchy.parentsOf bases
  let _ ← if parents.any isSealed then none else some ()
  let _ ← if contentsAgree (parents.map hierarchy.contents) then some () else none
  let parents := if parents.isEmpty then [objectClass] else parents
  let lineage ← Linearization.linearize id
    (parents.map fun parent => (parent, hierarchy.lineage parent))
  if bases.any (fun base => TypeExpr.same base (.named genericClass)) then none else
    let written := if bases.all isPlain then none else some bases
    let parameters ← match written with
      | some bases => parametersOf bases
      | none => some []
    pure ⟨id, written, parents, parameters, lineage, checking, attributes⟩

def add (hierarchy : Hierarchy) (entry : ClassEntry) : Hierarchy :=
  ⟨entry :: hierarchy.entries⟩

/-- Declares a class that can be declared, and otherwise nothing. -/
def declare (hierarchy : Hierarchy) (id : ClassId) (bases : List TypeExpr) (checking : Checking)
    (attributes : List (String × Value)) : Hierarchy :=
  match hierarchy.newClass? id bases checking attributes with
  | some entry => hierarchy.add entry
  | none => hierarchy

/-- Declares classes, each over those before it: what they are called, their bases, and how they
check. -/
def declareAll (hierarchy : Hierarchy) (classes : List (ClassId × List TypeExpr × Checking)) :
    Hierarchy :=
  classes.foldl (fun hierarchy (id, bases, checking) => hierarchy.declare id bases checking [])
    hierarchy

@[simp] theorem declareAll_nil (hierarchy : Hierarchy) : hierarchy.declareAll [] = hierarchy := rfl

def plain (name : String) : TypeExpr := .named (.known name)

def applied (name : String) (arguments : List TypeExpr) : TypeExpr :=
  .applied .root (.known name) arguments

def resultVariable : TypeExpr := .variable "T"

/-- The classes every session starts with, ancestors first. -/
def standard : List (String × List TypeExpr × Checking) :=
  [("int", [], .inherited), ("bool", [plain "int"], .inherited), ("str", [], .inherited),
    ("bytes", [], .inherited), ("float", [], .inherited), ("list", [], .inherited),
    ("tuple", [], .inherited), ("dict", [], .inherited), ("NoneType", [], .inherited),
    ("type", [], .inherited), ("Generic", [], .inherited), ("ABC", [], .inherited),
    ("BaseException", [], .inherited),
    ("Exception", [plain "BaseException"], .inherited),
    ("KeyboardInterrupt", [plain "BaseException"], .inherited),
    ("SystemExit", [plain "BaseException"], .inherited),
    ("ValueError", [plain "Exception"], .inherited),
    ("UnicodeError", [plain "ValueError"], .inherited),
    ("UnicodeEncodeError", [plain "UnicodeError"], .inherited),
    ("TypeError", [plain "Exception"], .inherited),
    ("AttributeError", [plain "Exception"], .inherited),
    ("FrozenInstanceError", [plain "AttributeError"], .inherited),
    ("LookupError", [plain "Exception"], .inherited),
    ("KeyError", [plain "LookupError"], .inherited),
    ("IndexError", [plain "LookupError"], .inherited),
    ("ArithmeticError", [plain "Exception"], .inherited),
    ("OverflowError", [plain "ArithmeticError"], .inherited),
    ("RuntimeError", [plain "Exception"], .inherited),
    ("RecursionError", [plain "RuntimeError"], .inherited),
    ("OSError", [plain "Exception"], .inherited),
    ("PermissionError", [plain "OSError"], .inherited),
    ("DriverError", [plain "Exception"], .inherited),
    ("ValidationError", [plain "ValueError"], .inherited),
    ("HTTPException", [plain "Exception"], .inherited),
    ("FieldGuardException", [plain "Exception"], .inherited),
    ("AuthorizationError", [plain "FieldGuardException"], .inherited),
    ("GuardDeniedError", [plain "FieldGuardException"], .inherited),
    ("GuardCompositionError", [plain "FieldGuardException", plain "TypeError"], .inherited),
    ("Guard", [plain "ABC"], .required), ("And", [plain "Guard"], .given),
    ("Or", [plain "Guard"], .given), ("AllowAll", [plain "Guard"], .given),
    ("DenyAll", [plain "Guard"], .given), ("FunctionGuard", [plain "Guard"], .given),
    ("PostGuard", [plain "ABC", applied "Generic" [resultVariable]], .required),
    ("PostAnd", [applied "PostGuard" [resultVariable]], .given),
    ("FunctionPostGuard", [applied "PostGuard" [resultVariable]], .given),
    ("GuardResult", [], .inherited), ("GuardContext", [], .inherited),
    ("FieldOutcome", [applied "Generic" [resultVariable]], .inherited),
    ("FieldResolver", [], .inherited)]

/-- The class that all others descend from. -/
def rootEntry : ClassEntry := ⟨objectClass, none, [], [], [objectClass], .inherited, []⟩

def initial : Hierarchy :=
  standard.foldl (fun hierarchy (name, bases, checking) =>
    hierarchy.declare (.known name) bases checking []) ⟨[rootEntry]⟩

end Hierarchy

end GuardAlgebra
