import GuardAlgebra.Class.Id

/-!
Methods: the functions that classes bring along for their instances. A class that says how to check
brings a check of its own.
-/
namespace GuardAlgebra

inductive Method where
  /-- The first of two results that does not allow, or else the second. -/
  | meetResults
  /-- The first of two results that allows, or else the second. -/
  | joinResults
  | raiseForDenial
  | allow
  | deny
  /-- The conjunction of two guards. -/
  | meetGuards
  | joinGuards
  /-- The conjunction of two post guards. -/
  | meetPosts
  /-- The check of the instances of a class. -/
  | check (cls : ClassId)
  | contextGet
  | mappingGet (cls : ClassId)
  | unwrap
  | resolve
  | logDenial
  deriving DecidableEq, Repr

namespace Method

def name : Method → String
  | .meetResults | .meetGuards | .meetPosts => "and_"
  | .joinResults | .joinGuards => "or_"
  | .raiseForDenial => "raise_for_denial"
  | .allow => "allow"
  | .deny => "deny"
  | .check _ => "check"
  | .contextGet | .mappingGet _ => "get"
  | .unwrap => "unwrap"
  | .resolve => "resolve"
  | .logDenial => "_log_denial"

/-- Methods of the class itself, which take no instance. -/
def isStatic : Method → Bool
  | .allow | .deny => true
  | _ => false

/-- The methods that a class brings along, its check apart. -/
def standard : String → List Method
  | "GuardResult" => [.meetResults, .joinResults, .raiseForDenial, .allow, .deny]
  | "Guard" => [.meetGuards, .joinGuards]
  | "PostGuard" => [.meetPosts]
  | "GuardContext" => [.contextGet]
  | "dict" => [.mappingGet (.known "dict")]
  | "Request" => [.mappingGet (.known "Request")]
  | "FieldOutcome" => [.unwrap]
  | "FieldResolver" => [.resolve, .logDenial]
  | _ => []

end Method

end GuardAlgebra
