import GuardAlgebra.Value

/-!
Binding of arguments to parameters. Arguments by position fill the first parameters that take them,
named arguments the ones they name; a parameter may be filled once, and a required one must be.
-/
namespace GuardAlgebra

structure Parameter where
  name : String
  required : Bool
  /-- Whether an argument may be given by position. -/
  positional : Bool
  deriving Repr

namespace Parameter

def mandatory (name : String) : Parameter := ⟨name, true, true⟩

def optional (name : String) : Parameter := ⟨name, false, true⟩

/-- Given by name only, or not at all. -/
def keyword (name : String) : Parameter := ⟨name, false, false⟩

end Parameter

namespace Arguments

def none : Arguments := ⟨[], []⟩

/-- Splits off what the named arguments give for a name. -/
def takeNamed (name : String) : List (String × Value) → Option Value × List (String × Value)
  | [] => (Option.none, [])
  | (given, value) :: rest =>
      if given = name then (some value, rest)
      else
        let (found, others) := takeNamed name rest
        (found, (given, value) :: others)

/-- What each parameter receives, and the named arguments that no parameter takes; none when
arguments by position are left over, a parameter is filled twice, or a required one is not. -/
def bindOpen? : List Parameter → List Value → List (String × Value) →
    Option (List (Option Value) × List (String × Value))
  | [], [], named => some ([], named)
  | [], _ :: _, _ => Option.none
  | parameter :: parameters, positional, named =>
      let (found, others) := takeNamed parameter.name named
      match positional, parameter.positional with
      | value :: values, true =>
          if found.isSome then Option.none
          else (bindOpen? parameters values others).map fun (received, left) =>
            (some value :: received, left)
      | values, _ =>
          if parameter.required && found.isNone then Option.none
          else (bindOpen? parameters values others).map fun (received, left) =>
            (found :: received, left)

/-- What each parameter receives, when every argument is taken. -/
def bind? (parameters : List Parameter) (arguments : Arguments) : Option (List (Option Value)) :=
  match bindOpen? parameters arguments.positional arguments.named with
  | some (received, []) => some received
  | _ => Option.none

end Arguments

end GuardAlgebra
