import GuardAlgebra.Arguments
import GuardAlgebra.Attribute.Voice
import GuardAlgebra.Decimal.Numeral
import GuardAlgebra.Text.Utf8

/-!
Instances of the classes of plain values: numbers and texts made from other values, containers made
from the items of others, and objects without contents.
-/
namespace GuardAlgebra

namespace Value

/-- How much of a text is quoted where it is refused as an integer. -/
def quoteBound : Nat := 200

def cutQuote (quoted : String) : String := String.ofList (quoted.toList.take quoteBound)

def readInteger (base : Nat) (text : List Char) (quoted : String) : Except Fault Int :=
  match Text.readInteger base text with
  | .ok number => .ok number
  | .error .malformed => .error (.notAnInteger base (cutQuote quoted))
  | .error (.tooLong digits) => .error (.tooManyDigits digits)

def textInteger (base : Nat) : Value → Except Fault Int
  | .str text => readInteger base text.plain (Text.quoted text)
  | .bytes octets =>
      readInteger base (Text.plainText octets) (Text.quotedBytes (octets.take quoteBound))
  | _ => .error (.badArguments "int")

/-- The integer that a number is without its fraction, or that a text denotes. -/
def toInteger : Value → Except Fault Int
  | .int number => .ok number
  | .bool truth => .ok truth.toNat
  | .float _ number =>
      match Decimal.Real.ofFloat number with
      | .undefined => .error .undefinedInteger
      | real =>
          match real.truncate with
          | some whole => .ok whole
          | Option.none => .error .infiniteInteger
  | value => value.textInteger 10

/-- A base for the digits of an integer. -/
def toBase : Value → Except Fault Nat
  | .int number =>
      if number = 0 ∨ 2 ≤ number ∧ number ≤ 36 then .ok number.toNat else .error .badBase
  | .bool truth => if truth then .error .badBase else .ok 0
  | value => .error (.badArguments value.typeName)

def toReal (site : Site) : Value → Except Fault Value
  | .float place number => .ok (.float place number)
  | .int number => ofInteger number
  | .bool truth => ofInteger truth.toNat
  | .str text => ofText text.plain (Text.quoted text)
  | .bytes octets => ofText (Text.plainText octets) (Text.quotedBytes octets)
  | _ => .error (.badArguments "float")
where
  ofInteger (number : Int) : Except Fault Value :=
    match Decimal.ofInteger? number with
    | some real => .ok (.float site real)
    | Option.none => .error .tooLargeNumber
  ofText (text : List Char) (quoted : String) : Except Fault Value :=
    match Decimal.ofText? text with
    | some real => .ok (.float site real)
    | Option.none => .error (.notANumber quoted)

def toByte : Value → Except Fault UInt8
  | .int number =>
      if 0 ≤ number ∧ number < 256 then .ok (UInt8.ofNat number.toNat) else .error .notAByte
  | .bool truth => .ok (UInt8.ofNat truth.toNat)
  | value => .error (.badArguments value.typeName)

/-- So many bytes of zero. -/
def zeroBytes (count : Int) : Except Fault (List UInt8) :=
  if count < -Nat.pow 2 63 ∨ Nat.pow 2 63 ≤ count then .error .tooLargeNumber
  else if count < 0 then .error .negativeCount
  else .ok (List.replicate count.toNat 0)

def toBytes : Value → Except Fault (List UInt8)
  | .int count => zeroBytes count
  | .bool truth => zeroBytes truth.toNat
  | .bytes octets => .ok octets
  | .str _ => .error (.badArguments "bytes")
  | value =>
      match value.items? with
      | some items => items.mapM toByte
      | Option.none => .error (.notIterable value.typeName)

/-- A list of the items of another value. -/
def toList (site : Site) (value : Value) : Except Fault Value :=
  match value.items? with
  | some items => .ok (.list site items)
  | Option.none => .error (.notIterable value.typeName)

/-- A dictionary of the entries of another value and named entries behind. -/
def toDict (site : Site) (entries : Except Fault (List (Value × Value)))
    (named : List (String × Value)) : Except Fault Value := do
  let entries ← extend (← entries) (named.map fun (name, value) => (.str name, value))
  pure (.dict site entries)

end Value

namespace Facts

/-- Instances of the classes of plain values. -/
def plainInstance (facts : Facts) (site : Site) (name : String) (arguments : Arguments) :
    Except Fault Value :=
  match name, arguments with
  | "bool", ⟨[], []⟩ => .ok (.bool false)
  | "bool", ⟨[value], []⟩ => value.truth.map Value.bool
  | "int", ⟨[], []⟩ => .ok (.int 0)
  | "int", ⟨[value], []⟩ => value.toInteger.map Value.int
  | "int", ⟨[value, base], []⟩ | "int", ⟨[value], [("base", base)]⟩ => do
      let base ← base.toBase
      let number ← value.textInteger base
      pure (.int number)
  | "float", ⟨[], []⟩ => .ok (.float site 0.0)
  | "float", ⟨[value], []⟩ => value.toReal site
  | "str", ⟨[], []⟩ => .ok (.str "")
  | "str", ⟨[value], []⟩ | "str", ⟨[], [("object", value)]⟩ => (facts.say value).map Value.str
  | "str", ⟨[.bytes octets, .str (.whole "utf-8"), .str (.whole "surrogateescape")], []⟩ =>
      .ok (.str (Text.ofBytes octets))
  | "bytes", ⟨[], []⟩ => .ok (.bytes [])
  | "bytes", ⟨[value], []⟩ => value.toBytes.map Value.bytes
  | "list", ⟨[], []⟩ => .ok (.list site [])
  | "list", ⟨[value], []⟩ => value.toList site
  | "dict", ⟨[], named⟩ => Value.toDict site (.ok []) named
  | "dict", ⟨[value], named⟩ => Value.toDict site value.asEntries named
  | "NoneType", ⟨[], []⟩ => .ok .none
  | "object", ⟨[], []⟩ => .ok (.instance site (.known name))
  | name, _ => .error (.badArguments name)

end Facts

end GuardAlgebra
