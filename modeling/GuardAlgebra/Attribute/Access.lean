import GuardAlgebra.Attribute.Own
import GuardAlgebra.Attribute.Store
import GuardAlgebra.Value.Entries

/-!
Attributes of values as they stand: what was written to an object, what it has from its making, and
what its class and the ancestors of its class have for all instances, in this order. A function
found on a class is taken together with the object.

Results, contexts, outcomes and all guards but application leaves are frozen: nothing can be written
to them, save the type arguments that a post guard is pinned to. A request keeps what it shows of
itself, and an exception its slots, each of which admits certain values alone.
-/
namespace GuardAlgebra

/-- The classes of a session, and what was written to its objects. -/
structure Facts where
  hierarchy : Hierarchy
  store : Store

/-- Names that types of the typing vocabulary do not look up on their class. -/
def isReserved (name : String) : Bool :=
  let text := name.toList
  text.take 2 = ['_', '_'] && text.reverse.take 2 = ['_', '_']

namespace Value

/-- A function found on a class, taken together with an object. -/
def boundTo (receiver : Value) : Value → Value
  | .method given => if given.isStatic then .method given else .bound (.method given) receiver
  | .routine site made => .bound (.routine site made) receiver
  | value => value

/-- Where writes to the attributes of a value are kept. -/
def place? : Value → Option Place
  | .type (.named cls) => some (.cls cls)
  | .type .any => some (.cls (.known "Any"))
  | .type (.variable name) => some (.cls (.known name))
  | value => value.site?.map Place.object

/-- What a request shows of itself, beside what it gives no access to. -/
def ofRequest? (received : Request) (name : String) : Option (Except Fault Value) :=
  match name with
  | "method" => some (.ok (.str received.method))
  | "path_params" => some (.ok received.pathParameters)
  | "cookies" => some (.ok (.dict (received.site.child 3) []))
  | "client" => some (.ok .none)
  | "user" | "auth" | "session" => some (.error (.unsupported name))
  | _ => Option.none

/-- The parts of a number. -/
def ofNumber? (number : Int) (name : String) : Option (Except Fault Value) :=
  match name with
  | "real" | "numerator" => some (.ok (.int number))
  | "imag" => some (.ok (.int 0))
  | "denominator" => some (.ok (.int 1))
  | _ => Option.none

/-- Attributes that follow from others. -/
def derived? (value : Value) (name : String) : Option (Except Fault Value) :=
  match value, name with
  | value, "__class__" => some (.ok (.type (.named value.cls)))
  | .result _ allowed _, "denied" => some (allowed.truth.map fun allowed => .bool !allowed)
  | .context _ _ user .., "is_authenticated" => some (.ok (.bool !user.isNone))
  | .outcome _ _ _ _ _ stage, "ok" => some (.ok (.bool stage.isNone))
  | .request received, name => ofRequest? received name
  | .int number, name => ofNumber? number name
  | .bool truth, name => ofNumber? truth.toNat name
  | _, _ => Option.none

/-- Nothing can be written to these. -/
def isFrozen : Value → Bool
  | .result .. | .context .. | .outcome .. => true
  | .guard (.leaf ..) | .post (.leaf ..) => false
  | .guard _ | .post _ => true
  | _ => false

/-- Names that cannot be written to an application guard, since it descends from library guards. -/
def frozenNames : Value → List String
  | .post (.leaf _ _ kin ..) => kin.flatMap Hierarchy.recordFields
  | _ => []

/-- The type arguments of a post guard can be written even where the rest is frozen. -/
def admitsPin : Value → Bool
  | .post _ => true
  | _ => false

/-- Objects that keep what is written to them. -/
def isOpen : Value → Bool
  | .guard (.leaf ..) | .post (.leaf ..) | .exception _ | .callable _ | .request _ | .resolver ..
  | .routine .. => true
  | .instance _ cls => cls ≠ Hierarchy.objectClass
  | _ => false

/-- What a request shows of itself. -/
def isShownByRequest (name : String) : Bool :=
  ["app", "auth", "base_url", "client", "cookies", "headers", "method", "path_params",
    "query_params", "receive", "session", "state", "url", "user"].contains name

/-- What a slot makes of a value that is written to it: what else is written then, and what the
slot holds. -/
def intoSlot (value : Value) (site : Site) (name : String) (new : Value) :
    Except Fault (List (String × Value)) :=
  let refuse : Except Fault (List (String × Value)) := .error (.unsettable value.typeName)
  match name, new with
  | "args", new =>
      match new.items? with
      | some items => .ok [("args", .tuple site items)]
      | Option.none => .error (.notIterable new.typeName)
  | "__cause__", .none | "__cause__", .exception _ =>
      .ok [("__suppress_context__", .bool true), ("__cause__", new)]
  | "__context__", .none | "__context__", .exception _ | "__traceback__", .none
  | "__suppress_context__", .bool _ | "__name__", .str _ => .ok [(name, new)]
  | "__cause__", _ | "__context__", _ | "__traceback__", _ | "__suppress_context__", _
  | "__name__", _ => refuse
  | name, new => .ok [(name, new)]

/-- Slots that can be unset. -/
def canUnset (name : String) : Bool :=
  ["errno", "strerror", "filename", "filename2", "code"].contains name

end Value

namespace Facts

/-- What a class itself has: what was written to it, or what it came with. -/
def memberAt? (facts : Facts) (id : ClassId) (name : String) : Option Value :=
  match facts.store.find? (.cls id) name with
  | some written => written
  | none => entryOf? (facts.hierarchy.members id) name

/-- What a class has for its instances, from the first of its lineage that has it. -/
def member? (facts : Facts) (id : ClassId) (name : String) : Option Value :=
  (facts.hierarchy.lineage id).findSome? fun ancestor => facts.memberAt? ancestor name

/-- What was written to an attribute of an object, if anything was. -/
def written? (facts : Facts) (value : Value) (name : String) : Option (Option Value) :=
  value.place?.bind (facts.store.find? · name)

/-- What types tell of themselves. -/
def described? (facts : Facts) (type : TypeExpr) (name : String) : Option Value :=
  let tuple := fun (types : List TypeExpr) => some (Value.tuple .root (types.map Value.type))
  let isMade := type.site?.isSome
  match type, name with
  | type, "__name__" => type.name?.map Value.str
  | .variable _, "__qualname__" => none
  | type, "__qualname__" => type.name?.map Value.str
  | .named cls, "__module__" | .container _ cls _, "__module__" | .applied _ cls _, "__module__" =>
      some (.str (cls.home?.getD "builtins"))
  | .any, "__module__" | .listOf .., "__module__" | .union _ false _, "__module__" =>
      some (.str "typing")
  | .union _ true _, "__module__" => some (.str "types")
  | .named cls, "__mro__" => tuple ((facts.hierarchy.lineage cls).map TypeExpr.named)
  | .named cls, "__bases__" => tuple ((facts.hierarchy.parents cls).map TypeExpr.named)
  | .named cls, "__orig_bases__" =>
      match facts.hierarchy.writtenBases cls with
      | [] => none
      | bases => tuple bases
  | .named cls, "__parameters__" =>
      if facts.hierarchy.descends cls Hierarchy.genericClass then
        tuple ((facts.hierarchy.parameters cls).map TypeExpr.variable)
      else none
  | type, "__parameters__" =>
      if isMade then tuple (type.variableNames.map TypeExpr.variable) else none
  | type, "__args__" => if isMade then tuple type.arguments else none
  | type, "__origin__" => type.origin?.map fun cls => .type (.named cls)
  | _, _ => none

/-- An attribute of a type: its own, or that of the class it is made from. -/
def readType? (facts : Facts) (type : TypeExpr) (name : String) : Option Value :=
  let owner? := match type with
    | .named cls => some cls
    | .any => some (.known "Any")
    | type => if isReserved name then none else type.origin?
  match facts.written? (.type type) name with
  | some (some written) => some written
  | _ => (owner?.bind (facts.member? · name)).or (facts.described? type name)

/-- An attribute as it stands, unless it follows from others. -/
def read? (facts : Facts) (value : Value) (name : String) : Option Value :=
  match value with
  | .type expr => facts.readType? expr name
  | value =>
      let shared := (facts.member? value.cls name).map value.boundTo
      let slot := (value.slot? name).map fun content => content.getD .none
      match facts.written? value name with
      | some (some written) => some written
      | some none => (slot.map fun _ => Value.none).or shared
      | none => ((entryOf? value.own name).or slot).or shared

/-- An attribute that an object holds itself. -/
def holds (facts : Facts) (value : Value) (name : String) : Bool :=
  match facts.written? value name with
  | some written => written.isSome
  | none => (entryOf? value.own name).isSome

/-- What an object holds itself, all of it. -/
def held (facts : Facts) (value : Value) : List (String × Value) :=
  let first := match value with
    | .type (.named cls) => facts.hierarchy.members cls
    | value => value.own
  match value.place? with
  | none => first
  | some place =>
      let later := (facts.store.namesAt place).filter fun name =>
        !first.any (·.1 = name) && (value.slot? name).isNone
      (first.filterMap fun (name, content) =>
        ((facts.store.find? place name).getD (some content)).map fun held => (name, held)) ++
        later.filterMap fun name =>
          ((facts.store.find? place name).getD none).map fun held => (name, held)

/-- Reads an attribute, among them those that follow from others. -/
def read (facts : Facts) (value : Value) (name : String) : Except Fault Value :=
  match value.derived? name with
  | some content => content
  | none =>
      match facts.read? value name with
      | some held => .ok held
      | none =>
          if name = "__dict__" && (value.isOpen || value.isFrozen) then
            .ok (.dict .root ((facts.held value).map fun (name, held) => (.str name, held)))
          else .error (.missingAttribute value.typeName name)

def put (facts : Facts) (place : Place) (name : String) (new : Value) : Facts :=
  ⟨facts.hierarchy, facts.store.put place name new⟩

/-- Classes that nothing can be written to. -/
def isClosed (id : ClassId) : Bool := id.home?.isNone && id ≠ .known "Fn"

/-- Writes to a type: to its class, where it has one. -/
def writeType (facts : Facts) (type : TypeExpr) (name : String) (new : Value) :
    Except Fault Facts :=
  let toClass (id : ClassId) : Except Fault Facts :=
    if isClosed id then .error (.unsettable "type") else .ok (facts.put (.cls id) name new)
  match type with
  | .named cls => toClass cls
  | .any => toClass (.known "Any")
  | .variable letter => .ok (facts.put (.cls (.known letter)) name new)
  | .applied site cls _ =>
      if isReserved name then .ok (facts.put (.object site) name new) else toClass cls
  | .listOf site _ =>
      if isReserved name then .ok (facts.put (.object site) name new)
      else toClass (.known "list")
  | .container .. | .union .. | .guest _ => .error (.missingAttribute type.kind name)

def write (facts : Facts) (value : Value) (site : Site) (name : String) (new : Value) :
    Except Fault Facts :=
  match value, value.site? with
  | .type expr, _ => facts.writeType expr name new
  | value, none => .error (.missingAttribute value.typeName name)
  | value, some place =>
      let stored := Place.object place
      if value.admitsPin && name = pinAttribute then .ok (facts.put stored name new)
      else if value.isFrozen || value.frozenNames.contains name then .error (.frozen name)
      else if !value.isOpen then .error (.missingAttribute value.typeName name)
      else
        match value with
        | .request _ =>
            if Value.isShownByRequest name then .error (.missingAttribute value.typeName name)
            else .ok (facts.put stored name new)
        | value =>
            if (value.slot? name).isSome then do
              let writes ← value.intoSlot site name new
              pure (writes.foldl (fun facts (name, new) => facts.put stored name new) facts)
            else .ok (facts.put stored name new)

/-- Deletes from a type what is its own. -/
def eraseType (facts : Facts) (type : TypeExpr) (name : String) : Except Fault Facts :=
  let missing : Except Fault Facts := .error (.missingAttribute type.kind name)
  let fromClass (id : ClassId) : Except Fault Facts :=
    if isClosed id then .error (.unsettable "type")
    else if (facts.memberAt? id name).isSome then
      .ok ⟨facts.hierarchy, facts.store.erase (.cls id) name⟩
    else missing
  match type with
  | .named cls => fromClass cls
  | .any => fromClass (.known "Any")
  | type =>
      match (Value.type type).place? with
      | some place =>
          if (facts.written? (.type type) name).any Option.isSome then
            .ok ⟨facts.hierarchy, facts.store.erase place name⟩
          else missing
      | none => missing

def erase (facts : Facts) (value : Value) (name : String) : Except Fault Facts :=
  if value.isFrozen || value.frozenNames.contains name then .error (.frozen name)
  else
    match value, value.site? with
    | .type expr, _ => facts.eraseType expr name
    | value, none => .error (.missingAttribute value.typeName name)
    | value, some place =>
        let erased : Facts := ⟨facts.hierarchy, facts.store.erase (.object place) name⟩
        if (value.slot? name).isSome then
          if Value.canUnset name then .ok erased else .error (.unsettable value.typeName)
        else if value.isOpen && facts.holds value name then .ok erased
        else .error (.missingAttribute value.typeName name)

/-- Whether an application guard is checked as its class says, and nothing was put in the place of
that. -/
def checksItself (facts : Facts) (value : Value) : Bool :=
  match facts.read? value "check" with
  | some (.bound (.method (.check cls)) receiver) =>
      cls.isApplication && receiver.identical value
  | _ => false

end Facts

end GuardAlgebra
