import GuardAlgebra.Class.Hierarchy
import GuardAlgebra.Value.Display
import GuardAlgebra.Value.Truth

/-!
Attributes from the making of an object and of its class: what an object holds of its own, what it
keeps in fixed slots beside that, and what classes have for all their instances.
-/
namespace GuardAlgebra

/-- The attribute that holds the type arguments an object was made with. -/
def pinAttribute : String := "__orig_class__"

def nameAttribute : String := "__name__"

/-- The first entry of a name. -/
def entryOf? {α : Type} (entries : List (String × α)) (name : String) : Option α :=
  (entries.find? fun entry => entry.1 = name).map Prod.snd

/-- Puts entries in the place of those with the same names, and the others behind. -/
def override {α : Type} (entries others : List (String × α)) : List (String × α) :=
  entries.map (fun entry => (entry.1, (entryOf? others entry.1).getD entry.2)) ++
    others.filter fun entry => !entries.any (·.1 = entry.1)

def Routine.name : Routine → Text
  | .guardMaker _ | .postMaker .. | .fieldMaker .. => "decorator"
  | .guardedField _ _ name _ => name
  | .admission .. => "dependency"

namespace Guard

def own : Guard → List (String × Value)
  | .both _ left right | .either _ left right => [("left", .guard left), ("right", .guard right)]
  | .denyAll _ error => [("error", error)]
  | .function _ callable error name => [("func", callable), ("error", error), ("name", name)]
  | .allowAll _ | .leaf .. => []

end Guard

namespace PostGuard

def own (tree : PostGuard) : List (String × Value) :=
  let contents := match tree with
    | .both _ _ left right resultType =>
        [("left", .post left), ("right", .post right), ("result_type", resultType)]
    | .function _ _ callable error resultType name =>
        [("func", callable), ("error", error), ("result_type", resultType), ("name", name)]
    | .leaf .. => []
  contents ++ if tree.pin.isNone then [] else [(pinAttribute, tree.pin)]

end PostGuard

namespace Exception

def own : Exception → List (String × Value)
  | .domain _ _ message code details carried =>
      (match carried with
      | some error => [("error", error)]
      | none => []) ++ [("message", message), ("error_code", code), ("details", details)]
  | .http _ _ status detail headers =>
      [("status_code", status), ("detail", detail), ("headers", headers)]
  | .plain .. | .invalid .. | .fault .. => []

/-- What an exception was made with, as it keeps it. -/
def arguments : Exception → List Value
  | .plain _ cls arguments => kept Value.isNone cls arguments
  | .domain _ _ message .. => [message]
  | .http _ arguments .. => arguments
  | .invalid .. => []
  | .fault _ cause => cause.arguments

/-- What an error of the operating system takes from its arguments, if they are that many. -/
def systemPart (arguments : List Value) (place : Nat) : Option Value :=
  if 2 ≤ arguments.length ∧ arguments.length ≤ 5 then arguments[place]? else none

def present : Option Value → Option Value
  | some .none | none => none
  | some value => some value

/-- The slots of an error of the operating system. -/
def systemSlot? (arguments : List Value) : String → Option (Option Value)
  | "errno" => some (systemPart arguments 0)
  | "strerror" => some (systemPart arguments 1)
  | "filename" => some (present (systemPart arguments 2))
  | "filename2" =>
      some (present (systemPart arguments 2) >>= fun _ => present (systemPart arguments 4))
  | _ => none

/-- The slots of an exception with their contents, of which some may be unset. -/
def slot? (raised : Exception) (name : String) : Option (Option Value) :=
  match raised, name with
  | raised, "args" => some (some (.tuple (raised.site.child 1) raised.arguments))
  | _, "__cause__" | _, "__context__" | _, "__traceback__" => some none
  | _, "__suppress_context__" => some (some (.bool false))
  | .plain site (.known "SystemExit") arguments, "code" =>
      some (match arguments with
        | [] => none
        | [code] => some code
        | codes => some (.tuple (site.child 1) codes))
  | .plain _ cls arguments, name => if isSystem cls then systemSlot? arguments name else none
  | _, _ => none

end Exception

namespace Value

/-- What an object holds of its own, in order. -/
def own : Value → List (String × Value)
  | .result _ allowed error => [("allowed", allowed), ("error", error)]
  | .context _ received user organization extra =>
      [("request", received), ("user", user), ("organization_id", organization),
        ("extra_data", extra)]
  | .outcome _ field value error resolved stage =>
      [("field_name", field), ("value", value), ("error", error), ("resolved", resolved),
        ("stage", stage)]
  | .resolver _ before after field =>
      [("guard", before), ("post_guard", after), ("field_name", field)]
  | .guard tree => tree.own
  | .post tree => tree.own
  | .exception raised => raised.own
  | .callable function =>
      match function.name with
      | some name => [(nameAttribute, .str name)]
      | Option.none => []
  | .routine _ (.guardedField around function _ held) =>
      override held [("__wrapped__", function), ("field_resolver", around)]
  | _ => []

/-- The slots of an object with their contents, of which some may be unset. -/
def slot? (value : Value) (name : String) : Option (Option Value) :=
  match value with
  | .exception raised => raised.slot? name
  | .routine _ made | .bound (.routine _ made) _ =>
      if name = nameAttribute then some (some (.str made.name)) else Option.none
  | .method given | .bound (.method given) _ =>
      if name = nameAttribute then some (some (.str given.name)) else Option.none
  | _ => Option.none

end Value

namespace Hierarchy

/-- What library classes have beside their methods: the contents that an instance has where it is
given none. -/
def standardAttributes : String → List (String × Value)
  | "FunctionGuard" => [("name", .none)]
  | "FunctionPostGuard" => [("result_type", .none), ("name", .none)]
  | "PostAnd" => [("result_type", .none)]
  | "GuardResult" => [("error", .none)]
  | "GuardContext" => [("request", .none), ("user", .none), ("organization_id", .none)]
  | "FieldOutcome" =>
      [("value", .none), ("error", .none), ("resolved", .bool false), ("stage", .none)]
  | _ => []

def knownMembers : ClassId → List (String × Value)
  | .known name =>
      standardAttributes name ++
        (Method.standard name).map fun method => (method.name, .method method)
  | .declared .. | .outside _ => []

/-- Everything that a class itself has for its instances. -/
def members (hierarchy : Hierarchy) (id : ClassId) : List (String × Value) :=
  match hierarchy.find? id with
  | some entry =>
      entry.attributes ++ knownMembers id ++
        (match entry.checking with
        | .given | .required => [("check", .method (.check id))]
        | .inherited => [])
  | none => knownMembers id

/-- The fields of library records of a class, which its descendants keep from being written. -/
def recordFields : String → List String
  | "FunctionPostGuard" => ["func", "error", "result_type", "name"]
  | "PostAnd" => ["left", "right", "result_type"]
  | _ => []

/-- The classes of library post guards that a class descends from. -/
def kin (hierarchy : Hierarchy) (id : ClassId) : List String :=
  (hierarchy.lineage id).filterMap fun ancestor =>
    match ancestor with
    | .known name => if (recordFields name).isEmpty then none else some name
    | .declared .. | .outside _ => none

end Hierarchy

end GuardAlgebra
