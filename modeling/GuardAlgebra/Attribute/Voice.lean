import GuardAlgebra.Attribute.Access
import GuardAlgebra.Value.Display
import GuardAlgebra.Value.Silence

/-!
What exceptions say after they were changed: their arguments, the slots of an error of the operating
system, and the status and detail of an exception that answers a request can all be written. One
whose status or detail was deleted says nothing any more, and `say` fails for all that shows it.
-/
namespace GuardAlgebra.Facts

/-- What a slot of an exception holds, unless it is unset. -/
def slotContent? (facts : Facts) (raised : Exception) (name : String) : Option Value :=
  match facts.store.find? (.object raised.site) name with
  | some written => written
  | none => (raised.slot? name).getD none

/-- The arguments of an exception as they stand. -/
def argumentsOf (facts : Facts) (raised : Exception) : List Value :=
  match facts.slotContent? raised "args" with
  | some (.tuple _ items) => items
  | _ => []

/-- The attributes on which the words of an exception depend. -/
def spoken : Exception → List String
  | .http .. => ["status_code", "detail"]
  | .plain .. => ["args", "errno", "strerror", "filename", "filename2"]
  | .domain .. | .invalid .. | .fault .. => ["args"]

/-- Whether the words of some exception depend on an attribute of this name. -/
def isSpoken (name : String) : Bool :=
  ["status_code", "detail", "args", "errno", "strerror", "filename", "filename2"].contains name

/-- The words of an exception by its attributes as they stand. -/
def wordsOf (facts : Facts) (voice : Voice) (raised : Exception) : Wording :=
  match raised with
  | .http .. =>
      let part := fun name =>
        ((facts.read? (.exception raised) name).getD .none).wording voice
      let status := part "status_code"
      let detail := part "detail"
      ⟨parenthesized raised.cls.name
          ["status_code=" ++ status.shown, "detail=" ++ detail.shown],
        status.text ++ ": " ++ detail.text⟩
  | raised =>
      let arguments := Value.wordings voice (facts.argumentsOf raised)
      let text := match raised with
        | .fault _ (.unencodable text) => .whole (Fault.unencodable text).message
        | raised => Exception.textOf raised.cls arguments
      let part := fun name => (facts.slotContent? raised name).map (Value.wording voice)
      ⟨parenthesized raised.cls.name (arguments.map Wording.shown),
        if Exception.isSystem raised.cls then
          Exception.systemText (part "errno") (part "strerror") (part "filename")
            (part "filename2") text
        else text⟩

/-- What keeps an exception from saying what it says by its attributes as they stand. -/
def obstacleOf? (facts : Facts) (silence : Silence) (raised : Exception) : Option Fault :=
  match raised with
  | .http .. =>
      let part := fun name =>
        match facts.read (.exception raised) name with
        | .error fault => some fault
        | .ok value => value.obstacle? silence
      (part "status_code").or (part "detail")
  | raised => Value.obstacleIn? silence (facts.argumentsOf raised)

/-- Whether an exception may have been changed in what it says. -/
def isChanged (facts : Facts) (raised : Exception) : Bool :=
  (spoken raised).any fun name => (facts.store.find? (.object raised.site) name).isSome

/-- The voice of changed exceptions. One can speak of another, and so on to a depth. -/
def voiceWithin (facts : Facts) : Nat → Voice
  | 0 => Voice.original
  | depth + 1 => fun raised =>
      if facts.isChanged raised then some (facts.wordsOf (facts.voiceWithin depth) raised)
      else none

/-- The silence of changed exceptions, to the same depth. -/
def silenceWithin (facts : Facts) : Nat → Silence
  | 0 => fun _ => none
  | depth + 1 => fun raised =>
      if facts.isChanged raised then some (facts.obstacleOf? (facts.silenceWithin depth) raised)
      else none

/-- How deep changed exceptions can speak of one another: each of them was written to where its words
depend on it. -/
def voiceDepth (facts : Facts) : Nat :=
  facts.store.writes.countP (fun write => isSpoken write.name) + 1

def voice (facts : Facts) : Voice := facts.voiceWithin facts.voiceDepth

def display (facts : Facts) (value : Value) : String := value.display facts.voice

def text (facts : Facts) (value : Value) : Text := value.text facts.voice

/-- What keeps a value from being put into words, if anything does. -/
def obstacle? (facts : Facts) (value : Value) : Option Fault :=
  value.obstacle? (facts.silenceWithin facts.voiceDepth)

/-- A value as it stands inside another one, where it can be put into words. -/
def depict (facts : Facts) (value : Value) : Except Fault String :=
  match facts.obstacle? value with
  | some fault => .error fault
  | none => .ok (facts.display value)

/-- A value as a message, where it can be put into words. -/
def say (facts : Facts) (value : Value) : Except Fault Text :=
  match facts.obstacle? value with
  | some fault => .error fault
  | none => .ok (facts.text value)

end GuardAlgebra.Facts
