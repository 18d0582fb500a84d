import GuardAlgebra.Request.Scope
import GuardAlgebra.Run
import GuardAlgebra.Value.Distinct

/-!
Entries of dictionaries: the latest value of a key stands at the place where the key first came, and
a key is found by any key that agrees with it. Looking up what is not there gives a default, or else
fails with the key.
-/
namespace GuardAlgebra.Value

/-- The value of the entry whose key agrees. -/
def valueAt? (entries : List (Value × Value)) (key : Value) : Option Value :=
  (entries.find? fun entry => entry.1.agrees key).map Prod.snd

/-- Puts an entry into a dictionary: at the place of the entry with that key, or at the end. -/
def insertEntry (entries : List (Value × Value)) (key value : Value) : List (Value × Value) :=
  if entries.any (fun entry => entry.1.agrees key) then
    entries.map fun entry => if entry.1.agrees key then (entry.1, value) else entry
  else entries ++ [(key, value)]

/-- Puts entries into a dictionary, one after the other. -/
def extend (entries others : List (Value × Value)) : Except Fault (List (Value × Value)) :=
  others.foldlM (fun collected (key, value) =>
    match key.unhashable? with
    | some fault => .error fault
    | Option.none => .ok (insertEntry collected key value)) entries

/-- The entries of a dictionary, given one after the other. -/
def collect (entries : List (Value × Value)) : Except Fault (List (Value × Value)) :=
  extend [] entries

/-- The entries of values that are mappings. -/
def entries? : Value → Option (List (Value × Value))
  | .dict _ entries => some entries
  | .request received => some received.entries
  | _ => Option.none

/-- What an entry of a mapping holds, if there is one of that key. -/
def find? (value key : Value) : Except Fault (Option Value) :=
  match value.entries?, key.unhashable? with
  | Option.none, _ => .error (.notSubscriptable value.typeName)
  | some _, some fault => .error fault
  | some entries, Option.none => .ok (valueAt? entries key)

/-- The entry of a mapping that must be there. -/
def item (site : Site) (value key : Value) : Attempt Value := do
  match ← attempt site (value.find? key) with
  | some found => pure found
  | Option.none => throw (.plain site (.known "KeyError") [key])

def length : Value → Except Fault Nat
  | .str text => .ok text.length
  | .bytes octets => .ok octets.length
  | .list _ items | .tuple _ items => .ok items.length
  | .dict _ entries => .ok entries.length
  | .request _ => .ok Request.entryCount
  | value => .error (.unsized value.typeName)

/-- The items of a value, one after the other. -/
def items? : Value → Option (List Value)
  | .list _ items | .tuple _ items => some items
  | .dict _ entries => some (entries.map Prod.fst)
  | .str text => some (text.points.map fun point => .str (.single point))
  | .bytes octets => some (octets.map fun octet => .int octet.toNat)
  | .request received => some (received.entries.map Prod.fst)
  | _ => Option.none

/-- The entry that an item stands for, which must have two items itself. -/
def asEntry (place : Nat) (item : Value) : Except Fault (Value × Value) :=
  match item.items? with
  | some [key, value] => .ok (key, value)
  | some items => .error (.badEntry place items.length)
  | Option.none => .error (.notAnEntry place)

/-- The entries of a dictionary made from a value: those of a mapping, or else one for each item. -/
def asEntries (value : Value) : Except Fault (List (Value × Value)) :=
  match value.entries?, value.items? with
  | some entries, _ => .ok entries
  | Option.none, some items => do
      let entries ← items.zipIdx.mapM fun (item, place) => asEntry place item
      collect entries
  | Option.none, Option.none => .error (.notIterable value.typeName)

end GuardAlgebra.Value
