import GuardAlgebra.Text.Integer
import GuardAlgebra.Value

/-!
Values that cannot be put into words: integers of too many digits, exceptions that speak of a part
they lack, and every value that shows such a one.
-/
namespace GuardAlgebra

/-- What keeps exceptions from saying what they say by now, if anything does; none for those that say
what they were made with. -/
abbrev Silence : Type := Exception → Option (Option Fault)

/-- Integers of so many digits can be put into words. -/
def isSpelled (number : Int) : Bool := number.natAbs < Nat.pow 10 Text.digitBound

theorem isSpelled_pow : isSpelled (Nat.pow 10 Text.digitBound : Nat) = false := by
  rw [isSpelled, Int.natAbs_natCast, decide_eq_false_iff_not]
  exact Nat.lt_irrefl _

mutual

/-- What keeps a value from being put into words: the first obstacle among the values it shows. -/
def Value.obstacle? (silence : Silence) : Value → Option Fault
  | .int number => if isSpelled number then none else some .unspellable
  | .list _ items | .tuple _ items => Value.obstacleIn? silence items
  | .dict _ entries => Value.obstacleInEntries? silence entries
  | .result _ allowed error =>
      (Value.obstacle? silence allowed).or (Value.obstacle? silence error)
  | .context _ received user organization extra =>
      (Value.obstacle? silence received).or <| (Value.obstacle? silence user).or <|
        (Value.obstacle? silence organization).or (Value.obstacle? silence extra)
  | .guard tree => Guard.obstacle? silence tree
  | .post tree => PostGuard.obstacle? silence tree
  | .exception raised => Exception.obstacle? silence raised
  | .outcome _ field value error resolved stage =>
      (Value.obstacle? silence field).or <| (Value.obstacle? silence value).or <|
        (Value.obstacle? silence error).or <| (Value.obstacle? silence resolved).or
          (Value.obstacle? silence stage)
  | .none | .bool _ | .float .. | .str _ | .bytes _ | .type _ | .callable _ | .request _
  | .resolver .. | .routine .. | .method _ | .bound .. | .instance .. | .pending _ => none
termination_by structural value => value

def Value.obstacleIn? (silence : Silence) : List Value → Option Fault
  | [] => none
  | item :: items => (Value.obstacle? silence item).or (Value.obstacleIn? silence items)
termination_by structural items => items

def Value.obstacleInEntries? (silence : Silence) : List (Value × Value) → Option Fault
  | [] => none
  | (key, value) :: entries =>
      (Value.obstacle? silence key).or <| (Value.obstacle? silence value).or
        (Value.obstacleInEntries? silence entries)
termination_by structural entries => entries

def Guard.obstacle? (silence : Silence) : Guard → Option Fault
  | .both _ left right | .either _ left right =>
      (Guard.obstacle? silence left).or (Guard.obstacle? silence right)
  | .denyAll _ error => Value.obstacle? silence error
  | .function _ callable error name =>
      (Value.obstacle? silence callable).or <| (Value.obstacle? silence error).or
        (Value.obstacle? silence name)
  | .allowAll _ | .leaf .. => none
termination_by structural tree => tree

def PostGuard.obstacle? (silence : Silence) : PostGuard → Option Fault
  | .both _ _ left right resultType =>
      (PostGuard.obstacle? silence left).or <| (PostGuard.obstacle? silence right).or
        (Value.obstacle? silence resultType)
  | .function _ _ callable error resultType name =>
      (Value.obstacle? silence callable).or <| (Value.obstacle? silence error).or <|
        (Value.obstacle? silence resultType).or (Value.obstacle? silence name)
  | .leaf .. => none
termination_by structural tree => tree

def Exception.obstacle? (silence : Silence) : Exception → Option Fault
  | .plain site cls arguments =>
      (silence (.plain site cls arguments)).getD (Value.obstacleIn? silence arguments)
  | .domain site cls message code details carried =>
      (silence (.domain site cls message code details carried)).getD
        (Value.obstacle? silence message)
  | .http site arguments status detail headers =>
      (silence (.http site arguments status detail headers)).getD
        ((Value.obstacle? silence status).or (Value.obstacle? silence detail))
  | .invalid .. | .fault .. => none
termination_by structural raised => raised

end

end GuardAlgebra
