import GuardAlgebra.Proofs.Sequence
import GuardAlgebra.Session.Execute
import Mathlib.Data.List.Forall2

namespace GuardAlgebra.Session

/-! # Levels of the log

Nothing that a session does asks for the level of its log. Two sessions that differ in the level alone
go through a script alike, step by step, until the script sets the level, and then they are the same.
-/

def atLevel (session : Session) (level : Int) : Session := { session with level := level }

/-- Sessions that differ in the level of the log at most. -/
def Alike (session other : Session) : Prop := ∃ level, other = session.atLevel level

section Evaluating

variable (session : Session) (level : Int)

/-! Expressions are evaluated alike, each of their parts by an equation of its own. -/

mutual

theorem type_atLevel : ∀ text site, (session.atLevel level).type text site = session.type text site
  | .name _, _ => rfl
  | .applied head arguments, site => by
      rw [type, type, types_atLevel]
      rfl

theorem types_atLevel : ∀ texts site place,
    (session.atLevel level).types texts site place = session.types texts site place
  | [], _, _ => rfl
  | text :: texts, site, place => by rw [types, types, type_atLevel text, types_atLevel texts]

end

mutual

theorem eval_atLevel : ∀ expr site, (session.atLevel level).eval expr site = session.eval expr site
  | .none, _ | .bool _, _ | .int _, _ | .float _, _ | .str _, _ | .bytes _, _ | .reference _, _ =>
      rfl
  | .list items, _ | .tuple items, _ => by rw [eval, eval, evalAll_atLevel items]
  | .dict entries, _ => by rw [eval, eval, evalEntries_atLevel entries]
  | .type text, _ => by rw [eval, eval, type_atLevel]
  | .instance text positional named, _ => by
      rw [eval, eval, type_atLevel, evalAll_atLevel positional, evalNamed_atLevel named]
      rfl
  | .leaf text leaf, _ | .post text leaf, _ => by
      rw [eval, eval, evalLeaf_atLevel leaf, type_atLevel]
      rfl
  | .callable function, _ => by rw [eval, eval, evalCallable_atLevel function]
  | .request received, _ => by rw [eval, eval, evalRequest_atLevel received]

theorem evalAll_atLevel : ∀ exprs site place,
    (session.atLevel level).evalAll exprs site place = session.evalAll exprs site place
  | [], _, _ => rfl
  | expr :: exprs, _, _ => by rw [evalAll, evalAll, eval_atLevel expr, evalAll_atLevel exprs]

theorem evalNamed_atLevel : ∀ exprs site place,
    (session.atLevel level).evalNamed exprs site place = session.evalNamed exprs site place
  | [], _, _ => rfl
  | (_, expr) :: exprs, _, _ => by
      rw [evalNamed, evalNamed, eval_atLevel expr, evalNamed_atLevel exprs]

theorem evalEntries_atLevel : ∀ entries site place,
    (session.atLevel level).evalEntries entries site place = session.evalEntries entries site place
  | [], _, _ => rfl
  | (key, value) :: entries, _, _ => by
      rw [evalEntries, evalEntries, eval_atLevel key, eval_atLevel value, evalEntries_atLevel entries]

theorem evalLeaf_atLevel : ∀ leaf site,
    (session.atLevel level).evalLeaf leaf site = session.evalLeaf leaf site
  | .mk _ _ reply, _ => by rw [evalLeaf, evalLeaf, evalReply_atLevel reply]

theorem evalReply_atLevel : ∀ reply site,
    (session.atLevel level).evalReply reply site = session.evalReply reply site
  | .allow, _ => rfl
  | .deny value, _ | .gives value, _ | .raises value, _ => by
      rw [evalReply, evalReply, eval_atLevel value]

theorem evalCallable_atLevel : ∀ function site,
    (session.atLevel level).evalCallable function site = session.evalCallable function site
  | .mk _ _ _ _ body, _ => by rw [evalCallable, evalCallable, evalBody_atLevel body]

theorem evalBody_atLevel : ∀ body site,
    (session.atLevel level).evalBody body site = session.evalBody body site
  | .argument _, _ | .echo, _ => rfl
  | .gives value, _ | .raises value, _ => by rw [evalBody, evalBody, eval_atLevel value]
  | .test test, _ => by rw [evalBody, evalBody, evalTest_atLevel test]

theorem evalTest_atLevel : ∀ test site,
    (session.atLevel level).evalTest test site = session.evalTest test site
  | .authenticated, _ | .above _, _ | .shorter _, _ | .truthy, _ | .owner, _ => rfl
  | .organization expected, _ | .contextIs expected, _ => by
      rw [evalTest, evalTest, eval_atLevel expected]
  | .user key expected, _ | .extra key expected, _ => by
      rw [evalTest, evalTest, eval_atLevel key, eval_atLevel expected]

theorem evalRequest_atLevel : ∀ received site,
    (session.atLevel level).evalRequest received site = session.evalRequest received site
  | .mk _ _ _ _ _ parameters user, _ => by
      rw [evalRequest, evalRequest, evalEntries_atLevel parameters, evalOptional_atLevel user]

theorem evalOptional_atLevel : ∀ expr site,
    (session.atLevel level).evalOptional expr site = session.evalOptional expr site
  | none, _ => rfl
  | some expr, _ => by rw [evalOptional, evalOptional, eval_atLevel expr]

end


theorem evalArguments_atLevel (arguments : ArgumentsExpr) (site : Site) :
    (session.atLevel level).evalArguments arguments site = session.evalArguments arguments site := by
  rw [evalArguments, evalArguments, evalAll_atLevel, evalNamed_atLevel]

theorem evalPair_atLevel (site : Site) (left right : Expr) :
    (session.atLevel level).evalPair site left right = session.evalPair site left right := by
  rw [evalPair, evalPair, eval_atLevel, eval_atLevel]

theorem ask_atLevel (site : Site) (question : Question) :
    (session.atLevel level).ask site question = session.ask site question := by
  cases question <;>
    simp only [ask, eval_atLevel, evalAll_atLevel, evalNamed_atLevel, evalArguments_atLevel,
      evalPair_atLevel, type_atLevel] <;> rfl

theorem act_atLevel (site : Site) (action : Action) :
    (session.atLevel level).act site action = session.act site action := by
  cases action <;>
    simp only [act, eval_atLevel, evalAll_atLevel, evalOptional_atLevel, evalArguments_atLevel,
      evalPair_atLevel] <;> rfl

end Evaluating

variable {session other : Session}

theorem alike_atLevel (session : Session) (level : Int) : session.Alike (session.atLevel level) :=
  ⟨level, rfl⟩

/-- A change leaves two sessions alike, for one that sets the level sets it in both. -/
theorem change_atLevel (session : Session) (level : Int) (site : Site) (change : Change) :
    ∃ after : Session → Session, (∀ next : Session, next.Alike (after next)) ∧
      (session.atLevel level).change site change =
        (Prod.map id after <$> ·) <$> session.change site change := by
  have kept (next : Session) : next.Alike (next.atLevel level) := alike_atLevel next level
  cases change with
  | declareClass name bases attributes isAbstract =>
      refine ⟨(atLevel · level), kept, ?_⟩
      simp only [Session.change, types_atLevel, evalNamed_atLevel, map_bind, map_pure]
      refine bind_congr fun bases => bind_congr fun attributes => congrArg pure ?_
      have made : (session.atLevel level).declareClass site name bases attributes isAbstract =
          (session.declareClass site name bases attributes isAbstract).map
            (Prod.map id (atLevel · level)) := by
        have hierarchy : (session.atLevel level).hierarchy = session.hierarchy := rfl
        simp only [declareClass, hierarchy]
        cases session.hierarchy.newClass? .. <;> rfl
      rw [made]
      cases session.declareClass site name bases attributes isAbstract <;> rfl
  | write | erase | setSetting =>
      refine ⟨(atLevel · level), kept, ?_⟩
      simp only [Session.change, evalPair_atLevel, eval_atLevel, map_bind, map_pure]
      rfl
  | configureLogging arguments =>
      refine ⟨id, fun next => alike_atLevel next next.level, ?_⟩
      simp only [Session.change, evalArguments_atLevel, map_bind, map_pure, Prod.map_id, id_map]
      rfl

theorem execute_atLevel (session : Session) (level : Int) (site : Site) (operation : Operation) :
    ∃ after : Session → Session, (∀ next : Session, next.Alike (after next)) ∧
      (session.atLevel level).execute site operation =
        (Prod.map id after <$> ·) <$> session.execute site operation := by
  have kept (next : Session) : next.Alike (next.atLevel level) := alike_atLevel next level
  cases operation with
  | ask question =>
      refine ⟨(atLevel · level), kept, ?_⟩
      simp only [execute, ask_atLevel, map_bind, map_pure]
      rfl
  | act action =>
      refine ⟨(atLevel · level), kept, ?_⟩
      simp only [execute, act_atLevel, map_bind, map_pure, Functor.map_map]
      rfl
  | change change =>
      obtain ⟨after, alike, same⟩ := change_atLevel session level site change
      refine ⟨after, alike, ?_⟩
      simp only [execute, same, map_bind, map_pure, bind_map_left, Functor.map_map]
      rfl

namespace Alike

variable (alike : session.Alike other)
include alike

theorem keep (name : Option String) (value : Value) (origin : Option Site) :
    (session.keep name value origin).Alike (other.keep name value origin) := by
  obtain ⟨level, rfl⟩ := alike
  cases name <;> exact alike_atLevel _ level

theorem advanced (turn : Nat) (subscripts : Subscripts) :
    { session with turn := turn, subscripts := subscripts }.Alike
      { other with turn := turn, subscripts := subscripts } := by
  obtain ⟨level, rfl⟩ := alike
  exact alike_atLevel _ level

end Alike

/-- Reports of one step at two levels of the log. The log has the same records, where both levels admit
them. -/
structure Agree (report other : Report) : Prop where
  outcome : other.outcome = report.outcome
  invoked : other.invoked = report.invoked
  records : other.records = report.records ∨ report.records = [] ∨ other.records = []

theorem admitted_agree (session other : Session) (records : List Record) :
    other.admitted records = session.admitted records ∨ session.admitted records = [] ∨
      other.admitted records = [] := by
  unfold admitted
  split <;> split <;> simp

theorem step_alike (alike : session.Alike other) (step : Step) :
    Agree (session.step step).1 (other.step step).1 ∧
      (session.step step).2.Alike (other.step step).2 := by
  have ⟨level, differ⟩ := alike
  obtain ⟨after, kept, same⟩ :=
    execute_atLevel session level (Site.root.child session.turn) step.operation
  have logs (records : List Record) := admitted_agree session other records
  have turn : other.turn = session.turn := by rw [differ]; rfl
  rw [Session.step, Session.step]
  rcases evaluated : (session.execute (Site.root.child session.turn) step.operation).run.run
    session.subscripts with ⟨outcome, subscripts⟩
  have others : (other.execute (Site.root.child other.turn) step.operation).run.run
      other.subscripts = (outcome.map (Prod.map id after <$> ·), subscripts) := by
    subst differ
    change ((session.atLevel level).execute (Site.root.child session.turn) step.operation).run.run
      session.subscripts = _
    rw [same, ExceptT.run_map, StateT.run_map, evaluated]
    rfl
  -- From here on the levels are of no matter but to what is admitted and to the session after.
  rw [others, turn]
  cases outcome with
  | error cause => exact ⟨⟨rfl, rfl, logs _⟩, (alike.keep ..).advanced ..⟩
  | ok run =>
      dsimp only [Except.map]
      simp only [Run.result_map, Run.invocations, Run.records, Run.events_map]
      cases ended : run.result with
      | error cause => exact ⟨⟨rfl, rfl, logs _⟩, (alike.keep ..).advanced ..⟩
      | ok given =>
          obtain ⟨product, next⟩ := given
          refine ⟨⟨rfl, rfl, logs _⟩, ?_⟩
          cases product with
          | value value =>
              have origin : other.originOfProduct (Site.root.child session.turn) step.operation =
                  session.originOfProduct (Site.root.child session.turn) step.operation := by
                subst differ
                rfl
              dsimp only [Except.map, Prod.map]
              rw [origin]
              exact ((kept next).keep ..).advanced ..
          | _ => exact (kept next).advanced ..

/-- What all steps of a script come to, at two levels of the log. -/
theorem perform_alike (alike : session.Alike other) (steps : List Step) :
    List.Forall₂ (fun entry given => Agree entry.1 given.1) (session.perform steps)
      (other.perform steps) := by
  induction steps generalizing session other with
  | nil => exact .nil
  | cons step steps ih =>
      obtain ⟨agree, later⟩ := step_alike alike step
      exact .cons agree (ih later)

end GuardAlgebra.Session
