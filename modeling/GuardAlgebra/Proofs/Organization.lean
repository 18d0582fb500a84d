import GuardAlgebra.Construction.Declaration
import GuardAlgebra.Proofs.Numerals
import GuardAlgebra.Proofs.Queries
import GuardAlgebra.Proofs.Sequence
import GuardAlgebra.Session.Execute

namespace GuardAlgebra

/-! # The organization of a request

The path names the organization, and where it does not the query does. Whatever is named is converted
to an integer or counts as none, save for a number without bounds, for which no context is made.
-/

namespace Value

/-- The integer that a value is converted to: numbers lose their fraction. -/
inductive Converts : Value → Int → Prop where
  | int (number : Int) : Converts (.int number) number
  | bool (truth : Bool) : Converts (.bool truth) truth.toNat
  | str {text : Text} {number : Int} (denotes : Text.Denotes text.plain number) :
      Converts (.str text) number
  | bytes {octets : List UInt8} {number : Int}
      (denotes : Text.Denotes (Text.plainText octets) number) : Converts (.bytes octets) number
  | float {site : Site} {number : Float} {negative : Bool} {magnitude : Decimal.Binary}
      (finite : Decimal.Real.ofFloat number = .finite negative magnitude) :
      Converts (.float site number)
        (if negative then -(magnitude.whole : Int) else magnitude.whole)

def IsInfinite (value : Value) : Prop :=
  ∃ site number negative, value = .float site number ∧
    Decimal.Real.ofFloat number = .infinite negative

variable {value : Value} {number : Int}

theorem integer?_of_converts (converts : value.Converts number) :
    value.integer? = .ok (some number) := by
  cases converts with
  | int | bool => rfl
  | str denotes | bytes denotes =>
      have reads := Text.integer?_eq_some_iff.mpr denotes
      simp [integer?, Text.integerOfBytes?, reads]
  | float finite => simp [integer?, finite, Decimal.Real.truncate]

theorem converts_of_integer? (converted : value.integer? = .ok (some number)) :
    value.Converts number := by
  cases value with
  | int | bool =>
      cases converted
      constructor
  | str text =>
      simp only [integer?, Except.ok.injEq] at converted
      exact .str (Text.integer?_eq_some_iff.mp converted)
  | bytes octets =>
      simp only [integer?, Except.ok.injEq] at converted
      exact .bytes (Text.integer?_eq_some_iff.mp converted)
  | float site float =>
      cases real : Decimal.Real.ofFloat float with
      | finite negative magnitude =>
          simp only [integer?, real, Decimal.Real.truncate, Except.ok.injEq,
            Option.some.injEq] at converted
          subst converted
          exact .float real
      | infinite negative => simp [integer?, real] at converted
      | undefined => simp [integer?, real, Decimal.Real.truncate] at converted
  | _ => simp [integer?] at converted

theorem integer?_of_infinite (infinite : value.IsInfinite) :
    value.integer? = .error .infiniteInteger := by
  obtain ⟨site, number, negative, rfl, real⟩ := infinite
  simp [integer?, real]

/-- Everything but an infinite number is converted or found not to be convertible. -/
theorem exists_integer? (finite : ¬ value.IsInfinite) : ∃ found, value.integer? = .ok found := by
  cases value with
  | float site number =>
      cases real : Decimal.Real.ofFloat number with
      | infinite negative => exact absurd ⟨site, number, negative, rfl, real⟩ finite
      | finite negative magnitude => simp [integer?, real]
      | undefined => simp [integer?, real]
  | _ => exact ⟨_, rfl⟩

end Value

namespace Request

/-- What the path has under the name of the organization. -/
def inPath? (request : Request) : Option Value :=
  Value.valueAt? request.parameters (.str organizationName)

/-- The path names no organization. -/
def Unnamed (request : Request) : Prop := request.inPath? = none ∨ request.inPath? = some .none

/-- The value that names the organization of a request. -/
inductive Names (request : Request) : Value → Prop where
  | path {value : Value} (found : request.inPath? = some value) (given : value ≠ .none) :
      Names request value
  | query {text : String} (unnamed : request.Unnamed)
      (gives : Query.Gives request.query organizationName text) : Names request (.str text)

/-- The context of a request in an organization. -/
def contextIn (request : Request) (site : Site) (organization : Value) : Value :=
  .context site (.request request) (request.user.getD .none) organization
    (.dict (site.child 0) request.parameters)

/-- The organization that a text names, if it is an integer. -/
def Reads (text : Text) (organization : Value) : Prop :=
  (∃ number, Text.Denotes text.plain number ∧ organization = .int number) ∨
    (∀ number, ¬ Text.Denotes text.plain number) ∧ organization = .none

variable {request : Request} {site : Site} {around : Surroundings} {value : Value} {text : Text}
  {number : Int}

theorem organization_of_inPath (found : request.inPath? = some value) (given : value ≠ .none) :
    request.organization = value := by
  unfold inPath? at found
  rw [organization, found]
  cases value with
  | none => exact absurd rfl given
  | _ => rfl

theorem organization_of_unnamed (unnamed : request.Unnamed) :
    request.organization =
      ((Query.find? request.query organizationName).map Value.str).getD .none := by
  unfold Unnamed inPath? at unnamed
  rw [organization]
  rcases unnamed with absent | absent
  all_goals
    rw [absent]
    cases Query.find? request.query organizationName <;> rfl

theorem organization_of_names (names : request.Names value) : request.organization = value := by
  cases names with
  | path found given => exact organization_of_inPath found given
  | query unnamed gives =>
      rw [organization_of_unnamed unnamed, Query.find?_eq_some_iff.mpr gives]
      rfl

theorem unnamed_or_inPath (request : Request) :
    request.Unnamed ∨ ∃ value, request.inPath? = some value ∧ value ≠ .none := by
  unfold Unnamed
  cases found : request.inPath? with
  | none => simp
  | some value => cases value <;> simp

theorem organization_of_nothing (nothing : ∀ value, ¬ request.Names value) :
    request.organization = .none := by
  rcases request.unnamed_or_inPath with unnamed | ⟨value, found, given⟩
  · have silent : Query.find? request.query organizationName = none := by
      rw [Query.find?_eq_none_iff]
      intro text gives
      exact nothing _ (.query unnamed gives)
    rw [organization_of_unnamed unnamed, silent]
    rfl
  · exact absurd (.path found given) (nothing value)

theorem requestContext_of_integer? {found : Option Int}
    (converts : request.organization.integer? = .ok found) :
    around.requestContext site (.request request) =
      .done (request.contextIn site ((found.map Value.int).getD .none)) := by
  rw [Surroundings.requestContext, context, converts]
  rfl

theorem requestContext_of_infinite (infinite : request.organization.IsInfinite) :
    around.requestContext site (.request request) = .fail site .infiniteInteger := by
  rw [Surroundings.requestContext, context, Value.integer?_of_infinite infinite]
  rfl

theorem requestContext_of_converts (names : request.Names value) (converts : value.Converts number) :
    around.requestContext site (.request request) = .done (request.contextIn site (.int number)) := by
  have found := Value.integer?_of_converts converts
  rw [← organization_of_names names] at found
  exact requestContext_of_integer? found

theorem requestContext_of_inconvertible (names : request.Names value)
    (inconvertible : ∀ number, ¬ value.Converts number) (finite : ¬ value.IsInfinite) :
    around.requestContext site (.request request) = .done (request.contextIn site .none) := by
  obtain ⟨found, converted⟩ := Value.exists_integer? finite
  cases found with
  | some number => exact absurd (Value.converts_of_integer? converted) (inconvertible number)
  | none =>
      rw [← organization_of_names names] at converted
      exact requestContext_of_integer? converted

theorem requestContext_of_nothing (nothing : ∀ value, ¬ request.Names value) :
    around.requestContext site (.request request) = .done (request.contextIn site .none) := by
  have converted : request.organization.integer? = .ok none := by
    rw [organization_of_nothing nothing]
    rfl
  exact requestContext_of_integer? converted

/-- A request has a context unless its path gives an infinite number for the organization, which fails.
The organization is the integer that the named value is converted to, or none. -/
theorem context_made_iff_not_infinite (around : Surroundings) (request : Request) (site : Site) :
    ((∃ organization, (organization = .none ∨ ∃ number, organization = .int number) ∧
        around.requestContext site (.request request) =
          .done (request.contextIn site organization)) ↔
      ∀ value, request.inPath? = some value → ¬ value.IsInfinite) ∧
    (∀ value, request.inPath? = some value → value.IsInfinite →
      around.requestContext site (.request request) = .fail site .infiniteInteger) ∧
    (∀ value, request.Names value →
      (∀ number, value.Converts number →
        around.requestContext site (.request request) =
          .done (request.contextIn site (.int number))) ∧
      ((∀ number, ¬ value.Converts number) → ¬ value.IsInfinite →
        around.requestContext site (.request request) = .done (request.contextIn site .none))) ∧
    ((∀ value, ¬ request.Names value) →
      around.requestContext site (.request request) = .done (request.contextIn site .none)) := by
  have fails {value : Value} (found : request.inPath? = some value) (infinite : value.IsInfinite) :
      around.requestContext site (.request request) = .fail site .infiniteInteger := by
    have given : value ≠ .none := by
      rintro rfl
      obtain ⟨_, _, _, none, -⟩ := infinite
      cases none
    apply requestContext_of_infinite
    rwa [organization_of_inPath found given]
  refine ⟨⟨?_, ?_⟩, fun value found infinite => fails found infinite, ?_, requestContext_of_nothing⟩
  · rintro ⟨organization, -, made⟩ value found infinite
    rw [fails found infinite] at made
    cases made
  · intro finite
    have organizationFinite : ¬ request.organization.IsInfinite := by
      rcases request.unnamed_or_inPath with unnamed | ⟨value, found, given⟩
      · rw [organization_of_unnamed unnamed]
        rintro ⟨_, _, _, number, -⟩
        cases queried : Query.find? request.query organizationName <;> simp [queried] at number
      · rw [organization_of_inPath found given]
        exact finite value found
    obtain ⟨found, converted⟩ := Value.exists_integer? organizationFinite
    refine ⟨_, ?_, requestContext_of_integer? converted⟩
    cases found with
    | none => exact .inl rfl
    | some number => exact .inr ⟨number, rfl⟩
  · intro value names
    exact ⟨fun number => requestContext_of_converts names,
      requestContext_of_inconvertible names⟩

/-- A number of the path loses its fraction. -/
theorem context_made_for_fraction :
    let around := Session.initial.scene.surroundings
    let number : Value := .float ⟨[1]⟩ (Float.ofBits 0x4017000000000000)
    let request : Request := ⟨⟨[0]⟩, "GET", "/", "", "http://test/", .ok "/",
      [(.str organizationName, number)], none⟩
    request.Names number ∧ number.Converts 5 ∧
      around.requestContext .root (.request request) =
        .done (request.contextIn .root (.int 5)) := by
  intro around number request
  have found : request.inPath? = some number := by
    simp [request, inPath?, Value.valueAt?, Value.agrees, Value.identical]
  have names : request.Names number := .path found nofun
  have real : Decimal.Real.ofFloat (Float.ofBits 0x4017000000000000) =
      .finite false ⟨23 * 2 ^ 48, -50, false⟩ := by decide +kernel
  have converts : number.Converts 5 := .float real
  obtain ⟨-, -, named, -⟩ := context_made_iff_not_infinite around request .root
  exact ⟨names, converts, (named number names).1 5 converts⟩

/-- The number that a path of very many digits stands for. -/
theorem context_fails_for_infinite_number :
    let number : Value := .float ⟨[1]⟩ (Float.ofBits 0x7FF0000000000000)
    let request : Request := ⟨⟨[0]⟩, "GET", "/", "", "http://test/", .ok "/",
      [(.str organizationName, number)], none⟩
    request.inPath? = some number ∧ (∀ integer, ¬ number.Converts integer) ∧
      Session.initial.scene.surroundings.requestContext .root (.request request) =
        .fail .root .infiniteInteger ∧ Fault.infiniteInteger.className = "OverflowError" := by
  intro number request
  have found : request.inPath? = some number := by
    simp [request, inPath?, Value.valueAt?, Value.agrees, Value.identical]
  have real : Decimal.Real.ofFloat (Float.ofBits 0x7FF0000000000000) = .infinite false := by
    decide +kernel
  have infinite : number.IsInfinite := ⟨_, _, _, rfl, real⟩
  refine ⟨found, ?_, ?_, rfl⟩
  · intro integer converts
    have converted := Value.integer?_of_converts converts
    rw [Value.integer?_of_infinite infinite] at converted
    cases converted
  · apply requestContext_of_infinite
    rwa [organization_of_inPath found nofun]

theorem requestContext_of_text (names : request.Names (.str text)) :
    ∃ organization, Reads text organization ∧
      around.requestContext site (.request request) =
        .done (request.contextIn site organization) := by
  by_cases denotes : ∃ number, Text.Denotes text.plain number
  · obtain ⟨number, denotes⟩ := denotes
    exact ⟨_, .inl ⟨number, denotes, rfl⟩, requestContext_of_converts names (.str denotes)⟩
  · have inconvertible : ∀ number, ¬ (Value.str text).Converts number := by
      rintro number (_ | _ | converts)
      exact denotes ⟨number, converts⟩
    refine ⟨.none, .inr ⟨not_exists.mp denotes, rfl⟩,
      requestContext_of_inconvertible names inconvertible ?_⟩
    rintro ⟨_, _, _, number, -⟩
    cases number

theorem requestContext_of_spelled (names : request.Names (.str (toString number)))
    (few : number.natAbs < Nat.pow 10 Text.digitBound) :
    around.requestContext site (.request request) = .done (request.contextIn site (.int number)) :=
  requestContext_of_converts names (.str (Text.denotes_toString few))

theorem exists_of_context {context : Value}
    (made : (around.requestContext site (.request request)).result = .ok context) :
    ∃ organization, context = request.contextIn site organization := by
  rw [Surroundings.requestContext, Run.result_ofAttempt, Request.context] at made
  obtain ⟨found, -, made⟩ := Attempt.bind_eq_ok.mp made
  cases made
  exact ⟨_, rfl⟩

/-- The path decides on the organization where it names one, whatever the query says, and else the last
value that the query gives does. A text stands for the integer it denotes. The rest of the context is
the user and the parameters of the path. -/
theorem path_decides_before_query (around : Surroundings) (request : Request) (site : Site) :
    (∀ text, request.inPath? = some (.str text) → ∃ organization, Reads text organization ∧
      around.requestContext site (.request request) =
        .done (request.contextIn site organization)) ∧
    (request.Unnamed →
      (∀ text, Query.Gives request.query organizationName text →
        ∃ organization, Reads text organization ∧
          around.requestContext site (.request request) =
            .done (request.contextIn site organization)) ∧
      ((∀ text, ¬ Query.Gives request.query organizationName text) →
        around.requestContext site (.request request) = .done (request.contextIn site .none))) ∧
    (∀ number : Int, number.natAbs < Nat.pow 10 Text.digitBound →
      (request.inPath? = some (.str (toString number)) →
        around.requestContext site (.request request) =
          .done (request.contextIn site (.int number))) ∧
      (request.Unnamed → ∀ before after name value,
        Query.Cut request.query (before ++ (name ++ '=' :: value) :: after) → '=' ∉ name →
        Query.Spells name organizationName.toList →
        Query.Spells value (toString number).toList →
        (∀ later ∈ after, ∀ other, ¬ Query.Assigns later organizationName other) →
        around.requestContext site (.request request) =
          .done (request.contextIn site (.int number)))) ∧
    ∀ context, (around.requestContext site (.request request)).result = .ok context →
      ∃ organization, context = request.contextIn site organization := by
  refine ⟨?_, ?_, ?_, fun context => exists_of_context⟩
  · intro text found
    exact requestContext_of_text (.path found nofun)
  · intro unnamed
    refine ⟨fun text gives => requestContext_of_text (.query unnamed gives), fun silent => ?_⟩
    apply requestContext_of_nothing
    intro value names
    cases names with
    | path found given =>
        rcases unnamed with absent | absent
        · rw [absent] at found
          cases found
        · rw [absent] at found
          cases found
          exact given rfl
    | query _ gives => exact silent _ gives
  · intro number few
    refine ⟨fun found => requestContext_of_spelled (.path found nofun) few, ?_⟩
    intro unnamed before after name value cut plain isName isValue final
    have assigns : Query.Assigns (name ++ '=' :: value) organizationName (toString number) := by
      have assigns : Query.Assigns (name ++ '=' :: value) _ (Query.decodePart value) := .valued plain
      rwa [Query.decodePart_of_spells isName, Query.decodePart_of_spells isValue,
        String.ofList_toList, String.ofList_toList] at assigns
    exact requestContext_of_spelled (.query unnamed (.last cut assigns final)) few

/-- A path without a value for the organization, and a query with two, of which the second has a name
and a number that are spelled with escapes. -/
theorem path_leaves_it_to_query :
    let request : Request := ⟨⟨[0]⟩, "GET", "/", "organization_id=5&x&organization%5Fid=%2d1_0",
      "http://test/?organization_id=5&x&organization%5Fid=%2d1_0", .ok "/",
      [(.str organizationName, .none)], none⟩
    request.Unnamed ∧ Query.Gives request.query organizationName "-1_0" ∧
      Session.initial.scene.surroundings.requestContext .root (.request request) =
        .done (request.contextIn .root (.int (-10))) := by
  intro request
  have unnamed : request.Unnamed := by
    simp [request, Unnamed, inPath?, Value.valueAt?, Value.agrees, Value.identical]
  have gives : Query.Gives request.query organizationName "-1_0" :=
    Query.find?_eq_some_iff.mp (by decide +kernel)
  obtain ⟨-, fromQuery, -⟩ :=
    path_decides_before_query Session.initial.scene.surroundings request .root
  obtain ⟨organization, reads, made⟩ := (fromQuery unnamed).1 "-1_0" gives
  have denotes : Text.Denotes (Text.whole "-1_0").plain (-10) :=
    Text.integer?_eq_some_iff.mp (by decide +kernel)
  rcases reads with ⟨number, again, rfl⟩ | ⟨silent, -⟩
  · have same := Text.integer?_eq_some_iff.mpr again
    rw [Text.integer?_eq_some_iff.mpr denotes] at same
    cases same
    exact ⟨unnamed, gives, made⟩
  · exact absurd denotes (silent _)

end Request

end GuardAlgebra
