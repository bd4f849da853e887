import JsonSchema.Check.Assertion
import JsonSchema.Proofs.Json.Place
import JsonSchema.Proofs.Number.Magnitude

/-!
# The direct reading of schemas

A schema without references is read straight from its JSON, keyword by keyword. Each keyword is one
clause on the members of the schema object and the data; it holds where the keyword is absent and
where the data have another type than it constrains. The clauses that apply subschemas are given
the verdict on them. Type names and limits are read here by what they mean: a number is an integer,
or a limit, by its exact value. So are the rules in which the drafts differ: the oldest one knows flags
beside bounds, the last two bound what `contains` counts, and the latest one has `prefixItems`.
-/

namespace JsonSchema

/-- The keywords that schemas are read with, and the rules for formats. -/
structure Dialect where
  draft : Draft
  formats : Formats

namespace Members

/-- The members of the object under a name. -/
def entries (members : Members) (name : String) : Members := ((members.lookup name).bind Json.members?).getD []

/-- The items of the array under a name. -/
def elements (members : Members) (name : String) : List Json := ((members.lookup name).bind Json.items?).getD []

/-- The strings of an array. -/
def texts (items : List Json) : List String := items.filterMap Json.string?

end Members

namespace Json

/-- A property of the items, if the value is an array. -/
def ofItems (data : Json) (p : List Json → Bool) : Bool := data.items?.all p

/-- A property of the members, if the value is an object. -/
def ofMembers (data : Json) (p : Members → Bool) : Bool := data.members?.all p

end Json

namespace Dialect

/-! ## Keywords without subschemas -/

section
variable (members : Members) (data : Json)

/-- The value is of the type with a name; the integers are the numbers without a fraction. -/
def isOfType (name : String) : Json → Bool
  | .null => name == "null"
  | .bool _ => name == "boolean"
  | .num n => name == "number" || (name == "integer" && n.toRat.den == 1)
  | .str _ => name == "string"
  | .arr _ => name == "array"
  | .obj _ => name == "object"

def typeHolds : Bool :=
  (members.lookup "type").all fun type => (Members.texts (type.items?.getD [type])).any (isOfType · data)

def enumHolds : Bool := ((members.lookup "enum").bind Json.items?).all fun values => values.any (·.equal data)

def constHolds : Bool := (members.lookup "const").all (·.equal data)

def formatHolds (formats : Formats) : Bool :=
  (((members.lookup "format").bind Json.string?).bind formats.rule?).all fun rule => rule (.obj members) data

/-- A number in the data keeps to the number under a name. -/
def numberHolds (name : String) (keeps : Number → Number → Bool) : Bool :=
  data.number?.all fun value => ((members.lookup name).bind Json.number?).all fun bound => keeps value bound

/-- A bound keeps numbers on one side; the bound itself is excluded in some drafts by a flag. -/
def boundHolds (draft : Draft) (name flag : String) (side : Ordering) : Bool :=
  numberHolds members data name fun value bound =>
    value.compare bound = side ||
      (value.compare bound = .eq && !(draft == .draft4 && (members.lookup flag).any (·.isBool true)))

/-- The limit under a name: a whole number that is not negative. An integer is kept as it is, and a double counts for no
more than the largest 64-bit word. -/
def limitUnder (name : String) : Option Nat :=
  ((members.lookup name).bind Json.number?).bind fun n =>
    if n.toRat.den = 1 ∧ 0 ≤ n.toRat.num then
      some (match n with
        | .int _ => n.toRat.num.toNat
        | .real _ => min n.toRat.num.toNat (2 ^ 64 - 1))
    else none

/-- What is counted in the data keeps to the limit under a name. -/
def countHolds (name : String) (count : Option Nat) (keeps : Nat → Nat → Bool) : Bool :=
  count.all fun count => (limitUnder members name).all fun limit => keeps count limit

/-- The text has a match of the pattern. -/
def isMatch (pattern text : String) : Bool := (Regex.compile pattern).toOption.any (·.matchesIn text)

def patternHolds : Bool :=
  data.string?.all fun text => ((members.lookup "pattern").bind Json.string?).all fun pattern => isMatch pattern text

/-- Items are told apart by their canonical texts. -/
def uniqueHolds : Bool :=
  data.ofItems fun items => !(members.lookup "uniqueItems").any (·.isBool true) || (items.map Json.canonical).Nodup

def requiredHolds : Bool := data.ofMembers fun own => (Members.texts (members.elements "required")).all own.has

end

/-! ## Keywords with subschemas -/

section
variable (satisfies : Json → Json → Bool) (members : Members) (data : Json)

/-- The schemas of the first items, and the one for the rest. -/
def itemSchemas (draft : Draft) : List Json × Option Json :=
  if draft = .draft2020 then (members.elements "prefixItems", members.lookup "items")
  else
    match members.lookup "items" with
    | some (.arr tuple) => (tuple, members.lookup "additionalItems")
    | schema => ([], schema)

/-- Every item satisfies the schema of its position, or else the one for the rest. -/
def itemsHold (draft : Draft) : Bool :=
  data.ofItems fun items => items.zipIdx.all fun (item, index) =>
    match (itemSchemas members draft).1[index]? with
    | some schema => satisfies schema item
    | none => (itemSchemas members draft).2.all (satisfies · item)

/-- Some items satisfy the schema, in number within the bounds. -/
def containsHolds (draft : Draft) : Bool :=
  let bound (name : String) := if draft ∈ [.draft2019, .draft2020] then limitUnder members name else none
  data.ofItems fun items => (members.lookup "contains").all fun schema =>
    let count := items.countP (satisfies schema)
    (bound "minContains").getD 1 ≤ count && (bound "maxContains").all (count ≤ ·)

def propertiesHold : Bool :=
  data.ofMembers fun own => (members.entries "properties").all fun (name, schema) =>
    (own.lookup name).all (satisfies schema)

def patternPropertiesHold : Bool :=
  data.ofMembers fun own => own.all fun (name, value) => (members.entries "patternProperties").all fun (pattern, schema) =>
    !isMatch pattern name || satisfies schema value

/-- A property has a schema of its own, or some pattern matches it. -/
def isDeclared (name : String) : Bool :=
  (members.entries "properties").has name ||
    (members.entries "patternProperties").any fun (pattern, _) => isMatch pattern name

def additionalPropertiesHold : Bool :=
  data.ofMembers fun own => (members.lookup "additionalProperties").all fun schema =>
    own.all fun (name, value) => isDeclared members name || satisfies schema value

def propertyNamesHold : Bool :=
  data.ofMembers fun own => (members.lookup "propertyNames").all fun schema =>
    own.all fun (name, _) => satisfies schema (.str name)

/-- Every present property has what it asks for: other properties, or a schema for the whole object. -/
def dependenciesHold (name : String) : Bool :=
  data.ofMembers fun own => (members.entries name).all fun (property, demand) =>
    !own.has property ||
      match demand with
      | .arr names => (Members.texts names).all own.has
      | schema => satisfies schema data

/-- The schemas of a list pass a test, if there is a list. -/
def listHolds (name : String) (test : List Json → Bool) : Bool :=
  !members.has name || test (members.elements name)

/-- The condition decides which of two schemas counts. -/
def conditionalHolds : Bool :=
  (members.lookup "if").all fun condition =>
    if satisfies condition data then (members.lookup "then").all (satisfies · data)
    else (members.lookup "else").all (satisfies · data)

end

/-! ## Schemas -/

/-- The clause of a keyword, where the verdict on subschemas is given. -/
def holds (dialect : Dialect) (satisfies : Json → Json → Bool) (members : Members) (data : Json) : Keyword → Bool
  | .type => typeHolds members data
  | .enum => enumHolds members data
  | .const => constHolds members data
  | .format => formatHolds members data dialect.formats
  | .maximum => boundHolds members data dialect.draft "maximum" "exclusiveMaximum" .lt
  | .minimum => boundHolds members data dialect.draft "minimum" "exclusiveMinimum" .gt
  | .exclusiveMaximum => numberHolds members data "exclusiveMaximum" fun value bound => value.compare bound = .lt
  | .exclusiveMinimum => numberHolds members data "exclusiveMinimum" fun value bound => value.compare bound = .gt
  | .multipleOf => numberHolds members data "multipleOf" Number.isMultipleOf
  | .maxLength => countHolds members "maxLength" (data.string?.map String.length) (· ≤ ·)
  | .minLength => countHolds members "minLength" (data.string?.map String.length) (· ≥ ·)
  | .pattern => patternHolds members data
  | .items => itemsHold satisfies members data dialect.draft
  | .contains => containsHolds satisfies members data dialect.draft
  | .minItems => countHolds members "minItems" (data.items?.map List.length) (· ≥ ·)
  | .maxItems => countHolds members "maxItems" (data.items?.map List.length) (· ≤ ·)
  | .uniqueItems => uniqueHolds members data
  | .properties => propertiesHold satisfies members data
  | .patternProperties => patternPropertiesHold satisfies members data
  | .additionalProperties => additionalPropertiesHold satisfies members data
  | .propertyNames => propertyNamesHold satisfies members data
  | .required => requiredHolds members data
  | .minProperties => countHolds members "minProperties" (data.members?.map List.length) (· ≥ ·)
  | .maxProperties => countHolds members "maxProperties" (data.members?.map List.length) (· ≤ ·)
  | .dependencies => dependenciesHold satisfies members data "dependencies"
  | .dependentRequired => dependenciesHold satisfies members data "dependentRequired"
  | .dependentSchemas => dependenciesHold satisfies members data "dependentSchemas"
  | .not => (members.lookup "not").all fun schema => !satisfies schema data
  | .allOf => listHolds members "allOf" fun schemas => schemas.all (satisfies · data)
  | .anyOf => listHolds members "anyOf" fun schemas => schemas.any (satisfies · data)
  | .oneOf => listHolds members "oneOf" fun schemas => schemas.countP (satisfies · data) = 1
  | .conditional => conditionalHolds satisfies members data
  | .unevaluatedItems => true
  | .unevaluatedProperties => true

/-- The verdict of a schema of at most the given depth: all keywords that the draft defines hold. -/
def satisfiesWithin (dialect : Dialect) : Nat → Json → Json → Bool
  | _, .bool b, _ => b
  | depth + 1, .obj members, data => dialect.draft.keywords.all (dialect.holds (satisfiesWithin dialect depth) members data)
  | _, _, _ => false

/-- The verdict of a schema on data. -/
def satisfies (dialect : Dialect) (schema data : Json) : Bool := dialect.satisfiesWithin schema.depth schema data

/-! ## The depth does not matter -/

private theorem all_congr_mem {α : Type} {xs : List α} {p q : α → Bool} (same : ∀ x ∈ xs, p x = q x) :
    xs.all p = xs.all q := by
  rw [Bool.eq_iff_iff, List.all_eq_true, List.all_eq_true]
  exact forall₂_congr fun x inside => by rw [same x inside]

private theorem option_all_congr {α : Type} {x : Option α} {p q : α → Bool} (same : ∀ a, x = some a → p a = q a) :
    x.all p = x.all q := by
  cases x with
  | none => rfl
  | some a => exact same a rfl

/-- Two verdicts agree on the schemas that stand in a schema object. -/
structure AgreesOn (members : Members) (left right : Json → Json → Bool) : Prop where
  one : ∀ name schema, members.lookup name = some schema → left schema = right schema
  list : ∀ name, ∀ schema ∈ members.elements name, left schema = right schema
  map : ∀ name, ∀ entry ∈ members.entries name, left entry.2 = right entry.2

variable {dialect : Dialect} {members : Members} {left right : Json → Json → Bool}

/-- The schemas of items stand in the schema object. -/
theorem mem_itemSchemas {draft : Draft} {schema : Json} :
    (schema ∈ (itemSchemas members draft).1 → ∃ name, schema ∈ members.elements name) ∧
      ((itemSchemas members draft).2 = some schema → ∃ name, members.lookup name = some schema) := by
  unfold itemSchemas
  split
  · exact ⟨fun inside => ⟨_, inside⟩, fun found => ⟨_, found⟩⟩
  · split
    · rename_i tuple found
      exact ⟨fun inside => ⟨"items", by simpa [Members.elements, found, Json.items?] using inside⟩, fun found => ⟨_, found⟩⟩
    · exact ⟨nofun, fun found => ⟨_, found⟩⟩

/-- The clauses look at no other schemas. -/
theorem AgreesOn.holds_eq (agrees : AgreesOn members left right) (data : Json) (keyword : Keyword) :
    dialect.holds left members data keyword = dialect.holds right members data keyword := by
  have dependencies (name : String) : dependenciesHold left members data name = dependenciesHold right members data name := by
    refine option_all_congr fun own _ => all_congr_mem fun ⟨property, demand⟩ inside => ?_
    have same : left demand = right demand := agrees.map _ _ inside
    cases demand with
    | arr names => rfl
    | _ => simp only [same]
  cases keyword with
  | items =>
    refine option_all_congr fun items _ => all_congr_mem fun ⟨item, index⟩ _ => ?_
    simp only
    split
    · rename_i schema found
      obtain ⟨name, inside⟩ := mem_itemSchemas.1 (List.mem_of_getElem? found)
      rw [agrees.list name schema inside]
    · refine option_all_congr fun schema found => ?_
      obtain ⟨name, found⟩ := mem_itemSchemas.2 found
      rw [agrees.one name schema found]
  | contains =>
    refine option_all_congr fun items _ => option_all_congr fun schema found => ?_
    simp only [agrees.one _ _ found]
  | properties =>
    refine option_all_congr fun own _ => all_congr_mem fun entry inside => ?_
    simp only [agrees.map _ entry inside]
  | patternProperties =>
    refine option_all_congr fun own _ => all_congr_mem fun member _ => all_congr_mem fun entry inside => ?_
    simp only [agrees.map _ entry inside]
  | additionalProperties =>
    refine option_all_congr fun own _ => option_all_congr fun schema found => ?_
    simp only [agrees.one _ _ found]
  | propertyNames =>
    refine option_all_congr fun own _ => option_all_congr fun schema found => ?_
    simp only [agrees.one _ _ found]
  | dependencies => exact dependencies _
  | dependentRequired => exact dependencies _
  | dependentSchemas => exact dependencies _
  | «not» =>
    refine option_all_congr fun schema found => ?_
    simp only [agrees.one _ _ found]
  | allOf =>
    exact congrArg (!members.has "allOf" || ·) (all_congr_mem fun schema inside => by rw [agrees.list _ schema inside])
  | anyOf =>
    refine congrArg (!members.has "anyOf" || ·) ?_
    rw [Bool.eq_iff_iff, List.any_eq_true, List.any_eq_true]
    exact exists_congr fun schema => and_congr_right fun inside => by rw [agrees.list _ schema inside]
  | oneOf =>
    refine congrArg (fun count => !members.has "oneOf" || decide (count = 1)) ?_
    exact List.countP_congr fun schema inside => by rw [agrees.list _ schema inside]
  | conditional =>
    refine option_all_congr fun condition found => ?_
    have branch (name : String) : (members.lookup name).all (left · data) = (members.lookup name).all (right · data) :=
      option_all_congr fun schema found => by rw [agrees.one _ _ found]
    rw [agrees.one _ _ found, branch, branch]
  | _ => rfl

theorem agreesOn_of_depth (same : ∀ schema, schema.depth < (Json.obj members).depth → left schema = right schema) :
    AgreesOn members left right where
  one name schema found := same schema (Json.depth_lt_of_member? (show (Json.obj members).member? name = some _ from found))
  list name schema inside := by
    unfold Members.elements at inside
    cases found : members.lookup name with
    | none => simp [found] at inside
    | some value =>
      have upper := Json.depth_lt_of_member? (show (Json.obj members).member? name = some _ from found)
      cases value with
      | arr items =>
        have inside : schema ∈ items := by simpa [found, Json.items?] using inside
        exact same schema ((Json.depth_lt_of_mem_items inside).trans upper)
      | _ => simp [found, Json.items?] at inside
  map name entry inside := by
    unfold Members.entries at inside
    cases found : members.lookup name with
    | none => simp [found] at inside
    | some value =>
      have upper := Json.depth_lt_of_member? (show (Json.obj members).member? name = some _ from found)
      cases value with
      | obj own =>
        have inside : entry ∈ own := by simpa [found, Json.members?] using inside
        exact same entry.2 ((Json.depth_lt_of_mem_members inside).trans upper)
      | _ => simp [found, Json.members?] at inside

/-- Depths that are enough give one verdict. -/
theorem satisfiesWithin_eq {depth depth' : Nat} {schema : Json} (enough : schema.depth ≤ depth)
    (enough' : schema.depth ≤ depth') : dialect.satisfiesWithin depth schema = dialect.satisfiesWithin depth' schema := by
  induction depth generalizing depth' schema with
  | zero =>
    funext data
    cases schema with
    | obj members => simp [Json.depth] at enough
    | _ => simp [satisfiesWithin]
  | succ depth ih =>
    funext data
    cases schema with
    | obj members =>
      obtain ⟨less, rfl⟩ : ∃ less, depth' = less + 1 := ⟨depth' - 1, by simp [Json.depth] at enough'; omega⟩
      have agrees : AgreesOn members (dialect.satisfiesWithin depth) (dialect.satisfiesWithin less) :=
        agreesOn_of_depth fun schema lower => ih (by omega) (by omega)
      simp only [satisfiesWithin]
      exact all_congr_mem fun keyword _ => agrees.holds_eq data keyword
    | _ => simp [satisfiesWithin]

/-- A schema object is satisfied if the clauses of all keywords of the draft hold. -/
theorem satisfies_obj (members : Members) (data : Json) : dialect.satisfies (.obj members) data =
    dialect.draft.keywords.all (dialect.holds dialect.satisfies members data) := by
  have agrees : AgreesOn members (dialect.satisfiesWithin (Json.membersDepth members)) dialect.satisfies :=
    agreesOn_of_depth fun schema lower => satisfiesWithin_eq (Nat.le_of_lt_succ lower) le_rfl
  rw [satisfies, Json.depth, satisfiesWithin]
  exact all_congr_mem fun keyword _ => agrees.holds_eq data keyword

theorem satisfies_bool (b : Bool) (data : Json) : dialect.satisfies (.bool b) data = b := by
  simp [satisfies, satisfiesWithin]

end Dialect
end JsonSchema
