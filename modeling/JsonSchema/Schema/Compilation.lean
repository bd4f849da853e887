import JsonSchema.Json.Writer
import JsonSchema.Schema.Fragment
import JsonSchema.TypeName

/-!
# Compiling fragments

Compilation looks at the shape of a schema only. Its steps run in a fixed order, each of them
compiling one subschema or reporting a fault, and the first fault ends it: a document
that is no schema is refused as a whole.
-/

namespace JsonSchema

/-! ## Faults -/

/-- Why a document is no schema. -/
inductive SchemaFault where
  /-- A schema was expected where some other value stands. -/
  | notASchema (pointer : Pointer) (found : TypeName)
  /-- The value of a keyword has to be an object. -/
  | objectExpected (keyword : String) (pointer : Pointer)
  /-- The value of a keyword has to be an array of schemas. -/
  | schemasExpected (keyword : String) (pointer : Pointer)
  | regex (pattern : String) (pointer : Pointer) (fault : Regex.Fault)
  | unknownType (name : String) (pointer : Pointer)
  /-- What a property depends on is neither a list of names nor a schema. -/
  | dependency (property : String) (pointer : Pointer)
  | address (text : String) (fault : Uri.Fault)
deriving DecidableEq, Repr

namespace SchemaFault

def message : SchemaFault → String
  | .notASchema pointer found =>
    s!"expected a schema (object or boolean) at {pointer.text}, found {found.name}"
  | .objectExpected keyword pointer =>
    "invalid \x60" ++ keyword ++ "\x60 at " ++ pointer.text ++ ": expected an object"
  | .schemasExpected keyword pointer =>
    "invalid \x60" ++ keyword ++ "\x60 at " ++ pointer.text ++ ": expected an array of schemas"
  | .regex pattern pointer fault =>
    s!"invalid regular expression {Quoted.quote pattern} at {pointer.text}{fault.note}"
  | .unknownType name pointer => s!"unsupported schema type {Quoted.quote name} at {pointer.text}"
  | .dependency property pointer =>
    s!"malformed dependency {Quoted.quote property} at {pointer.text}: expected an array of strings or a schema"
  | .address text fault => s!"invalid schema URI {Quoted.quote text}: {fault.message}"

end SchemaFault

/-! ## Identifiers -/

/-- The resource that an identifier opens, if it opens one, and the plain name it declares. -/
def Site.identify (draft : Draft) (outer : Site) (members : Members) :
    Except SchemaFault (Site × List String) :=
  match members.lookup draft.idKeyword with
  | some (.str id) =>
    if members.has "$ref" && !draft.mergesSiblings then .ok (outer, [])
    else match outer.base.join id with
      | .error fault => .error (.address id fault)
      | .ok address =>
        let fragment := address.fragment.getD ""
        let names := if fragment.isEmpty || fragment.toList.head? = some '/' then [] else [fragment]
        let resource := address.withoutFragment
        if id.toList.head? = some '#' || resource = outer.base then .ok (outer, names)
        else .ok (⟨resource, .root, outer.pointer⟩, names)
  | _ => .ok (outer, [])

/-- The plain names that anchor keywords declare. -/
def declaredAnchors (draft : Draft) (members : Members) : List String :=
  let text (keyword : String) := ((members.lookup keyword).bind Json.string?).toList
  (if draft.hasAnchor then text "$anchor" else []) ++
    (if draft.hasDynamicRef then text "$dynamicAnchor" else [])

/-! ## Checks -/

/-- Refuses a `type` that names no type. -/
def checkTypes (pointer : Pointer) (members : Members) : Except SchemaFault Unit :=
  let values := match members.lookup "type" with
    | some (.arr values) => values
    | value => value.toList
  values.forM fun value =>
    match value with
    | .str name =>
      if (TypeName.ofName? name).isSome then .ok () else .error (.unknownType name pointer)
    | value => .error (.unknownType value.compact pointer)

/-- The expression of a pattern. -/
def readPattern (pointer : Pointer) (pattern : String) : Except SchemaFault Regex :=
  match Regex.compile pattern with
  | .ok regex => .ok regex
  | .error fault => .error (.regex pattern pointer fault)

/-! ## Steps -/

/-- One step of compiling a fragment. -/
inductive Step where
  | refuse (fault : SchemaFault)
  | child (slot : Slot) (schema : Json)

/-- A keyword whose value is one schema. -/
def stepOne (members : Members) (name : String) (slot : Slot) : List Step :=
  (members.lookup name).toList.map (.child slot)

/-- A keyword whose value is an object, with one step for each member. -/
def stepMembers (pointer : Pointer) (members : Members) (name : String) (step : String → Json → Step) :
    List Step :=
  match members.lookup name with
  | none => []
  | some (.obj entries) => entries.map fun (key, value) => step key value
  | some _ => [.refuse (.objectExpected name pointer)]

/-- A keyword whose value is an array of schemas. -/
def stepItems (pointer : Pointer) (members : Members) (keyword : Keyword) : List Step :=
  match members.lookup keyword.name with
  | none => []
  | some (.arr items) => items.zipIdx.map fun (item, index) => .child (.member keyword index) item
  | some _ => [.refuse (.schemasExpected keyword.name pointer)]

/-- A property with a pattern for its name. -/
def stepPattern (pointer : Pointer) (pattern : String) (schema : Json) : Step :=
  match readPattern pointer pattern with
  | .ok regex => .child (.patternProperty regex) schema
  | .error fault => .refuse fault

/-- A member of a dependency keyword. Lists of names need no step. -/
def stepDependency (pointer : Pointer) (keyword : Keyword) (property : String) (value : Json) : List Step :=
  let refused := [Step.refuse (.dependency property pointer)]
  match value with
  | .arr names =>
    if keyword ≠ .dependentSchemas && names.all (·.string?.isSome) then [] else refused
  | .obj _ | .bool _ =>
    if keyword ≠ .dependentRequired then [.child (.dependency keyword property) value] else refused
  | _ => refused

/-- A dependency keyword. -/
def stepDependencies (pointer : Pointer) (members : Members) (keyword : Keyword) : List Step :=
  match members.lookup keyword.name with
  | none => []
  | some (.obj entries) => entries.flatMap fun (property, value) => stepDependency pointer keyword property value
  | some _ => [.refuse (.objectExpected keyword.name pointer)]

/-- The schemas of items. Where `prefixItems` is known and present it takes the place of an array
under `items`, and `items` that of `additionalItems`. -/
def stepArray (draft : Draft) (members : Members) : List Step :=
  let tuple := if draft.hasPrefixItems && members.has "prefixItems" then "prefixItems" else "items"
  let rest := if tuple = "prefixItems" then "items" else "additionalItems"
  match members.lookup tuple with
  | none => []
  | some (.arr items) =>
    (items.zipIdx.map fun (item, index) => .child (.tupleItem tuple index) item) ++
      stepOne members rest (.restItems rest)
  | some schema => [.child (.restItems "items") schema]

/-- The steps of compiling a schema object that stands at a place of its document. -/
def steps (draft : Draft) (pointer : Pointer) (members : Members) : List Step :=
  let one (keyword : Keyword) (name : String) (slot : Slot) :=
    if draft.knows keyword then stepOne members name slot else []
  stepMembers pointer members "properties" (fun name schema => .child (.property name) schema) ++
    stepMembers pointer members "patternProperties" (stepPattern pointer) ++
    stepOne members "additionalProperties" .additionalProperties ++
    one .propertyNames "propertyNames" .propertyNames ++
    one .unevaluatedProperties "unevaluatedProperties" .unevaluatedProperties ++
    (Fragment.dependencyKeywords.filter draft.knows).flatMap (stepDependencies pointer members) ++
    stepArray draft members ++
    one .contains "contains" .contains ++
    one .unevaluatedItems "unevaluatedItems" .unevaluatedItems ++
    one .not "not" .not ++
    stepItems pointer members .allOf ++
    stepItems pointer members .anyOf ++
    stepItems pointer members .oneOf ++
    one .conditional "if" .condition ++
    one .conditional "then" .consequence ++
    one .conditional "else" .alternative ++
    stepMembers pointer members "definitions" (fun name schema => .child (.definition "definitions" name) schema) ++
    stepMembers pointer members "$defs" (fun name schema => .child (.definition "$defs" name) schema)

/-! ## Compilation -/

namespace Fragment

/-- Compiles a schema of at most the given depth. -/
def compileWithin (draft : Draft) (origin : Origin) : Nat → Site → Json → Except SchemaFault Fragment
  | _, outer, .bool b => .ok ⟨outer, origin, .bool b, [], none, []⟩
  | depth + 1, outer, .obj members => do
    let (site, names) ← outer.identify draft members
    checkTypes site.pointer members
    let pattern ← match members.lookup "pattern" with
      | some (.str pattern) => (readPattern site.pointer pattern).map some
      | _ => .ok none
    let children ← (steps draft site.pointer members).mapM fun step =>
      match step with
      | .refuse fault => .error fault
      | .child slot schema => do
        return (slot, ← compileWithin draft origin depth (site.below slot.segments) schema)
    return ⟨site, origin, .obj members, names ++ declaredAnchors draft members, pattern, children⟩
  | _, outer, other => .error (.notASchema outer.pointer (TypeName.of other))

/-- Compiles a schema for a site. -/
def compile (draft : Draft) (origin : Origin) (site : Site) (schema : Json) : Except SchemaFault Fragment :=
  compileWithin draft origin schema.depth site schema

/-- Compiles a schema that belongs to no document as it stands. -/
def derive (draft : Draft) (site : Site) (schema : Json) : Except SchemaFault Fragment :=
  compile draft (.derived schema) site schema

end Fragment
end JsonSchema
