import JsonSchema.Keyword
import JsonSchema.Pattern.Reader
import JsonSchema.Pointer
import JsonSchema.Uri.Reader

/-!
# Fragments

A compiled schema is a tree of fragments. Each fragment keeps the JSON it was compiled from and
where it stands; its subschemas are its children, each in the slot that says under which keyword
it was found and what it applies to.
-/

namespace JsonSchema

/-- Where a fragment stands. -/
structure Site where
  /-- The address of the resource the fragment belongs to. -/
  base : Uri
  /-- The place in that resource. -/
  within : Pointer
  /-- The place in the document. -/
  pointer : Pointer
deriving DecidableEq, Repr

namespace Site

/-- The root of a document. -/
def ofDocument (base : Uri) : Site := ⟨base, .root, .root⟩

/-- The site below some segments. -/
def below (site : Site) (segments : List String) : Site :=
  { site with within := site.within.joinAll segments, pointer := site.pointer.joinAll segments }

/-- The text that identifies a site: the address of the resource and the place in it. -/
def location (site : Site) : String := site.base.text ++ "#" ++ site.within.path

end Site

/-- What a child is to its fragment. -/
inductive Slot where
  | property (name : String)
  /-- Properties whose name the pattern matches. -/
  | patternProperty (regex : Regex)
  | additionalProperties
  | propertyNames
  | unevaluatedProperties
  /-- The whole object, where the property is present. -/
  | dependency (keyword : Keyword) (property : String)
  /-- The item at one position. -/
  | tupleItem (keyword : String) (index : Nat)
  /-- The items after those with a position of their own. -/
  | restItems (keyword : String)
  | contains
  | unevaluatedItems
  | not
  /-- A member of `allOf`, `anyOf` or `oneOf`. -/
  | member (keyword : Keyword) (index : Nat)
  | condition
  | consequence
  | alternative
  | definition (keyword name : String)

/-- The way from a fragment to the child in a slot. -/
def Slot.segments : Slot → List String
  | .property name => ["properties", name]
  | .patternProperty regex => ["patternProperties", regex.source]
  | .additionalProperties => ["additionalProperties"]
  | .propertyNames => ["propertyNames"]
  | .unevaluatedProperties => ["unevaluatedProperties"]
  | .dependency keyword name => [keyword.name, name]
  | .tupleItem keyword index => [keyword, toString index]
  | .restItems keyword => [keyword]
  | .contains => ["contains"]
  | .unevaluatedItems => ["unevaluatedItems"]
  | .not => ["not"]
  | .member keyword index => [keyword.name, toString index]
  | .condition => ["if"]
  | .consequence => ["then"]
  | .alternative => ["else"]
  | .definition keyword name => [keyword, name]

/-- The compilation a fragment comes from. Fragments of one compilation differ in their pointers. -/
inductive Origin where
  /-- The compilation of a document, by its position among the documents. -/
  | document (position : Nat)
  /-- A compilation on the way, of a schema that was merged, reduced or looked up. -/
  | derived (schema : Json)

/-- A compiled schema and its subschemas. -/
structure Fragment where
  site : Site
  origin : Origin
  schema : Json
  /-- The plain names that references may use for the fragment. -/
  anchors : List String
  /-- The expression of `pattern`. -/
  pattern : Option Regex
  children : List (Slot × Fragment)

/-- The keywords that can refer to another schema. -/
inductive ReferenceKeyword where
  | static
  /-- Follows `$recursiveAnchor` outwards. -/
  | recursive
  /-- Follows `$dynamicAnchor` outwards. -/
  | dynamic
deriving DecidableEq, Repr

def ReferenceKeyword.name : ReferenceKeyword → String
  | .static => "$ref"
  | .recursive => "$recursiveRef"
  | .dynamic => "$dynamicRef"

/-- Whether a draft defines a reference keyword. -/
def Draft.hasReference (draft : Draft) : ReferenceKeyword → Bool
  | .static => true
  | .recursive => draft.hasRecursiveRef
  | .dynamic => draft.hasDynamicRef

/-- The composition that a value may settle, in the order in which it is folded. -/
inductive Reducer where
  | allOf | anyOf | oneOf | dependencies | conditional
deriving DecidableEq, Repr

/-- What a present property asks for. -/
inductive Demand where
  /-- Other properties have to be present. -/
  | names (names : List String)
  /-- The whole object has to satisfy a schema. -/
  | schema (fragment : Fragment)

/-- A property with what its presence asks for, and the keyword that says so. -/
structure Dependency where
  property : String
  keyword : Keyword
  demand : Demand

namespace Fragment

def pointer (f : Fragment) : Pointer := f.site.pointer

def location (f : Fragment) : String := f.site.location

/-- The value of a keyword. -/
def keyword? (f : Fragment) (name : String) : Option Json := f.schema.member? name

/-- Whether the fragment is the boolean schema `b`. -/
def isBool (f : Fragment) (b : Bool) : Bool := f.schema.isBool b

/-- The reference that a fragment makes; the first keyword with a text counts. -/
def reference? (draft : Draft) (f : Fragment) : Option (ReferenceKeyword × String) :=
  [ReferenceKeyword.static, .recursive, .dynamic].findSome? fun keyword =>
    if draft.hasReference keyword then (f.schema.stringMember? keyword.name).map (keyword, ·) else none

/-- The types that `type` names. -/
def types? (f : Fragment) : Option (List TypeName) :=
  (f.keyword? "type").map fun value =>
    ((value.items?.getD [value]).filterMap Json.string?).filterMap TypeName.ofName?

/-- The validating keywords that stand in the fragment, in the order in which they are checked. -/
def keywords (draft : Draft) (f : Fragment) : List Keyword :=
  match f.schema with
  | .obj members => draft.keywords.filter fun keyword => keyword.isPresent draft members
  | _ => []

/-! ## Children by slot -/

/-- The children whose slot `pick` takes, with what it makes of the slot. -/
def select {α : Type} (f : Fragment) (pick : Slot → Option α) : List (α × Fragment) :=
  f.children.filterMap fun (slot, child) => (pick slot).map (·, child)

/-- The first child whose slot satisfies `p`. -/
def child? (f : Fragment) (p : Slot → Bool) : Option Fragment :=
  (f.children.find? fun entry => p entry.1).map Prod.snd

def properties (f : Fragment) : List (String × Fragment) :=
  f.select fun
    | .property name => some name
    | _ => none

def patternProperties (f : Fragment) : List (Regex × Fragment) :=
  f.select fun
    | .patternProperty regex => some regex
    | _ => none

def additionalProperties? (f : Fragment) : Option Fragment :=
  f.child? fun
    | .additionalProperties => true
    | _ => false

def propertyNames? (f : Fragment) : Option Fragment :=
  f.child? fun
    | .propertyNames => true
    | _ => false

def unevaluatedProperties? (f : Fragment) : Option Fragment :=
  f.child? fun
    | .unevaluatedProperties => true
    | _ => false

/-- The schemas of the first items, one for each position. -/
def tupleItems (f : Fragment) : List Fragment :=
  (f.select fun
    | .tupleItem _ index => some index
    | _ => none).map Prod.snd

def restItems? (f : Fragment) : Option Fragment :=
  f.child? fun
    | .restItems _ => true
    | _ => false

def contains? (f : Fragment) : Option Fragment :=
  f.child? fun
    | .contains => true
    | _ => false

def unevaluatedItems? (f : Fragment) : Option Fragment :=
  f.child? fun
    | .unevaluatedItems => true
    | _ => false

def not? (f : Fragment) : Option Fragment :=
  f.child? fun
    | .not => true
    | _ => false

/-- The members of `allOf`, `anyOf` or `oneOf`. -/
def members (f : Fragment) (keyword : Keyword) : List Fragment :=
  (f.select fun
    | .member own index => if own = keyword then some index else none
    | _ => none).map Prod.snd

def condition? (f : Fragment) : Option Fragment :=
  f.child? fun
    | .condition => true
    | _ => false

def consequence? (f : Fragment) : Option Fragment :=
  f.child? fun
    | .consequence => true
    | _ => false

def alternative? (f : Fragment) : Option Fragment :=
  f.child? fun
    | .alternative => true
    | _ => false

/-- The schema that a property name has of its own. -/
def property? (f : Fragment) (name : String) : Option Fragment := f.properties.lookup name

/-- Whether `properties` or a pattern covers a property name. -/
def declares (f : Fragment) (name : String) : Bool :=
  (f.property? name).isSome || f.patternProperties.any fun entry => entry.1.matchesIn name

/-- The keywords whose members are dependencies, in order. -/
def dependencyKeywords : List Keyword := [.dependencies, .dependentRequired, .dependentSchemas]

/-- The dependencies of one keyword. -/
def dependenciesOf (f : Fragment) (keyword : Keyword) : List Dependency :=
  ((f.keyword? keyword.name).bind Json.members?).getD [] |>.filterMap fun (property, value) =>
    match value with
    | .arr names => some ⟨property, keyword, .names (names.filterMap Json.string?)⟩
    | _ =>
      let child := f.child? fun
        | .dependency own name => own = keyword && name = property
        | _ => false
      child.map fun child => ⟨property, keyword, .schema child⟩

/-- The dependencies of all keywords that a draft defines. -/
def dependencies (draft : Draft) (f : Fragment) : List Dependency :=
  (dependencyKeywords.filter draft.knows).flatMap f.dependenciesOf

/-- Whether a composition occurs in the fragment. -/
def has (draft : Draft) (f : Fragment) : Reducer → Bool
  | .allOf => !(f.members .allOf).isEmpty
  | .anyOf => !(f.members .anyOf).isEmpty
  | .oneOf => !(f.members .oneOf).isEmpty
  | .dependencies => !(f.dependencies draft).isEmpty
  | .conditional => f.condition?.isSome || f.consequence?.isSome || f.alternative?.isSome

/-- The compositions of the fragment, in the order in which they are folded. -/
def reducers (draft : Draft) (f : Fragment) : List Reducer :=
  [Reducer.allOf, .anyOf, .oneOf, .dependencies, .conditional].filter (f.has draft)

/-! ## Walking the tree -/

mutual

/-- The fragments of a tree, each before its children and with the site it was compiled for. -/
def outermostFirst (outer : Site) : Fragment → List (Site × Fragment)
  | ⟨site, origin, schema, anchors, pattern, children⟩ =>
    (outer, ⟨site, origin, schema, anchors, pattern, children⟩) :: childrenOutermostFirst site children

def childrenOutermostFirst (site : Site) : List (Slot × Fragment) → List (Site × Fragment)
  | [] => []
  | (slot, child) :: rest =>
    child.outermostFirst (site.below slot.segments) ++ childrenOutermostFirst site rest

end

mutual

/-- The fragments of a tree, each after its children and with the site it was compiled for. -/
def innermostFirst (outer : Site) : Fragment → List (Site × Fragment)
  | ⟨site, origin, schema, anchors, pattern, children⟩ =>
    childrenInnermostFirst site children ++ [(outer, ⟨site, origin, schema, anchors, pattern, children⟩)]

def childrenInnermostFirst (site : Site) : List (Slot × Fragment) → List (Site × Fragment)
  | [] => []
  | (slot, child) :: rest =>
    child.innermostFirst (site.below slot.segments) ++ childrenInnermostFirst site rest

end

end Fragment
end JsonSchema
