import JsonSchema.Check.Visit

/-!
# Selecting a member of `oneOf`

A value selects the one member it satisfies. Where the fragment names a discriminating property,
the value of that property selects: it is checked against the schema that each member has for the
property, and the member selected may still reject the whole value.
-/

namespace JsonSchema

/-- The member that a value selects, with the violations it reports. -/
structure Choice where
  index : Nat
  violations : List Violation

/-- The property whose value discriminates the members of `oneOf`. -/
def Fragment.discriminator? (f : Fragment) : Option String :=
  (((f.keyword? "discriminator").bind (·.member? "propertyName")) <|> f.keyword? "oneOfProperty").bind Json.string?

namespace Visit

/-- The violation by a value that several members of `oneOf` take. -/
def severalMatches (visit : Visit) (positions : List Nat) : Violation :=
  visit.violation .multipleOneOf [("matches", .arr (positions.map Json.ofNat))]

/-- Whether the value of the discriminating property satisfies what a member says of it. -/
def discriminates (visit : Visit) (name : String) (value : Json) (member : Fragment) : Option Bool :=
  match (visit.context.settle member visit.scope).property? name with
  | some schema => (visit.validate schema value (visit.pointer.join name)).map List.isEmpty
  | none => some false

/-- The positions of the members that satisfy `p`. -/
def positionsWhere (members : List Fragment) (p : Fragment → Option Bool) : Option (List Nat) := do
  let verdicts ← members.mapM p
  return (verdicts.zipIdx.filter Prod.fst).map Prod.snd

/-- The member selected by the discriminating property. -/
def selectByProperty (visit : Visit) (name : String) : Option (Except Violation Choice) :=
  match visit.data.member? name with
  | none => some (.error (visit.violation .missingOneOfDiscriminator [("property", .str name)]))
  | some value => do
    let members := visit.fragment.members .oneOf
    match ← positionsWhere members (visit.discriminates name value) with
    | [] => return .error (visit.violation .oneOfDiscriminator [("property", .str name), ("value", value)])
    | [index] =>
      match members[index]? with
      | some member => return .ok ⟨index, ← visit.validateHere member⟩
      | none => return .ok ⟨index, []⟩
    | positions => return .error (visit.severalMatches positions)

/-- The only member that the value satisfies. -/
def selectByValue (visit : Visit) : Option (Except Violation Choice) := do
  let failures ← (visit.fragment.members .oneOf).mapM visit.validateHere
  match (failures.zipIdx.filter fun entry => entry.1.isEmpty).map Prod.snd with
  | [] => return .error (visit.violationOf .oneOf failures.flatten)
  | [index] => return .ok ⟨index, []⟩
  | positions => return .error (visit.severalMatches positions)

/-- The member of `oneOf` that the value selects. -/
def selectOneOf (visit : Visit) : Option (Except Violation Choice) :=
  match visit.fragment.discriminator? with
  | some name => visit.selectByProperty name
  | none => visit.selectByValue

end Visit
end JsonSchema
