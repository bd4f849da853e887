import JsonSchema.Proofs.Compilation.Resource
import JsonSchema.Reference

/-!
# What rebasing makes of a reference

Rebasing walks through a schema as plain JSON. Below a subschema whose name is that of a keyword
with data it changes nothing. Everywhere else it makes a reference absolute against the base that
the identifiers on the way lead to, starting with the identifier of the rebased schema itself.
-/

namespace JsonSchema

/-- The base that rebasing has inside schemas, each inside the one before. -/
def rebasedAlong (base : Uri) (schemas : List Json) : Uri :=
  schemas.foldl (fun base schema => schema.members?.elim base (ownBase base)) base

/-- Some fragment on the way stands under the name of a keyword with data. -/
def Hidden (entries : List (Slot × Fragment)) : Prop :=
  ∃ entry ∈ entries, ∃ name ∈ Slot.entry? entry.1, name ∈ dataKeywords

/-! ## Members and items -/

section
variable {base own : Uri}

/-- What rebasing makes of a member. -/
def rebasedMember (base own : Uri) (name : String) (value : Json) : Json :=
  if name = "$id" ∨ name = "id" then
    match value with
    | .str id => .str (absolute base id)
    | value => rebase own value
  else if name = "$ref" ∨ name = "$recursiveRef" ∨ name = "$dynamicRef" then
    match value with
    | .str reference => .str (absolute own reference)
    | value => rebase own value
  else if dataKeywords.contains name then value
  else rebase own value

theorem rebaseMembers_eq (members : Members) :
    rebaseMembers base own members = members.map fun (name, value) => (name, rebasedMember base own name value) := by
  induction members with
  | nil => rfl
  | cons head rest ih =>
    obtain ⟨name, value⟩ := head
    rw [List.map_cons, ← ih]
    cases value <;> rfl

theorem rebaseItems_eq (items : List Json) : rebaseItems base items = items.map (rebase base) := by
  induction items with
  | nil => rfl
  | cons head rest ih => rw [rebaseItems, List.map_cons, ih]

/-- Rebasing makes no text of what is none, and leaves texts as they are. -/
theorem string?_rebase (value : Json) : (rebase base value).string? = value.string? := by
  cases value <;> rfl

theorem lookup_rebaseMembers (members : Members) (name : String) :
    (rebaseMembers base own members).lookup name = (members.lookup name).map (rebasedMember base own name) := by
  rw [rebaseMembers_eq]
  induction members with
  | nil => rfl
  | cons head rest ih =>
    obtain ⟨key, value⟩ := head
    simp only [List.map_cons, List.lookup_cons]
    cases same : name == key with
    | true =>
      rw [beq_iff_eq] at same
      simp [same]
    | false => exact ih

/-- What is no text is rebased unless it is data. -/
theorem rebasedMember_of_not_str {value : Json} (noText : ∀ text, value ≠ .str text) (name : String) :
    rebasedMember base own name value = if name ∈ dataKeywords then value else rebase own value := by
  have identifier : name = "$id" ∨ name = "id" → name ∉ dataKeywords := by
    rintro (rfl | rfl) <;> decide
  have reference : name = "$ref" ∨ name = "$recursiveRef" ∨ name = "$dynamicRef" → name ∉ dataKeywords := by
    rintro (rfl | rfl | rfl) <;> decide
  unfold rebasedMember
  split
  · rename_i named
    rw [if_neg (identifier named)]
    split
    · rename_i text
      exact absurd rfl (noText text)
    · rfl
  · split
    · rename_i named
      rw [if_neg (reference named)]
      split
      · rename_i text
        exact absurd rfl (noText text)
      · rfl
    · simp only [List.contains_iff_mem]

/-! ## Subschemas -/

/-- The members of a map of compiled subschemas are no identifiers. -/
theorem ownBase_of_entries {entries : Members} (noText : ∀ key text, (key, .str text) ∉ entries) :
    ownBase base entries = base := by
  unfold ownBase
  split
  · rename_i id found
    have absent (name : String) : entries.lookup name ≠ some (.str id) := fun found =>
      noText name id (mem_of_lookup found)
    cases own : entries.lookup "$id" with
    | none =>
      rw [own] at found
      exact absurd found (absent "id")
    | some value =>
      rw [own] at found
      exact absurd (own.trans found) (absent "$id")
  · rfl

end

namespace Fragment

variable {draft : Draft} {source : Origin} {outer : Site} {members : Members} {f g d : Fragment} {slot : Slot}

/-- Rebasing goes on below a slot against the schema's own base, unless the name in the slot is
that of a keyword with data. -/
theorem Compiled.rebase_child (compiled : Compiled draft source outer (.obj members) f)
    (child : (slot, g) ∈ f.children) (base : Uri) : ∃ segments,
      Json.At (.obj members) segments g.schema ∧
      Json.At (rebase base (.obj members)) segments
        (if ∃ name ∈ slot.entry?, name ∈ dataKeywords then g.schema else rebase (ownBase base members) g.schema) := by
  obtain ⟨_, sub, same, step, compiled'⟩ := compiled.child child
  cases same
  obtain ⟨segments, fills⟩ := fills_of_steps step
  rw [compiled'.schema_eq]
  refine ⟨segments, fills.place, ?_⟩
  have noData : ∀ name ∈ applicators, name ∉ dataKeywords := by decide
  have member {name : String} {value : Json} (applies : name ∈ applicators)
      (found : members.lookup name = some value) (noText : ∀ text, value ≠ .str text) :
      (name, rebase (ownBase base members) value) ∈ rebaseMembers base (ownBase base members) members := by
    have rebased : (rebaseMembers base (ownBase base members) members).lookup name = _ := lookup_rebaseMembers members name
    rw [found, Option.map_some, rebasedMember_of_not_str noText, if_neg (noData name applies)] at rebased
    exact mem_of_lookup rebased
  rw [rebase]
  cases fills with
  | @whole name _ applies found _ alone =>
    rw [alone, if_neg (by simp)]
    exact .member (member applies found compiled'.not_str) .here
  | @entry name key entries _ applies found inside _ named stepped =>
    have noText : ∀ key text, (key, .str text) ∉ entries := by
      intro key text inside
      have made := compiled_obj.mp compiled
      rcases stepped key text inside with ⟨fault, refused⟩ | ⟨other, taken⟩
      · obtain ⟨_, _, _, same, -⟩ := made.step refused
        cases same
      · obtain ⟨_, _, _, same, -, compiled⟩ := made.step taken
        cases same
        exact compiled.not_str text rfl
    have base' : ownBase (ownBase base members) entries = ownBase base members := ownBase_of_entries noText
    refine .member (member applies found (by simp)) ?_
    rw [rebase, base', rebaseMembers_eq]
    refine .member (List.mem_map_of_mem inside) ?_
    rw [rebasedMember_of_not_str compiled'.not_str, named]
    simp only [Option.mem_def, Option.some.injEq, exists_eq_left']
    exact .here
  | @item name index items _ applies found inside _ alone =>
    rw [alone, if_neg (by simp)]
    refine .member (member applies found (by simp)) ?_
    rw [rebase, rebaseItems_eq]
    exact .item (by rw [List.getElem?_map, inside]; rfl) .here

theorem rebasedAlong_cons (base : Uri) (members : Members) (schemas : List Json) :
    rebasedAlong base (.obj members :: schemas) = rebasedAlong (ownBase base members) schemas := rfl

/-- Rebasing a schema reaches a fragment below it with the base that the schemas before the
fragment lead to, or leaves the fragment as it is. -/
theorem Compiled.rebase_way {schema : Json} (compiled : Compiled draft source outer schema f)
    {entries : List (Slot × Fragment)} (way : Way f entries d) (base : Uri) : ∃ segments,
      Json.At f.schema segments d.schema ∧
      (Hidden entries → Json.At (rebase base f.schema) segments d.schema) ∧
      (¬ Hidden entries → Json.At (rebase base f.schema) segments
        (rebase (rebasedAlong base (f.schema :: schemasOn entries).dropLast) d.schema)) := by
  induction way generalizing outer schema base with
  | here =>
    refine ⟨[], .here, ?_, fun _ => .here⟩
    rintro ⟨entry, inside, -⟩
    cases inside
  | @down f g d slot entries inside rest ih =>
    obtain ⟨members, sub, rfl, -, child⟩ := compiled.child inside
    obtain ⟨first, upper, rebased⟩ := compiled.rebase_child inside base
    rw [compiled.schema_eq]
    have steps : (Json.obj members :: schemasOn ((slot, g) :: entries)).dropLast =
        .obj members :: (g.schema :: schemasOn entries).dropLast := rfl
    rw [steps, rebasedAlong_cons]
    by_cases data : ∃ name ∈ slot.entry?, name ∈ dataKeywords
    · rw [if_pos data] at rebased
      obtain ⟨segments, lower, -, -⟩ := ih child base
      refine ⟨first ++ segments, upper.trans lower, fun _ => rebased.trans lower, fun seen => ?_⟩
      exact absurd ⟨_, List.mem_cons_self, data⟩ seen
    · rw [if_neg data] at rebased
      obtain ⟨segments, lower, hidden, seen⟩ := ih child (ownBase base members)
      refine ⟨first ++ segments, upper.trans lower, fun below => rebased.trans (hidden ?_),
        fun below => rebased.trans (seen fun ⟨entry, member, named⟩ => ?_)⟩
      · obtain ⟨entry, member, named⟩ := below
        rcases List.mem_cons.mp member with rfl | later
        · exact absurd named data
        · exact ⟨entry, later, named⟩
      · exact below ⟨entry, List.mem_cons_of_mem _ member, named⟩

/-- The last schema on a way is the one of the fragment at its end. -/
theorem Way.dropLast_append {f d : Fragment} {entries : List (Slot × Fragment)} (way : Way f entries d) :
    f.schema :: schemasOn entries = (f.schema :: schemasOn entries).dropLast ++ [d.schema] := by
  induction way with
  | here => rfl
  | @down f g d slot entries inside rest ih =>
    change f.schema :: (g.schema :: schemasOn entries) = f.schema :: (g.schema :: schemasOn entries).dropLast ++ [d.schema]
    rw [List.cons_append, ← ih]

/-- The text of a reference after rebasing. -/
theorem stringMember?_rebase {schema : Json} (base : Uri) (keyword : ReferenceKeyword) {reference : String}
    (refers : schema.stringMember? keyword.name = some reference) :
    (rebase base schema).stringMember? keyword.name = some (absolute (rebasedAlong base [schema]) reference) := by
  cases schema with
  | obj members =>
    obtain ⟨value, found, text⟩ := Option.bind_eq_some_iff.mp refers
    cases value with
    | str written =>
      cases text
      have member : rebasedMember base (ownBase base members) keyword.name (.str reference) =
          .str (absolute (ownBase base members) reference) := by
        cases keyword <;> rfl
      have found : members.lookup keyword.name = some (.str reference) := found
      rw [rebase, Json.stringMember?, Json.member?, lookup_rebaseMembers, found, Option.map_some, member]
      rfl
    | _ => cases text
  | _ => cases refers

end Fragment

/-! ## References -/

/-- Whether rebasing keeps what the reference of a fragment at the end of a way denotes. Below a name
that is that of a keyword with data the reference stays as it is written. Otherwise it is joined
with the base that the identifiers lead to when the one of the rebased schema is read again. -/
def Keeps (n d : Fragment) (entries : List (Slot × Fragment)) (reference : String) : Prop :=
  Hidden entries ∧ reference = absolute d.site.base reference ∨
    ¬ Hidden entries ∧
      absolute (rebasedAlong n.site.base (n.schema :: Fragment.schemasOn entries)) reference =
        absolute d.site.base reference

/-- Where no name hides the reference and rebasing comes to the resource that the compiled fragment
stands in, every reference is kept. -/
theorem keeps_of_sameResource {n d : Fragment} {entries : List (Slot × Fragment)} (seen : ¬ Hidden entries)
    (same : Uri.SameResource (rebasedAlong n.site.base (n.schema :: Fragment.schemasOn entries)) d.site.base)
    (reference : String) : Keeps n d entries reference := by
  refine .inr ⟨seen, ?_⟩
  unfold absolute
  rw [Uri.join_eq_iff.mpr same reference]

/-- The text of a reference below a rebased fragment is the address that the reference denoted
before, exactly if rebasing keeps it. -/
theorem rebase_keeps_reference_iff {draft : Draft} {source : Origin} {outer : Site} {schema : Json} {n d : Fragment}
    (compiled : Fragment.compile draft source outer schema = .ok n) {entries : List (Slot × Fragment)}
    (way : Fragment.Way n entries d) {keyword : ReferenceKeyword} {reference : String}
    (refers : d.schema.stringMember? keyword.name = some reference) {address : Uri}
    (joined : d.site.base.join reference = .ok address) : ∃ segments part text,
      Json.At n.schema segments d.schema ∧ Json.At (rebase n.site.base n.schema) segments part ∧
      part.stringMember? keyword.name = some text ∧ (text = address.text ↔ Keeps n d entries reference) := by
  obtain ⟨segments, place, hidden, seen⟩ := (Fragment.compile_eq_ok.mp compiled).rebase_way way n.site.base
  have denoted : absolute d.site.base reference = address.text := by
    rw [absolute, joined]
  have whole : rebasedAlong n.site.base (n.schema :: Fragment.schemasOn entries) =
      rebasedAlong (rebasedAlong n.site.base (n.schema :: Fragment.schemasOn entries).dropLast) [d.schema] := by
    rw [rebasedAlong, rebasedAlong, rebasedAlong, ← List.foldl_append, ← way.dropLast_append]
  by_cases below : Hidden entries
  · refine ⟨segments, d.schema, reference, place, hidden below, refers, ?_⟩
    simp [Keeps, below, denoted]
  · refine ⟨segments, _, _, place, seen below, Fragment.stringMember?_rebase _ keyword refers, ?_⟩
    rw [← whole]
    simp [Keeps, below, denoted]

/-- A schema with a property that refers to the whole schema. -/
def recursiveProperty (name : String) : Json :=
  .obj [("properties", .obj [(name, .obj [("$ref", .str "#")])])]

/-- The property, compiled. -/
def recursiveChild (name : String) : Fragment :=
  ⟨(Site.ofDocument .default).below ["properties", name], .document 0, .obj [("$ref", .str "#")], [], none, []⟩

/-- The schema, compiled. -/
def recursiveParent (name : String) : Fragment :=
  ⟨.ofDocument .default, .document 0, recursiveProperty name, [], none, [(.property name, recursiveChild name)]⟩

/-- No name hides the reference, and no identifier leaves the resource; so the reference is kept. -/
theorem rebase_keeps_reference_of_property :
    Fragment.compile .draft2020 (.document 0) (.ofDocument .default) (recursiveProperty "next") =
      .ok (recursiveParent "next") ∧
    ∃ segments part text, Json.At (recursiveParent "next").schema segments (recursiveChild "next").schema ∧
      Json.At (rebase .default (recursiveParent "next").schema) segments part ∧
      part.stringMember? "$ref" = some text ∧
      (text = "json-schema:///#" ↔
        Keeps (recursiveParent "next") (recursiveChild "next") [(.property "next", recursiveChild "next")] "#") ∧
      text = "json-schema:///#" := by
  have compiled : Fragment.compile .draft2020 (.document 0) (.ofDocument .default) (recursiveProperty "next") =
    .ok (recursiveParent "next") := rfl
  have way : Fragment.Way (recursiveParent "next") [(.property "next", recursiveChild "next")]
    (recursiveChild "next") := .down (List.mem_singleton_self _) .here
  have refers : (recursiveChild "next").schema.stringMember? ReferenceKeyword.static.name = some "#" := rfl
  have joined : (recursiveChild "next").site.base.join "#" = .ok { Uri.default with fragment := some "" } := rfl
  have seen : ¬ Hidden [(.property "next", recursiveChild "next")] := by
    rintro ⟨entry, inside, name, named, data⟩
    obtain rfl := List.mem_singleton.mp inside
    cases named
    exact absurd data (by decide)
  have same : Uri.SameResource (rebasedAlong (recursiveParent "next").site.base
      ((recursiveParent "next").schema :: Fragment.schemasOn [(.property "next", recursiveChild "next")]))
      (recursiveChild "next").site.base := by
    unfold Uri.SameResource
    rfl
  have kept := keeps_of_sameResource seen same "#"
  obtain ⟨segments, part, text, place, rebased, written, keeps⟩ := rebase_keeps_reference_iff compiled way refers joined
  exact ⟨compiled, segments, part, text, place, rebased, written, keeps, keeps.mpr kept⟩

/-- The reference of a property called `default` is not kept: rebasing takes the property for data. -/
theorem property_named_default_not_kept :
    Fragment.compile .draft2020 (.document 0) (.ofDocument .default) (recursiveProperty "default") =
      .ok (recursiveParent "default") ∧
    Fragment.Way (recursiveParent "default") [(.property "default", recursiveChild "default")]
      (recursiveChild "default") ∧
    (recursiveChild "default").site.base.join "#" = .ok { Uri.default with fragment := some "" } ∧
    ∀ part, Json.At (rebase .default (recursiveParent "default").schema) ["properties", "default"] part →
      part.stringMember? "$ref" ≠ some ({ Uri.default with fragment := some "" } : Uri).text := by
  refine ⟨rfl, .down (List.mem_singleton_self _) .here, rfl, fun part place => ?_⟩
  have unchanged : rebase .default (recursiveParent "default").schema = recursiveProperty "default" := rfl
  rw [unchanged] at place
  cases place with
  | member inside rest =>
    cases List.mem_singleton.mp inside
    cases rest with
    | member inside rest =>
      cases List.mem_singleton.mp inside
      cases rest
      decide +kernel

end JsonSchema
