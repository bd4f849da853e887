import JsonSchema.Uri.Basic
import Mathlib.Data.List.ProdSigma
import Mathlib.Data.List.Sublists
import Mathlib.Data.Set.Finite.List
import Mathlib.Logic.Function.Basic
import Mathlib.Tactic.Linarith
import Mathlib.Tactic.Ring

/-!
# The texts of addresses

Different addresses can have one text. But every part of an address is written out in its text,
so only finitely many of them do.
-/

namespace JsonSchema.Uri

/-- The texts whose characters occur, in this order, in another one. -/
def textsIn (text : String) : List String := text.toList.sublists.map String.ofList

theorem mem_textsIn {part text : String} : part ∈ textsIn text ↔ part.toList.Sublist text.toList := by
  rw [textsIn, List.mem_map]
  constructor
  · rintro ⟨cs, listed, rfl⟩
    rw [String.toList_ofList]
    exact List.mem_sublists.mp listed
  · intro inside
    exact ⟨part.toList, List.mem_sublists.mpr inside, String.ofList_toList⟩

theorem length_textsIn (text : String) : (textsIn text).length = 2 ^ text.length := by
  rw [textsIn, List.length_map, List.length_sublists, String.length_toList]

/-- The values of a list, or none. -/
def optional {α : Type} (values : List α) : List (Option α) := none :: values.map some

theorem mem_optional {α : Type} {values : List α} {value : Option α} (known : ∀ v ∈ value, v ∈ values) :
    value ∈ optional values := by
  cases value with
  | none => exact List.mem_cons_self
  | some v => exact List.mem_cons_of_mem _ (List.mem_map_of_mem (known v rfl))

theorem length_optional {α : Type} (values : List α) : (optional values).length = values.length + 1 := by
  simp [optional]

theorem toString_injective : Function.Injective (toString : Nat → String) := by
  intro m n same
  have digits : Nat.toDigits 10 m = Nat.toDigits 10 n := by
    simpa only [Nat.toString_eq_ofList_toDigits, String.ofList_inj] using same
  rw [← Nat.ofDigitChars_ten_toDigits (n := m), digits, Nat.ofDigitChars_ten_toDigits]

/-- The ports that are written in a text. -/
noncomputable def portsIn (text : String) : List Nat := (textsIn text).map (Function.invFun (toString : Nat → String))

theorem mem_portsIn {port : Nat} {text : String} (written : toString port ∈ textsIn text) : port ∈ portsIn text :=
  List.mem_map.mpr ⟨_, written, Function.leftInverse_invFun toString_injective port⟩

section
variable (uri : Uri)

private theorem resource_in_text : uri.resourceText ∈ textsIn uri.text := by
  rw [mem_textsIn, text]
  cases uri.fragment <;> simp

private theorem scheme_in_text : uri.scheme ∈ textsIn uri.text := by
  refine mem_textsIn.mpr (List.Sublist.trans ?_ (mem_textsIn.mp uri.resource_in_text))
  simp [resourceText, List.append_assoc]

private theorem path_in_text : uri.path ∈ textsIn uri.text := by
  have written : uri.path.toList.Sublist uri.pathText.toList := by
    unfold pathText
    split <;> simp
  refine mem_textsIn.mpr (written.trans (List.Sublist.trans ?_ (mem_textsIn.mp uri.resource_in_text)))
  simp only [resourceText, String.toList_append]
  exact (List.sublist_append_right _ _).trans (List.sublist_append_left _ _)

private theorem query_in_text {query : String} (present : uri.query = some query) : query ∈ textsIn uri.text := by
  refine mem_textsIn.mpr (List.Sublist.trans ?_ (mem_textsIn.mp uri.resource_in_text))
  simp only [resourceText, present, String.toList_append]
  exact (List.sublist_append_right _ _).trans (List.sublist_append_right _ _)

private theorem fragment_in_text {fragment : String} (present : uri.fragment = some fragment) :
    fragment ∈ textsIn uri.text := by
  rw [mem_textsIn, text]
  simp [present]

private theorem authority_in_text : uri.authorityText ∈ textsIn uri.text := by
  refine mem_textsIn.mpr (List.Sublist.trans ?_ (mem_textsIn.mp uri.resource_in_text))
  simp only [resourceText, String.toList_append, List.append_assoc]
  refine List.Sublist.trans ?_ (List.sublist_append_right _ _)
  exact (List.sublist_append_left _ _).trans (List.sublist_append_right _ _)

end

/-- The authorities with their parts in a text. -/
noncomputable def authoritiesIn (text : String) : List Authority :=
  (textsIn text ×ˢ textsIn text ×ˢ optional (portsIn text)).map fun part => ⟨part.1, part.2.1, part.2.2⟩

private theorem authority_in_authorities {uri : Uri} {authority : Authority} (present : uri.authority = some authority) :
    authority ∈ authoritiesIn uri.text := by
  have written := mem_textsIn.mp uri.authority_in_text
  have part {part : String} (inside : part.toList.Sublist uri.authorityText.toList) : part ∈ textsIn uri.text :=
    mem_textsIn.mpr (inside.trans written)
  refine List.mem_map.mpr ⟨(authority.user, authority.host, authority.port), ?_, rfl⟩
  refine List.mem_product.mpr ⟨part ?_, List.mem_product.mpr ⟨part ?_, mem_optional fun port given => mem_portsIn (part ?_)⟩⟩
  · by_cases empty : authority.user.isEmpty
    · simp [String.isEmpty_iff.mp empty]
    · simp only [authorityText, present, empty, Bool.false_eq_true, ↓reduceIte, String.toList_append, List.append_assoc]
      exact (List.sublist_append_left _ _).trans (List.sublist_append_right _ _)
  · simp only [authorityText, present, String.toList_append]
    exact (List.sublist_append_right _ _).trans (List.sublist_append_left _ _)
  · rw [Option.mem_def] at given
    simp only [authorityText, present, given, String.toList_append]
    exact (List.sublist_append_right _ _).trans (List.sublist_append_right _ _)

/-- The addresses with their parts in a text. -/
noncomputable def addressesIn (text : String) : List Uri :=
  (textsIn text ×ˢ optional (authoritiesIn text) ×ˢ textsIn text ×ˢ optional (textsIn text) ×ˢ
    optional (textsIn text)).map fun part => ⟨part.1, part.2.1, part.2.2.1, part.2.2.2.1, part.2.2.2.2⟩

theorem mem_addressesIn (uri : Uri) : uri ∈ addressesIn uri.text := by
  refine List.mem_map.mpr ⟨(uri.scheme, uri.authority, uri.path, uri.query, uri.fragment), ?_, rfl⟩
  simp only [List.mem_product]
  refine ⟨uri.scheme_in_text, mem_optional ?_, uri.path_in_text, mem_optional ?_, mem_optional ?_⟩
  · exact fun authority present => authority_in_authorities present
  · exact fun query present => uri.query_in_text present
  · exact fun fragment present => uri.fragment_in_text present

theorem length_addressesIn_le (text : String) : (addressesIn text).length ≤ (2 ^ text.length + 1) ^ 7 := by
  generalize count : 2 ^ text.length = n
  have served : n * (n * (n + 1)) + 1 ≤ (n + 1) ^ 3 := by nlinarith
  simp only [addressesIn, authoritiesIn, portsIn, List.length_map, List.length_product, length_optional, length_textsIn,
    count]
  calc n * ((n * (n * (n + 1)) + 1) * (n * ((n + 1) * (n + 1))))
      ≤ (n + 1) * ((n + 1) ^ 3 * ((n + 1) * ((n + 1) * (n + 1)))) := by gcongr <;> omega
    _ = (n + 1) ^ 7 := by ring

/-- Finitely many addresses share a text. -/
theorem finite_text (text : String) : {uri : Uri | uri.text = text}.Finite := by
  refine (List.finite_toSet (addressesIn text)).subset ?_
  rintro uri rfl
  exact uri.mem_addressesIn

end JsonSchema.Uri
