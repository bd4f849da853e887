import JsonSchema.FileTree
import JsonSchema.Proofs.Attempt
import JsonSchema.Proofs.Compilation.Documents
import JsonSchema.Proofs.Compilation.Unidentified
import JsonSchema.Proofs.Uri.Names
import JsonSchema.Store
import Mathlib

/-!
# Schemas by the names of their files

Every schema of a store is registered under the name of its file, so that the others can refer to it by this name. What
a reference finds is the root of that schema, unless a schema that comes later in the store, or the one that is
compiled, takes the address for its own.
-/

namespace JsonSchema

/-! ## Names with extensions -/

theorem mem_dropWhile_of_not {α : Type} {p : α → Bool} {xs : List α} {x : α} (inside : x ∈ xs) (stays : p x = false) :
    x ∈ xs.dropWhile p := by
  rw [← List.takeWhile_append_dropWhile (p := p) (l := xs)] at inside
  refine (List.mem_append.mp inside).resolve_left fun dropped => ?_
  exact Bool.false_ne_true (stays.symm.trans (List.all_eq_true.mp List.all_takeWhile x dropped))

/-- A character that is neither blank nor a control is kept. -/
theorem Uri.mem_tidy {text : String} {c : Char} (inside : c ∈ text.toList) (visible : 0x20 < c.toNat) :
    c ∈ tidy text := by
  have shown : decide (c.toNat ≤ 0x20) = false := decide_eq_false (Nat.not_le.mpr visible)
  have started := @mem_dropWhile_of_not _ (fun c => decide (c.toNat ≤ 0x20)) _ _ inside shown
  have trimmed := @mem_dropWhile_of_not _ (fun c => decide (c.toNat ≤ 0x20)) _ _ (List.mem_reverse.mpr started) shown
  refine List.mem_filter.mpr ⟨List.mem_reverse.mpr trimmed, ?_⟩
  have other {d : Char} (small : d.toNat ≤ 0x20) : c ≠ d := by
    rintro rfl
    omega
  simp [other (show '\t'.toNat ≤ 0x20 by decide), other (show '\n'.toNat ≤ 0x20 by decide),
    other (show '\r'.toNat ≤ 0x20 by decide)]

theorem Path.mem_of_extension? {path extension : String} {c : Char} (found : extension? path = some extension)
    (inside : c ∈ extension.toList) : c ∈ path.toList := by
  obtain ⟨component, named, own⟩ := Option.bind_eq_some_iff.mp found
  have piece : ∃ piece ∈ Text.splitOn '.' component.toList, extension = String.ofList piece := by
    unfold extensionOf? at own
    split at own
    · cases own
    · cases own
    · obtain ⟨piece, last, rfl⟩ := Option.map_eq_some_iff.mp own
      exact ⟨piece, List.mem_of_getLast? last, rfl⟩
  obtain ⟨piece, listed, rfl⟩ := piece
  have member : component ∈ components path := List.mem_of_getLast? (Option.filter_eq_some_iff.mp named).1
  obtain ⟨part, cut, rfl⟩ := List.mem_map.mp (List.mem_filter.mp member).1
  rw [String.toList_ofList] at inside listed
  exact mem_of_mem_splitWhere cut (mem_of_mem_splitWhere listed inside)

/-- The name of a document has a character that is seen. -/
theorem tidy_ne_nil_of_document {name : String} (document : (DocumentFormat.ofPath? name).isSome) :
    Uri.tidy name ≠ [] := by
  obtain ⟨extension, found, c, inside, visible⟩ : ∃ extension, Path.extension? name = some extension ∧
      ∃ c ∈ extension.toList, 0x20 < c.toNat := by
    unfold DocumentFormat.ofPath? at document
    split at document
    · rename_i found
      exact ⟨_, found, 'j', by decide, by decide⟩
    · rename_i found
      exact ⟨_, found, 'y', by decide, by decide⟩
    · rename_i found
      exact ⟨_, found, 'y', by decide, by decide⟩
    · cases document
  exact List.ne_nil_of_mem (Uri.mem_tidy (Path.mem_of_extension? found inside) visible)

namespace Store

open Compiler Fragment

variable {files : FileSystem Id} {directory name file sibling : String} {asked : Option Draft} {draft : Draft}
  {formats : Formats} {store : Store} {listing : List String}

/-! ## Loaded schemas -/

/-- A schema comes from a document in the directory of a store. -/
structure LoadedFrom (files : FileSystem Id) (directory : String) (listing : List String) (entry : String × Json) :
    Prop where
  listed : entry.1 ∈ listing
  document : (DocumentFormat.ofPath? entry.1).isSome
  content : Id.run (Document.load files (Path.join directory entry.1)) = .ok entry.2

theorem loadedFrom_of_loadAll {names : List String} {schemas : List (String × Json)}
    (loaded : Id.run (loadAll files directory names) = .ok schemas)
    (known : ∀ name ∈ names, name ∈ listing ∧ (DocumentFormat.ofPath? name).isSome) :
    ∀ entry ∈ schemas, LoadedFrom files directory listing entry := by
  induction names generalizing schemas with
  | nil =>
    cases loaded
    exact fun _ inside => nomatch inside
  | cons name rest ih =>
    obtain ⟨own, others⟩ := List.forall_mem_cons.mp known
    unfold loadAll at loaded
    simp only [Id.run_bind] at loaded
    split at loaded
    · cases loaded
    · rename_i schema content
      rw [Id.run_bind, Id.run_pure] at loaded
      obtain ⟨later, found, rfl⟩ := map_eq_ok.mp loaded
      exact List.forall_mem_cons.mpr ⟨⟨own.1, own.2, content⟩, ih found others⟩

/-- Every schema of a store is the document in a file of its directory. -/
theorem loadedFrom_of_load (loaded : Id.run (load files directory asked formats) = .ok store) :
    ∃ listing, Id.run (files.files directory) = .ok listing ∧
      ∀ entry ∈ store.schemas, LoadedFrom files directory listing entry := by
  unfold load at loaded
  simp only [Id.run_bind] at loaded
  split at loaded
  · cases loaded
  · rename_i listing found
    rw [Id.run_bind, Id.run_pure] at loaded
    obtain ⟨schemas, all, rfl⟩ := map_eq_ok.mp loaded
    refine ⟨listing, found, loadedFrom_of_loadAll all fun name inside => ?_⟩
    exact List.mem_filter.mp (List.mem_mergeSort.mp inside)

/-- A schema of a store that declares no identifier is compiled at a base, and a fragment belongs to it. -/
def HasAt (store : Store) (draft : Draft) (name : String) (base : Uri) (f : Fragment) : Prop :=
  ∃ schema origin root, (name, schema) ∈ store.schemas ∧ schema.Unidentified draft ∧
    Compiled draft origin (.ofDocument base) schema root ∧ root.Reaches f

/-- What is compiled by name is a schema of the store, under the default address. -/
theorem compiled_of_compile {node : Node} (compiled : store.compile name = .ok node) : ∃ schema position,
    store.get? name = some schema ∧ store.compiler.compile schema = .ok node ∧
      Compiled node.context.draft (.document position) (.ofDocument .default) schema node.fragment := by
  unfold compile at compiled
  split at compiled
  · cases compiled
  · rename_i schema known
    have compiled := mapError_eq_ok.mp compiled
    obtain ⟨-, -, -, position, made⟩ := root_of_compile compiled
    exact ⟨schema, position, known, compiled, compile_eq_ok.mp made⟩

/-! ## References by name -/

/-- A schema without identifiers is at the top of the default hierarchy, as the schema that is compiled or under the
name of its file. -/
theorem HasAt.isTop {base : Uri} {source : Fragment} (stands : store.HasAt draft sibling base source)
    (flat : ∀ entry ∈ store.schemas, '/' ∉ entry.1.toList)
    (place : base = .default ∨ remoteBase sibling = .ok base ∧ Uri.ReadsAsPath sibling) : source.site.base.IsTop := by
  obtain ⟨schema, origin, root, known, unidentified, made, reaches⟩ := stands
  rw [made.base_of_unidentified unidentified reaches]
  rcases place with rfl | ⟨remote, named⟩
  · exact Uri.isTop_default
  · obtain ⟨uri, joined, rfl⟩ := remoteBase_eq_ok.mp remote
    exact (Uri.isTop_of_join (flat _ known) named joined).withoutFragment

/-- At the top the name of a document denotes the address that the document is registered under. -/
theorem splitReference_name {base address : Uri} (top : base.IsTop) (document : (DocumentFormat.ofPath? file).isSome)
    (unmarked : Unmarked file.toList) (noQuery : (Uri.tidy file).head? ≠ some '?')
    (found : remoteBase file = .ok address) : splitReference base file = some (address, "") := by
  obtain ⟨uri, joined, rfl⟩ := remoteBase_eq_ok.mp found
  have clean : Unmarked (Uri.tidy file) := unmarked.of_subset (Uri.tidy_subset file)
  have start : (Uri.tidy file).head? ∉ [none, some '#', some '?'] := by
    have noMark : (Uri.tidy file).head? ≠ some '#' := fun first => clean (List.mem_of_mem_head? first)
    simp [tidy_ne_nil_of_document document, noMark, noQuery]
  rw [splitReference, top.join_eq start, joined]
  simp [Uri.fragment_of_join joined, Uri.fragmentOf_of_unmarked clean]

/-- In a schema without identifiers, the name of a file of the store refers to something, if it has no number sign and
does not start a query. It refers to the root of the schema in this file exactly if neither the file of a later schema
nor the schema that is compiled takes its address. If the latter declares the address for its own, it is referred to. -/
theorem file_found_by_name {before after : List (String × Json)} {schema : Json} {node : Node} {base : Uri}
    {source : Fragment} (scope : Scope)
    (loaded : Id.run (load files directory asked formats) = .ok store)
    (flat : ∀ listing, Id.run (files.files directory) = .ok listing → ∀ name ∈ listing, '/' ∉ name.toList)
    (compiled : store.compile name = .ok node)
    (stored : store.schemas = before ++ (file, schema) :: after)
    (unmarked : Unmarked file.toList) (noQuery : (Uri.tidy file).head? ≠ some '?')
    (stands : store.HasAt node.context.draft sibling base source)
    (place : base = .default ∨ remoteBase sibling = .ok base ∧ Uri.ReadsAsPath sibling) :
    Id.run (Document.load files (Path.join directory file)) = .ok schema ∧
    ∃ address root target, remoteBase file = .ok address ∧
      Compiled node.context.draft (.document before.length) (.ofDocument address) schema root ∧
      node.context.target? source .static file scope = some target ∧
      (target = root ↔ (∀ later ∈ after, address.text ∉ addressesTaken node.context.draft later) ∧
        address.text ∉ addressesOf node.context.draft .default node.fragment.schema) ∧
      (node.fragment.site.base.text = address.text → target = node.fragment) := by
  obtain ⟨listing, listed, loaded⟩ := loadedFrom_of_load loaded
  have own : LoadedFrom files directory listing (file, schema) := loaded _ (by simp [stored])
  obtain ⟨_, _, -, compiled, made⟩ := compiled_of_compile compiled
  obtain rfl := made.schema_eq
  obtain ⟨address, root, target, found, root', located, exactly, itself⟩ := located_remote compiled stored
  have top := stands.isTop (fun entry known => flat listing listed _ (loaded entry known).listed) place
  have split := splitReference_name top own.document unmarked noQuery found
  have lookup : node.context.lookup? address "" = some target := located
  refine ⟨own.content, address, root, target, found, root', ?_, exactly, itself⟩
  simp [Context.target?, split, lookup]

/-! ## A file with a number sign in its name -/

namespace NamedFiles

/-- A schema with an identifier of its own. -/
def named : Json := .obj [("$id", .str "urn:a"), ("type", .str "null")]

/-- A schema that refers to a file by its name. -/
def referring (name : String) : Json := .obj [("$ref", .str name)]

/-- A directory with both of them in files. -/
def tree (name : String) : FileTree := .ofPaths [
  ("d/" ++ name, some "\x7b\"$id\": \"urn:a\", \"type\": \"null\"\x7d"),
  ("d/s.json", some ("\x7b\"$ref\": \"" ++ name ++ "\"\x7d"))]

/-- The store of the directory. -/
def storing (name : String) : Store := ⟨"d", [(name, named), ("s.json", referring name)], none, .standard⟩

/-- The referring schema as a remote document. -/
def source : Fragment :=
  ⟨.ofDocument ⟨"json-schema", some ⟨"", "", none⟩, "/s.json", none, none⟩, .document 1, referring "a.json", [], none,
    []⟩

/-- A schema with an identifier of its own is found by the name of its file. -/
theorem named_found : ∃ node root,
    Id.run (load (tree "a.json").fileSystem "d" none .standard) = .ok (storing "a.json") ∧
    (storing "a.json").compile "s.json" = .ok node ∧ source.reference? node.context.draft = some (.static, "a.json") ∧
    Compiled node.context.draft (.document 0) (.ofDocument ⟨"json-schema", some ⟨"", "", none⟩, "/a.json", none, none⟩)
      named root ∧
    node.context.target? source .static "a.json" [] = some root := by
  have loaded : Id.run (load (tree "a.json").fileSystem "d" none .standard) = .ok (storing "a.json") := by cbv
  have files : Id.run ((tree "a.json").fileSystem.files "d") = .ok ["a.json", "s.json"] := by cbv
  have drafts : ((storing "a.json").compile "s.json").toOption.map (·.context.draft) = some .draft2020 := by
    decide +kernel
  obtain ⟨node, compiled, draft⟩ := Option.map_eq_some_iff.mp drafts
  have stands : (storing "a.json").HasAt node.context.draft "s.json" source.site.base source := by
    rw [draft]
    refine ⟨referring "a.json", .document 1, source, by simp [storing], ?_, compile_eq_ok.mp rfl, .refl⟩
    exact Json.unidentified_of_isUnidentified (by decide +kernel : (referring "a.json").isUnidentified _ 1 = true)
  have flat (listing : List String) (found : Id.run ((tree "a.json").fileSystem.files "d") = .ok listing) :
      ∀ name ∈ listing, '/' ∉ name.toList := by
    cases files.symm.trans found
    decide
  obtain ⟨-, address, root, target, found, made, reached, exactly, -⟩ :=
    @file_found_by_name _ _ _ "a.json" _ _ _ _ [] _ _ node _ source [] loaded flat (ok_of_toOption compiled) rfl
      (by simp [Unmarked]) (by decide +kernel) stands (.inr ⟨rfl, by decide +kernel, by decide +kernel⟩)
  obtain rfl := Except.ok.inj (found.symm.trans (rfl : remoteBase "a.json" = .ok ⟨_, _, _, _, _⟩))
  obtain ⟨schema, position, known, -, top⟩ := compiled_of_compile (ok_of_toOption compiled)
  obtain rfl : referring "a.json" = schema := Option.some.inj known
  rw [top.schema_eq, draft] at exactly
  obtain rfl : target = root := by
    refine exactly.mpr ⟨?_, ?_⟩
    · decide +kernel
    · decide +kernel
  refine ⟨node, target, loaded, ok_of_toOption compiled, ?_, made, reached⟩
  rw [draft]
  rfl

/-- Where the name has a number sign, nothing is found. -/
theorem marked_not_found : ∃ node,
    Id.run (load (tree "a#b.json").fileSystem "d" none .standard) = .ok (storing "a#b.json") ∧
    "a#b.json" ∈ (storing "a#b.json").names ∧ (storing "a#b.json").compile "s.json" = .ok node ∧
    (storing "a#b.json").HasAt node.context.draft "s.json" .default node.fragment ∧
    node.fragment.reference? node.context.draft = some (.static, "a#b.json") ∧
    node.context.target? node.fragment .static "a#b.json" node.scope = none := by
  have loaded : Id.run (load (tree "a#b.json").fileSystem "d" none .standard) = .ok (storing "a#b.json") := by cbv
  have answers : ((storing "a#b.json").compile "s.json").toOption.map (fun node => (node.context.draft,
      node.fragment.reference? node.context.draft,
      (node.context.target? node.fragment .static "a#b.json" node.scope).isNone)) =
      some (.draft2020, some (.static, "a#b.json"), true) := by decide +kernel
  obtain ⟨node, compiled, same⟩ := Option.map_eq_some_iff.mp answers
  obtain ⟨draft, same⟩ := Prod.mk.inj same
  obtain ⟨reference, none⟩ := Prod.mk.inj same
  refine ⟨node, loaded, by simp [names, storing], ok_of_toOption compiled, ?_, reference,
    Option.isNone_iff_eq_none.mp none⟩
  obtain ⟨schema, position, known, -, top⟩ := compiled_of_compile (ok_of_toOption compiled)
  obtain rfl : referring "a#b.json" = schema := Option.some.inj known
  refine ⟨referring "a#b.json", _, _, by simp [storing], ?_, top, .refl⟩
  rw [draft]
  exact Json.unidentified_of_isUnidentified (by decide +kernel : (referring "a#b.json").isUnidentified _ 1 = true)

end NamedFiles
end Store
end JsonSchema
