import RoutePaths.Proofs.OpenApi.Grouping
import RoutePaths.Proofs.Route.Method
import RoutePaths.Proofs.UrlPath.Expression

/-!
# RoutePaths.Proofs.OpenApi.Parameters

The parameters of an operation are read off the path that it stands under
(`parameters_read_off_path`), although operations of one path may come from
paths that are spelled differently.

OpenAPI wants one parameter for each template expression of a path and no
parameter twice.  A document has that exactly if the expressions of its paths
are names and no path repeats one (`matches_iff`).  Neither is sure: names come
from the prefix of the file, from the groups and from the route itself, and a
binding such as `{post:slug}` is no name.
-/

namespace RoutePaths.OpenApi

open UrlPath (Template IsName HasExpression StandsTwice braced converted parameterNames)

variable {routes : List Route} {r : Route} {paths : Ledger String PathItem} {path key : String}
  {item : PathItem} {op : Operation}

/-! ## operations and their routes -/

/-- Every operation of an item describes a route. -/
theorem PathItem.Gathers.exists_of_mem (h : item.Gathers routes)
    (hmem : (key, .operation op) ∈ item) :
    ∃ r ∈ routes, r.isResource = false ∧ op = operationOf r := by
  have hget : item.get? key = some (.operation op) :=
    (Ledger.get?_eq_some_iff_mem (h.keys ▸ nodup_eraseDups _)).mpr hmem
  have hkey : key ≠ collectionKey := by
    rintro rfl
    rw [h.collections] at hget
    split at hget <;> cases hget
  rw [h.operations key hkey, Option.map_eq_some_iff] at hget
  obtain ⟨r, hfirst, heq⟩ := hget
  cases heq
  have hgives := List.find?_some hfirst
  have hpath := (Bool.and_eq_true_iff.mp hgives).1
  exact ⟨r, List.mem_of_find?_eq_some hfirst, by simpa using hpath, rfl⟩

/-- The key of a route has an operation, though it may be that of another one. -/
theorem PathItem.Gathers.exists_operation (h : item.Gathers routes) (hr : r ∈ routes)
    (hresource : r.isResource = false) (hleaves : LeavesCollections r) :
    ∃ key op, (key, .operation op) ∈ item := by
  obtain ⟨key, hkey⟩ := List.exists_mem_of_ne_nil _ (methodKeys_ne_nil r)
  have hcollection : key ≠ collectionKey := by
    rintro rfl
    exact hleaves.not_mem_methodKeys hkey
  have hgives : gives key r := by simp [gives, hresource, hkey]
  obtain ⟨first, hfirst⟩ := Option.isSome_iff_exists.mp (List.find?_isSome.mpr ⟨r, hr, hgives⟩)
  have hget : item.get? key = some (.operation (operationOf first)) := by
    rw [h.operations key hcollection, hfirst, Option.map_some]
  exact ⟨key, _, Ledger.mem_of_get?_eq_some hget⟩

/-- Every operation of a document describes a route of its path. -/
theorem Gathered.exists_of_mem (h : Gathered paths routes) (hmem : (path, item) ∈ paths.sorted)
    (hop : (key, .operation op) ∈ item) :
    ∃ r ∈ routes, r.isResource = false ∧ itemPath r = path ∧ op = operationOf r := by
  obtain ⟨r, hr, hresource, hoperation⟩ := (h.gathers hmem).exists_of_mem hop
  obtain ⟨hr, hpath⟩ := List.mem_filter.mp hr
  exact ⟨r, hr, hresource, of_decide_eq_true hpath, hoperation⟩

/-- Every route that is no resource declaration has an operation under its path. -/
theorem Gathered.exists_operation (h : Gathered paths routes) (hr : r ∈ routes)
    (hresource : r.isResource = false) (hleaves : LeavesCollections r) :
    ∃ item key op, (itemPath r, item) ∈ paths.sorted ∧ (key, .operation op) ∈ item := by
  obtain ⟨item, hmem, hitem⟩ := h.exists_item hr
  obtain ⟨key, op, hop⟩ := (h.gathers hmem).exists_operation hitem hresource hleaves
  exact ⟨item, key, op, hmem, hop⟩

/-! ## parameters -/

theorem converted_itemPath (r : Route) : converted (itemPath r).toList = (itemPath r).toList := by
  rw [itemPath, Template.toList_path_ofPath, UrlPath.converted_converted]

/-- The parameters of an operation are those of the path of its item. -/
theorem names_operationOf (r : Route) :
    (operationOf r).parameters.map (·.name) = parameterNames (itemPath r).toList := by
  have hnames : parameterNames (itemPath r).toList = (Template.ofPath r.resolvedPath).names :=
    Template.names_ofPath_path r.resolvedPath
  rw [hnames]
  simp [operationOf, Operation.ofRoute, Function.comp_def]

/-- **Parameters are read off the path.**  Converting the path of an item again
changes nothing, finds nothing optional, and finds the parameters of each of
its operations, in order and with repetitions.  So converting is idempotent, no
name in braces lacks a parameter, and spellings that make the same path have the
same parameters. -/
theorem parameters_read_off_path (repoName : String) (excludeResources : Bool)
    (hleaves : ∀ r ∈ routes, LeavesCollections r) :
    (∃ doc, Document.ofRoutes repoName excludeResources routes = .ok doc ∧
      ∀ path item, (path, item) ∈ doc.paths →
        (Template.ofPath path).path = path ∧ (Template.ofPath path).optionalNames = [] ∧
          ∀ key op, (key, .operation op) ∈ item →
            op.parameters.map (·.name) = (Template.ofPath path).names ∧
              ∀ x, IsName x → braced x <:+: path.toList →
                String.ofList x ∈ op.parameters.map (·.name)) ∧
      (∀ path, (Template.ofPath (Template.ofPath path).path).path = (Template.ofPath path).path) ∧
      ∀ a b, (Template.ofPath a).path = (Template.ofPath b).path →
        (Template.ofPath a).names = (Template.ofPath b).names := by
  obtain ⟨paths, hgathered, hdoc⟩ := exists_document repoName excludeResources hleaves
  refine ⟨⟨_, hdoc, fun path item hmem => ?_⟩, Template.path_ofPath_path, fun a b hpath => ?_⟩
  · obtain ⟨r, -, rfl⟩ := hgathered.mem_keys_iff.mp (List.mem_map_of_mem hmem)
    refine ⟨Template.path_ofPath_path _, Template.optionalNames_ofPath_path _, fun key op hop => ?_⟩
    obtain ⟨r', -, -, hpath, rfl⟩ := hgathered.exists_of_mem hmem hop
    rw [names_operationOf, hpath]
    exact ⟨rfl, fun x hname hstands =>
      (UrlPath.mem_parameterNames_iff (converted_itemPath r)).mpr ⟨hname, hstands⟩⟩
  · rw [← Template.names_ofPath_path a, hpath, Template.names_ofPath_path]

/-- Two spellings of a path, braces in braces, and a parameter that comes twice. -/
theorem parameters_read_off_path_spellings :
    let routes : List Route :=
      [⟨0, "GET", "u/{id?}", "/u/{id?}", "", ""⟩, ⟨1, "POST", "u/{id}", "/u/{id}", "", ""⟩,
        ⟨2, "ANY", "{a{b?}}", "/{a{b?}}", "", ""⟩, ⟨3, "GET", "{a}/{a?}", "/{a}/{a?}", "", ""⟩]
    (∀ r ∈ routes, LeavesCollections r) ∧
      (∃ doc, Document.ofRoutes "app" false routes = .ok doc ∧
        ∀ path item, (path, item) ∈ doc.paths →
          (Template.ofPath path).path = path ∧ (Template.ofPath path).optionalNames = [] ∧
            ∀ key op, (key, .operation op) ∈ item →
              op.parameters.map (·.name) = (Template.ofPath path).names ∧
                ∀ x, IsName x → braced x <:+: path.toList →
                  String.ofList x ∈ op.parameters.map (·.name)) ∧
      (∀ path, (Template.ofPath (Template.ofPath path).path).path = (Template.ofPath path).path) ∧
      ∀ a b, (Template.ofPath a).path = (Template.ofPath b).path →
        (Template.ofPath a).names = (Template.ofPath b).names := by
  intro routes
  have hleaves : ∀ r ∈ routes, LeavesCollections r := by decide
  exact ⟨hleaves, parameters_read_off_path "app" false hleaves⟩

/-! ## template expressions -/

/-- OpenAPI wants one parameter for each template expression of the path, and no
parameter twice. -/
structure Operation.Matches (op : Operation) (path : String) : Prop where
  expressions : ∀ x, HasExpression path.toList x →
    (op.parameters.map (·.name)).count (String.ofList x) = 1
  names : (op.parameters.map (·.name)).Nodup

/-- **What OpenAPI wants of a path**, expression by expression: a name, and at one
place only. -/
theorem matches_operationOf_iff (r : Route) :
    (operationOf r).Matches (itemPath r) ↔
      ∀ x, HasExpression (itemPath r).toList x →
        (∀ c ∈ x, Text.isWord c) ∧ ¬ StandsTwice (itemPath r).toList (braced x) := by
  have hconverted := converted_itemPath r
  constructor
  · rintro ⟨hexpressions, hnodup⟩ x hx
    rw [names_operationOf] at hnodup
    have hcount := hexpressions x hx
    rw [names_operationOf] at hcount
    have hmem : String.ofList x ∈ parameterNames (itemPath r).toList :=
      List.count_pos_iff.mp (by omega)
    have hname : IsName x := ((UrlPath.mem_parameterNames_iff hconverted).mp hmem).1
    exact ⟨hname.2, (UrlPath.nodup_parameterNames_iff hconverted).mp hnodup x hname⟩
  · intro h
    have hnodup : (parameterNames (itemPath r).toList).Nodup := by
      refine (UrlPath.nodup_parameterNames_iff hconverted).mpr fun x hname htwice => ?_
      obtain ⟨a, b, c, hpath⟩ := htwice
      have hstands : braced x <:+: (itemPath r).toList := ⟨a, b ++ braced x ++ c, by simp [hpath]⟩
      exact (h x (.of_isName hname hstands)).2 ⟨a, b, c, hpath⟩
    refine ⟨fun x hx => ?_, by rwa [names_operationOf]⟩
    rw [names_operationOf]
    exact List.count_eq_one_of_mem hnodup
      ((UrlPath.mem_parameterNames_iff hconverted).mpr ⟨⟨hx.ne_nil, (h x hx).1⟩, hx.stands⟩)

/-- The routes of a text leave the key of resource declarations alone: no verb
begins with an x. -/
theorem leavesCollections_of_mem_resolve {base sourceFile text : String}
    (h : r ∈ Route.resolve base sourceFile text) : LeavesCollections r := by
  obtain ⟨verb, hverb, hhead⟩ := Route.exists_head?_lower_method h
  intro heq
  have hfirst : ∀ verb ∈ Call.verbs, collectionKey.toList.head? ≠ verb.head? := by decide
  exact hfirst verb hverb (heq ▸ hhead)

/-- **Paths and parameters correspond** in the document of a text exactly if each
expression of each path is a name and stands there at one place only. -/
theorem matches_iff (repoName : String) (excludeResources : Bool) (base sourceFile text : String) :
    ∃ doc,
      Document.ofRoutes repoName excludeResources (Route.resolve base sourceFile text) = .ok doc ∧
      ((∀ path item, (path, item) ∈ doc.paths →
          ∀ key op, (key, .operation op) ∈ item → op.Matches path) ↔
        ∀ r ∈ Route.resolve base sourceFile text, r.isResource = false →
          ∀ x, HasExpression (itemPath r).toList x →
            (∀ c ∈ x, Text.isWord c) ∧ ¬ StandsTwice (itemPath r).toList (braced x)) := by
  have hleaves : ∀ r ∈ Route.resolve base sourceFile text, LeavesCollections r := fun r hr =>
    leavesCollections_of_mem_resolve hr
  obtain ⟨paths, hgathered, hdoc⟩ := exists_document repoName excludeResources hleaves
  refine ⟨_, hdoc, ?_, ?_⟩
  · intro h r hr hresource
    have hretained : r ∈ retained excludeResources (Route.resolve base sourceFile text) :=
      List.mem_filter.mpr ⟨hr, by simp [hresource]⟩
    obtain ⟨item, key, op, hmem, hop⟩ :=
      hgathered.exists_operation hretained hresource (hleaves r hr)
    -- The operation may be that of another route, but the path is the same.
    obtain ⟨r', -, -, hpath, rfl⟩ := hgathered.exists_of_mem hmem hop
    have hmatches := h _ _ hmem _ _ hop
    rwa [← hpath, matches_operationOf_iff, hpath] at hmatches
  · intro h path item hmem key op hop
    obtain ⟨r, hr, hresource, rfl, rfl⟩ := hgathered.exists_of_mem hmem hop
    exact (matches_operationOf_iff r).mpr (h r (List.mem_filter.mp hr).1 hresource)

/-- A group and a route in it may name their parameters alike: then the operation
has the parameter twice. -/
theorem not_matches_nested_prefix :
    let text := "Route::prefix('users/{id}')->group(function () \x7b\n"
      ++ "    Route::get('posts/{id}', f);\n\x7d);"
    ∃ doc, Document.ofRoutes defaultRepoName false (Route.resolve "" "" text) = .ok doc ∧
      ∃ path item, (path, item) ∈ doc.paths ∧
        ∃ key op, (key, .operation op) ∈ item ∧ ¬ op.Matches path := by
  intro text
  let op : Operation := ⟨"GET posts/{id}", [⟨"id", false⟩, ⟨"id", false⟩], "", 2⟩
  have hpaths : (Document.ofRoutes defaultRepoName false (Route.resolve "" "" text)).toOption.map
      Document.paths = some [("/users/{id}/posts/{id}", [("get", .operation op)])] := by
    decide +kernel
  cases hdoc : Document.ofRoutes defaultRepoName false (Route.resolve "" "" text) with
  | error e => simp [hdoc, Except.toOption] at hpaths
  | ok doc =>
    have hpaths : doc.paths = [("/users/{id}/posts/{id}", [("get", .operation op)])] := by
      simpa [hdoc, Except.toOption] using hpaths
    refine ⟨doc, rfl, "/users/{id}/posts/{id}", [("get", .operation op)], by simp [hpaths],
      "get", op, by simp, fun hmatches => ?_⟩
    exact absurd hmatches.names (by decide)

end RoutePaths.OpenApi
