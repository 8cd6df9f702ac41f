import RoutePaths.OpenApi
import RoutePaths.Proofs.Ledger

/-!
# RoutePaths.Proofs.OpenApi.Grouping

The document of a list of routes is a grouping of the list
(`ofRoutes_gathers`):

* the routes of one path make one item (`PathItem.Gathers`): a key has the
  operation of the first of them that gives it one, the resource declarations
  are listed all together, and keys stand in the order in which the routes came
  to them;
* every path of a route has its item, and nothing else has (`Gathered`).

Both are said of the routes that were added so far, and kept when one more route
is added.  Adding fails only if a method takes the key of the resource
declarations.
-/

namespace RoutePaths.OpenApi

/-! ## what a route gives -/

/-- The path of the item that a route belongs to. -/
def itemPath (r : Route) : String := (UrlPath.Template.ofPath r.resolvedPath).path

/-- The operation that a route describes. -/
def operationOf (r : Route) : Operation := .ofRoute r (.ofPath r.resolvedPath)

/-- The keys that a route comes to in its item. -/
def memberKeys (r : Route) : List String := if r.isResource then [collectionKey] else methodKeys r

/-- A route has a method key. -/
theorem methodKeys_ne_nil (r : Route) : methodKeys r ≠ [] := by
  rw [methodKeys]
  split <;> exact List.cons_ne_nil _ _

/-- A route has a member at its path. -/
theorem memberKeys_ne_nil (r : Route) : memberKeys r ≠ [] := by
  rw [memberKeys]
  split
  · exact List.cons_ne_nil _ _
  · exact methodKeys_ne_nil r

/-- Whether a route gives an operation to a key. -/
def gives (key : String) (r : Route) : Bool := !r.isResource && (methodKeys r).contains key

/-- The method of the route leaves the key of resource declarations alone. -/
def LeavesCollections (r : Route) : Prop := Text.lower r.method.toList ≠ collectionKey.toList

instance (r : Route) : Decidable (LeavesCollections r) := inferInstanceAs (Decidable (_ ≠ _))

/-- A route that leaves the collections alone has no key of theirs. -/
theorem LeavesCollections.not_mem_methodKeys {r : Route} (h : LeavesCollections r) :
    collectionKey ∉ methodKeys r := by
  rw [methodKeys]
  split
  · decide
  · rw [List.mem_singleton, ← String.toList_inj, String.toList_ofList]
    exact Ne.symm h

/-! ## items -/

namespace PathItem

variable {item : PathItem} {routes : List Route} {r : Route}

/-- What the routes of one path make of its item. -/
structure Gathers (item : PathItem) (routes : List Route) : Prop where
  /-- Keys stand in the order in which the routes came to them. -/
  keys : item.keys = (routes.flatMap memberKeys).eraseDups
  /-- A key has the operation of the first route that gives it one. -/
  operations : ∀ key, key ≠ collectionKey →
    item.get? key = (routes.find? (gives key)).map fun r => .operation (operationOf r)
  /-- All resource declarations are listed, if there is any. -/
  collections : item.get? collectionKey =
    if routes.filter Route.isResource = [] then none
    else some (.collections ((routes.filter Route.isResource).map Collection.ofRoute))

theorem gathers_nil : Gathers [] [] where
  keys := rfl
  operations _ _ := rfl
  collections := rfl

/-- The keys of an item are those of its routes. -/
theorem Gathers.mem_keys_iff (h : item.Gathers routes) {key : String} :
    key ∈ item.keys ↔ ∃ r ∈ routes, key ∈ memberKeys r := by
  rw [h.keys, List.mem_eraseDups, List.mem_flatMap]

/-- An item is empty only if no route has come to it. -/
theorem Gathers.eq_nil_iff (h : item.Gathers routes) : item = [] ↔ routes = [] := by
  constructor
  · intro hitem
    refine List.eq_nil_iff_forall_not_mem.mpr fun r hr => ?_
    obtain ⟨key, hkey⟩ := List.exists_mem_of_ne_nil _ (memberKeys_ne_nil r)
    have hmem : key ∈ item.keys := h.mem_keys_iff.mpr ⟨r, hr, hkey⟩
    rw [hitem] at hmem
    contradiction
  · rintro rfl
    exact List.map_eq_nil_iff.mp h.keys

/-- An operation adds its key behind the others, unless it is there. -/
theorem keys_addOperation {given : List String} (h : item.keys = given.eraseDups) (op : Operation)
    (key : String) : (item.addOperation op key).keys = (given ++ [key]).eraseDups := by
  rw [addOperation]
  cases hget : item.get? key with
  | none => exact Ledger.keys_put_of_eraseDups h key _
  | some m =>
    have hkey : key ∈ given := by
      rw [← List.mem_eraseDups, ← h]
      exact Ledger.mem_keys_of_get?_eq_some hget
    rw [eraseDups_concat, if_pos hkey, h]

/-- The same for one operation under several keys. -/
theorem keys_foldl_addOperation {given : List String} (h : item.keys = given.eraseDups)
    (op : Operation) (keys : List String) :
    Ledger.keys (keys.foldl (addOperation op) item) = (given ++ keys).eraseDups := by
  induction keys generalizing item given with
  | nil => simpa using h
  | cons key keys ih => simpa using ih (keys_addOperation h op key)

/-- What a key has already stays. -/
theorem get?_addOperation (item : PathItem) (op : Operation) (key other : String) :
    (item.addOperation op key).get? other =
      (item.get? other).or (if other = key then some (.operation op) else none) := by
  rw [addOperation]
  by_cases hother : other = key
  · subst hother
    cases hget : item.get? other with
    | none => simp
    | some m => simp [hget]
  · cases item.get? key with
    | none => simp [Ledger.get?_put_of_ne item _ hother, hother]
    | some m => simp [hother]

/-- An operation is found under a new key of its own; what was there before stays. -/
theorem get?_foldl_addOperation (item : PathItem) (op : Operation) (keys : List String)
    (other : String) :
    Ledger.get? (keys.foldl (addOperation op) item) other =
      (item.get? other).or (if other ∈ keys then some (.operation op) else none) := by
  induction keys generalizing item with
  | nil => simp
  | cons key keys ih =>
    rw [List.foldl_cons, ih, get?_addOperation, Option.or_assoc]
    by_cases hother : other = key <;> simp [hother]

/-- **One more route** that is no resource declaration. -/
theorem Gathers.addOperations (h : item.Gathers routes) (hresource : r.isResource = false)
    (hleaves : LeavesCollections r) :
    Gathers ((methodKeys r).foldl (addOperation (operationOf r)) item) (routes ++ [r]) where
  keys := by
    rw [keys_foldl_addOperation h.keys, List.flatMap_append, List.flatMap_singleton, memberKeys,
      hresource]
    rfl
  operations key hkey := by
    rw [get?_foldl_addOperation, h.operations key hkey, List.find?_append]
    cases hfirst : routes.find? (gives key) with
    | some first => rfl
    | none => by_cases hmem : key ∈ methodKeys r <;> simp [gives, hresource, hmem]
  collections := by
    rw [get?_foldl_addOperation, h.collections, if_neg hleaves.not_mem_methodKeys, Option.or_none,
      List.filter_append]
    simp [hresource]

/-- **One more resource declaration** is added without fail. -/
theorem Gathers.addCollection (h : item.Gathers routes) (hresource : r.isResource = true) :
    ∃ item', item.addCollection (.ofRoute r) = .ok item' ∧ Gathers item' (routes ++ [r]) := by
  have hlisted : (routes ++ [r]).filter Route.isResource =
      routes.filter Route.isResource ++ [r] := by
    rw [List.filter_append]
    simp [hresource]
  let listed := ((routes ++ [r]).filter Route.isResource).map Collection.ofRoute
  refine ⟨item.put collectionKey (.collections listed), ?_, ?_, ?_, ?_⟩
  · rw [PathItem.addCollection, h.collections]
    by_cases hnone : routes.filter Route.isResource = []
    · simp [hnone, listed, hlisted]
    · simp [hnone, listed, hlisted]
  · rw [Ledger.keys_put_of_eraseDups h.keys, List.flatMap_append, List.flatMap_singleton,
      memberKeys, if_pos hresource]
  · intro key hkey
    rw [Ledger.get?_put_of_ne _ _ hkey, h.operations key hkey, List.find?_append]
    simp [gives, hresource]
  · rw [Ledger.get?_put_self, if_neg (by simp [hlisted])]

/-- One more route is added without an error, and the item gathers it too. -/
theorem Gathers.addRoute (h : item.Gathers routes) (hleaves : LeavesCollections r) :
    ∃ item', item.addRoute r (.ofPath r.resolvedPath) = .ok item' ∧
      Gathers item' (routes ++ [r]) := by
  rw [PathItem.addRoute]
  cases hresource : r.isResource with
  | true => exact h.addCollection hresource
  | false => exact ⟨_, rfl, h.addOperations hresource hleaves⟩

end PathItem

/-! ## documents -/

variable {paths : Ledger String PathItem} {routes : List Route} {r : Route}

/-- What routes make of the items of their paths. -/
structure Gathered (paths : Ledger String PathItem) (routes : List Route) : Prop where
  /-- Paths stand in the order in which the routes came to them. -/
  keys : paths.keys = (routes.map itemPath).eraseDups
  items : ∀ path, PathItem.Gathers ((paths.get? path).getD []) (routes.filter (itemPath · = path))

theorem gathered_nil : Gathered [] [] where
  keys := rfl
  items _ := PathItem.gathers_nil

/-- One more route is added to the item of its path, and the paths gather it too. -/
theorem Gathered.addRoute (h : Gathered paths routes) (hleaves : LeavesCollections r) :
    ∃ paths', addRoute paths r = .ok paths' ∧ Gathered paths' (routes ++ [r]) := by
  obtain ⟨item, hadd, hitem⟩ := (h.items (itemPath r)).addRoute hleaves
  refine ⟨paths.put (itemPath r) item, ?_, ?_, fun path => ?_⟩
  · change ((((paths.get? (itemPath r)).getD []).addRoute r (.ofPath r.resolvedPath)).map
      (paths.put (itemPath r))) = _
    rw [hadd]
    rfl
  · rw [Ledger.keys_put_of_eraseDups h.keys, List.map_append, List.map_singleton]
  · rw [List.filter_append]
    by_cases hpath : itemPath r = path
    · subst hpath
      simpa using hitem
    · rw [Ledger.get?_put_of_ne _ _ (Ne.symm hpath)]
      simpa [hpath] using h.items path

/-- **All routes are gathered**, and none of them fails. -/
theorem exists_gathered (hleaves : ∀ r ∈ routes, LeavesCollections r) :
    ∃ paths, routes.foldlM addRoute [] = .ok paths ∧ Gathered paths routes := by
  induction routes using List.reverseRecOn with
  | nil => exact ⟨[], rfl, gathered_nil⟩
  | append_singleton routes r ih =>
    obtain ⟨paths, hpaths, hgathered⟩ := ih fun r hr => hleaves r (List.mem_append_left _ hr)
    obtain ⟨paths', hadd, hgathered'⟩ := hgathered.addRoute (hleaves r (by simp))
    refine ⟨paths', ?_, hgathered'⟩
    rw [List.foldlM_append, hpaths]
    change (OpenApi.addRoute paths r >>= pure) = _
    rw [hadd]
    rfl

/-- No path comes twice. -/
theorem Gathered.nodup_keys (h : Gathered paths routes) : paths.keys.Nodup :=
  h.keys ▸ nodup_eraseDups _

/-- Every item of the document has gathered the routes of its path. -/
theorem Gathered.gathers (h : Gathered paths routes) {path : String} {item : PathItem}
    (hmem : (path, item) ∈ paths.sorted) :
    item.Gathers (routes.filter (itemPath · = path)) := by
  have hget : paths.get? path = some item :=
    (Ledger.get?_eq_some_iff_mem h.nodup_keys).mpr (Ledger.mem_sorted.mp hmem)
  simpa [hget] using h.items path

/-- The paths are those of the routes, sorted or not. -/
theorem Gathered.mem_keys_iff (h : Gathered paths routes) {path : String} :
    path ∈ paths.sorted.keys ↔ ∃ r ∈ routes, itemPath r = path := by
  rw [Ledger.mem_keys_sorted, h.keys, List.mem_eraseDups, List.mem_map]

/-- Every route belongs to the item of its path. -/
theorem Gathered.exists_item (h : Gathered paths routes) (hr : r ∈ routes) :
    ∃ item, (itemPath r, item) ∈ paths.sorted ∧ r ∈ routes.filter (itemPath · = itemPath r) := by
  obtain ⟨⟨path, item⟩, hmem, hpath⟩ := List.mem_map.mp (h.mem_keys_iff.mpr ⟨r, hr, rfl⟩)
  exact ⟨item, hpath ▸ hmem, List.mem_filter.mpr ⟨hr, decide_eq_true rfl⟩⟩

/-- The document shows the gathered routes by their paths. -/
theorem exists_document (repoName : String) (excludeResources : Bool)
    (hleaves : ∀ r ∈ routes, LeavesCollections r) :
    ∃ paths, Gathered paths (retained excludeResources routes) ∧
      Document.ofRoutes repoName excludeResources routes = .ok ⟨repoName, paths.sorted⟩ := by
  have hretained : ∀ r ∈ retained excludeResources routes, LeavesCollections r := fun r hr =>
    hleaves r (List.mem_filter.mp hr).1
  obtain ⟨paths, hpaths, hgathered⟩ := exists_gathered hretained
  exact ⟨paths, hgathered, by rw [Document.ofRoutes, hpaths]; rfl⟩

/-- **The document groups the routes.**  There is a document of routes whose
methods leave the key of resource declarations alone.  Its paths increase; they
are those of the routes that it speaks of, and every path has the item that its
routes make. -/
theorem ofRoutes_gathers (repoName : String) (excludeResources : Bool)
    (hleaves : ∀ r ∈ routes, LeavesCollections r) :
    ∃ doc, Document.ofRoutes repoName excludeResources routes = .ok doc ∧
      doc.paths.keys.Pairwise (· < ·) ∧
      (∀ path, path ∈ doc.paths.keys ↔
        ∃ r ∈ retained excludeResources routes, itemPath r = path) ∧
      ∀ path item, (path, item) ∈ doc.paths →
        item.Gathers ((retained excludeResources routes).filter (itemPath · = path)) := by
  obtain ⟨paths, hgathered, hdoc⟩ := exists_document repoName excludeResources hleaves
  exact ⟨_, hdoc, Ledger.pairwise_keys_sorted hgathered.nodup_keys,
    fun _ => hgathered.mem_keys_iff, fun _ _ hmem => hgathered.gathers hmem⟩

/-- A path in two spellings: a resource declaration comes first, a method keeps
the operation of the first spelling, and any method fills up the others. -/
theorem ofRoutes_gathers_spellings :
    let routes : List Route :=
      [⟨0, "RESOURCE", "u/{id?}", "/u/{id?}", "", "web.php"⟩,
        ⟨1, "POST", "u/{id}", "/u/{id}", "", "web.php"⟩,
        ⟨2, "ANY", "u/{id?}", "/u/{id?}", "", "web.php"⟩,
        ⟨3, "APIRESOURCE", "u/{id}", "/u/{id}", "", "web.php"⟩,
        ⟨4, "GET", "a", "/a", "", "web.php"⟩]
    let post : Member := .operation ⟨"POST u/{id}", [⟨"id", false⟩], "web.php", 2⟩
    let any : Member := .operation ⟨"ANY u/{id?}", [⟨"id", true⟩], "web.php", 3⟩
    let get : Member := .operation ⟨"GET a", [], "web.php", 5⟩
    (∀ r ∈ routes, LeavesCollections r) ∧
      ∃ doc, Document.ofRoutes "app" false routes = .ok doc ∧
        doc.paths = [("/a", [("get", get)]),
          ("/u/{id}", [
            ("x-resource-collection",
              .collections [⟨"resource", "web.php", 1⟩, ⟨"apiresource", "web.php", 4⟩]),
            ("post", post), ("get", any), ("put", any), ("patch", any), ("delete", any),
            ("options", any)])] ∧
        doc.paths.keys.Pairwise (· < ·) ∧
        (∀ path, path ∈ doc.paths.keys ↔ ∃ r ∈ retained false routes, itemPath r = path) ∧
        ∀ path item, (path, item) ∈ doc.paths →
          item.Gathers ((retained false routes).filter (itemPath · = path)) := by
  intro routes post any get
  have hleaves : ∀ r ∈ routes, LeavesCollections r := by decide
  have hpaths : (retained false routes).foldlM addRoute [] =
      .ok [("/u/{id}", [
          ("x-resource-collection",
            .collections [⟨"resource", "web.php", 1⟩, ⟨"apiresource", "web.php", 4⟩]),
          ("post", post), ("get", any), ("put", any), ("patch", any), ("delete", any),
          ("options", any)]),
        ("/a", [("get", get)])] := by decide +kernel
  obtain ⟨doc, hdoc, hgathers⟩ := ofRoutes_gathers "app" false hleaves
  refine ⟨hleaves, doc, hdoc, ?_, hgathers⟩
  rw [Document.ofRoutes, hpaths] at hdoc
  rw [← Except.ok.inj hdoc]
  simp +decide [Ledger.sorted, List.mergeSort, List.MergeSort.Internal.splitInTwo]

end RoutePaths.OpenApi
