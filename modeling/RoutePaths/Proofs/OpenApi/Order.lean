import RoutePaths.Json.Printer
import RoutePaths.Proofs.OpenApi.Grouping

/-!
# RoutePaths.Proofs.OpenApi.Order

Which part of the order of routes a document depends on.  An item is all that the
routes of its path make of it (`PathItem.Gathers.eq`), and a document shows the
items by their paths; so routes of different paths can be moved past each other,
and only the order of those that share a path counts (`ofRoutes_eq_of_shuffled`).
-/

namespace RoutePaths.OpenApi

variable {routes others : List Route} {paths paths' : Ledger String PathItem} {path : String}

/-- Two lists have the same routes of every path in the same order. -/
def Shuffled (routes others : List Route) : Prop :=
  ∀ path, routes.filter (itemPath · = path) = others.filter (itemPath · = path)

/-! ## items -/

/-- **An item is told by the routes of its path.** -/
theorem PathItem.Gathers.eq {item item' : PathItem} (h : item.Gathers routes)
    (h' : item'.Gathers routes) : item = item' := by
  refine Ledger.eq_of_keys_eq (h.keys.trans h'.keys.symm) (h.keys ▸ nodup_eraseDups _) fun key => ?_
  by_cases hkey : key = collectionKey
  · rw [hkey, h.collections, h'.collections]
  · rw [h.operations key hkey, h'.operations key hkey]

/-! ## documents -/

theorem Shuffled.mem_iff (h : Shuffled routes others) {r : Route} : r ∈ routes ↔ r ∈ others := by
  have hown : ∀ l : List Route, r ∈ l ↔ r ∈ l.filter (itemPath · = itemPath r) := by simp
  rw [hown routes, hown others, h]

theorem Shuffled.filter (h : Shuffled routes others) (keep : Route → Bool) :
    Shuffled (routes.filter keep) (others.filter keep) := fun path => by
  have hcomm : ∀ l : List Route, (l.filter keep).filter (itemPath · = path) =
      (l.filter (itemPath · = path)).filter keep := fun l => by
    rw [List.filter_filter, List.filter_filter]
    exact List.filter_congr fun r _ => Bool.and_comm ..
  rw [hcomm, hcomm, h path]

/-- A path has an item if it has a route. -/
theorem Gathered.get?_eq_none_iff (h : Gathered paths routes) :
    paths.get? path = none ↔ routes.filter (itemPath · = path) = [] := by
  have hkeys : path ∈ paths.keys ↔ ∃ r ∈ routes, itemPath r = path := by
    rw [h.keys, List.mem_eraseDups, List.mem_map]
  constructor
  · intro hnone
    refine List.filter_eq_nil_iff.mpr fun r hr hpath => ?_
    obtain ⟨⟨_, item⟩, hmem, rfl⟩ := List.mem_map.mp (hkeys.mpr ⟨r, hr, of_decide_eq_true hpath⟩)
    rw [(Ledger.get?_eq_some_iff_mem h.nodup_keys).mpr hmem] at hnone
    contradiction
  · intro hnil
    refine Option.eq_none_iff_forall_ne_some.mpr fun item hget => ?_
    obtain ⟨r, hr, hpath⟩ := hkeys.mp (Ledger.mem_keys_of_get?_eq_some hget)
    exact List.filter_eq_nil_iff.mp hnil r hr (decide_eq_true hpath)

/-- Every path has the same item in both groupings. -/
theorem Gathered.get?_eq (h : Gathered paths routes) (h' : Gathered paths' others)
    (hshuffled : Shuffled routes others) (path : String) : paths.get? path = paths'.get? path := by
  have hnone : paths.get? path = none ↔ paths'.get? path = none := by
    rw [h.get?_eq_none_iff, h'.get?_eq_none_iff, hshuffled]
  have hitem := (h.items path).eq (hshuffled path ▸ h'.items path)
  cases hget : paths.get? path with
  | none => exact (hnone.mp hget).symm
  | some item =>
    cases hget' : paths'.get? path with
    | none => rw [hnone.mpr hget'] at hget; contradiction
    | some item' => simpa [hget, hget'] using hitem

/-- **Only the order of routes that share a path counts.**  Lists that have the
same routes of every path in the same order have one document, and so one text. -/
theorem ofRoutes_eq_of_shuffled (repoName : String) (excludeResources : Bool)
    (hleaves : ∀ r ∈ routes, LeavesCollections r) (hshuffled : Shuffled routes others) :
    ∃ doc, Document.ofRoutes repoName excludeResources routes = .ok doc ∧
      Document.ofRoutes repoName excludeResources others = .ok doc ∧
      (Document.ofRoutes repoName excludeResources routes).map (Json.print ·.toJson) =
        (Document.ofRoutes repoName excludeResources others).map (Json.print ·.toJson) := by
  obtain ⟨paths, hgathered, hdoc⟩ := exists_document repoName excludeResources hleaves
  obtain ⟨paths', hgathered', hdoc'⟩ := exists_document repoName excludeResources fun r hr =>
    hleaves r (hshuffled.mem_iff.mpr hr)
  have hpaths : paths.sorted = paths'.sorted :=
    Ledger.sorted_eq_sorted hgathered.nodup_keys hgathered'.nodup_keys
      (hgathered.get?_eq hgathered' (hshuffled.filter _))
  rw [← hpaths] at hdoc'
  exact ⟨_, hdoc, hdoc', by rw [hdoc, hdoc']⟩

/-- Three paths, of which one is spelled in two ways and the routes of another
come to the same key. -/
theorem ofRoutes_eq_of_shuffled_spellings :
    let first : Route := ⟨0, "GET", "u/{id?}", "/u/{id?}", "", ""⟩
    let second : Route := ⟨1, "ANY", "u/{id}", "/u/{id}", "", ""⟩
    let photos : Route := ⟨2, "RESOURCE", "photos", "/photos", "", ""⟩
    let index : Route := ⟨3, "GET", "photos", "/photos", "", ""⟩
    let again : Route := ⟨4, "GET", "photos", "/photos", "", "b"⟩
    let home : Route := ⟨5, "GET", "/", "/", "", ""⟩
    let routes := [first, second, photos, index, again, home]
    let others := [photos, index, home, first, again, second]
    (∀ r ∈ routes, LeavesCollections r) ∧ Shuffled routes others ∧
      ∃ doc, Document.ofRoutes "app" false routes = .ok doc ∧
        Document.ofRoutes "app" false others = .ok doc ∧
        (Document.ofRoutes "app" false routes).map (Json.print ·.toJson) =
          (Document.ofRoutes "app" false others).map (Json.print ·.toJson) := by
  intro first second photos index again home routes others
  have hleaves : ∀ r ∈ routes, LeavesCollections r := by decide
  have hshuffled : Shuffled routes others := by
    have hphotos : itemPath photos = "/photos" ∧ itemPath index = "/photos" ∧
        itemPath again = "/photos" := by decide +kernel
    have hothers : itemPath first = "/u/{id}" ∧ itemPath second = "/u/{id}" ∧
        itemPath home = "/" := by decide +kernel
    intro path
    by_cases hpath : "/photos" = path
    · subst hpath
      simp [routes, others, hphotos, hothers]
    · by_cases hpath' : "/u/{id}" = path
      · subst hpath'
        simp [routes, others, hphotos, hothers]
      · simp [routes, others, List.filter_cons, hphotos, hothers, hpath, hpath']
  exact ⟨hleaves, hshuffled, ofRoutes_eq_of_shuffled "app" false hleaves hshuffled⟩

end RoutePaths.OpenApi
