import RoutePaths.Proofs.OpenApi.Order

/-!
# RoutePaths.Proofs.OpenApi.Excluded

Leaving resource declarations out.  It makes no difference when that is done
(`exclude_commutes`): before the routes are looked at, while they are gathered, or
in the document that has them all, where their key is taken away from every item
and the items that have nothing else go with it.

Item by item, this is that a list of declarations has a key of its own, which no
other route comes to (`PathItem.Gathers.withoutCollections`); and an item goes
exactly if its routes are all resource declarations.
-/

namespace RoutePaths.OpenApi

variable {routes : List Route} {paths paths' : Ledger String PathItem} {path : String}
  {item : PathItem}

/-! ## without resource declarations -/

/-- The routes that are no resource declarations. -/
def expandable (routes : List Route) : List Route := routes.filter (!·.isResource)

/-- The item without the list of resource declarations. -/
def PathItem.withoutCollections (item : PathItem) : PathItem := item.erase collectionKey

/-- The items without the lists of resource declarations, less those that have
nothing else. -/
def withoutCollections (paths : Ledger String PathItem) : Ledger String PathItem :=
  (paths.map fun (path, item) => (path, item.withoutCollections)).filter (·.2 ≠ [])

/-- The document without resource declarations. -/
def Document.withoutCollections (doc : Document) : Document :=
  { doc with paths := OpenApi.withoutCollections doc.paths }

theorem retained_true (routes : List Route) : retained true routes = expandable routes := by
  simp [retained, expandable]

theorem retained_false (routes : List Route) : retained false routes = routes := by
  simp [retained]

/-- There is nothing more to leave out. -/
theorem retained_expandable (excludeResources : Bool) (routes : List Route) :
    retained excludeResources (expandable routes) = expandable routes := by
  cases excludeResources <;> simp [retained, expandable]

/-- Leaving out resources and any other choice can be made in either order. -/
theorem expandable_filter_comm (routes : List Route) (keep : Route → Bool) :
    expandable (routes.filter keep) = (expandable routes).filter keep := by
  simp [expandable, List.filter_filter, Bool.and_comm]

/-! ## items -/

/-- Only resource declarations come to their key. -/
theorem filter_memberKeys (hleaves : ∀ r ∈ routes, LeavesCollections r) :
    (routes.flatMap memberKeys).filter (· ≠ collectionKey) =
      (expandable routes).flatMap memberKeys := by
  induction routes with
  | nil => rfl
  | cons r routes ih =>
    have hrest := ih fun r' hr' => hleaves r' (List.mem_cons_of_mem r hr')
    rw [List.flatMap_cons, List.filter_append, hrest]
    cases hresource : r.isResource with
    | true => simp [memberKeys, expandable, hresource]
    | false =>
      have hkeys : ∀ key ∈ methodKeys r, key ≠ collectionKey := by
        rintro key hkey rfl
        exact (hleaves r List.mem_cons_self).not_mem_methodKeys hkey
      have hown : (memberKeys r).filter (· ≠ collectionKey) = memberKeys r := by
        simpa [memberKeys, hresource] using hkeys
      rw [hown]
      simp [expandable, hresource]

/-- **The item without resource declarations** is that of the other routes. -/
theorem PathItem.Gathers.withoutCollections (h : item.Gathers routes)
    (hleaves : ∀ r ∈ routes, LeavesCollections r) :
    item.withoutCollections.Gathers (expandable routes) where
  keys := by
    rw [PathItem.withoutCollections, Ledger.keys_erase, h.keys, filter_eraseDups,
      filter_memberKeys hleaves]
  operations key hkey := by
    have hfirst : (expandable routes).find? (gives key) = routes.find? (gives key) := by
      rw [expandable, List.find?_filter]
      congr 1
      funext r
      simp [gives]
    rw [PathItem.withoutCollections, Ledger.get?_erase_of_ne _ hkey, h.operations key hkey, hfirst]
  collections := by
    rw [PathItem.withoutCollections, Ledger.get?_erase_self, if_pos (by simp [expandable])]

/-! ## documents -/

/-- What is left has its keys in the order in which they stood. -/
theorem keys_withoutCollections_sublist (paths : Ledger String PathItem) :
    (OpenApi.withoutCollections paths).keys.Sublist paths.keys := by
  have hkeys : Ledger.keys (paths.map fun (path, item) => (path, item.withoutCollections)) =
      paths.keys := by
    simp [Ledger.keys, Function.comp_def]
  rw [← hkeys]
  exact List.filter_sublist.map Prod.fst

/-- What is left of the items is what the other routes make of them. -/
theorem Gathered.mem_withoutCollections_iff (h : Gathered paths routes)
    (h' : Gathered paths' (expandable routes)) (hleaves : ∀ r ∈ routes, LeavesCollections r) :
    (path, item) ∈ OpenApi.withoutCollections paths.sorted ↔ (path, item) ∈ paths'.sorted := by
  have hgathers : ∀ {path item}, (path, item) ∈ paths.sorted →
      item.withoutCollections.Gathers ((expandable routes).filter (itemPath · = path)) := by
    intro path item hmem
    rw [← expandable_filter_comm]
    exact (h.gathers hmem).withoutCollections fun r hr => hleaves r (List.mem_filter.mp hr).1
  have hleft : (path, item) ∈ OpenApi.withoutCollections paths.sorted ↔
      ∃ whole, (path, whole) ∈ paths.sorted ∧ whole.withoutCollections = item ∧ item ≠ [] := by
    simp only [OpenApi.withoutCollections, List.mem_filter, List.mem_map, Prod.exists,
      Prod.mk.injEq, decide_eq_true_eq]
    grind
  rw [hleft]
  constructor
  · rintro ⟨whole, hmem, rfl, hne⟩
    -- Something is left only if some other route came to the item.
    obtain ⟨r, hown⟩ := List.exists_mem_of_ne_nil _ (mt (hgathers hmem).eq_nil_iff.mpr hne)
    obtain ⟨hr, hpath⟩ := List.mem_filter.mp hown
    obtain rfl := of_decide_eq_true hpath
    obtain ⟨item', hmem', -⟩ := h'.exists_item hr
    rwa [(hgathers hmem).eq (h'.gathers hmem')]
  · intro hmem'
    obtain ⟨r, hr, rfl⟩ := h'.mem_keys_iff.mp (List.mem_map_of_mem hmem')
    obtain ⟨whole, hmem, -⟩ := h.exists_item (List.mem_filter.mp hr).1
    refine ⟨whole, hmem, (hgathers hmem).eq (h'.gathers hmem'), ?_⟩
    refine mt (h'.gathers hmem').eq_nil_iff.mp (List.ne_nil_of_mem (List.mem_filter.mpr ⟨hr, ?_⟩))
    exact decide_eq_true rfl

/-- **Leaving resource declarations out** of the document, while it is built or
before it is built comes to the same, also in the order of all keys. -/
theorem exclude_commutes (repoName : String) (hleaves : ∀ r ∈ routes, LeavesCollections r) :
    ∃ doc, Document.ofRoutes repoName false routes = .ok doc ∧
      Document.ofRoutes repoName true routes = .ok doc.withoutCollections ∧
      ∀ excludeResources, Document.ofRoutes repoName excludeResources (expandable routes) =
        .ok doc.withoutCollections := by
  obtain ⟨paths, hgathered, hdoc⟩ := exists_document repoName false hleaves
  obtain ⟨paths', hgathered', hdoc'⟩ := exists_document repoName true hleaves
  rw [retained_false] at hgathered
  rw [retained_true] at hgathered'
  have hpaths : paths'.sorted = OpenApi.withoutCollections paths.sorted :=
    Ledger.eq_of_pairwise_keys (Ledger.pairwise_keys_sorted hgathered'.nodup_keys)
      ((Ledger.pairwise_keys_sorted hgathered.nodup_keys).sublist
        (keys_withoutCollections_sublist _))
      fun _ => (hgathered.mem_withoutCollections_iff hgathered' hleaves).symm
  rw [hpaths] at hdoc'
  refine ⟨_, hdoc, hdoc', fun excludeResources => Eq.trans ?_ hdoc'⟩
  rw [Document.ofRoutes, Document.ofRoutes, retained_expandable, retained_true]

/-- A path that only has resource declarations, one that has both, and one that
has none. -/
theorem exclude_commutes_mixed :
    let routes : List Route :=
      [⟨0, "RESOURCE", "photos", "/photos", "", ""⟩,
        ⟨1, "APIRESOURCE", "u/{id?}", "/u/{id?}", "", ""⟩,
        ⟨2, "ANY", "u/{id}", "/u/{id}", "", ""⟩, ⟨3, "RESOURCE", "u/{id}", "/u/{id}", "", "b"⟩,
        ⟨4, "GET", "a", "/a", "", ""⟩]
    (∀ r ∈ routes, LeavesCollections r) ∧
      ∃ doc, Document.ofRoutes "app" false routes = .ok doc ∧
        Document.ofRoutes "app" true routes = .ok doc.withoutCollections ∧
        ∀ excludeResources, Document.ofRoutes "app" excludeResources (expandable routes) =
          .ok doc.withoutCollections := by
  intro routes
  have hleaves : ∀ r ∈ routes, LeavesCollections r := by decide
  exact ⟨hleaves, exclude_commutes "app" hleaves⟩

end RoutePaths.OpenApi
