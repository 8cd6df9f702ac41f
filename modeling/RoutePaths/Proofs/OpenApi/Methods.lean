import RoutePaths.Proofs.OpenApi.Parameters

/-!
# RoutePaths.Proofs.OpenApi.Methods

The keys of a path item are those that its routes come to
(`Gathered.forall_keys_iff`), and a route comes to them by its method alone.  So
they are verbs, or the key of resource declarations, exactly as long as the
methods are the fixed ones: as long as no verb is spelled with a dotted capital I
(`methods_fixed_iff_undotted`).
-/

namespace RoutePaths.Text

/-- The dot above a letter, as a character of its own. -/
def dotAbove : Char := Char.ofNat 0x307

/-- In lower case, the dot of a dotted capital I stands behind the letter. -/
theorem dotAbove_mem_lowerFrom {s : List Char} (h : dottedI ∈ s) (inWord : Bool) :
    dotAbove ∈ lowerFrom inWord s := by
  induction s generalizing inWord with
  | nil => contradiction
  | cons c s ih =>
    rw [lowerFrom, List.mem_append]
    rcases List.mem_cons.mp h with rfl | h
    · have hlower : lowerChar dottedI = ['i', dotAbove] := by decide
      rw [if_neg (by decide), hlower]
      exact .inl (by decide)
    · exact .inr (ih h _)

end RoutePaths.Text

namespace RoutePaths.OpenApi

open Text (dottedI dotAbove)

variable {routes : List Route} {r : Route} {paths : Ledger String PathItem} {item : PathItem}
  {key base sourceFile text : String}

/-! ## the keys of a route -/

/-- The keys that a path item may have. -/
def IsItemKey (key : String) : Prop := key ∈ verbs ∨ key = collectionKey

instance (key : String) : Decidable (IsItemKey key) := inferInstanceAs (Decidable (_ ∨ _))

theorem IsItemKey.dotAbove_not_mem (h : IsItemKey key) : dotAbove ∉ key.toList := by
  have hplain : ∀ key ∈ verbs ++ [collectionKey], dotAbove ∉ key.toList := by decide
  exact hplain key (by simpa [IsItemKey] using h)

theorem isItemKey_of_mem_memberKeys (hmethod : r.method ∈ Route.methods)
    (hkey : key ∈ memberKeys r) : IsItemKey key := by
  have hall : ∀ method ∈ Route.methods,
      ∀ key ∈ memberKeys { (default : Route) with method }, IsItemKey key := by
    decide
  exact hall r.method hmethod key hkey

/-- A route whose method is none of the fixed ones is no resource declaration. -/
theorem isResource_eq_false (h : r.method ∉ Route.methods) : r.isResource = false := by
  have hmethods : Route.resourceMethods ⊆ Route.methods := by decide
  rw [← Bool.not_eq_true, Route.isResource, List.contains_iff_mem]
  exact fun hmem => h (hmethods hmem)

/-- **The keys of a route are the usual ones** exactly if its method is. -/
theorem forall_memberKeys_iff (h : r ∈ Route.resolve base sourceFile text) :
    (∀ key ∈ memberKeys r, IsItemKey key) ↔ dottedI ∉ r.method.toList := by
  have hfixed := Route.mem_methods_iff h
  refine ⟨fun hkeys hdot => ?_, fun hdot key hkey =>
    isItemKey_of_mem_memberKeys (hfixed.mpr hdot) hkey⟩
  have hmethod : r.method ∉ Route.methods := fun hmem => hfixed.mp hmem hdot
  have hany : r.method ≠ "ANY" := by
    intro hany
    exact hmethod (by rw [hany]; decide)
  have hmember : memberKeys r = [String.ofList (Text.lower r.method.toList)] := by
    rw [memberKeys, isResource_eq_false hmethod, if_neg Bool.false_ne_true, methodKeys, if_neg hany]
  have hkey := (hkeys _ (hmember ▸ List.mem_singleton_self _)).dotAbove_not_mem
  rw [String.toList_ofList] at hkey
  exact hkey (Text.dotAbove_mem_lowerFrom hdot false)

/-! ## the keys of an item -/

/-- **The keys of a document** are those that its routes come to. -/
theorem Gathered.forall_keys_iff (h : Gathered paths routes) {P : String → Prop} :
    (∀ path item, (path, item) ∈ paths.sorted → ∀ key ∈ item.keys, P key) ↔
      ∀ r ∈ routes, ∀ key ∈ memberKeys r, P key := by
  constructor
  · intro hkeys r hr key hkey
    obtain ⟨item, hmem, hitem⟩ := h.exists_item hr
    exact hkeys _ item hmem key ((h.gathers hmem).mem_keys_iff.mpr ⟨r, hitem, hkey⟩)
  · intro hroutes path item hmem key hkey
    obtain ⟨r, hr, hkey⟩ := (h.gathers hmem).mem_keys_iff.mp hkey
    exact hroutes r (List.mem_filter.mp hr).1 key hkey

/-- **Methods come from the fixed set**, resource declarations are taken for such,
and the keys of path items are verbs or that of resource declarations, exactly
where no method has a dotted capital I; and only a text with one gives it to a
method. -/
theorem methods_fixed_iff_undotted (repoName : String) (excludeResources : Bool)
    (base sourceFile text : String) :
    (∀ r ∈ Route.resolve base sourceFile text,
      (∃ verb ∈ Call.verbs, r.DeclaredWith verb) ∧
      (r.method ∈ Route.methods ↔ dottedI ∉ r.method.toList) ∧
      (r.DeclaredWith "apiResource".toList ∨ r.DeclaredWith "resource".toList →
        (r.isResource ↔ dottedI ∉ r.method.toList)) ∧
      (dottedI ∈ r.method.toList → dottedI ∈ text.toList)) ∧
    ∃ doc,
      Document.ofRoutes repoName excludeResources (Route.resolve base sourceFile text) = .ok doc ∧
      ((∀ path item, (path, item) ∈ doc.paths →
          ∀ key ∈ item.keys, key ∈ verbs ∨ key = collectionKey) ↔
        ∀ r ∈ Route.resolve base sourceFile text, dottedI ∉ r.method.toList) := by
  refine ⟨fun r hr => ⟨Route.exists_declaredWith hr, Route.mem_methods_iff hr,
    Route.isResource_iff, Route.dottedI_mem_of_mem_method hr⟩, ?_⟩
  have hleaves : ∀ r ∈ Route.resolve base sourceFile text, LeavesCollections r := fun r hr =>
    leavesCollections_of_mem_resolve hr
  obtain ⟨paths, hgathered, hdoc⟩ := exists_document repoName excludeResources hleaves
  refine ⟨_, hdoc, hgathered.forall_keys_iff.trans ⟨fun hkeys r hr hdot => ?_, fun hdot r hr => ?_⟩⟩
  · -- A dotted method is none of a resource declaration, so its route is never left out.
    have hmethod : r.method ∉ Route.methods := fun hmem => (Route.mem_methods_iff hr).mp hmem hdot
    have hretained : r ∈ retained excludeResources (Route.resolve base sourceFile text) :=
      List.mem_filter.mpr ⟨hr, by simp [isResource_eq_false hmethod]⟩
    exact (forall_memberKeys_iff hr).mp (hkeys r hretained) hdot
  · have hr := (List.mem_filter.mp hr).1
    exact (forall_memberKeys_iff hr).mpr (hdot r hr)

/-- A dotted capital I is read as an i, and stays one in upper case: a resource
declaration is then taken for a route with a method of its own. -/
theorem dotted_resource_not_recognised :
    let routes := Route.resolve "" "" "Route::ap\u0130Resource('photos', PhotoController::class);"
    (∃ r ∈ routes, r.DeclaredWith "apiResource".toList ∧ r.method ∉ Route.methods ∧
      r.isResource = false) ∧
    ∃ doc, Document.ofRoutes defaultRepoName false routes = .ok doc ∧
      ∃ path item, (path, item) ∈ doc.paths ∧
        ∃ key ∈ item.keys, ¬ (key ∈ verbs ∨ key = collectionKey) := by
  intro routes
  let r : Route := ⟨0, "AP\u0130RESOURCE", "photos", "/photos", "", ""⟩
  have hroutes : routes = [r] := by decide +kernel
  have hretained : r ∈ retained false routes := by
    rw [hroutes]
    decide
  have hdeclared : r.DeclaredWith "apiResource".toList :=
    ⟨"ap\u0130Resource".toList, by decide, by decide⟩
  have hleaves : ∀ r ∈ routes, LeavesCollections r := fun r hr =>
    leavesCollections_of_mem_resolve hr
  obtain ⟨paths, hgathered, hdoc⟩ := exists_document defaultRepoName false hleaves
  obtain ⟨item, hmem, hitem⟩ := hgathered.exists_item hretained
  refine ⟨⟨r, (List.mem_filter.mp hretained).1, hdeclared, by decide, by decide⟩, _, hdoc,
    itemPath r, item, hmem, "api\u0307resource", ?_, by decide⟩
  exact (hgathered.gathers hmem).mem_keys_iff.mpr ⟨r, hitem, by decide +kernel⟩

end RoutePaths.OpenApi
