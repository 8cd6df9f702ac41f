import RoutePaths.Proofs.Json.RoundTrip
import RoutePaths.Proofs.OpenApi.Grouping

/-!
# RoutePaths.Proofs.OpenApi.JsonText

The JSON text of a document.  No object of a document has a name twice: the names
of operations and declarations are fixed, and those of items and paths are the keys
of what the routes were gathered into (`Document.wellKeyed_toJson`).  So the text
of a document is the document (`text_spells_document`).
-/

namespace RoutePaths

open JsonOf (WellKeyed)
open Text.CodePoints (ofString)

namespace OpenApi

variable {routes : List Route}

/-! ## names of fields -/

theorem Parameter.wellKeyed_toJson (p : Parameter) : p.toJson.WellKeyed := by
  have hschema : WellKeyed (.object [("type", JsonOf.string "string")]) :=
    .object (List.nodup_singleton _) (by simp [WellKeyed.string])
  refine .object ?_ ?_
  · cases p.isOptional
    · exact (by decide : ["name", "in", "required", "schema"].Nodup)
    · exact (by decide : ["name", "in", "required", "schema", "x-optional"].Nodup)
  · cases p.isOptional <;> simp [WellKeyed.string, WellKeyed.bool, hschema]

theorem Operation.wellKeyed_toJson (op : Operation) : op.toJson.WellKeyed := by
  have hok : WellKeyed (.object [("description", JsonOf.string "OK")]) :=
    .object (List.nodup_singleton _) (by simp [WellKeyed.string])
  have hresponses : WellKeyed (.object [("200", .object [("description", JsonOf.string "OK")])]) :=
    .object (List.nodup_singleton _) (by simp [hok])
  have hline : WellKeyed (JsonOf.int op.sourceLine : Json) := .number _
  have hparameters : WellKeyed (.array (op.parameters.map Parameter.toJson)) :=
    .array (List.forall_mem_map.mpr fun p _ => p.wellKeyed_toJson)
  refine .object ?_ ?_
  · by_cases hnone : op.parameters = []
    · rw [if_pos hnone]
      exact (by decide : ["summary", "responses", "x-source-file", "x-source-line"].Nodup)
    · rw [if_neg hnone]
      exact (by decide :
        ["summary", "responses", "x-source-file", "x-source-line", "parameters"].Nodup)
  · by_cases hnone : op.parameters = []
    · simp [hnone, WellKeyed.string, hresponses, hline]
    · simp [hnone, WellKeyed.string, hresponses, hline, hparameters]

theorem Collection.wellKeyed_toJson (c : Collection) : c.toJson.WellKeyed := by
  have hline : WellKeyed (JsonOf.int c.sourceLine : Json) := .number _
  exact .object (by decide : ["kind", "x-source-file", "x-source-line"].Nodup)
    (by simp [WellKeyed.string, hline])

theorem Member.wellKeyed_toJson (m : Member) : m.toJson.WellKeyed := by
  cases m with
  | operation op => exact op.wellKeyed_toJson
  | collections list => exact .array (List.forall_mem_map.mpr fun c _ => c.wellKeyed_toJson)

/-- An item without repeated keys makes an object without them. -/
theorem PathItem.wellKeyed_toJson {item : PathItem} (h : item.keys.Nodup) :
    item.toJson.WellKeyed := by
  refine .object ?_ (List.forall_mem_map.mpr fun pair _ => pair.2.wellKeyed_toJson)
  rwa [Ledger.keys, List.map_map]

/-- **No object of a document has a name twice**, if no item and no path has. -/
theorem Document.wellKeyed_toJson {doc : Document} (hpaths : doc.paths.keys.Nodup)
    (hitems : ∀ pair ∈ doc.paths, pair.2.keys.Nodup) : doc.toJson.WellKeyed := by
  have hinfo : WellKeyed (.object [("title", JsonOf.string (doc.repoName ++ " routes")),
      ("version", .string "1.0.0"),
      ("description", .string "Generated by laravel-route-paths 0.1.0")]) :=
    .object (by decide : ["title", "version", "description"].Nodup) (by simp [WellKeyed.string])
  refine .object (by decide : ["openapi", "info", "paths"].Nodup) ?_
  refine List.forall_mem_cons.mpr ⟨.string _, List.forall_mem_cons.mpr ⟨hinfo,
    List.forall_mem_singleton.mpr (.object ?_ (List.forall_mem_map.mpr fun pair hmem =>
      PathItem.wellKeyed_toJson (hitems pair hmem)))⟩⟩
  rwa [Ledger.keys, List.map_map]

/-! ## documents of routes -/

/-- Routes whose methods leave the key of resource declarations alone have a
document in which no object has a name twice. -/
theorem exists_wellKeyed_document (repoName : String) (excludeResources : Bool)
    (hleaves : ∀ r ∈ routes, LeavesCollections r) :
    ∃ doc, Document.ofRoutes repoName excludeResources routes = .ok doc ∧
      doc.toJson.WellKeyed := by
  obtain ⟨doc, hdoc, hincrease, -, hgathers⟩ :=
    ofRoutes_gathers repoName excludeResources hleaves
  refine ⟨doc, hdoc, Document.wellKeyed_toJson ?_ fun pair hmem => ?_⟩
  · exact hincrease.imp Std.ne_of_lt
  · rw [(hgathers pair.1 pair.2 hmem).keys]
    exact nodup_eraseDups _

/-- **The text of a document is the document.**  Routes with any texts and lines,
whose methods leave the key of resource declarations alone, have a document; its
JSON text is ASCII, and spells the document: the code points of every string, every
integer, and all fields in their order. -/
theorem text_spells_document (repoName : String) (excludeResources : Bool)
    (hleaves : ∀ r ∈ routes, LeavesCollections r) :
    ∃ doc, Document.ofRoutes repoName excludeResources routes = .ok doc ∧
      Json.IsAscii (Json.print doc.toJson).toList ∧
      Json.parse? none (Json.print doc.toJson).toList = some (doc.toJson.mapStrings ofString) ∧
      (Json.parse? none (Json.print doc.toJson).toList).map Json.withTexts = some doc.toJson := by
  obtain ⟨doc, hdoc, hkeyed⟩ := exists_wellKeyed_document repoName excludeResources hleaves
  have hascii : Json.IsAscii (Json.print doc.toJson).toList := by
    rw [Json.print, String.toList_ofList]
    exact Json.isAscii_printAt 0 doc.toJson
  have hspells := Json.parse?_print hkeyed
  refine ⟨doc, hdoc, hascii, hspells, ?_⟩
  rw [hspells, Option.map_some, Json.withTexts_mapStrings]

/-- Quotes, backslashes, control characters and characters of other planes, lines
of either sign, an operation of any method and a resource declaration. -/
theorem text_spells_document_characters :
    let routes : List Route :=
      [⟨1000000000000000000000000000000, "GET", "a\"b\\c/{id?}", "/a\"b\\c/{id?}", "",
          "routes/é\n.php"⟩,
        ⟨-5, "ANY", "𝒜\x7f", "/𝒜\x7f/{x}", "", "\x00\t😀"⟩,
        ⟨0, "RESOURCE", "photos", "/photos", "", ""⟩, ⟨-1, "İ", "", "", "", ""⟩]
    (∀ r ∈ routes, LeavesCollections r) ∧
      ∃ doc, Document.ofRoutes "\"app\" 😀" false routes = .ok doc ∧
        Json.IsAscii (Json.print doc.toJson).toList ∧
        Json.parse? none (Json.print doc.toJson).toList = some (doc.toJson.mapStrings ofString) ∧
        (Json.parse? none (Json.print doc.toJson).toList).map Json.withTexts = some doc.toJson := by
  intro routes
  have hleaves : ∀ r ∈ routes, LeavesCollections r := by decide
  exact ⟨hleaves, text_spells_document "\"app\" 😀" false hleaves⟩

end OpenApi

end RoutePaths
