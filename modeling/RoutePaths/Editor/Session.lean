import RoutePaths.Editor.Handle
import RoutePaths.Marker
import RoutePaths.Route.Resolve
import RoutePaths.RouteFile

/-!
# RoutePaths.Editor.Session

A session shows the markers of routes files while it is enabled.  Refreshing a
document replaces its decorations by one marker for each of its routes, or
takes them away if it is no routes file or the session is disabled.
-/

namespace RoutePaths.Editor

/-- How markers look and how long the editor waits before it looks again. -/
structure Config where
  glyph : String := Marker.defaultGlyph
  label : String := Marker.defaultLabel
  /-- The waiting time in milliseconds. -/
  debounce : Int := 500
  deriving Repr, DecidableEq, Inhabited

/-- A document as it stood at some moment. -/
structure Document where
  id : String
  fileName : Option String
  text : String
  deriving Repr, DecidableEq, Inhabited

/-- Whether a document is a routes file. -/
def Document.isRouteFile (doc : Document) : Bool := doc.fileName.any RouteFile.isRouteFile

/-- The routes of a document. -/
def Document.routes (doc : Document) : List Route :=
  Route.resolve ((doc.fileName.map RouteFile.basePrefix).getD "") "" doc.text

/-- A handle with what is shown in it and how. -/
structure Session where
  handle : Handle
  config : Config := {}
  isEnabled : Bool := true
  deriving Repr, DecidableEq, Inhabited

namespace Session

/-- The markers of the routes of a document. -/
def markers (s : Session) (doc : Document) : List Decoration :=
  doc.routes.map fun r => ⟨r.lineIndex, Marker.text s.config.glyph s.config.label r⟩

/-- The message that tells whether the session is enabled. -/
def status (s : Session) : String :=
  "Laravel Route annotations " ++ if s.isEnabled then "enabled" else "disabled"

/-- Enable a disabled session, or disable an enabled one and clear what it
shows; it is disabled even if the handle cannot be cleared. -/
def toggle (s : Session) : Except HandleError String × Session :=
  let flipped := { s with isEnabled := !s.isEnabled }
  if s.isEnabled then
    match flipped.handle.clearAll with
    | .error e => (.error e, flipped)
    | .ok handle => (.ok flipped.status, { flipped with handle })
  else (.ok flipped.status, flipped)

/-- Show the markers of a document as it stands. -/
def refresh (s : Session) (doc : Document) : Except HandleError (List Decoration × Session) :=
  if s.isEnabled && doc.isRouteFile then
    (s.handle.set doc.id (s.markers doc)).map fun handle => (s.markers doc, { s with handle })
  else (s.handle.clear doc.id).map fun handle => ([], { s with handle })

/-- Show nothing more for a document. -/
def close (s : Session) (doc : Document) : Except HandleError Session :=
  (s.handle.clear doc.id).map fun handle => { s with handle }

end Session

end RoutePaths.Editor
