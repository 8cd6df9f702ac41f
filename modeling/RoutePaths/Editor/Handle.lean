import RoutePaths.Ledger

/-!
# RoutePaths.Editor.Handle

The decorations that an editor shows at the ends of lines, per document.  They
belong to a handle, which has to be acquired before it is used and shows
nothing any more once it is released.
-/

namespace RoutePaths.Editor

/-- A text at the end of a line. -/
structure Decoration where
  lineIndex : Int
  text : String
  deriving Repr, DecidableEq, Inhabited

/-- Why an operation on decorations fails. -/
inductive HandleError where
  /-- The handle is not acquired. -/
  | released
  deriving Repr, DecidableEq, Inhabited

/-- The wording of an error. -/
def HandleError.message : HandleError → String
  | released => "Decoration handle used after release"

/-- The decorations of every document while the handle is acquired. -/
structure Handle where
  shown : Option (Ledger String (List Decoration)) := none
  deriving Repr, DecidableEq, Inhabited

namespace Handle

/-- Whether the handle is acquired. -/
def isActive (h : Handle) : Bool := h.shown.isSome

/-- The handle acquired; one that is acquired already stays as it is. -/
def acquire (h : Handle) : Handle := ⟨some (h.shown.getD [])⟩

/-- The handle released, with all it shows. -/
def release (_ : Handle) : Handle := ⟨none⟩

/-- The decorations of all documents. -/
def require (h : Handle) : Except HandleError (Ledger String (List Decoration)) :=
  match h.shown with
  | none => .error .released
  | some shown => .ok shown

/-- The handle with other decorations for a document. -/
def set (h : Handle) (id : String) (ds : List Decoration) : Except HandleError Handle :=
  h.require.map fun shown => ⟨some (shown.put id ds)⟩

/-- The decorations of a document. -/
def get (h : Handle) (id : String) : Except HandleError (List Decoration) :=
  h.require.map fun shown => (shown.get? id).getD []

/-- The handle without decorations for a document. -/
def clear (h : Handle) (id : String) : Except HandleError Handle :=
  h.require.map fun shown => ⟨some (shown.erase id)⟩

/-- The handle without decorations. -/
def clearAll (h : Handle) : Except HandleError Handle := h.require.map fun _ => ⟨some []⟩

end Handle

end RoutePaths.Editor
