import RoutePaths.Ledger

/-!
# RoutePaths.Disk.Tree

Trees of files and folders, without links.  A place in a tree is the list of
names on the way to it:

1. `get?` is the node at a place;
2. `put` puts a node at a place and makes the folders on the way to it;
3. `remove` takes the node at a place away and leaves all else as it is;
4. `filesBelow` lists the places of files, in every folder the files first and
   then what is in its folders, both by name.
-/

namespace RoutePaths.Disk

/-- A file or a folder. -/
inductive Node where
  | file (bytes : List UInt8)
  | folder (entries : List (String × Node))
  deriving Inhabited

namespace Node

/-- Whether a node is a folder. -/
def isFolder : Node → Bool
  | file _ => false
  | folder _ => true

/-- The entries of a folder; a file has none. -/
def entries : Node → Ledger String Node
  | file _ => []
  | folder es => es

/-- The node at a place. -/
def get? : Node → List String → Option Node
  | node, [] => some node
  | file _, _ :: _ => none
  | folder es, name :: rest =>
    match Ledger.get? es name with
    | none => none
    | some child => child.get? rest

/-- The tree with a node at a place.  A file on the way gives way to a folder. -/
def put : Node → List String → Node → Node
  | _, [], new => new
  | node, name :: rest, new =>
    folder (Ledger.put node.entries name
      (((Ledger.get? node.entries name).getD (folder [])).put rest new))

/-- The tree without the node at a place. -/
def remove : Node → List String → Node
  | node, [] => node
  | file bytes, _ :: _ => file bytes
  | folder es, [name] => folder (Ledger.erase es name)
  | folder es, name :: rest =>
    match Ledger.get? es name with
    | none => folder es
    | some child => folder (Ledger.put es name (child.remove rest))

/-! ## Listing -/

/-- The names of the files among entries. -/
def fileNames (es : List (String × Node)) : List String :=
  es.filterMap fun (name, node) => if node.isFolder then none else some name

mutual

/-- The places of the files in a tree. -/
def filesBelow : Node → List (List String)
  | file _ => []
  | folder es =>
    ((fileNames es).mergeSort fun a b => decide (a ≤ b)).map ([·])
      ++ (Ledger.sorted (foldersOf es)).flatMap fun (name, places) => places.map (name :: ·)

/-- The folders among entries, each with the places of the files in it. -/
def foldersOf : List (String × Node) → List (String × List (List String))
  | [] => []
  | (name, node) :: es =>
    if node.isFolder then (name, filesBelow node) :: foldersOf es else foldersOf es

end

end Node

end RoutePaths.Disk
