import RoutePaths.Literal.Reader

/-!
# RoutePaths.Literal.Value

Expressions that are literals:

1. numbers, strings, constants and the ellipsis are literals, and so are tuples,
   sets and dicts of literals, the call that makes an empty set, a number with
   a sign, and a real number with an imaginary one added to it or taken from
   it;
2. what stands in a set or is the key of an entry holds neither a set nor a
   dict.
-/

namespace RoutePaths.Literal

/-- A value that can be changed, and therefore is no key. -/
inductive Collection where
  | set
  | dict
  deriving Repr, DecidableEq, Inhabited

/-- The name of a collection. -/
def Collection.name : Collection → String
  | set => "set"
  | dict => "dict"

/-- Why an expression is no literal. -/
inductive NoLiteral where
  /-- It computes something. -/
  | computed
  /-- It takes over the entries of a dict. -/
  | spread
  /-- A collection is used as a key. -/
  | unhashable (collection : Collection)
  deriving Repr, DecidableEq, Inhabited

/-- The wording of an error. -/
def NoLiteral.message : NoLiteral → String
  | computed => "malformed node or string"
  | spread => "malformed node or string: None"
  | unhashable collection => "unhashable type: '" ++ collection.name ++ "'"

namespace Expr

/-- The kind of a number. -/
def numberKind? (e : Expr) : Option NumberKind :=
  match e.shape with
  | .number kind => some kind
  | _ => none

/-- The kind of a number that may have a sign. -/
def signedKind? : Expr → Option NumberKind
  | mk .sign _ [e] => e.numberKind?
  | e => e.numberKind?

/-- Whether two numbers added together are a literal. -/
def isComplex (left right : Expr) : Bool :=
  left.signedKind?.any (· ≠ .imaginary) && right.numberKind? = some .imaginary

/-- Whether the parts of a call make an empty set. -/
def isEmptySet : List Expr → Bool
  | [mk .name name _] => name = "set".toList
  | _ => false

mutual

/-- The first collection that a literal holds or is. -/
def collection? : Expr → Except NoLiteral (Option Collection)
  | mk .text _ _ | mk .bytes _ _ | mk (.number _) _ _ | mk .constant _ _ | mk .ellipsis _ _ =>
    .ok none
  | mk .tuple _ parts => collectionOf? parts
  | mk .set _ parts => do
    checkKeys parts
    return some .set
  | mk .dict _ parts => do
    checkEntries parts
    return some .dict
  | mk .call _ parts => if isEmptySet parts then .ok (some .set) else .error .computed
  | mk .sign _ [e] => if e.numberKind?.isSome then .ok none else .error .computed
  | mk .sum _ [left, right] => if isComplex left right then .ok none else .error .computed
  | _ => .error .computed

/-- The first collection that literals hold or are. -/
def collectionOf? : List Expr → Except NoLiteral (Option Collection)
  | [] => .ok none
  | e :: es => do
    let first ← collection? e
    let others ← collectionOf? es
    return first.or others

/-- Literals are keys. -/
def checkKeys : List Expr → Except NoLiteral Unit
  | [] => .ok ()
  | e :: es => do
    match ← collection? e with
    | some collection => .error (.unhashable collection)
    | none => checkKeys es

/-- Entries are literals with keys. -/
def checkEntries : List Expr → Except NoLiteral Unit
  | [] => .ok ()
  | mk .pair _ [key, value] :: es => do
    let found ← collection? key
    let _ ← collection? value
    match found with
    | some collection => .error (.unhashable collection)
    | none => checkEntries es
  | _ => .error .spread

end

/-- Why an expression is no literal. -/
def noLiteral? (e : Expr) : Option NoLiteral :=
  match e.collection? with
  | .ok _ => none
  | .error e => some e

end Expr

end RoutePaths.Literal
