import RoutePaths.Console.Handler
import RoutePaths.Console.Styled

/-!
# RoutePaths.Console.Markup

Texts with style tags.  On a console without colours only the text remains:

1. a tag is a name in brackets that begins with a lower-case letter, a number
   sign, a slash or an at sign, and holds no bracket; other brackets are text;
   what stands behind an equals sign are the arguments of the tag;
2. backslashes before a tag stand for half as many, and one left over makes
   the tag text; a backslash before a bracket that begins no tag is dropped;
3. a tag whose name begins with a slash closes the innermost open tag of the
   same style, or the innermost at all if no name follows; it is an error if
   there is none;
4. a tag whose name begins with an at sign handles an event; its arguments are
   read when it is closed;
5. in a text between tags the codes of emoji stand for characters; which ones,
   is up to the console;
6. control characters that ring, go back, or move down are dropped.

What is drawn takes a console with its way to read such texts (`Screen`); this is
the one that a console has unless another is given.
-/

namespace RoutePaths.Console

/-! ## Errors -/

/-- Why a text cannot be shown. -/
inductive MarkupError where
  /-- A closing tag names a style that is not open. -/
  | unmatched (tag : String) (position : Nat)
  /-- A closing tag without a name stands where nothing is open. -/
  | nothingOpen (position : Nat)
  /-- The arguments of a handler cannot be read. -/
  | handler (e : HandlerError)
  /-- The parts of a colour cannot be read. -/
  | colour (e : ColourError)
  deriving Repr, DecidableEq, Inhabited

namespace MarkupError

/-- The wording of an error. -/
def message : MarkupError → String
  | unmatched tag position =>
    "closing tag '[" ++ tag ++ "]' at position " ++ toString position
      ++ " doesn't match any open tag"
  | nothingOpen position =>
    "closing tag '[/]' at position " ++ toString position ++ " has nothing to close"
  | handler e => e.message
  | colour e => e.message

end MarkupError

/-! ## Reading tags -/

/-- Whether a character may begin a tag. -/
def beginsTag (c : Char) : Bool :=
  ('a' ≤ c && c ≤ 'z') || c = '#' || c = '/' || c = '@'

/-- Backslashes, the text of a tag behind them, and the text after the tag. -/
def tag? (s : List Char) : Option (Nat × List Char × List Char) :=
  match s.dropWhile (· = '\\') with
  | '[' :: c :: t =>
    if beginsTag c then
      match t.dropWhile fun d => d ≠ '[' ∧ d ≠ ']' with
      | ']' :: rest =>
        some ((s.takeWhile (· = '\\')).length, c :: t.takeWhile (fun d => d ≠ '[' ∧ d ≠ ']'), rest)
      | _ => none
    else none
  | _ => none

/-- A part of a text with tags. -/
inductive Piece where
  /-- What is no tag: a part of the text between two tags, or what an escape
  stands for, which is a text by itself. -/
  | text (chars : List Char) (isPart : Bool)
  /-- The text between the brackets, and where the opening bracket stands. -/
  | tag (chars : List Char) (position : Nat)
  deriving Repr, DecidableEq

/-- The pieces that a text at a position begins with, and how many characters
behind its first they take. -/
def firstPieces (position : Nat) (c : Char) (rest : List Char) : List Piece × Nat :=
  match tag? (c :: rest) with
  | some (slashes, name, behind) =>
    let kept := List.replicate (slashes / 2) '\\'
    let last : Piece :=
      if slashes % 2 = 1 then .text ('[' :: name ++ [']']) false
      else .tag name (position + 2 * (slashes / 2))
    (if kept = [] then [last] else [.text kept false, last], rest.length - behind.length)
  | none =>
    if c = '\\' && rest.head? = some '[' then ([.text ['['] true], 1)
    else ([.text [c] true], 0)

/-- The pieces of a text that begins at a position. -/
def pieces (position : Nat) : List Char → List Piece
  | [] => []
  | c :: rest =>
    let first := firstPieces position c rest
    first.1 ++ pieces (position + first.2 + 1) (rest.drop first.2)
termination_by s => s.length
decreasing_by
  simp only [List.length_drop, List.length_cons]
  omega

/-- A piece in front of others; the parts of one text are put together. -/
def Piece.join : Piece → List Piece → List Piece
  | .text s true, .text t true :: rest => .text (s ++ t) true :: rest
  | piece, rest => piece :: rest

/-- The texts and tags that make up a text. -/
def segments (s : List Char) : List Piece := (pieces 0 s).foldr Piece.join []

/-! ## Showing -/

/-- What stands for a text that may hold codes of emoji. -/
abbrev Emoji := List Char → List Char

/-- Whether a character is dropped when a text is shown. -/
def isDropped (c : Char) : Bool :=
  c.toNat = 7 || c.toNat = 8 || c.toNat = 11 || c.toNat = 12 || c.toNat = 13

/-- A tag that has not been closed yet. -/
structure OpenTag where
  /-- The normal form of its style. -/
  name : List Char
  arguments : Option (List Char)
  /-- The number of characters before it that are shown. -/
  start : Nat
  deriving Repr, DecidableEq, Inhabited

namespace OpenTag

/-- The name and the arguments of a tag. -/
def split (chars : List Char) : List Char × Option (List Char) :=
  match chars.dropWhile (· ≠ '=') with
  | [] => (chars, none)
  | _ :: arguments => (chars.takeWhile (· ≠ '='), some arguments)

/-- The style that a tag asks for. -/
def style (tag : OpenTag) : List Char :=
  match tag.arguments with
  | none => tag.name
  | some arguments => tag.name ++ ' ' :: arguments

/-- The part of the text from a tag up to a place. -/
def span (tag : OpenTag) (stop : Nat) : Span where
  start := tag.start
  stop := stop
  fault := match look? tag.style with
    | .ok _ => none
    | .error e => some e

/-- The part of the text from a tag up to the place where it is closed. -/
def close (tag : OpenTag) (stop : Nat) : Except MarkupError Span :=
  if tag.name.head? = some '@' then
    match handlerError? (tag.arguments.getD []) with
    | none => .ok { start := tag.start, stop }
    | some e => .error (.handler e)
  else .ok (tag.span stop)

end OpenTag

/-- The innermost open tag of a name, and the others. -/
def takeTag? (name : List Char) : List OpenTag → Option (OpenTag × List OpenTag)
  | [] => none
  | tag :: rest =>
    if tag.name = name then some (tag, rest)
    else (takeTag? name rest).map fun (found, rest) => (found, tag :: rest)

/-- What pieces show behind `place` characters; `tags` are open, innermost
first, and the parts come in the order in which they are closed. -/
def showPieces (emoji : Emoji) (place : Nat) : List OpenTag → List Piece →
    Except MarkupError (List Char × List Span)
  | tags, [] => .ok ([], tags.map (·.span place))
  | tags, .text chars _ :: rest => do
    let kept := (emoji chars).filter (!isDropped ·)
    let (shown, spans) ← showPieces emoji (place + kept.length) tags rest
    return (kept ++ shown, spans)
  | tags, .tag chars position :: rest =>
    let close (tag : OpenTag) (tags : List OpenTag) := do
      let span ← tag.close place
      let (shown, spans) ← showPieces emoji place tags rest
      return (shown, span :: spans)
    match OpenTag.split chars with
    | ('/' :: name, _) =>
      if Text.trim name = [] then
        match tags with
        | [] => .error (.nothingOpen position)
        | tag :: tags => close tag tags
      else do
        let name ← (normalName (Text.trim name)).mapError .colour
        match takeTag? name tags with
        | none => .error (.unmatched (String.ofList chars) position)
        | some (tag, tags) => close tag tags
    | (name, arguments) => do
      let name ← (normalName name).mapError .colour
      showPieces emoji place (⟨name, arguments, place⟩ :: tags) rest

/-- What remains of a text with tags; its parts come in the order in which they
begin, of two that begin together the one closed later first. -/
def showMarkup (emoji : Emoji) (s : List Char) : Except MarkupError Styled := do
  let (chars, spans) ← showPieces emoji 0 [] (segments s)
  return ⟨chars, spans.reverse.mergeSort fun a b => a.start ≤ b.start⟩

/-! ## Consoles -/

/-- A way to read texts with tags. -/
abbrev Reader := List Char → Except MarkupError Styled

/-- A console: the number of cells of its lines, and its way to read texts, which knows
no emoji unless another is given. -/
structure Screen where
  width : Nat
  read : Reader := showMarkup id

instance : Coe Nat Screen := ⟨fun width => { width }⟩

end RoutePaths.Console
