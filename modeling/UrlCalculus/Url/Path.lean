import UrlCalculus.Text.Breaks
import UrlCalculus.Text.Percent

/-!
# Paths

The path of a URL is a list of segments, each written behind a slash, or a text without structure.
Reading a path cuts it at its slashes, encodes the pieces and takes the steps they stand for: one
dot stays where it is, two dots go up, every other piece goes down. Behind a last step that does
not go down stands an empty segment.

## Drives

A letter followed by a colon or a bar is a drive. No step goes up from a drive. In a file URL the
bar of a drive at the root becomes a colon, empty segments at the root are dropped, and a relative
path does not replace a drive at the end of the base's path but continues it. A drive at the root is
parted from what follows it by a break: behind the drive then stands a segment of its own, which is
taken as it is, dots or not.
-/

namespace UrlCalculus

inductive Path where
  /-- A path that relative references cannot change. -/
  | rootless (text : Text)
  | segments (segments : List Text)
deriving DecidableEq

namespace Path

def text : Path → Text
  | .rootless t => t
  | .segments ss => ss.flatMap fun s ↦ '/' :: s

def isRootless : Path → Bool
  | .rootless _ => true
  | .segments _ => false

/-- The segments, of which a rootless path has none. -/
def segmentList : Path → List Text
  | .rootless _ => []
  | .segments ss => ss

/-- Whether the written form begins with two slashes. -/
def beginsWithTwoSlashes : Path → Bool
  | .segments ([] :: _ :: _) => true
  | _ => false

/-! ## Drives -/

def isDriveMark (c : Char) : Bool := c == ':' || c == '|'

def isDrive : Text → Bool
  | [a, b] => a.isAlpha && isDriveMark b
  | _ => false

def isNormalDrive : Text → Bool
  | [a, ':'] => a.isAlpha
  | _ => false

/-- Whether a text of a file URL begins with a drive as its first segment. -/
def beginsWithDrive : Text → Bool
  | [a, b] => a.isAlpha && isDriveMark b
  | a :: b :: c :: _ => a.isAlpha && isDriveMark b && (c == '/' || c == '\\')
  | _ => false

/-- Whether a segment is one that no step goes up from. -/
def holdsFast : Text → Bool
  | [a, b] => a.isAlpha && isDriveMark b
  | a :: b :: c :: _ => a.isAlpha && isDriveMark b && c == '\\'
  | _ => false

/-! ## Pieces -/

/-- A piece of a path between two separators. -/
structure Piece where
  /-- The text without breaks, encoded. -/
  text : Text
  /-- Whether the text is a drive and more, and a break stands behind the drive. -/
  parted : Bool
deriving DecidableEq

namespace Piece

/-- Whether a text begins with a letter and a colon, and a break parts them from what follows. -/
def hasPartedDrive (t : Text) : Bool :=
  match Text.next? t with
  | none => false
  | some (letter, rest) =>
    match Text.next? rest with
    | some (':', c :: rest) => letter.isAlpha && Text.isBreak c && (Text.next? rest).isSome
    | _ => false

def ofText (t : Text) : Piece :=
  ⟨Text.percentEncode .path (Text.withoutBreaks t), hasPartedDrive t⟩

end Piece

/-! ## Steps -/

/-- What follows a dot in front, plain or percent-encoded, if there is one. -/
def dropDot? : Text → Option Text
  | '.' :: rest => some rest
  | '%' :: '2' :: 'e' :: rest => some rest
  | '%' :: '2' :: 'E' :: rest => some rest
  | _ => none

def isSingleDot (piece : Text) : Bool := dropDot? piece = some []

def isDoubleDot (piece : Text) : Bool := (dropDot? piece).bind dropDot? = some []

/-- One step up. -/
def ascend (above : List Text) : List Text :=
  match above.getLast? with
  | none => []
  | some s => if holdsFast s then above else above.dropLast

/-- The segments of a piece that goes down. At the root of a file URL a drive is written with a
colon, and a drive that is parted from what follows it is a segment of its own. -/
def settle (isFile : Bool) (above : List Text) (piece : Piece) : List Text :=
  if isFile && above.isEmpty then
    if piece.parted then [piece.text.take 2, piece.text.drop 2]
    else if isDrive piece.text then [piece.text.take 1 ++ [':']]
    else [piece.text]
  else [piece.text]

/-- The step of a piece, from the segments above on. -/
def step (isFile : Bool) (above : List Text) (piece : Piece) : List Text :=
  if isDoubleDot piece.text then ascend above
  else if isSingleDot piece.text then above
  else above ++ settle isFile above piece

/-- Whether a piece goes down. -/
def goesDown (piece : Piece) : Bool := !isDoubleDot piece.text && !isSingleDot piece.text

/-- Take the steps of pieces, from the segments above on. -/
def walk (isFile : Bool) (above : List Text) : List Piece → List Text
  | [] => above
  | [p] => if goesDown p then step isFile above p else step isFile above p ++ [[]]
  | p :: rest => walk isFile (step isFile above p) rest

/-- Whether the steps of pieces of a file URL come to the root with a drive to settle there. -/
def comesToDrive (above : List Text) : List Piece → Bool
  | [] => false
  | p :: rest => (above.isEmpty && isDrive p.text) || comesToDrive (step true above p) rest

/-- Take the steps of pieces, the first of which continues a drive. -/
def walkFromDrive (above : List Text) (drive : Text) : List Piece → List Text
  | [] => above ++ [drive]
  | p :: rest =>
    if isDoubleDot p.text then
      if rest.isEmpty then above ++ [drive] else walk true (above ++ [drive]) rest
    else if isSingleDot p.text then
      if rest.isEmpty then above ++ [drive, []] else walk true (above ++ [drive]) rest
    else if rest.isEmpty then above ++ [drive ++ p.text]
    else walk true (above ++ [drive ++ p.text]) rest

/-! ## Reading -/

/-- The pieces of a path. In a special URL a backslash separates like a slash. -/
def piecesOf (isSpecial : Bool) (t : Text) : List Piece :=
  (Text.pieces (fun c ↦ c == '/' || (isSpecial && c == '\\')) t).map Piece.ofText

/-- Drop the empty segments at the root, but the last one. -/
def dropEmptyRoots (segments : List Text) : List Text :=
  match segments.dropWhile List.isEmpty with
  | [] => [[]]
  | ss => ss

/-- The segments of a file URL that remain of walked ones. -/
def ofFileSegments (segments : List Text) : Path :=
  .segments (dropEmptyRoots segments)

/-- The segments reached from those above by the steps of a text. -/
def read (isSpecial isFile : Bool) (above : List Text) (t : Text) : Path :=
  let reached := walk isFile above (piecesOf isSpecial t)
  if isFile then ofFileSegments reached else .segments reached

/-- The path reached by a relative path from the path of a file URL. -/
def readFromFile (base : List Text) (t : Text) : Path :=
  let pieces := piecesOf true t
  match base.getLast? with
  | none => ofFileSegments (walk true [] pieces)
  | some last =>
    let above := base.dropLast
    if isNormalDrive last then
      if above.isEmpty then ofFileSegments (walk true [last] pieces)
      else ofFileSegments (walkFromDrive above last pieces)
    else ofFileSegments (walk true above pieces)

end Path

end UrlCalculus
