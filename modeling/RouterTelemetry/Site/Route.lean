/-!
# Routes

A route is a path in which braces stand for captures: `{name}` for one segment,
`{*name}` for the rest of the path.  A capture ends its segment, and one of the
rest ends the route.  A brace that is written twice stands for itself.
-/

namespace RouterTelemetry.Site

/-- Why a path is no route. -/
inductive RouteFault where
  /-- It does not start with a slash. -/
  | relative
  /-- It is the path of a fixed page. -/
  | taken
  /-- A segment starts with a colon or a star. -/
  | bareMarker
  /-- A closing brace without an opening one. -/
  | unopened
  /-- An opening brace without a closing one. -/
  | unclosed
  /-- A capture without a name. -/
  | unnamed
  /-- A star or a slash inside a name. -/
  | badName
  /-- A capture that does not end its segment. -/
  | crowded
  /-- A capture of the rest that does not end the route. -/
  | restNotLast
  /-- More captures of a segment than there are letters for them. -/
  | tooManyCaptures
deriving Repr, DecidableEq

/-- A piece of a route. -/
inductive Piece where
  | char (c : Char)
  /-- Any segment but the empty one. -/
  | segment
  /-- Any rest of the path but the empty one. -/
  | rest
deriving Repr, DecidableEq

/-- A route as its pieces. -/
structure Route where
  pieces : List Piece
deriving Repr, DecidableEq

/-! ## Reading -/

/-- A character of a written route, with the braces of captures told apart. -/
inductive Sign where
  | char (c : Char)
  | opening
  | closing
deriving Repr, DecidableEq

/-- The signs of a written route. -/
def signs : List Char → List Sign
  | '{' :: '{' :: cs => .char '{' :: signs cs
  | '}' :: '}' :: cs => .char '}' :: signs cs
  | '{' :: cs => .opening :: signs cs
  | '}' :: cs => .closing :: signs cs
  | c :: cs => .char c :: signs cs
  | [] => []

/-- Where in a written route a sign stands. -/
inductive Position where
  /-- Outside of captures. -/
  | text
  /-- Right after an opening brace. -/
  | opened
  /-- In the name of the capture `piece`, which so far is empty or not. -/
  | name (piece : Piece) (isEmpty : Bool)
  /-- Right after the closing brace of the capture `piece`. -/
  | closed (piece : Piece)
deriving Repr, DecidableEq

/-- The first sign of a capture; a star makes it one of the rest. -/
def openedBy : Sign → Except RouteFault Position
  | .closing => .error .unnamed
  | .char c =>
      if c = '*' then .ok (.name .rest true)
      else if c = '}' then .error .unnamed
      else .ok (.name .segment false)
  | .opening => .ok (.name .segment false)

/-- A sign in the name of a capture. -/
def namedBy (piece : Piece) (isEmpty : Bool) : Sign → Except RouteFault Position
  | .closing => if isEmpty then .error .unnamed else .ok (.closed piece)
  | .char c => if c = '*' ∨ c = '/' then .error .badName else .ok (.name piece false)
  | .opening => .ok (.name piece false)

/-- A slash may follow a capture of a segment. -/
def mayFollow (piece : Piece) (sign : Sign) : Except RouteFault Unit :=
  if sign ≠ .char '/' then .error .crowded
  else if piece = .rest then .error .restNotLast
  else .ok ()

/-- The pieces of a written route. -/
def piecesFrom : Position → List Sign → Except RouteFault (List Piece)
  | .text, [] => .ok []
  | .text, .char c :: signs => do return .char c :: (← piecesFrom .text signs)
  | .text, .opening :: signs => piecesFrom .opened signs
  | .text, .closing :: _ => .error .unopened
  | .opened, [] => .error .unclosed
  | .opened, sign :: signs => do piecesFrom (← openedBy sign) signs
  | .name _ _, [] => .error .unclosed
  | .name piece isEmpty, sign :: signs => do piecesFrom (← namedBy piece isEmpty sign) signs
  | .closed piece, [] => .ok [piece]
  | .closed piece, sign :: signs => do
      mayFollow piece sign
      return piece :: .char '/' :: (← piecesFrom .text signs)

/-- Captures of segments are told apart by letters, and the last letter stays free. -/
def maxSegmentCaptures : Nat :=
  25

/-- No segment starts with a colon or a star; `atStart` says whether one starts here. -/
def startsPlainly (atStart : Bool) : List Char → Bool
  | [] => true
  | c :: cs => !(atStart && (c = ':' || c = '*')) && startsPlainly (c = '/') cs

/-- Reads a route. -/
def Route.parse (path : String) : Except RouteFault Route := do
  let cs := path.toList
  if cs.head? ≠ some '/' then
    throw .relative
  if !startsPlainly true cs then
    throw .bareMarker
  let pieces ← piecesFrom .text (signs cs)
  if maxSegmentCaptures < pieces.count .segment then
    throw .tooManyCaptures
  return ⟨pieces⟩

/-! ## Matching -/

/-- The pieces cover the path exactly. -/
def covers : List Piece → List Char → Bool
  | [], cs => cs.isEmpty
  | .char _ :: _, [] => false
  | .char c :: pieces, c' :: cs => c = c' && covers pieces cs
  | .segment :: pieces, cs =>
      !(cs.takeWhile (· ≠ '/')).isEmpty && covers pieces (cs.dropWhile (· ≠ '/'))
  | .rest :: _, cs => !cs.isEmpty

/-- The route leads to a path. -/
def Route.leadsTo (route : Route) (path : String) : Bool :=
  covers route.pieces path.toList

end RouterTelemetry.Site
