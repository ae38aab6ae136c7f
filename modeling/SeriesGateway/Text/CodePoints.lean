import SeriesGateway.Text.Percent

namespace SeriesGateway.CodePoints

/-- The number that hexadecimal digits denote. -/
def value (digits : List Char) : Nat :=
  digits.foldl (fun n c => 16 * n + (Percent.hexValue? c).getD 0) 0

def words (text : String) : List (List Char) :=
  (text.toList.splitOnP fun c => c == ' ' || c == '\n').filter (!·.isEmpty)

/-- The code points from a first one to a last one. -/
structure Span where
  first : Nat
  last : Nat
  deriving DecidableEq, Repr

namespace Span

def contains (s : Span) (n : Nat) : Bool :=
  s.first ≤ n && n ≤ s.last

def ofWord (word : List Char) : Span :=
  match word.splitOn '-' with
  | [first, last] => ⟨value first, value last⟩
  | _ => ⟨value word, value word⟩

end Span

/-- The spans of words: a code point, or a first and a last one, in hexadecimal digits. -/
def spans (text : String) : List Span :=
  (words text).map .ofWord

def isIn (set : List Span) (n : Nat) : Bool :=
  set.any (·.contains n)

/-- The code points of a span, each `step` behind the one before. The first stands for `images`;
each other one stands for what is as far behind them as it is behind the first. -/
structure Stretch where
  span : Span
  step : Nat
  images : List Nat
  deriving DecidableEq, Repr

namespace Stretch

def images? (s : Stretch) (n : Nat) : Option (List Nat) :=
  if s.span.contains n && (n - s.span.first) % s.step == 0 then
    some (s.images.map (· + (n - s.span.first)))
  else none

/-- The images of a word are parted by points. Behind `:` they are those of every code point of a
span, behind `/` of every second one, and alone those of the code point `next`. -/
def ofWord (next : Nat) (word : List Char) : Stretch :=
  let images (cs : List Char) := (cs.splitOn '.').map value
  match word.splitOn ':', word.splitOn '/' with
  | [span, stand], _ => ⟨.ofWord span, 1, images stand⟩
  | _, [span, stand] => ⟨.ofWord span, 2, images stand⟩
  | _, _ => ⟨⟨next, next⟩, 1, images word⟩

end Stretch

/-- The stretches of words, the first of which comes behind the code points before `next`. -/
def stretchesFrom : Nat → List (List Char) → List Stretch
  | _, [] => []
  | next, word :: rest =>
    let stretch := Stretch.ofWord next word
    stretch :: stretchesFrom (stretch.span.last + 1) rest

def stretches (text : String) : List Stretch :=
  stretchesFrom 0 (words text)

/-- What a code point stands for, where it stands for anything else. -/
def images? (map : List Stretch) (n : Nat) : Option (List Nat) :=
  map.findSome? (·.images? n)

end SeriesGateway.CodePoints
