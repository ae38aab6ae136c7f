import SeriesGateway.Url.DomainName.Composites
import SeriesGateway.Url.DomainName.MarkClass

namespace SeriesGateway.Url.DomainName

/-- The parts of a code point, no more than `count` behind the first. -/
def decompose : Nat → Nat → List Nat
  | 0, n => [n]
  | count + 1, n =>
    match parts? n with
    | some (first, second) => decompose count first ++ [second]
    | none => [n]

/-- Puts a code point before others, behind the marks of lower classes. -/
def insertMark (n : Nat) : List Nat → List Nat
  | [] => [n]
  | m :: rest =>
    if 0 < markClass m && markClass m < markClass n then m :: insertMark n rest else n :: m :: rest

/-- Composes a character with what follows it. `held` are the marks behind it that it is not
composed with; they come between it and all but marks of higher classes. -/
def composeFrom (first : Nat) (held : List Nat) : List Nat → List Nat
  | [] => first :: held
  | n :: rest =>
    let apart := held.getLast?.any fun mark => markClass n ≤ markClass mark
    match if apart then none else composite? first n with
    | some composed => composeFrom composed held rest
    | none =>
      if markClass n = 0 then first :: held ++ composeFrom n [] rest
      else composeFrom first (held ++ [n]) rest

/-- Composes the characters of a text in which marks are in order. Marks at its start have no
character to be composed with. -/
def compose (codes : List Nat) : List Nat :=
  let isMarked (n : Nat) : Bool := 0 < markClass n
  codes.takeWhile isMarked ++ match codes.dropWhile isMarked with
    | [] => []
    | first :: rest => composeFrom first [] rest

/-- The composed form of a text: marks of different classes in the order of their classes, and a
character in the place of two where one is composed of them. The letters of Latin are composed as
they stand. No character has more than four parts. -/
def composed (cs : List Char) : List Char :=
  if cs.all (·.toNat < 0x300) then cs
  else
    let parts := (cs.map Char.toNat).flatMap (decompose 3)
    (compose (parts.foldr insertMark [])).map Char.ofNat

end SeriesGateway.Url.DomainName
