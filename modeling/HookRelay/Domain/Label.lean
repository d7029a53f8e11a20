import HookRelay.Domain.Mapping
import HookRelay.Text.Direction
import HookRelay.Text.Joining
import HookRelay.Text.Punycode

namespace HookRelay.Domain

def isAscii (label : List Char) : Bool := label.all fun char => char.toNat < 128

/-- Marks a label that is written in Punycode. -/
def encodedMark : List Char := ['x', 'n', '-', '-']

/-- The greatest size of a label in characters, unless all are ASCII. -/
def greatestLabel : Nat := 1000

/-- The greatest size of the part of a label that is in Punycode. -/
def greatestEncoded : Nat := 2000

def nonJoiner : Char := '\u200C'
def joiner : Char := '\u200D'

/-- The first character that is not passed over joins as asked. -/
private def reachesLetter (joins : Joining → Bool) (text : List Char) : Bool :=
  ((text.map Joining.ofChar).dropWhile (· = .transparent)).head?.any joins

/-- Whether a joiner is in place: after a virama, or, where it keeps letters apart, between two that
would join. -/
private def isInPlace (char : Char) (before after : List Char) : Bool :=
  before.head?.any Mark.isVirama ||
    (char = nonJoiner && reachesLetter Joining.joinsForward before &&
      reachesLetter Joining.joinsBackward after)

private def joinersInPlace (before : List Char) : List Char → Bool
  | [] => true
  | char :: after =>
    (if char = nonJoiner || char = joiner then isInPlace char before after else true) &&
      joinersInPlace (char :: before) after

/-- Labels do not start with a mark, hold joiners only in their places, and are not too long. -/
def isLabel (label : List Char) : Bool :=
  !label.head?.any Mark.isMark && joinersInPlace [] label &&
    (isAscii label || label.length ≤ greatestLabel)

/-- The characters that a label stands for; none for one that is not written as it would be. -/
def decodedLabel? (label : List Char) : Option (List Char) :=
  match Text.afterLiteral? encodedMark label with
  | none => some label
  | some encoded =>
    if !isAscii encoded || greatestEncoded < encoded.length then none
    else (Punycode.decode? encoded).bind fun decoded =>
      if isAscii decoded || !isMapped decoded then none else some decoded

def encodedLabel (label : List Char) : List Char :=
  if isAscii label then label else encodedMark ++ Punycode.encode label

private def isOneOf (directions : List Direction) (char : Char) : Bool :=
  directions.contains (.ofChar char)

def isBidirectional (labels : List (List Char)) : Bool :=
  labels.any fun label => label.any (isOneOf [.rightToLeft, .arabicNumber])

/-- Whether a label can be told apart in a domain that goes both ways: it has one direction, which
its first character shows and its last one, marks aside, does not contradict, and no two kinds of
digits. -/
def hasOneDirection (label : List Char) : Bool :=
  match label with
  | [] => true
  | first :: rest =>
    let rest := (rest.reverse.dropWhile (isOneOf [.nonspacing])).reverse
    let ends (directions : List Direction) := (first :: rest).getLast?.any (isOneOf directions)
    match Direction.ofChar first with
    | .leftToRight =>
      ends [.leftToRight, .europeanNumber] &&
        !rest.any (isOneOf [.rightToLeft, .arabicNumber])
    | .rightToLeft =>
      ends [.rightToLeft, .europeanNumber, .arabicNumber] &&
        !rest.any (isOneOf [.leftToRight]) &&
        !(rest.any (isOneOf [.europeanNumber]) && rest.any (isOneOf [.arabicNumber]))
    | _ => false

end HookRelay.Domain
