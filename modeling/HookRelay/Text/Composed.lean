import HookRelay.Text.Decomposition
import HookRelay.Text.Mark

namespace HookRelay.Composed

/-- Puts a character behind those before it, held in reverse; a mark goes before marks of a higher
class. -/
private def place (char : Char) : List Char → List Char
  | [] => [char]
  | last :: before =>
    if Mark.combiningClass char ≠ 0 && Mark.combiningClass char < Mark.combiningClass last then
      last :: place char before
    else char :: last :: before

def apart (text : List Char) : List Char :=
  ((text.flatMap Decomposition.parts).foldl (fun reversed char => place char reversed) []).reverse

/-- Composes `starter` with the characters after it. `before` is what is finished and `marks` what
stands between, both in reverse. A mark is blocked by one of its class before it, and a letter by
any mark. -/
private def composeFrom (before : List Char) (starter : Char) (marks : List Char) :
    List Char → List Char
  | [] => before.reverse ++ [starter] ++ marks.reverse
  | char :: rest =>
    let rank := Mark.combiningClass char
    let blocked := marks.head?.any fun last => rank ≤ Mark.combiningClass last
    match if blocked then none else Decomposition.compose? starter char with
    | some composed => composeFrom before composed marks rest
    | none =>
      if rank = 0 then composeFrom (marks ++ starter :: before) char [] rest
      else composeFrom before starter (char :: marks) rest

/-- A text in composed normal form; marks without a letter before them stay as they are. -/
def normal (text : List Char) : List Char :=
  let (loose, rest) := (apart text).span fun char => Mark.combiningClass char ≠ 0
  match rest with
  | [] => loose
  | starter :: rest => loose ++ composeFrom [] starter [] rest

end HookRelay.Composed
