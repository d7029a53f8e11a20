import HookRelay.Domain.Label

namespace HookRelay.Domain

private def splitLabels (domain : List Char) : List (List Char) := domain.splitOn '.'

private def joinLabels (labels : List (List Char)) : List Char :=
  (labels.intersperse ['.']).flatten

/-- The ASCII form of a domain; a label that is in Punycode already stays as it is. -/
def ascii? (domain : List Char) : Option (List Char) := do
  let written := splitLabels (← mapped? domain)
  let labels ← written.mapM decodedLabel?
  if !labels.all isLabel then none
  else if isBidirectional labels && !labels.all hasOneDirection then none
  else pure (joinLabels (written.map encodedLabel))

end HookRelay.Domain
