import HookRelay.Text.Mark

namespace HookRelay

inductive Joining where
  | none
  | left
  | right
  | dual
  | transparent
deriving DecidableEq, Repr

namespace Joining

/-- Letters that join on their left are `l`, on their right `r`, on both sides `m`; `t` is passed
over as nonspacing marks are. Codes that no domain holds may be in any row. -/
def table : CodeTable := .read
  "620m 1*4r 0m 0r 0m 0r 0*5m 0*4r 0*dm 1*7m 0r 0*2m 23*2m 1*3r 5*fm 0*12r 0*26m 0r 0*2m 0*9r 0m
   0r 0m 0r 0*2m 0*2r 1r 18*2r a*3m 2m 10r 1*3m 0*5r 0*4m 0r 0*9m 0r 0m 0r 0m 0r 0*2m 0*1fr 0*bm
   0*3r 0*fm 0*2r 0*4m 0r 0m 0*2r 0*3m 0*2r 0*6m 4a*21m 55r 0*5m 0*2r 0m 0r 0*am 0r 0m 0*3r 7m
   1*4m 1r 0m 0*1ar 3m 2*5m 0r 0*1bm 0*3r 1r 0*2m 0*2r 0*6m 0r 0*fm f3em 18*59m e*24m 8f95*32m
   0l 624d*5m 0r 1r 1*2r 2l 0*5r 0*4m 0l 0*5m 0r 0*3m 0r 2r 6*4m 0r 90m 0r 0m 0*3r 0*3m 0r 0*2m
   0r 0m 0*2r 0m 0r 17*4r 0*2m 151l 0*21m 0r 0m 19er 0*2m 1*2m 68*3m 0r 0*11m c*3m 0r 1b*4m 0*2r
   0*cm 2em 1*2m 0*3r 1m 0*2r 0*2m 0r 0*2m 1m 0*2r 0m 4r 0m 0l d956*22m 7t"

def ofChar (char : Char) : Joining :=
  if Mark.isNonspacing char then transparent
  else match (table.find? char).map fun row => row.tag with
    | some 'l' => left
    | some 'r' => right
    | some 'm' => dual
    | some 't' => transparent
    | _ => none

/-- Joins the letter that is written after it, passing over what is transparent. -/
def joinsForward (joining : Joining) : Bool := joining = left || joining = dual

def joinsBackward (joining : Joining) : Bool := joining = right || joining = dual

end Joining

end HookRelay
