import HookRelay.Text.Mark

namespace HookRelay

inductive Direction where
  | leftToRight
  | rightToLeft
  | europeanNumber
  | arabicNumber
  | nonspacing
  | neutral
deriving DecidableEq, Repr

namespace Direction

/-- What goes from right to left is `r`, European digits are `z`, Arabic ones `n`, and neutral
characters `o`; all others but nonspacing marks go from left to right, and so do the marks that are
`l`. Codes that no domain holds may be in any row. -/
def table : CodeTable := .read
  "0*30o 0*az 0*27o 1a*5do 1fo 1c1*2o 7*eo 2*1co 1*11o 75o 80o 193*6o 2e*37r 11*2o 0r 0*2o 0r 0o
   0r 0*2o b*30r 15*an 0o 0*2n 0*69r 8o 6*2r 2o 4*2r 0*az 0*fcr 0*4o 0*d0r 128*2o 7o f5o 101*8o
   7d*7o 40l 6l 178o fa*4o 452*ao 66o 29a*2o 13eo 14*1bo 135*6o 98*22o 60c*142o 3c*1aco 45*1ao
   1*316o 1*153o 100*300o e5*6o e*7o 100*205o 3*19o fo 6o 5*3o 60o 5ao c4*26o 1bda*40o 5690*37o
   146*3o 63*do 80*22o 66o 9f*4o c*2o 3a*4o 2f2*2o 5046*11r 0*284o 2cr 28do 3e*4do 3*11o 140*1bz
   504*11cr 3o 0*216r 3*7o 0*1e4r c*an 6*10r 1eo 0*21r d0*1fn 1*48r 8*9o 27*f7r 5b*14o 5fa*do
   39a*2l 236l 395*1do 4ff0o 5c1d*2f1o 2f8*5do ba*57o fa8o 500*53er 1b2*240o 3d*3o 3do b2*99bo"

def ofChar (char : Char) : Direction :=
  let tag? := (table.find? char).map fun row => row.tag
  if tag? = some 'l' then leftToRight
  else if Mark.isNonspacing char then nonspacing
  else match tag? with
    | some 'r' => rightToLeft
    | some 'z' => europeanNumber
    | some 'n' => arabicNumber
    | some 'o' => neutral
    | _ => leftToRight

end Direction

end HookRelay
