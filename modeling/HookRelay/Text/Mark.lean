import HookRelay.Text.CodeTable

/-!
Combining marks: the characters of the Unicode category `Mark`, which of them take up space of their
own, and their canonical combining classes. Marks of two classes other than zero may change places
without changing what a text means.
-/
namespace HookRelay.Mark

/-- Nonspacing and enclosing marks are `n`, spacing ones `s`; the number is the class unless that is
zero. -/
def table : CodeTable := .read
  "300*15ne6 0ne8 0*4ndc 0ne8 0nd8 0*5ndc 0*2nca 0*4ndc 0*2nca 0*bndc 0*5n1 0*4ndc 0*3ne6 0*2n
   0ne6 0*2n 0nf0 0ne6 0*3ndc 0*3ne6 0*2ndc 0n 0*3ne6 0*4ndc 0ne6 0ne8 0*2ndc 0ne6 0ne9 0*2nea
   0ne9 0*2nea 0ne9 0*dne6 113*5ne6 0*2n 107ndc 0*4ne6 0ndc 0*3ne6 0nde 0ndc 0*6ne6 0*6ndc
   0*2ne6 0ndc 0*2ne6 0nde 0ne4 0ne6 0na 0nb 0nc 0nd 0ne 0nf 0n10 0n11 0n12 0*2n13 0n14 0n15
   0n16 1n17 1n18 0n19 1ne6 0ndc 1n12 48*8ne6 0n1e 0n1f 0n20 30n1b 0n1c 0n1d 0n1e 0n1f 0n20 0n21
   0n22 0*2ne6 0*2ndc 0*5ne6 0ndc 0*2ne6 0ndc 10n23 65*7ne6 2*4ne6 0ndc 0ne6 2*2ne6 1ndc 0*2ne6
   0ndc 23n24 1ene6 0ndc 0*2ne6 0ndc 0*2ne6 0*3ndc 0ne6 0*2ndc 0ne6 0ndc 0*3ne6 0ndc 0ne6 0ndc
   0ne6 0ndc 0ne6 0ndc 0*2ne6 5b*bn 3a*7ne6 0ndc 0ne6 9ndc 18*4ne6 1*9ne6 1*3ne6 1*5ne6 2b*3ndc
   3b*2ne6 0*3ndc 0*4ne6 2a*5ne6 0*5ndc 0*ene6 1ndc 0*2ne6 0ndc 0*2ne6 0ndc 0*3ne6 0*3ndc 0n1b
   0n1c 0n1d 0*3ne6 0ndc 0*2ne6 0*2ndc 0*5ne6 0*3n 0s 36n 0s 0n7 1*3s 0*8n 0*4s 0n9 0*2s 1ne6
   0ndc 0*2ne6 0*3n a*2n 1dn 0*2s 38n7 1*3s 0*4n 2*2s 2*2s 0n9 9s a*2n 1ane6 2*2n 0s 38n7 1*3s
   0*2n 4*2n 2*2n 0n9 3n 1e*2n 3n b*2n 0s 38n7 1*3s 0*5n 1*2n 0s 1*2s 0n9 14*2n 16*6n 1n 0*2s
   38n7 1s 0n 0s 0*4n 2*2s 2*2s 0n9 7*2n 0s a*2n 1en 3b*2s 0n 0*2s 3*3s 1*3s 0n9 9s 28n 0*3s 0n
   37n7 1*3n 0*4s 1*3n 1*3n 0n9 7n54 0n5b b*2n 1dn 0*2s 38n7 1s 0n 0*5s 1n 0*2s 1*2s 0n 0n9 7*2s
   b*2n fs c*2n 0*2s 37*2n9 1*3s 0*4n 1*3s 1*3s 0n9 9s a*2n 1dn 0*2s 46n9 4*3s 0*3n 1n 1*8s
   12*2s 3dn 2*4n 0*2n67 0n9 cn 0*4n6b 0*3n 62n 2*4n 0*2n76 0n9 0*2n b*4n7a 0*3n 49*2ndc 1bndc
   1ndc 1nd8 4*2s 31n81 0n82 0n 0n84 0*5n 0*4n82 0n 0s 0n82 0n 0*2ne6 0n9 1*2ne6 5*bn 1*24n 9ndc
   64*2s 0*4n 0s 0*5n 0n7 0s 0*2n9 0*2s 0*2n 17*2s 0*2n 4*3n 1*3s 2*7s 3*4n dn 0*2s 0*2n 0*6s
   0ndc 1s a*3s 0n 2bf*3ne6 3b2*2n 0n9 0s9 1c*2n 0s9 1d*2n 1e*2n 40*2n 0s 0*7n 0*8s 0n 0*2s 0*9n
   0n9 0n 9ne6 2d*3n 1n 75*2n 22ne4 76*3n 0*4s 0*2n 0*3s 4*2s 0n 0*6s 0nde 0ne6 0ndc dbne6 0ndc
   0*2s 0n 39s 0n 0s 0*7n 1n9 0s 0n 0*2s 0*8n 0*6s 0*2n 0*8ne6 2ndc 30*5ne6 0*6ndc 0*2ne6 0ndc
   0n 0*2ndc 0*2ne6 0*2ndc 0*5ne6 0ndc 0*12ne6 0ndc 2*6ne6 0ndc 0*4ne6 0nea 14*4n 0s 2fn7 0s
   0*5n 0s 0n 0*5s 0n 0s 0s9 26ne6 0ndc 0*7ne6 c*2n 0s 1es 0*4n 0*2s 0*2n 0s9 0n9 0*2n 38n7 0s
   0*2n 0*3s 0n 0s 0*3n 0*2s9 30*8s 0*8n 0*2s 0n 0n7 98*3ne6 1n1 0*5ndc 0*2ne6 0*4ndc 0ne6 0s
   0*7n1 4ndc 6ne6 2s 0*2ne6 c6*2ne6 0ndc 0*7ne6 0ndc 0*2ne6 0nea 0nd6 0ndc 0nca 0*25ne6 0ne8
   0*2ne4 0ndc 0nda 0ne6 0ne9 0ndc 0ne6 0ndc 2d0*2ne6 0*2n1 0*4ne6 0*3n1 0*2ne6 0*4n 0ne6 0*3n
   0*2n1 0ne6 0ndc 0ne6 0*2n1 0*4ndc 0ne6 bfe*3ne6 8dn9 60*20ne6 22anda 0ne4 0ne8 0nde 0*2se0
   69*2n8 75d4ne6 0*3n 1*ane6 20*2ne6 50*2ne6 110n 3n9 4n 17*2s 0*2n 0s 4n9 53*2s 32*10s 0n9 0n
   1a*12ne6 dn 26*5n 0*3ndc 19*bn 0s 0s9 2c*3n 0s 2fn7 0*2s 0*4n 0*2s 0*2n 0*2s 0s9 24n 43*6n
   0*2s 0*2n 0*2s 0*2n cn 8n 0s 2ds 0n 0s 32ne6 1*2ne6 0ndc 2*2ne6 5*2ne6 1ne6 29s 0*2n 0*2s 5s
   0n9 ec*2s 0n 0*2s 0n 0*2s 1s 0n9 4f30n1a 2e1*10n 10*7ne6 0*7ndc 0*2ne6 3cdndc e2ndc 95*5ne6
   686*3n 1*2n 5n 0ndc 0n 0ne6 28ne6 0n1 0ndc 4n9 a5ne6 0ndc 23d*4ne6 41*5ne6 13d*2ne6 4d*2ndc
   0n 0*3ndc 46*2ndc 0*3ne6 0ndc 0ne6 0*4ndc 31ne6 0ndc 0ne6 0ndc 7as 0n 0s 35*en 0n9 29n9 2*2n
   an9 0*2n 0s 2d*3s 0*4n 0*2s 0n9 0n7 7n 3d*3ne6 24*5n 0s 0*6n 0*2n9 10*2s 2cn7 c*2n 0s 30*3s
   0*9n 0s 0s9 8n 0n7 0*2n 1s 0n 5c*3s 0*3n 0*2s 0n 0s9 0n7 0n 6n 2n 9dn 0*3s 0*6n 0n7 0n9 15*2n
   0*2s 37*2n7 1*2s 0n 0*4s 2*2s 2*2s 0s9 9s a*2s 2*7ne6 3*5ne6 43*3s 0*6n 1s 2s 1*4s 1*2s 0n9
   0s9 0n9 1n e*2n 52*3s 0*8n 0*2s 0n9 0*2n 0s 0n7 17ne6 51*3s 0*6n 0s 0n 0*4s 0*2n 0s 0n9 0n7
   eb*3s 0*4n 2*4s 0*2n 0s 0n9 0n7 1b*2n 52*3s 0*8n 0*2s 0n 0s 0n9 0n 6an 0s 0n 0*2s 0*6n 0s9
   0n7 65n 0s 0n 0*2s 0*4n 0s 0*4n 0n9 100*3s 0*9n 0s 0n9 0n7 f5*6s 1*2s 2*2n 0s9 0n9 1s 1s 0n7
   8d*3s 0*4n 2*2n 0*4s 0n9 3s 1c*an 28n 0n9 0*4n 0s 1*4n 8n9 9*6n 0*2s 0*3n 2e*dn 0s 0n 0n9 c6n
   0s 0*3n 0s 0n 0s c7s 0*7n 1*6n 0s 0n9 52*16n 1s 0*7n 0s 0*2n 0s 0*2n 7a*6n 3n 1*2n 1*3n 0n7
   0n 0*2n9 1n 42*5s 1*2n 1*2s 0n 0s 0n9 15b*2n 0*2s 9*2n 1s 30*2s 0*5n 3*2s 0n 0s9 0n9 17n
   14e5n 6*fn 2cc8*cn 0*3s 0*2n 0n9 9c0*5n1 3b*7ne6 418n 1*37s 7*4n 51n b*2s6 4cabn 0n1 1261*2en
   2*17n 21e*2sd8 0*3n1 3se2 0*5sd8 8*8ndc 2*5ne6 0*2ndc 1e*4ne6 94*3ne6 7bb*37n 4*32n 8n en
   16*5n 1*fn 550*7ne6 1*11ne6 2*7ne6 1*2ne6 1*5ne6 64ne6 a0*7ne6 177ne6 3d*4ne6 1fc*2ne8 0ndc
   0ne6 fene6 0ndc f3ne6 2ne6 7*2ne6 5ne6 1da*7ndc 6d*6ne6 0n7 c17b5*f0n"

def isMark (char : Char) : Bool := (table.find? char).isSome

def isNonspacing (char : Char) : Bool := (table.find? char).any fun row => row.tag = 'n'

/-- The canonical combining class; zero for all that is not a mark. -/
def combiningClass (char : Char) : Nat :=
  ((table.find? char).bind fun row => row.values.head?).getD 0

/-- The class of viramas, which join the letters around them. -/
def viramaClass : Nat := 9

def isVirama (char : Char) : Bool := combiningClass char = viramaClass

end HookRelay.Mark
