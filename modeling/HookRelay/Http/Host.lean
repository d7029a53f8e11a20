import HookRelay.Address
import HookRelay.Domain.Ascii
import HookRelay.Text.Percent

/-!
Hosts of URLs in the form in which they are sent: a domain in ASCII, an address of four numbers, or
one of eight groups in brackets. Schemes of no known meaning may have other names for their hosts.
-/
namespace HookRelay.Host

def isForbidden (char : Char) : Bool :=
  char.toNat ≤ 0x20 || char.toNat = 0x7F || "#%/:<>?@[\\]^|".toList.contains char

/-- The number that a part of an address writes: decimal, octal after `0`, or hexadecimal after
`0x`. -/
def partValue? (part : List Char) : Option Nat :=
  let inBase (base : Nat) (digits : List Char) : Option Nat :=
    digits.foldlM (fun total char =>
      (Hex.value? char).bind fun value =>
        if value < base then some (total * base + value) else none) 0
  match part with
  | [] => none
  | '0' :: 'x' :: rest => inBase 16 rest
  | '0' :: rest => inBase 8 rest
  | rest => inBase 10 rest

private def isNumeric (part : List Char) : Bool :=
  (!part.isEmpty && part.all Text.isDigit) ||
    ("0x".toList.isPrefixOf part && (partValue? part).isSome)

private def numericParts (domain : List Char) : List (List Char) :=
  let parts := domain.splitOn '.'
  if parts.length > 1 && parts.getLast? = some [] then parts.dropLast else parts

/-- Whether a domain can only be meant as an address. -/
def endsInNumber (domain : List Char) : Bool := (numericParts domain).getLast?.any isNumeric

/-- One to four numbers, of which the last fills all bytes that are left. -/
def ipv4? (domain : List Char) : Option Ipv4 := do
  let values ← (numericParts domain).mapM partValue?
  let last ← values.getLast?
  let heads := values.dropLast
  if 3 < heads.length || heads.any (255 < ·) || Nat.pow 256 (4 - heads.length) ≤ last then none
  else
    let value := heads.foldr (fun part total => part * 0x1000000 + total / 256) 0 + last
    pure [value / 0x1000000 % 256, value / 0x10000 % 256, value / 256 % 256, value % 256]

private def bracketed? (text : List Char) : Option (List Char) := do
  let inner ← Text.afterLiteral? ['['] text
  if inner.getLast? ≠ some ']' then none
  else
    let (address, rest) ← Ipv6.read? inner.dropLast
    if rest.isEmpty then pure (['['] ++ Ipv6.compressed address ++ [']']) else none

def read? (text : List Char) : Option (List Char) :=
  if text.head? = some '[' then bracketed? text
  else do
    let domain ← Domain.ascii? (← Utf8.decode? (Percent.decode text))
    if domain.isEmpty || domain.any isForbidden then none
    else if endsInNumber domain then (ipv4? domain).map Ipv4.text
    else pure domain

/-- May not stand in a name of a host that need not be a domain. -/
def isForbiddenInName (char : Char) : Bool :=
  "\x00\t\n\x0d #/:<>?@[\\]^|".toList.contains char

def readName? (text : List Char) : Option (List Char) :=
  if text.head? = some '[' then bracketed? text
  else if text.any isForbiddenInName then none
  else some (Percent.encode (fun _ => false) text)

/-! ### What hosts may hold -/

private theorem visible_bracketed? {text host : List Char} (found : bracketed? text = some host) :
    Text.Visible host := by
  simp only [bracketed?, Option.bind_eq_bind, Option.bind_eq_some_iff] at found
  obtain ⟨inner, _, found⟩ := found
  split at found
  · cases found
  · obtain ⟨⟨address, rest⟩, _, found⟩ := Option.bind_eq_some_iff.mp found
    split at found
    · cases found
      have brackets : Text.Visible ['['] ∧ Text.Visible [']'] := by decide
      simp only [Text.Visible.append_iff, Ipv6.visible_compressed, brackets, true_and]
    · cases found

theorem visible_read? {text host : List Char} (found : read? text = some host) :
    Text.Visible host := by
  rw [read?] at found
  split at found
  · exact visible_bracketed? found
  · simp only [Option.bind_eq_bind, Option.bind_eq_some_iff] at found
    obtain ⟨decoded, _, domain, _, found⟩ := found
    split at found
    · cases found
    · rename_i allowed
      split at found
      · obtain ⟨address, _, rfl⟩ := Option.map_eq_some_iff.mp found
        exact Ipv4.visible_text address
      · cases found
        intro char member
        simp only [Bool.or_eq_true, List.any_eq_true, not_or, not_exists, not_and] at allowed
        have free := allowed.2 char member
        simp only [isForbidden, Bool.or_eq_true, decide_eq_true_eq, not_or] at free
        omega

theorem visible_readName? {text host : List Char} (found : readName? text = some host) :
    Text.Visible host := by
  rw [readName?] at found
  split at found
  · exact visible_bracketed? found
  · split at found
    · cases found
    · cases found
      exact Percent.visible_encode _ text

end HookRelay.Host
