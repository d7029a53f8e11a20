import HookRelay.Text.Visible

namespace HookRelay

/-- Four numbers below 256. -/
abbrev Ipv4 := List Nat

/-- Eight numbers below 65536. -/
abbrev Ipv6 := List Nat

inductive SocketAddress where
  | v4 (address : Ipv4) (port : Nat)
  | v6 (address : Ipv6) (scope port : Nat)
deriving DecidableEq, Repr

/-! ### Where reading stops -/

/-- Reads a beginning of a text, and takes `stop` for the end of the text. -/
structure StopsAt {α : Type} (stop : Char) (read : List Char → Option (α × List Char)) : Prop where
  suffix : ∀ {text value rest}, read text = some (value, rest) → rest <:+ text
  append : ∀ text more,
    read (text ++ stop :: more) = (read text).map fun (value, rest) => (value, rest ++ stop :: more)

section

variable {stop : Char} {α β : Type} {read : List Char → Option (α × List Char)}

theorem StopsAt.none : StopsAt stop fun _ => (Option.none : Option (α × List Char)) where
  suffix := nofun
  append _ _ := rfl

theorem StopsAt.pure (value : α) : StopsAt stop fun text => some (value, text) where
  suffix found := by
    cases found
    exact List.suffix_rfl
  append _ _ := rfl

theorem StopsAt.bind {next : α → List Char → Option (β × List Char)} (first : StopsAt stop read)
    (second : ∀ value, StopsAt stop (next value)) :
    StopsAt stop fun text => (read text).bind fun (value, rest) => next value rest where
  suffix found := by
    obtain ⟨⟨value, between⟩, before, after⟩ := Option.bind_eq_some_iff.mp found
    exact ((second value).suffix after).trans (first.suffix before)
  append text more := by
    dsimp only
    rw [first.append]
    cases read text with
    | none => rfl
    | some found => exact (second found.1).append found.2 more

private theorem afterLiteral?_append_stop {literal : List Char} (apart : stop ∉ literal)
    (text more : List Char) : Text.afterLiteral? literal (text ++ stop :: more) =
      (Text.afterLiteral? literal text).map (· ++ stop :: more) := by
  induction literal generalizing text with
  | nil => rfl
  | cons expected literal ih =>
    rw [List.mem_cons, not_or] at apart
    cases text with
    | nil => exact if_neg (Ne.symm apart.1)
    | cons first text =>
      rw [List.cons_append, Text.afterLiteral?, Text.afterLiteral?]
      split
      · exact ih apart.2 text
      · rfl

theorem StopsAt.literal {literal : List Char} (apart : stop ∉ literal) (next : StopsAt stop read) :
    StopsAt stop fun text => (Text.afterLiteral? literal text).bind read where
  suffix found := by
    obtain ⟨between, before, after⟩ := Option.bind_eq_some_iff.mp found
    rw [Text.afterLiteral?_eq_some_iff] at before
    exact (next.suffix after).trans ⟨literal, before.symm⟩
  append text more := by
    dsimp only
    rw [afterLiteral?_append_stop apart]
    cases Text.afterLiteral? literal text with
    | none => rfl
    | some rest => exact next.append rest more

theorem StopsAt.eq_some_iff (stops : StopsAt stop read) (text more : List Char) (value : α) :
    read text = some (value, stop :: more) ↔
      ∃ front, text = front ++ stop :: more ∧ read front = some (value, []) := by
  constructor
  · intro found
    obtain ⟨front, rfl⟩ := stops.suffix found
    refine ⟨front, rfl, ?_⟩
    rw [stops.append] at found
    obtain ⟨⟨first, rest⟩, before, same⟩ := Option.map_eq_some_iff.mp found
    obtain ⟨rfl, left⟩ := Prod.mk.inj same
    rw [before, List.append_left_eq_self.mp left]
  · rintro ⟨front, rfl, before⟩
    rw [stops.append, before]
    rfl

theorem takeWhile_append_stop {kind : Char → Bool} (apart : kind stop = false)
    (text more : List Char) : (text ++ stop :: more).takeWhile kind = text.takeWhile kind := by
  induction text with
  | nil => simp [apart]
  | cons first text ih =>
    rw [List.cons_append, List.takeWhile_cons, List.takeWhile_cons, ih]

theorem StopsAt.run {kind : Char → Bool} (apart : kind stop = false)
    (judge : List Char → Option α) :
    StopsAt stop fun text => (judge (text.takeWhile kind)).map fun value =>
      (value, text.drop (text.takeWhile kind).length) where
  suffix found := by
    obtain ⟨value, _, same⟩ := Option.map_eq_some_iff.mp found
    cases same
    exact List.drop_suffix _ _
  append text more := by
    have within : (text.takeWhile kind).length ≤ text.length :=
      (List.takeWhile_prefix kind).length_le
    dsimp only
    rw [takeWhile_append_stop apart, List.drop_append_of_le_length within, Option.map_map]
    rfl

end

namespace Ipv4

private def octet? (text : List Char) : Option (Nat × List Char) :=
  let digits := text.takeWhile Text.isDigit
  let value := Text.decimalValue digits
  if digits.isEmpty || 3 < digits.length || 255 < value then none
  else if digits.head? = some '0' && 1 < digits.length then none
  else some (value, text.drop digits.length)

private def dot? (text : List Char) : Option (List Char) := Text.afterLiteral? ['.'] text

def read? (text : List Char) : Option (Ipv4 × List Char) := do
  let (first, text) ← octet? text
  let (second, text) ← octet? (← dot? text)
  let (third, text) ← octet? (← dot? text)
  let (fourth, text) ← octet? (← dot? text)
  pure ([first, second, third, fourth], text)

def text (address : Ipv4) : List Char :=
  (address.map (Nat.toDigits 10)).intersperse ['.'] |>.flatten

private theorem octet?_eq : ∃ judge : List Char → Option Nat, octet? = fun text =>
    (judge (text.takeWhile Text.isDigit)).map fun value =>
      (value, text.drop (text.takeWhile Text.isDigit).length) := by
  refine ⟨fun digits =>
    if digits.isEmpty || 3 < digits.length || 255 < Text.decimalValue digits then none
    else if digits.head? = some '0' && 1 < digits.length then none
    else some (Text.decimalValue digits), ?_⟩
  funext text
  dsimp only [octet?]
  split
  · rfl
  · split <;> rfl

variable {stop : Char} (digit : Text.isDigit stop = false)

include digit

private theorem stopsAt_octet? : StopsAt stop octet? := by
  obtain ⟨judge, same⟩ := octet?_eq
  rw [same]
  exact .run digit judge

theorem stopsAt_read? (dot : stop ≠ '.') : StopsAt stop read? := by
  have octet := stopsAt_octet? digit
  have apart : stop ∉ ['.'] := by simp [dot]
  exact octet.bind fun first => .literal apart (octet.bind fun second =>
    .literal apart (octet.bind fun third => .literal apart (octet.bind fun fourth =>
      .pure [first, second, third, fourth])))

omit digit

private theorem four_of_read? {text rest : List Char} {address : Ipv4}
    (found : read? text = some (address, rest)) :
    ∃ first second third fourth, address = [first, second, third, fourth] := by
  simp only [read?, Option.bind_eq_bind, Option.bind_eq_some_iff, Option.pure_def,
    Option.some.injEq, Prod.mk.injEq, Prod.exists] at found
  obtain ⟨first, _, _, _, _, second, _, _, _, _, third, _, _, _, _, fourth, _, _, same, _⟩ := found
  exact ⟨first, second, third, fourth, same.symm⟩

theorem visible_text (address : Ipv4) : Text.Visible (text address) := by
  refine (Text.Visible.flatten_intersperse_iff (by decide)).mpr fun part member => ?_
  obtain ⟨number, _, rfl⟩ := List.mem_map.mp member
  exact Text.Visible.toDigits 10 number

end Ipv4

namespace Ipv6

private def group? (text : List Char) : Option (Nat × List Char) :=
  let digits := text.takeWhile fun char => (Hex.value? char).isSome
  if 4 < digits.length then none
  else if digits.isEmpty then none
  else (Hex.natValue? digits).map fun value => (value, text.drop digits.length)

/-- Reads at most `most` groups with colons between them, the last two perhaps in dotted decimal,
and says whether they were. -/
private def groups (first : Bool) (text : List Char) : Nat → List Nat × Bool × List Char
  | 0 => ([], false, text)
  | most + 1 =>
    match if first then some text else Text.afterLiteral? [':'] text with
    | none => ([], false, text)
    | some inner =>
      match if 0 < most then Ipv4.read? inner else none with
      | some ([a, b, c, d], rest) => ([a * 256 + b, c * 256 + d], true, rest)
      | _ =>
        match group? inner with
        | none => ([], false, text)
        | some (value, rest) =>
          let (more, dotted, rest) := groups false rest most
          (value :: more, dotted, rest)

def read? (text : List Char) : Option (Ipv6 × List Char) :=
  let (head, dotted, rest) := groups true text 8
  if head.length = 8 then some (head, rest)
  else if dotted then none
  else do
    let rest ← Text.afterLiteral? [':', ':'] rest
    let (tail, _, rest) := groups true rest (7 - head.length)
    pure (head ++ List.replicate (8 - head.length - tail.length) 0 ++ tail, rest)

private theorem group?_eq : ∃ judge : List Char → Option Nat, group? = fun text =>
    (judge (text.takeWhile fun char => (Hex.value? char).isSome)).map fun value =>
      (value, text.drop (text.takeWhile fun char => (Hex.value? char).isSome).length) := by
  refine ⟨fun digits => if 4 < digits.length then none
    else if digits.isEmpty then none
    else Hex.natValue? digits, ?_⟩
  funext text
  dsimp only [group?]
  split
  · rfl
  · split <;> rfl

private def grouped (first : Bool) (most : Nat) (text : List Char) :
    Option ((List Nat × Bool) × List Char) :=
  let (values, dotted, rest) := groups first text most
  some ((values, dotted), rest)

/-- Stands in no address of groups. -/
structure Apart (stop : Char) : Prop where
  digit : Text.isDigit stop = false
  hexDigit : Hex.value? stop = none
  dot : stop ≠ '.'
  colon : stop ≠ ':'

variable {stop : Char} (apart : Apart stop)

include apart

private theorem stopsAt_group? : StopsAt stop group? := by
  obtain ⟨judge, same⟩ := group?_eq
  rw [same]
  exact .run (by simp [apart.hexDigit]) judge

private theorem stopsAt_grouped (first : Bool) (most : Nat) :
    StopsAt stop (grouped first most) := by
  have colon : stop ∉ [':'] := by simp [apart.colon]
  have dotted := Ipv4.stopsAt_read? apart.digit apart.dot
  have group := stopsAt_group? apart
  induction most generalizing first with
  | zero => exact .pure ([], false)
  | succ most ih =>
    constructor
    · intro text value rest found
      cases found
      dsimp only
      split
      · exact List.suffix_rfl
      · rename_i inner opened
        have within : inner <:+ text := by
          split at opened
          · cases opened
            exact List.suffix_rfl
          · rw [Text.afterLiteral?_eq_some_iff] at opened
            exact ⟨_, opened.symm⟩
        split
        · rename_i read
          split at read
          · exact (dotted.suffix read).trans within
          · cases read
        · split
          · exact List.suffix_rfl
          · rename_i read
            exact ((ih false).suffix rfl).trans ((group.suffix read).trans within)
    · intro text more
      have opened : (if first then some (text ++ stop :: more)
          else Text.afterLiteral? [':'] (text ++ stop :: more)) =
            (if first then some text else Text.afterLiteral? [':'] text).map
              (· ++ stop :: more) := by
        cases first with
        | true => rfl
        | false => exact afterLiteral?_append_stop colon text more
      simp only [grouped, groups]
      rw [opened]
      cases (if first then some text else Text.afterLiteral? [':'] text) with
      | none => rfl
      | some inner =>
        have four : (if 0 < most then Ipv4.read? (inner ++ stop :: more) else none) =
            (if 0 < most then Ipv4.read? inner else none).map fun (value, rest) =>
              (value, rest ++ stop :: more) := by
          split
          · exact dotted.append inner more
          · rfl
        simp only [Option.map_some, four]
        cases read : (if 0 < most then Ipv4.read? inner else none) with
        | some found =>
          obtain ⟨address, rest⟩ := found
          split at read
          · obtain ⟨_, _, _, _, rfl⟩ := Ipv4.four_of_read? read
            rfl
          · cases read
        | none =>
          simp only [Option.map_none, group.append]
          cases group? inner with
          | none => rfl
          | some found =>
            have later := (ih false).append found.2 more
            simp only [grouped, Option.map_some, Option.some.injEq, Prod.mk.injEq] at later
            simp [later]

theorem stopsAt_read? : StopsAt stop read? := by
  have colons : stop ∉ [':', ':'] := by simp [apart.colon]
  have next (value : List Nat × Bool) : StopsAt stop fun rest =>
      if value.1.length = 8 then some (value.1, rest)
      else if value.2 then none
      else (Text.afterLiteral? [':', ':'] rest).bind fun rest =>
        (grouped true (7 - value.1.length) rest).bind fun (tail, rest) =>
          some (value.1 ++ List.replicate (8 - value.1.length - tail.1.length) 0 ++ tail.1,
            rest) := by
    split
    · exact .pure value.1
    · split
      · exact .none
      · exact .literal colons ((stopsAt_grouped apart true _).bind fun tail =>
          .pure (value.1 ++ List.replicate (8 - value.1.length - tail.1.length) 0 ++ tail.1))
  exact (stopsAt_grouped apart true 8).bind next

omit apart

private def leadingZeros (groups : List Nat) : Nat := (groups.takeWhile (· = 0)).length

/-- Where the first of the longest runs of zeros starts, and its length. -/
def longestZeros (groups : List Nat) : Nat × Nat :=
  (List.range groups.length).foldl
    (fun best start =>
      let length := leadingZeros (groups.drop start)
      if best.2 < length then (start, length) else best) (0, 0)

private def hexGroups (groups : List Nat) : List Char :=
  (groups.map (Nat.toDigits 16)).intersperse [':'] |>.flatten

/-- The longest run of two or more zeros is left out. -/
def compressed (address : Ipv6) : List Char :=
  let (start, length) := longestZeros address
  if length < 2 then hexGroups address
  else hexGroups (address.take start) ++ [':', ':'] ++ hexGroups (address.drop (start + length))

private theorem visible_hexGroups (groups : List Nat) : Text.Visible (hexGroups groups) := by
  refine (Text.Visible.flatten_intersperse_iff (by decide)).mpr fun part member => ?_
  obtain ⟨number, _, rfl⟩ := List.mem_map.mp member
  exact Text.Visible.toDigits 16 number

theorem visible_compressed (address : Ipv6) : Text.Visible (compressed address) := by
  unfold compressed
  dsimp only
  split
  · exact visible_hexGroups address
  · have colons : Text.Visible [':', ':'] := by decide
    simp only [Text.Visible.append_iff, visible_hexGroups, colons, true_and]

/-- Like `compressed`, but an address that stands for one of four numbers ends in dotted decimal. -/
def text (address : Ipv6) : List Char :=
  match address with
  | [0, 0, 0, 0, 0, 0xffff, high, low] =>
    "::ffff:".toList ++ Ipv4.text [high / 256, high % 256, low / 256, low % 256]
  | _ => compressed address

end Ipv6

namespace SocketAddress

private def bounded? (bits : Nat) (text : List Char) : Option (Nat × List Char) :=
  let digits := text.takeWhile Text.isDigit
  let value := Text.decimalValue digits
  if digits.isEmpty || Nat.pow 2 bits ≤ value then none else some (value, text.drop digits.length)

private def port? (text : List Char) : Option Nat := do
  let (port, rest) ← bounded? 16 (← Text.afterLiteral? [':'] text)
  if rest.isEmpty then some port else none

private def readV4? (text : List Char) : Option SocketAddress := do
  let (address, rest) ← Ipv4.read? text
  pure (.v4 address (← port? rest))

private def readV6? (text : List Char) : Option SocketAddress := do
  let (address, rest) ← Ipv6.read? (← Text.afterLiteral? ['['] text)
  let (scope, rest) ← match rest with
    | '%' :: digits => bounded? 32 digits
    | rest => some (0, rest)
  pure (.v6 address scope (← port? (← Text.afterLiteral? [']'] rest)))

def read? (text : List Char) : Option SocketAddress := (readV4? text).or (readV6? text)

def text : SocketAddress → String
  | v4 address port => String.ofList (Ipv4.text address ++ [':'] ++ Nat.toDigits 10 port)
  | v6 address scope port =>
    let zone := if scope = 0 then [] else '%' :: Nat.toDigits 10 scope
    String.ofList (['['] ++ Ipv6.text address ++ zone ++ [']', ':'] ++ Nat.toDigits 10 port)

/-! ### What addresses are read from -/

/-- An address without its port: dotted decimal, or eight groups in brackets, perhaps with the number
of a zone behind a percent sign. -/
inductive IsHost : List Char → Prop where
  | v4 {text : List Char} {address : Ipv4} (read : Ipv4.read? text = some (address, [])) :
      IsHost text
  | v6 {text : List Char} {address : Ipv6} (read : Ipv6.read? text = some (address, [])) :
      IsHost ('[' :: text ++ [']'])
  | zoned {text digits : List Char} {address : Ipv6} (read : Ipv6.read? text = some (address, []))
      (some : digits ≠ []) (decimal : ∀ char ∈ digits, Text.isDigit char = true)
      (small : Text.decimalValue digits < Nat.pow 2 32) :
      IsHost ('[' :: text ++ '%' :: digits ++ [']'])

private theorem bounded?_eq (bits : Nat) :
    ∃ judge : List Char → Option Nat, bounded? bits = fun text =>
    (judge (text.takeWhile Text.isDigit)).map fun value =>
      (value, text.drop (text.takeWhile Text.isDigit).length) := by
  refine ⟨fun digits => if digits.isEmpty || Nat.pow 2 bits ≤ Text.decimalValue digits then none
    else some (Text.decimalValue digits), ?_⟩
  funext text
  dsimp only [bounded?]
  split <;> rfl

private theorem stopsAt_bounded? {stop : Char} (digit : Text.isDigit stop = false) (bits : Nat) :
    StopsAt stop (bounded? bits) := by
  obtain ⟨judge, same⟩ := bounded?_eq bits
  rw [same]
  exact .run digit judge

private theorem bounded?_eq_some_iff (bits : Nat) (digits : List Char) (value : Nat) :
    bounded? bits digits = some (value, []) ↔ digits ≠ [] ∧
      (∀ char ∈ digits, Text.isDigit char = true) ∧ Text.decimalValue digits < Nat.pow 2 bits ∧
      Text.decimalValue digits = value := by
  constructor
  · intro found
    simp only [bounded?, Option.ite_none_left_eq_some, Option.some.injEq, Prod.mk.injEq,
      List.drop_eq_nil_iff] at found
    obtain ⟨allowed, same, whole⟩ := found
    have all : digits.takeWhile Text.isDigit = digits :=
      (List.takeWhile_prefix _).eq_of_length_le whole
    simp only [all, Bool.or_eq_true, List.isEmpty_iff, decide_eq_true_eq, not_or,
      Nat.not_le] at allowed same
    exact ⟨allowed.1, List.all_eq_true.mp (all ▸ List.all_takeWhile), allowed.2, same⟩
  · rintro ⟨present, decimal, small, rfl⟩
    have through : (digits ++ []).takeWhile Text.isDigit = digits ++ [].takeWhile Text.isDigit :=
      List.takeWhile_append_of_pos decimal
    rw [List.append_nil, List.takeWhile_nil, List.append_nil] at through
    simp only [bounded?, through, List.drop_length]
    exact if_neg (by simpa [present] using small)

private theorem colon_not_mem {bits : Nat} {digits : List Char} {value : Nat}
    (found : bounded? bits digits = some (value, [])) : ':' ∉ digits := fun member =>
  absurd (((bounded?_eq_some_iff ..).mp found).2.1 ':' member) (by decide)

private theorem port?_eq_some_iff (text : List Char) (port : Nat) :
    port? text = some port ↔
      ∃ digits, text = ':' :: digits ∧ bounded? 16 digits = some (port, []) := by
  simp only [port?, Option.bind_eq_bind, Option.bind_eq_some_iff, Text.afterLiteral?_eq_some_iff,
    Prod.exists, Option.ite_none_right_eq_some, Option.some.injEq, List.isEmpty_iff,
    List.singleton_append]
  constructor
  · rintro ⟨digits, same, value, rest, found, rfl, rfl⟩
    exact ⟨digits, same, found⟩
  · rintro ⟨digits, same, found⟩
    exact ⟨digits, same, port, [], found, rfl, rfl⟩

private theorem eq_of_split {mark : Char} {front other behind rest : List Char}
    (same : front ++ mark :: behind = other ++ mark :: rest) (free : mark ∉ behind)
    (apart : mark ∉ rest) : front = other := by
  induction front generalizing other with
  | nil =>
    cases other with
    | nil => rfl
    | cons first other =>
      obtain ⟨_, rfl⟩ := List.cons.inj same
      exact absurd (List.mem_append_right _ List.mem_cons_self) free
  | cons first front ih =>
    cases other with
    | nil =>
      obtain ⟨_, rfl⟩ := List.cons.inj same
      exact absurd (List.mem_append_right _ List.mem_cons_self) apart
    | cons second other =>
      obtain ⟨rfl, tails⟩ := List.cons.inj same
      rw [ih tails]

private theorem apart_bracket : Ipv6.Apart ']' := ⟨by decide, by decide, by decide, by decide⟩

private theorem apart_percent : Ipv6.Apart '%' := ⟨by decide, by decide, by decide, by decide⟩

private theorem stopsAt_zone : StopsAt ']' (bounded? 32) := stopsAt_bounded? apart_bracket.digit 32

private theorem closing_eq_some_iff (make : Nat → SocketAddress) (rest : List Char)
    (address : SocketAddress) :
    ((Text.afterLiteral? [']'] rest).bind fun rest => (port? rest).bind fun port =>
      some (make port)) = some address ↔
      ∃ digits port, rest = ']' :: ':' :: digits ∧ bounded? 16 digits = some (port, []) ∧
        make port = address := by
  simp only [Option.bind_eq_some_iff, Text.afterLiteral?_eq_some_iff, port?_eq_some_iff,
    Option.some.injEq, List.singleton_append]
  constructor
  · rintro ⟨_, rfl, port, ⟨digits, rfl, numbered⟩, same⟩
    exact ⟨digits, port, rfl, numbered, same⟩
  · rintro ⟨digits, port, rfl, numbered, same⟩
    exact ⟨_, rfl, port, ⟨digits, rfl, numbered⟩, same⟩

variable {host digits : List Char} {port : Nat} (ported : bounded? 16 digits = some (port, []))

include ported

private theorem readV4?_iff : (readV4? (host ++ ':' :: digits)).isSome = true ↔
    ∃ address, Ipv4.read? host = some (address, []) := by
  have stops : StopsAt ':' Ipv4.read? := Ipv4.stopsAt_read? (by decide) (by decide)
  rw [readV4?, Option.isSome_iff_exists]
  simp only [Option.bind_eq_bind, Option.bind_eq_some_iff, Option.pure_def, Prod.exists,
    port?_eq_some_iff]
  constructor
  · rintro ⟨_, address, rest, read, _, ⟨more, rfl, numbered⟩, _⟩
    obtain ⟨front, same, whole⟩ := (stops.eq_some_iff _ _ _).mp read
    exact ⟨address, eq_of_split same (colon_not_mem ported) (colon_not_mem numbered) ▸ whole⟩
  · rintro ⟨address, read⟩
    exact ⟨_, address, _, (stops.eq_some_iff _ _ _).mpr ⟨host, rfl, read⟩, port,
      ⟨digits, rfl, ported⟩, rfl⟩

private theorem isHost_of_readV6? {address : SocketAddress}
    (found : readV6? (host ++ ':' :: digits) = some address) : IsHost host := by
  unfold readV6? at found
  obtain ⟨body, opened, found⟩ := Option.bind_eq_some_iff.mp found
  rw [Text.afterLiteral?_eq_some_iff] at opened
  obtain ⟨⟨groups, rest⟩, read, found⟩ := Option.bind_eq_some_iff.mp found
  dsimp only at found
  split at found
  · obtain ⟨⟨scope, rest⟩, spelled, found⟩ := Option.bind_eq_some_iff.mp found
    obtain ⟨more, _, rfl, numbered, _⟩ := (closing_eq_some_iff _ _ _).mp found
    obtain ⟨text, rfl, whole⟩ := ((Ipv6.stopsAt_read? apart_percent).eq_some_iff _ _ _).mp read
    obtain ⟨zone, rfl, limited⟩ := (stopsAt_zone.eq_some_iff _ _ _).mp spelled
    obtain ⟨present, decimal, small, _⟩ := (bounded?_eq_some_iff ..).mp limited
    have same : host ++ ':' :: digits = '[' :: text ++ '%' :: zone ++ [']'] ++ ':' :: more := by
      rw [opened]
      simp
    rw [eq_of_split same (colon_not_mem ported) (colon_not_mem numbered)]
    exact .zoned whole present decimal small
  · obtain ⟨more, _, rfl, numbered, _⟩ := (closing_eq_some_iff (.v6 groups 0) _ _).mp found
    obtain ⟨text, rfl, whole⟩ := ((Ipv6.stopsAt_read? apart_bracket).eq_some_iff _ _ _).mp read
    have same : host ++ ':' :: digits = '[' :: text ++ [']'] ++ ':' :: more := by
      rw [opened]
      simp
    rw [eq_of_split same (colon_not_mem ported) (colon_not_mem numbered)]
    exact .v6 whole

private theorem isSome_readV6?_of_groups {text : List Char} {groups : Ipv6}
    (read : Ipv6.read? text = some (groups, [])) :
    (readV6? ('[' :: text ++ [']'] ++ ':' :: digits)).isSome = true := by
  have whole := ((Ipv6.stopsAt_read? apart_bracket).eq_some_iff _ (':' :: digits) _).mpr
    ⟨text, rfl, read⟩
  have shape : '[' :: text ++ [']'] ++ ':' :: digits = '[' :: (text ++ ']' :: ':' :: digits) := by
    simp
  refine Option.isSome_iff_exists.mpr ⟨.v6 groups 0 port, ?_⟩
  rw [shape]
  unfold readV6?
  refine Option.bind_eq_some_iff.mpr ⟨_, rfl, Option.bind_eq_some_iff.mpr ⟨_, whole, ?_⟩⟩
  exact (closing_eq_some_iff (.v6 groups 0) _ _).mpr ⟨digits, port, rfl, ported, rfl⟩

private theorem isSome_readV6?_of_zone {text zone : List Char} {groups : Ipv6} {scope : Nat}
    (read : Ipv6.read? text = some (groups, [])) (numbered : bounded? 32 zone = some (scope, [])) :
    (readV6? ('[' :: text ++ '%' :: zone ++ [']'] ++ ':' :: digits)).isSome = true := by
  have whole := ((Ipv6.stopsAt_read? apart_percent).eq_some_iff _ (zone ++ ']' :: ':' :: digits)
    _).mpr ⟨text, rfl, read⟩
  have bounded := (stopsAt_zone.eq_some_iff _ (':' :: digits) _).mpr ⟨zone, rfl, numbered⟩
  have shape : '[' :: text ++ '%' :: zone ++ [']'] ++ ':' :: digits =
      '[' :: (text ++ '%' :: (zone ++ ']' :: ':' :: digits)) := by
    simp
  refine Option.isSome_iff_exists.mpr ⟨.v6 groups scope port, ?_⟩
  rw [shape]
  unfold readV6?
  refine Option.bind_eq_some_iff.mpr ⟨_, rfl, Option.bind_eq_some_iff.mpr ⟨_, whole, ?_⟩⟩
  refine Option.bind_eq_some_iff.mpr ⟨_, bounded, ?_⟩
  exact (closing_eq_some_iff (.v6 groups scope) _ _).mpr ⟨digits, port, rfl, ported, rfl⟩

omit ported

/-- Whether there is an address goes by what stands before the port. -/
theorem isSome_read?_iff (host digits : List Char) (present : digits ≠ [])
    (decimal : ∀ char ∈ digits, Text.isDigit char = true)
    (small : Text.decimalValue digits < Nat.pow 2 16) :
    (read? (host ++ ':' :: digits)).isSome = true ↔ IsHost host := by
  have ported : bounded? 16 digits = some (Text.decimalValue digits, []) :=
    (bounded?_eq_some_iff ..).mpr ⟨present, decimal, small, rfl⟩
  rw [read?, Option.isSome_or, Bool.or_eq_true, readV4?_iff ported]
  constructor
  · rintro (⟨address, read⟩ | found)
    · exact .v4 read
    · obtain ⟨address, found⟩ := Option.isSome_iff_exists.mp found
      exact isHost_of_readV6? ported found
  · intro named
    cases named with
    | v4 read => exact .inl ⟨_, read⟩
    | v6 read => exact .inr (isSome_readV6?_of_groups ported read)
    | zoned read present decimal small =>
      exact .inr (isSome_readV6?_of_zone ported read
        ((bounded?_eq_some_iff ..).mpr ⟨present, decimal, small, rfl⟩))

end SocketAddress

end HookRelay
