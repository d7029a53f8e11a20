import Mathlib.Algebra.Order.AbsoluteValue.Basic
import Mathlib.Data.Nat.Digits.Defs
import Mathlib.Data.Rat.Floor
import HookRelay.Proofs.Serving
import HookRelay.Proofs.Signature

/-!
Which timestamps are fresh: those that write a number of sixty-four bits no further from the present
than the tolerance. A request that is replayed is trusted within twice the tolerance or not at all.
-/
namespace HookRelay

namespace Text

/-- One or more decimal digits write a number, the most significant first. -/
inductive Counts : (digits : List Char) → Nat → Prop where
  | decimal {digits : List Char} (present : digits ≠ [])
      (all : ∀ char ∈ digits, char.isDigit = true) :
      Counts digits (Nat.ofDigits 10 (digits.map fun char => char.toNat - '0'.toNat).reverse)

/-- Decimal digits write an integer, with a sign in front or none. -/
inductive Numbers : (text : List Char) → Int → Prop where
  | bare {digits : List Char} {count : Nat} (counts : Counts digits count) : Numbers digits count
  | plus {digits : List Char} {count : Nat} (counts : Counts digits count) :
      Numbers ('+' :: digits) count
  | minus {digits : List Char} {count : Nat} (counts : Counts digits count) :
      Numbers ('-' :: digits) (-count)

variable {text digits : List Char} {count : Nat} {number : Int}

theorem isDigit_eq (char : Char) : isDigit char = char.isDigit := by
  rw [Bool.eq_iff_iff]
  simp only [isDigit, Char.isDigit, Bool.and_eq_true, decide_eq_true_eq, ge_iff_le,
    UInt32.le_iff_toNat_le]
  exact Iff.rfl

theorem decimalValue_eq_ofDigits (digits : List Char) :
    decimalValue digits =
      Nat.ofDigits 10 (digits.map fun char => char.toNat - '0'.toNat).reverse := by
  rw [Nat.ofDigits_eq_foldr, List.foldr_reverse, List.foldl_map, decimalValue]
  congr 1
  funext total char
  show total * 10 + (char.toNat - 48) = (char.toNat - 48) + 10 * total
  omega

private theorem counts_iff :
    (if digits.isEmpty || !digits.all isDigit then none else some (decimalValue digits)) =
      some count ↔ Counts digits count := by
  rw [decimalValue_eq_ofDigits]
  simp only [ite_eq_iff, reduceCtorEq, and_false, false_or, Bool.not_eq_true, Bool.or_eq_false_iff,
    List.isEmpty_eq_false_iff, Bool.not_eq_false', List.all_eq_true, isDigit_eq, Option.some.injEq]
  constructor
  · rintro ⟨⟨present, all⟩, rfl⟩
    exact .decimal present all
  · rintro ⟨present, all⟩
    exact ⟨⟨present, all⟩, rfl⟩

private theorem Counts.not_signed {sign : Char} (signed : sign.isDigit = false) (rest : List Char) :
    ¬Counts (sign :: rest) count := by
  rintro ⟨-, all⟩
  rw [all sign List.mem_cons_self] at signed
  cases signed

theorem integer?_eq_some_iff : integer? text = some number ↔ Numbers text number := by
  constructor
  · intro found
    unfold integer? at found
    split at found <;> obtain ⟨count, counted, rfl⟩ := Option.map_eq_some_iff.mp found
    · exact .plus (counts_iff.mp counted)
    · exact .minus (counts_iff.mp counted)
    · exact .bare (counts_iff.mp counted)
  · intro numbers
    cases numbers with
    | plus counts => exact Option.map_eq_some_iff.mpr ⟨_, counts_iff.mpr counts, rfl⟩
    | minus counts => exact Option.map_eq_some_iff.mpr ⟨_, counts_iff.mpr counts, rfl⟩
    | bare counts =>
      unfold integer?
      split
      · exact absurd counts (Counts.not_signed rfl _)
      · exact absurd counts (Counts.not_signed rfl _)
      · exact Option.map_eq_some_iff.mpr ⟨_, counts_iff.mpr counts, rfl⟩

/-- No blank stands in a number, so that trimming leaves it whole. -/
theorem Numbers.trimmed (numbers : Numbers text number) : Trimmed text := by
  have solid {digits : List Char} {count : Nat} (counts : Counts digits count) :
      ∀ char ∈ digits, isBlank char = false := by
    intro char member
    obtain ⟨-, all⟩ := counts
    have digit := all char member
    rw [← isDigit_eq] at digit
    simp only [isDigit, Bool.and_eq_true, decide_eq_true_eq] at digit
    simp only [isBlank, Bool.or_eq_false_iff, Bool.and_eq_false_iff, decide_eq_false_iff_not,
      beq_eq_false_iff_ne]
    omega
  apply Trimmed.of_solid
  cases numbers with
  | bare counts => exact solid counts
  | plus counts => exact List.forall_mem_cons.mpr ⟨by decide, solid counts⟩
  | minus counts => exact List.forall_mem_cons.mpr ⟨by decide, solid counts⟩

end Text

theorem Instant.seconds_eq_floor (instant : Instant) :
    instant.seconds = ⌊(instant.nanos : ℚ) / (1000000000 : Nat)⌋ := by
  rw [Rat.floor_intCast_div_natCast]
  exact Int.fdiv_eq_ediv_of_nonneg _ (by decide)

namespace Freshness

variable {header : List Char} {seconds : Int}

/-- A header writes a number of seconds: blanks may stand around it. -/
inductive Writes : (header : List Char) → (seconds : Int) → Prop where
  | number {before text after : List Char} {seconds : Int} (blank : Text.AllBlank before)
      (numbers : Text.Numbers text seconds) (empty : Text.AllBlank after) :
      Writes (before ++ text ++ after) seconds

theorem writes_iff :
    Writes header seconds ↔ Text.integer? (Text.trim header) = some seconds := by
  rw [Text.integer?_eq_some_iff]
  constructor
  · rintro ⟨blank, numbers, empty⟩
    rwa [(Text.trim_eq_iff _ _).mpr ⟨numbers.trimmed, _, _, blank, empty, rfl⟩]
  · intro numbers
    obtain ⟨-, before, after, blank, empty, split⟩ := (Text.trim_eq_iff header _).mp rfl
    rw [split]
    exact .number blank numbers empty

theorem Writes.unique {other : Int} (writes : Writes header seconds) (again : Writes header other) :
    seconds = other :=
  Option.some.inj ((writes_iff.mp writes).symm.trans (writes_iff.mp again))

theorem timestamp?_eq_some_iff :
    timestamp? header = some seconds ↔
      Writes header seconds ∧ -2 ^ 63 ≤ seconds ∧ seconds < 2 ^ 63 := by
  rw [writes_iff, timestamp?]
  cases Text.integer? (Text.trim header) with
  | none => simp
  | some value => grind

theorem isFresh_iff (timestamp : Int) (tolerance : Nat) (now : Instant) :
    isFresh timestamp tolerance now = true ↔ |now.seconds - timestamp| ≤ tolerance := by
  rw [isFresh, decide_eq_true_eq, Int.abs_eq_natAbs, Int.ofNat_le]

/-- A header is fresh if it writes a number of sixty-four bits that lies within the tolerance. -/
theorem isFreshHeader_iff (header : List Char) (tolerance : Duration) (now : Instant) :
    isFreshHeader header tolerance now = true ↔
      ∃ seconds, Writes header seconds ∧ -2 ^ 63 ≤ seconds ∧ seconds < 2 ^ 63 ∧
        |now.seconds - seconds| ≤ tolerance.seconds := by
  rw [isFreshHeader]
  cases found : timestamp? header with
  | none =>
    constructor
    · intro fresh
      cases fresh
    · rintro ⟨seconds, writes, above, below, -⟩
      rw [timestamp?_eq_some_iff.mpr ⟨writes, above, below⟩] at found
      cases found
  | some timestamp =>
    obtain ⟨writes, above, below⟩ := timestamp?_eq_some_iff.mp found
    rw [isFresh_iff]
    constructor
    · intro near
      exact ⟨timestamp, writes, above, below, near⟩
    · rintro ⟨seconds, again, -, -, near⟩
      rwa [writes.unique again]

end Freshness

namespace Inbound

variable {tolerance : Duration} {now later : Instant} {payload : Json.Value}
  {signature timestamp : Option (List Char)} {subscription other : Subscription}

theorem isFresh_of_validate
    (valid : validate tolerance now payload signature timestamp subscription = .ok true) :
    ∃ header, timestamp = some header ∧ Freshness.isFreshHeader header tolerance now = true := by
  cases timestamp with
  | none => cases valid
  | some header =>
    refine ⟨header, rfl, ?_⟩
    by_contra stale
    simp [validate, isFresh, stale] at valid

theorem seconds_apart
    (valid : validate tolerance now payload signature timestamp subscription = .ok true)
    (again : validate tolerance later payload signature timestamp other = .ok true) :
    |now.seconds - later.seconds| ≤ 2 * (tolerance.seconds : Int) := by
  obtain ⟨header, rfl, fresh⟩ := isFresh_of_validate valid
  obtain ⟨_, same, still⟩ := isFresh_of_validate again
  cases same
  obtain ⟨seconds, writes, -, -, near⟩ := (Freshness.isFreshHeader_iff ..).mp fresh
  obtain ⟨_, rewritten, -, -, close⟩ := (Freshness.isFreshHeader_iff ..).mp still
  cases writes.unique rewritten
  calc |now.seconds - later.seconds|
      ≤ |now.seconds - seconds| + |seconds - later.seconds| := abs_sub_le ..
    _ = |now.seconds - seconds| + |later.seconds - seconds| := by rw [abs_sub_comm seconds]
    _ ≤ tolerance.seconds + tolerance.seconds := Int.add_le_add near close
    _ = 2 * (tolerance.seconds : Int) := (two_mul _).symm

/-- A header is fresh exactly if it writes, in sixty-four bits, a time that lies within the tolerance
of the present in whole seconds; and a request that is accepted at two times, by whatever
subscriptions, is accepted within twice the tolerance. -/
theorem freshness_exact (tolerance : Duration) :
    (∀ header now, Freshness.isFreshHeader header tolerance now = true ↔
      ∃ seconds, Freshness.Writes header seconds ∧ -2 ^ 63 ≤ seconds ∧ seconds < 2 ^ 63 ∧
        |⌊(now.nanos : ℚ) / (1000000000 : Nat)⌋ - seconds| ≤ tolerance.seconds) ∧
    ∀ payload signature timestamp now later subscription other,
      validate tolerance now payload signature timestamp subscription = .ok true →
      validate tolerance later payload signature timestamp other = .ok true →
      |⌊(now.nanos : ℚ) / (1000000000 : Nat)⌋ - ⌊(later.nanos : ℚ) / (1000000000 : Nat)⌋| ≤
        2 * (tolerance.seconds : Int) := by
  simp only [← Instant.seconds_eq_floor]
  constructor
  · intro header now
    exact Freshness.isFreshHeader_iff header tolerance now
  · intro payload signature timestamp now later subscription other valid again
    exact seconds_apart valid again

/-- A replay at the last nanosecond, with the secret replaced in between. -/
theorem freshness_exact_replayed : ∃ signature,
    validate Freshness.defaultTolerance (.ofSeconds (-600)) .null (some signature)
      (some " -300".toList) .ofOrders = .ok true ∧
    validate Freshness.defaultTolerance ⟨999999999⟩ .null (some signature)
      (some " -300".toList) .ofOrdersReplaced = .ok true ∧
    |⌊((Instant.ofSeconds (-600)).nanos : ℚ) / (1000000000 : Nat)⌋ -
      ⌊((⟨999999999⟩ : Instant).nanos : ℚ) / (1000000000 : Nat)⌋| ≤
        2 * (Freshness.defaultTolerance.seconds : Int) := by
  obtain ⟨signature, verifies⟩ : ∃ signature, Signature.verifyBytes (Json.canonical .null) signature
      Subscription.ofOrders.secret = true :=
    ⟨_, Signature.verifyBytes_of_signBytes (Signature.signBytes_of_usable rfl _)⟩
  have sent : validate Freshness.defaultTolerance (.ofSeconds (-600)) .null (some signature)
      (some " -300".toList) .ofOrders = .ok true := by
    rw [validate_of_fresh (by decide +kernel)
      (show Subscription.ofOrders.activeSecrets _ = .ok [Subscription.ofOrders.secret] from rfl)]
    exact congrArg Except.ok (List.any_eq_true.mpr ⟨_, List.mem_singleton_self _, verifies⟩)
  have replayed : validate Freshness.defaultTolerance ⟨999999999⟩ .null (some signature)
      (some " -300".toList) .ofOrdersReplaced = .ok true := by
    rw [validate_of_fresh (by decide +kernel) (show Subscription.ofOrdersReplaced.activeSecrets
      ⟨999999999⟩ = .ok [⟨[0x2b]⟩, Subscription.ofOrders.secret] by decide)]
    exact congrArg Except.ok (List.any_eq_true.mpr ⟨_, by decide, verifies⟩)
  exact ⟨signature, sent, replayed,
    (freshness_exact Freshness.defaultTolerance).2 _ _ _ _ _ _ _ sent replayed⟩

end Inbound

end HookRelay
