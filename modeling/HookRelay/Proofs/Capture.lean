import HookRelay.Http.Client
import HookRelay.Proofs.Text.Lossy
import Mathlib.Data.List.Infix

/-!
What is kept of a response body. Reading it chunk by chunk gives the beginning of the body whichever
way it was cut into chunks, and asks for no chunk once it holds enough. An oversized body is cut to
a number of bytes before these are read as text, so that its text has the size that is meant for it
only where nothing in those bytes is ill-formed.
-/
namespace HookRelay.Capture

open HookRelay.Utf8 (Part parts)

/-! ### Oversized bodies -/

/-- How many bytes are read of an oversized body, so as to leave room for the mark. -/
def keptSize : Nat := truncatedSize - truncationMark.length

/-- What is recorded of an oversized body. Its size goes by the parts of the bytes that are kept,
and is the one that is meant exactly where no part grows. -/
structure Shortened (body : Bytes) : Prop where
  marked : truncationMark <:+ text body
  length_le : (text body).length ≤ truncatedSize
  size_eq : Utf8.size (text body) = truncatedSize + Part.growthOf (parts (body.take keptSize))
  fits_iff : Utf8.size (text body) ≤ truncatedSize ↔
    ∀ part ∈ parts (body.take keptSize), part.growth = 0
  size_le : Utf8.size (text body) ≤ truncatedSize + 2 * keptSize
  size_of_wellFormed : (Utf8.decode? body).isSome = true →
    Utf8.size (text body) ≤ truncatedSize + 2
  size_of_uncut : (Utf8.decode? (body.take keptSize)).isSome = true →
    Utf8.size (text body) = truncatedSize

theorem text_eq_of_oversized {body : Bytes} (oversized : greatestBody < body.length) :
    text body = Utf8.decodeLossy (body.take keptSize) ++ truncationMark :=
  if_pos oversized

private theorem size_text {body : Bytes} (oversized : greatestBody < body.length) :
    Utf8.size (text body) = truncatedSize + Part.growthOf (parts (body.take keptSize)) := by
  have mark : Utf8.size truncationMark + keptSize = truncatedSize := by decide
  have long : keptSize ≤ body.length := Nat.le_of_lt (Nat.lt_trans (by decide) oversized)
  rw [text_eq_of_oversized oversized, Utf8.size_append, Utf8.size_decodeLossy, List.length_take,
    Nat.min_eq_left long]
  omega

theorem shortened_of_oversized (body : Bytes) (oversized : greatestBody < body.length) :
    Shortened body := by
  have written := text_eq_of_oversized oversized
  have size := size_text oversized
  constructor
  · exact ⟨_, written.symm⟩
  · have mark : keptSize + truncationMark.length = truncatedSize := by decide
    have fewer := Utf8.length_decodeLossy_le (body.take keptSize)
    rw [List.length_take] at fewer
    rw [written, List.length_append]
    omega
  · exact size
  · rw [← Part.growthOf_eq_zero_iff]
    omega
  · have most := Utf8.growthOf_parts_le (body.take keptSize)
    rw [List.length_take] at most
    omega
  · intro wellFormed
    obtain ⟨whole, decoded⟩ := Option.isSome_iff_exists.mp wellFormed
    have most := Utf8.growthOf_parts_take_le decoded keptSize
    omega
  · intro uncut
    obtain ⟨whole, decoded⟩ := Option.isSome_iff_exists.mp uncut
    have none := Utf8.growthOf_parts_eq_zero decoded
    omega

/-- Text that is well formed, with a character of two bytes across the place where it is cut. -/
private def accented : Bytes :=
  List.replicate 1008 0x61 ++ 0xC3 :: 0xA9 :: List.replicate greatestBody 0x61

private theorem lt_length_lettered (count greatest : Nat) : greatest <
    (List.replicate count 0x61 ++ 0xC3 :: 0xA9 :: List.replicate greatest 0x61 : Bytes).length := by
  rw [List.length_append, List.length_cons, List.length_cons, List.length_replicate,
    List.length_replicate]
  omega

private theorem take_lettered (count : Nat) (rest : Bytes) :
    (List.replicate count 0x61 ++ 0xC3 :: rest).take (count + 1) =
      List.replicate count 0x61 ++ [0xC3] := by
  induction count with
  | zero => rfl
  | succ count ih => rw [List.replicate_succ, List.cons_append, List.take_succ_cons, ih]; rfl

private theorem growthOf_lettered (count : Nat) :
    Part.growthOf (parts (List.replicate count 0x61 ++ [0xC3])) = 2 := by
  induction count with
  | zero =>
    have scanned : Utf8.scan 0xC3 [] = (none, 0) := rfl
    rw [List.replicate_zero, List.nil_append, Utf8.parts_cons_of_broken scanned, List.drop_nil,
      parts]
    rfl
  | succ count ih =>
    have scanned : Utf8.scan 0x61 (List.replicate count 0x61 ++ [0xC3]) = (some 'a', 0) := rfl
    rw [List.replicate_succ, List.cons_append, Utf8.parts_cons_of_char scanned, List.drop_zero,
      Part.growthOf_cons, ih]
    rfl

/-- Half a character is left, which is read as one that takes two bytes more. -/
theorem shortened_accented : greatestBody < accented.length ∧ Shortened accented ∧
    Utf8.size (text accented) = truncatedSize + 2 := by
  have oversized : greatestBody < accented.length := lt_length_lettered 1008 greatestBody
  have shortened := shortened_of_oversized accented oversized
  have size : keptSize = 1008 + 1 := by decide
  refine ⟨oversized, shortened, ?_⟩
  rw [shortened.size_eq, size, accented, take_lettered, growthOf_lettered]

/-! ### Bodies in chunks -/

/-- A body arrives in chunks, to its end or as far as it is read; nothing is said about chunks that
come later. -/
inductive Delivers : List Chunk → Bytes → Prop where
  | whole (pieces : List Bytes) : Delivers (pieces.map .bytes) pieces.flatten
  | enough (pieces : List Bytes) (later : List Chunk) (rest : Bytes)
      (reached : readLimit ≤ pieces.flatten.length) :
      Delivers (pieces.map .bytes ++ later) (pieces.flatten ++ rest)

/-- What is held in turn while these pieces are read: what there was, and the beginning of what
there would be with one more piece each time. -/
def holdings (body : Bytes) (pieces : List Bytes) : List Bytes :=
  pieces.inits.map fun read => (body ++ read.flatten).take readLimit

theorem length_le_of_mem_holdings {body held : Bytes} {pieces : List Bytes}
    (mem : held ∈ holdings body pieces) : held.length ≤ readLimit := by
  obtain ⟨read, -, rfl⟩ := List.mem_map.mp mem
  exact List.length_take_le _ _

theorem length_lt_of_mem_holdings {body held : Bytes} {pieces : List Bytes}
    (room : (body ++ pieces.flatten).length < readLimit) (mem : held ∈ holdings body pieces) :
    held.length < readLimit := by
  obtain ⟨read, first, rfl⟩ := List.mem_map.mp mem
  obtain ⟨unread, rfl⟩ := (List.mem_inits _ _).mp first
  rw [List.flatten_append, ← List.append_assoc] at room
  calc ((body ++ read.flatten).take readLimit).length
      ≤ (body ++ read.flatten).length := List.length_take_le' _ _
    _ ≤ (body ++ read.flatten ++ unread.flatten).length := (List.prefix_append _ _).length_le
    _ < readLimit := room

theorem holdings_ne_nil (body : Bytes) (pieces : List Bytes) : holdings body pieces ≠ [] := by
  cases pieces <;> exact List.cons_ne_nil _ _

section Gathering

variable {body : Bytes} (short : body.length < readLimit)
include short

theorem holdings_nil : holdings body [] = [body] := by
  simp only [holdings, List.inits, List.map_cons, List.map_nil, List.flatten_nil, List.append_nil,
    List.take_of_length_le (Nat.le_of_lt short)]

theorem holdings_cons (piece : Bytes) (pieces : List Bytes) :
    holdings body (piece :: pieces) = body :: holdings (body ++ piece) pieces := by
  simp only [holdings, List.inits_cons, List.map_cons, List.map_map, Function.comp_def,
    List.flatten_nil, List.append_nil, List.flatten_cons, List.append_assoc,
    List.take_of_length_le (Nat.le_of_lt short)]

theorem append_room (piece : Bytes) :
    body ++ piece.take (readLimit - body.length) = (body ++ piece).take readLimit := by
  rw [List.take_append, List.take_of_length_le (Nat.le_of_lt short)]

theorem gather_of_full {piece : Bytes} (full : readLimit ≤ (body ++ piece).length)
    (rest : List Chunk) : gather body (.bytes piece :: rest) =
      ⟨holdings body [piece], rest, .ok ((body ++ piece).take readLimit)⟩ := by
  have reached : readLimit ≤ ((body ++ piece).take readLimit).length := by
    rw [List.length_take, Nat.min_eq_left full]
  have held : holdings body [piece] = [body, (body ++ piece).take readLimit] := by
    rw [holdings_cons short]
    simp only [holdings, List.inits, List.map_cons, List.map_nil, List.flatten_nil, List.append_nil]
  rw [gather, append_room short, if_pos reached, held]

theorem gather_of_room {piece : Bytes} (room : (body ++ piece).length < readLimit)
    (rest : List Chunk) : gather body (.bytes piece :: rest) =
      { gather (body ++ piece) rest with held := body :: (gather (body ++ piece) rest).held } := by
  have whole : (body ++ piece).take readLimit = body ++ piece :=
    List.take_of_length_le (Nat.le_of_lt room)
  rw [gather, append_room short, whole, if_neg (Nat.not_le_of_lt room)]

end Gathering

/-- Where there is room for all the pieces, all of them are read. -/
theorem gather_whole {body : Bytes} (pieces : List Bytes)
    (room : (body ++ pieces.flatten).length < readLimit) : gather body (pieces.map .bytes) =
      ⟨holdings body pieces, [], .ok (body ++ pieces.flatten)⟩ := by
  induction pieces generalizing body with
  | nil =>
    rw [List.flatten_nil, List.append_nil] at room
    rw [List.map_nil, gather, holdings_nil room, List.flatten_nil, List.append_nil]
  | cons piece pieces ih =>
    rw [List.flatten_cons, ← List.append_assoc] at room
    have next : (body ++ piece).length < readLimit :=
      Nat.lt_of_le_of_lt (List.prefix_append _ _).length_le room
    have short : body.length < readLimit :=
      Nat.lt_of_le_of_lt (List.prefix_append _ _).length_le next
    rw [List.map_cons, gather_of_room short next, ih room, holdings_cons short, List.flatten_cons,
      List.append_assoc]

/-- Where there is not, reading ends with the piece that brings the last byte there is room for,
whatever comes behind it. -/
theorem gather_enough {body : Bytes} (short : body.length < readLimit) (pieces : List Bytes)
    (enough : readLimit ≤ (body ++ pieces.flatten).length) :
    ∃ read unread, pieces = read ++ unread ∧ readLimit ≤ (body ++ read.flatten).length ∧
      (∀ held ∈ (holdings body read).dropLast, held.length < readLimit) ∧
      ∀ later, gather body (read.map .bytes ++ later) =
        ⟨holdings body read, later, .ok ((body ++ read.flatten).take readLimit)⟩ := by
  induction pieces generalizing body with
  | nil =>
    rw [List.flatten_nil, List.append_nil] at enough
    exact absurd short (Nat.not_lt_of_le enough)
  | cons piece pieces ih =>
    by_cases full : readLimit ≤ (body ++ piece).length
    · refine ⟨[piece], pieces, rfl, ?_, fun held mem => ?_, fun later => ?_⟩
      · rwa [List.flatten_singleton]
      · rw [holdings_cons short, holdings, List.inits, List.map_cons] at mem
        rw [List.mem_singleton.mp mem]
        exact short
      · rw [List.map_singleton, List.singleton_append, gather_of_full short full,
          List.flatten_singleton]
    · have room := Nat.lt_of_not_le full
      rw [List.flatten_cons, ← List.append_assoc] at enough
      obtain ⟨read, unread, split, reached, fewer, ends⟩ := ih room enough
      refine ⟨piece :: read, unread, congrArg (piece :: ·) split, ?_, fun held mem => ?_,
        fun later => ?_⟩
      · rwa [List.flatten_cons, ← List.append_assoc]
      · rw [holdings_cons short, List.dropLast_cons_of_ne_nil (holdings_ne_nil _ _)] at mem
        rcases List.mem_cons.mp mem with rfl | mem
        · exact short
        · exact fewer held mem
      · rw [List.map_cons, List.cons_append, gather_of_room short room, ends,
          holdings_cons short, List.flatten_cons, List.append_assoc]

/-- A body has been read from its chunks as if it had come in one piece. -/
structure ReadsOff (chunks : List Chunk) (body : Bytes) : Prop where
  gathered : (gather [] chunks).result = .ok (body.take readLimit)
  /-- The pieces that were read are what was held in turn, and where the limit is reached no piece
  behind them matters. -/
  read : ∃ read : List Bytes, chunks = read.map .bytes ++ (gather [] chunks).unread ∧
    (gather [] chunks).held = holdings [] read ∧
    (readLimit ≤ body.length →
      ∀ later, gather [] (read.map .bytes ++ later) = { gather [] chunks with unread := later })
  /-- There is never more than the limit, so that the room that is left is the difference. -/
  bounded : ∀ held ∈ (gather [] chunks).held, held.length ≤ readLimit
  /-- One more chunk is asked for only while there is room. -/
  asked : ∀ held ∈ (gather [] chunks).held.dropLast, held.length < readLimit
  recorded : ofChunks chunks = String.ofList (text body)
  answered : ∀ code location, Client.hasNoBody code = false →
    Client.response ⟨code, location, chunks⟩ = ⟨code, String.ofList (text body)⟩

/-- One byte past the greatest size tells that it is exceeded, and the rest is not recorded. -/
theorem text_take (body : Bytes) : text (body.take readLimit) = text body := by
  have room : keptSize ≤ readLimit := by decide
  by_cases oversized : greatestBody < body.length
  · have still : greatestBody < (body.take readLimit).length := by
      rw [List.length_take, readLimit]
      omega
    rw [text_eq_of_oversized oversized, text_eq_of_oversized still, List.take_take,
      Nat.min_eq_left room]
  · have short : body.length ≤ readLimit := Nat.le_succ_of_le (Nat.le_of_not_lt oversized)
    rw [List.take_of_length_le short]

theorem ReadsOff.of_gather {chunks unread : List Chunk} {body : Bytes} {read : List Bytes}
    (cut : chunks = read.map .bytes ++ unread)
    (ends : gather [] chunks = ⟨holdings [] read, unread, .ok (body.take readLimit)⟩)
    (fewer : ∀ held ∈ (holdings [] read).dropLast, held.length < readLimit)
    (stops : readLimit ≤ body.length → ∀ later, gather [] (read.map .bytes ++ later) =
      ⟨holdings [] read, later, .ok (body.take readLimit)⟩) : ReadsOff chunks body := by
  have recorded : ofChunks chunks = String.ofList (text body) := by
    rw [ofChunks, ends, ← text_take body]
  constructor
  · rw [ends]
  · exact ⟨read, by rw [ends, cut], by rw [ends], fun full later => by rw [ends, stops full]⟩
  · rw [ends]
    exact fun held mem => length_le_of_mem_holdings mem
  · rw [ends]
    exact fewer
  · exact recorded
  · intro code location bodied
    rw [Client.response, bodied]
    exact congrArg (DeliveryResponse.mk code) recorded

private theorem readsOff_enough (pieces : List Bytes) (later : List Chunk) (rest : Bytes)
    (reached : readLimit ≤ pieces.flatten.length) :
    ReadsOff (pieces.map .bytes ++ later) (pieces.flatten ++ rest) := by
  have short : ([] : Bytes).length < readLimit := Nat.succ_pos greatestBody
  obtain ⟨read, unread, rfl, full, fewer, ends⟩ := gather_enough short pieces reached
  rw [List.nil_append] at full
  have first : (read.flatten).take readLimit =
      ((read ++ unread).flatten ++ rest).take readLimit := by
    rw [List.flatten_append, List.append_assoc, List.take_append_of_le_length full]
  simp only [List.nil_append, first] at ends
  have cut : (read ++ unread).map Chunk.bytes ++ later =
      read.map .bytes ++ (unread.map .bytes ++ later) := by
    rw [List.map_append, List.append_assoc]
  exact .of_gather cut (by rw [cut, ends]) fewer fun _ => ends

theorem Delivers.readsOff {chunks : List Chunk} {body : Bytes} (delivers : Delivers chunks body) :
    ReadsOff chunks body := by
  cases delivers with
  | whole pieces =>
    by_cases full : readLimit ≤ pieces.flatten.length
    · simpa using readsOff_enough pieces [] [] full
    · have room : ([] ++ pieces.flatten).length < readLimit := Nat.lt_of_not_le full
      have whole : pieces.flatten.take readLimit = pieces.flatten :=
        List.take_of_length_le (Nat.le_of_not_le full)
      refine .of_gather (List.append_nil _).symm ?_ (fun held mem => ?_) fun enough => ?_
      · rw [gather_whole pieces room, whole, List.nil_append]
      · exact length_lt_of_mem_holdings room (List.mem_of_mem_dropLast mem)
      · exact absurd enough full
  | enough pieces later rest reached => exact readsOff_enough pieces later rest reached

/-- A failure that comes once enough has been read does no harm. -/
theorem readsOff_reset : Delivers
      [.bytes [], .bytes (List.replicate greatestBody 0x61), .bytes [0x62, 0x63], .failure "reset"]
      (List.replicate greatestBody 0x61 ++ [0x62, 0x63] ++ [0x64]) ∧
    ReadsOff
      [.bytes [], .bytes (List.replicate greatestBody 0x61), .bytes [0x62, 0x63], .failure "reset"]
      (List.replicate greatestBody 0x61 ++ [0x62, 0x63] ++ [0x64]) := by
  have delivers := Delivers.enough [[], List.replicate greatestBody 0x61, [0x62, 0x63]]
    [.failure "reset"] [0x64] (by simp [readLimit])
  simp only [List.flatten_cons, List.flatten_nil, List.nil_append, List.append_nil] at delivers
  exact ⟨delivers, delivers.readsOff⟩

/-! ### Null characters -/

/-- The bytes of a body that are read as text. -/
def kept (body : Bytes) : Bytes :=
  if greatestBody < body.length then body.take keptSize else body

/-- What is recorded of a body holds a null character if the bytes that are kept hold a null byte. -/
theorem null_mem_text_iff (body : Bytes) : '\x00' ∈ text body ↔ 0 ∈ kept body := by
  have mark : '\x00' ∉ truncationMark := by decide
  rw [text, kept]
  split
  · rw [List.mem_append, Utf8.null_mem_decodeLossy_iff]
    exact or_iff_left mark
  · exact Utf8.null_mem_decodeLossy_iff body

end HookRelay.Capture
