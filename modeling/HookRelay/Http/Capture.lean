import HookRelay.Text.Utf8

/-!
What is kept of a response body: all of it up to 64 KiB, else its first bytes and a mark. Reading
stops one byte past 64 KiB, which is enough to tell the two cases apart.
-/
namespace HookRelay.Capture

def greatestBody : Nat := 64 * 1024

/-- The first size that counts as too long. -/
def readLimit : Nat := greatestBody + 1

def truncatedSize : Nat := 1024

def truncationMark : List Char := "... (truncated)".toList

def text (body : Bytes) : List Char :=
  if greatestBody < body.length then
    Utf8.decodeLossy (body.take (truncatedSize - truncationMark.length)) ++ truncationMark
  else Utf8.decodeLossy body

/-- The next piece of a response body, or why there is none. -/
inductive Chunk where
  | bytes (bytes : Bytes)
  | failure (reason : String)

structure Gathering where
  /-- What was held before the first chunk and after each one that was read. -/
  held : List Bytes
  unread : List Chunk
  result : Except String Bytes

/-- Gathers chunks up to the read limit; a failure counts only if it comes before that. -/
def gather (body : Bytes) : List Chunk → Gathering
  | [] => ⟨[body], [], .ok body⟩
  | .failure reason :: rest => ⟨[body], rest, .error reason⟩
  | .bytes chunk :: rest =>
    let longer := body ++ chunk.take (readLimit - body.length)
    if readLimit ≤ longer.length then ⟨[body, longer], rest, .ok longer⟩
    else
      let later := gather longer rest
      { later with held := body :: later.held }

def ofChunks (chunks : List Chunk) : String :=
  match (gather [] chunks).result with
  | .ok body => String.ofList (text body)
  | .error reason => "[failed to read response body: " ++ reason ++ "]"

end HookRelay.Capture
