import HookRelay.Hash.Sha256

namespace HookRelay.Hmac

def blockSize : Nat := 64

/-- A key brought to one block: digested first when it is longer, then zeros behind. -/
def blockKey (key : Bytes) : Bytes :=
  let short := if key.length > blockSize then Sha256.digest key else key
  short ++ List.replicate (blockSize - short.length) 0

def digest (key message : Bytes) : Bytes :=
  let key := blockKey key
  Sha256.digest (key.map (· ^^^ 0x5c) ++ Sha256.digest (key.map (· ^^^ 0x36) ++ message))

end HookRelay.Hmac
