import HookRelay.Subscription.Basic

namespace HookRelay

structure IdSupply where
  listed : List Uuid
  numbered : Nat
  issued : List Uuid
deriving DecidableEq, Repr

namespace IdSupply

def ofList (listed : List Uuid) : IdSupply := ⟨listed, 0, []⟩

/-- The version and variant digits of a random identifier, and a number at its end. -/
def numberedId (number : Nat) : Uuid := ⟨0x40008000000000000000 + number % 0x1000000000000⟩

def next (supply : IdSupply) : Uuid × IdSupply :=
  match supply.listed with
  | id :: rest => (id, ⟨rest, supply.numbered, supply.issued ++ [id]⟩)
  | [] =>
    let id := numberedId (supply.numbered + 1)
    (id, ⟨[], supply.numbered + 1, supply.issued ++ [id]⟩)

end IdSupply

structure SecretSupply where
  listed : List String
  made : Nat
deriving DecidableEq, Repr

namespace SecretSupply

def next (supply : SecretSupply) : String × SecretSupply :=
  let made := supply.made + 1
  match supply.listed with
  | secret :: rest => (secret, ⟨rest, made⟩)
  | [] => (s!"whsec_gen{made}", ⟨[], made⟩)

end SecretSupply

def Secret.textOfRandom (random : Bytes) : String := "whsec_" ++ String.ofList (Hex.encode random)

def Secret.randomSize : Nat := 32

end HookRelay
