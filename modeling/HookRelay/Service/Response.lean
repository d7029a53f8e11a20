import HookRelay.Json.Value
import HookRelay.Text.Utf8

namespace HookRelay

structure ServiceRequest where
  method : String
  target : List Char
  headers : List (String × Bytes)
  body : Bytes

namespace ServiceRequest

/-- The text of the first header of a name, given in lower case; one with other than visible
characters counts as missing. -/
def header? (request : ServiceRequest) (name : String) : Option (List Char) := do
  let value ← request.headers.lookup name
  if value.all fun byte => (32 ≤ byte && byte < 127) || byte = 9 then Utf8.decode? value else none

private def endsAuthority (char : Char) : Bool := char = '/' || char = '?' || char = '#'

private def afterAuthority? (target : List Char) : Option (List Char) :=
  let scheme := target.takeWhile fun char =>
    char.isAlphanum || char = '+' || char = '-' || char = '.'
  if scheme.isEmpty then none
  else (Text.afterLiteral? [':', '/', '/'] (target.drop scheme.length)).map fun rest =>
    rest.dropWhile fun char => !endsAuthority char

/-- The path that is asked for, without its query; a URI that ends with its host asks for `/`. -/
def path (request : ServiceRequest) : List Char :=
  let untilQuery (text : List Char) := text.takeWhile fun char => char ≠ '?' && char ≠ '#'
  match afterAuthority? request.target with
  | some rest => if (untilQuery rest).isEmpty then ['/'] else untilQuery rest
  | none => untilQuery request.target

end ServiceRequest

structure ServiceResponse where
  status : Nat
  allow : Option String
  json : Option Json.Value

namespace ServiceResponse

def empty (status : Nat) : ServiceResponse := ⟨status, none, none⟩

def ofJson (status : Nat) (value : Json.Value) : ServiceResponse := ⟨status, none, some value⟩

def failure (status : Nat) (code message : String) : ServiceResponse :=
  ofJson status (.ofMembers [("error", .ofMembers [("code", .string code),
    ("message", .string message)])])

def headOnly (response : ServiceResponse) : ServiceResponse := { response with json := none }

end ServiceResponse

end HookRelay
