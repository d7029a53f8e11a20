import HookRelay.Config.Setting

/-!
The tables of a TOML document while it is read. They form a tree that remembers how each table
came to be, since a table may be defined only once; the tree then gives settings.
-/
namespace HookRelay.Toml

/-- How a table came to be: by its own header, on the way to one below it, or by a dotted key. -/
inductive Origin where
  | header
  | passed
  | dotted
deriving DecidableEq, Repr

inductive Node where
  | leaf (value : Setting)
  | table (origin : Origin) (entries : List (String × Node))
  | tables (earlier : List (List (String × Node))) (last : List (String × Node))

abbrev Entries := List (String × Node)

private def put (key : String) (node : Node) : Entries → Entries
  | [] => [(key, node)]
  | (other, held) :: rest =>
    if other = key then (key, node) :: rest else (other, held) :: put key node rest

/-- Applies a change to the table that a path leads to, which makes missing ones on its way; a
dotted key may not go through a table that has its own header. -/
def descend (dotted : Bool) (change : Origin → Entries → Option Entries) (origin : Origin) :
    List String → Entries → Option Entries
  | [], entries => change origin entries
  | key :: path, entries =>
    match entries.lookup key with
    | none =>
      let made : Origin := if dotted then .dotted else .passed
      (descend dotted change made path []).map fun inner =>
        put key (.table made inner) entries
    | some (.table held inner) =>
      if dotted && held = .header then none
      else (descend dotted change held path inner).map fun inner =>
        put key (.table held inner) entries
    | some (.tables earlier last) =>
      if dotted then none
      else (descend dotted change .header path last).map fun last =>
        put key (.tables earlier last) entries
    | some (.leaf _) => none

/-- Adds a value under a path of keys; the table that gets it comes from the same kind of key. -/
def addValue (path : List String) (value : Setting) (entries : Entries) : Option Entries :=
  match path.reverse with
  | [] => none
  | key :: parents =>
    let change (origin : Origin) (entries : Entries) : Option Entries :=
      if !parents.isEmpty && origin ≠ .dotted then none
      else if (entries.lookup key).isSome then none
      else some (entries ++ [(key, .leaf value)])
    descend true change .header parents.reverse entries

def openTable (path : List String) (entries : Entries) : Option Entries :=
  match path.reverse with
  | [] => none
  | key :: parents =>
    let change (_ : Origin) (entries : Entries) : Option Entries :=
      match entries.lookup key with
      | none => some (entries ++ [(key, .table .header [])])
      | some (.table .passed inner) => some (put key (.table .header inner) entries)
      | _ => none
    descend false change .header parents.reverse entries

def openArray (path : List String) (entries : Entries) : Option Entries :=
  match path.reverse with
  | [] => none
  | key :: parents =>
    let change (_ : Origin) (entries : Entries) : Option Entries :=
      match entries.lookup key with
      | none => some (entries ++ [(key, .tables [] [])])
      | some (.tables earlier last) => some (put key (.tables (earlier ++ [last]) []) entries)
      | _ => none
    descend false change .header parents.reverse entries

mutual
def Node.setting : Node → Setting
  | .leaf value => value
  | .table _ entries => .table (settings entries)
  | .tables earlier last => .list (tableSettings earlier ++ [.table (settings last)])

def settings : List (String × Node) → List (String × Setting)
  | [] => []
  | (key, node) :: rest => (key, node.setting) :: settings rest

def tableSettings : List (List (String × Node)) → List Setting
  | [] => []
  | entries :: rest => .table (settings entries) :: tableSettings rest
end

end HookRelay.Toml
