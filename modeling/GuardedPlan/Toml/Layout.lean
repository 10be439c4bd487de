import GuardedPlan.Toml.Basic

/-!
# Tables under construction

A document builds its tables from headers and dotted keys, and may come back to a table only in some ways: a header may complete a table that earlier headers only passed through, and a dotted key may extend only tables that dotted keys made. Inline values are closed.
-/

namespace GuardedPlan.Toml

/-- How a table came to be: passed through by a header, opened by a header, or made by a dotted key. -/
inductive Origin where
  | passed
  | opened
  | dotted
deriving DecidableEq, Repr

/-- A table or a value under construction. Of a list of tables the last one is still open and stands apart. -/
inductive Node where
  | value (value : Toml)
  | table (origin : Origin) (entries : List (String × Node))
  | tables (closed : List (List (String × Node))) (last : List (String × Node))

namespace Node

mutual

def toToml : Node → Toml
  | value v => v
  | table _ entries => .table (entriesToToml entries)
  | tables closed last => .array (closedToToml closed ++ [.table (entriesToToml last)])

def entriesToToml : List (String × Node) → List (String × Toml)
  | [] => []
  | (key, node) :: rest => (key, node.toToml) :: entriesToToml rest

def closedToToml : List (List (String × Node)) → List Toml
  | [] => []
  | entries :: rest => .table (entriesToToml entries) :: closedToToml rest

end

/-- Replaces the node of a key that is there, and adds it otherwise. -/
def put (key : String) (node : Node) : List (String × Node) → List (String × Node)
  | [] => [(key, node)]
  | (other, kept) :: rest => if other = key then (key, node) :: rest else (other, kept) :: put key node rest

/-- Changes the table at the end of a path. Missing tables are made with the given origin; a dotted path does not enter a table that a header opened. -/
def within (made : Origin) (change : Origin → List (String × Node) → Option (List (String × Node))) :
    List String → Origin → List (String × Node) → Option (List (String × Node))
  | [], origin, entries => change origin entries
  | key :: path, _, entries =>
    match entries.lookup key with
    | none => (within made change path made []).map fun inner => put key (.table made inner) entries
    | some (.table origin inner) =>
      if made = .dotted ∧ origin = .opened then none
      else (within made change path origin inner).map fun inner => put key (.table origin inner) entries
    | some (.tables closed last) =>
      (within made change path .opened last).map fun last => put key (.tables closed last) entries
    | some (.value _) => none

/-- Gives a key of a table a value, for the first time. -/
def assign (path : List String) (key : String) (v : Toml) (entries : List (String × Node)) :
    Option (List (String × Node)) :=
  within .dotted (fun origin entries =>
    if (path.isEmpty || origin = .dotted) && (entries.lookup key).isNone then some (put key (.value v) entries)
    else none) path .opened entries

def openTable (path : List String) (key : String) (root : List (String × Node)) : Option (List (String × Node)) :=
  within .passed (fun _ entries =>
    match entries.lookup key with
    | none => some (put key (.table .opened []) entries)
    | some (.table .passed inner) => some (put key (.table .opened inner) entries)
    | some _ => none) path .opened root

def openNext (path : List String) (key : String) (root : List (String × Node)) : Option (List (String × Node)) :=
  within .passed (fun _ entries =>
    match entries.lookup key with
    | none => some (put key (.tables [] []) entries)
    | some (.tables closed last) => some (put key (.tables (closed ++ [last]) []) entries)
    | some _ => none) path .opened root

end Node

end GuardedPlan.Toml
