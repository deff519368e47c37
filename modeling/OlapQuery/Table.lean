-- A table maps names to values and is kept in the order of its names, each name once.
-- Every map of the query language (split keys, contexts, lookups, rows) is such a table, so
-- two tables with the same entries are the same list.

namespace OlapQuery

abbrev Table (α : Type u) := List (String × α)

namespace Table

variable {α : Type u} {β : Type v}

def get? (table : Table α) (name : String) : Option α :=
  List.lookup name table

def contains (table : Table α) (name : String) : Bool :=
  (table.get? name).isSome

def names (table : Table α) : List String :=
  table.map (·.1)

def values (table : Table α) : List α :=
  table.map (·.2)

-- The entry takes its place in name order; an entry of the same name is replaced.
def insert (name : String) (value : α) : Table α → Table α
  | [] => [(name,value)]
  | (other,old) :: rest =>
      if name == other then (name,value) :: rest
      else if name < other then (name,value) :: (other,old) :: rest
      else (other,old) :: insert name value rest

def erase (name : String) (table : Table α) : Table α :=
  table.filter (fun entry => entry.1 != name)

def ofList (entries : List (String × α)) : Table α :=
  entries.foldl (fun table entry => insert entry.1 entry.2 table) []

end Table

def sortedNames (names : List String) : List String :=
  Table.names (Table.ofList (names.map (fun name => (name,()))))

end OlapQuery
