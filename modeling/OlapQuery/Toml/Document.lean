import OlapQuery.Json.Basic

-- The tables of a TOML document while it is read. A table can be written once: under its
-- header, or piece by piece through dotted keys of the table around it. Headers may fill in
-- tables that were only implied by the headers of tables inside them.

namespace OlapQuery.Toml

inductive TableKind where
  | implied
  | dotted
  | declared
  deriving DecidableEq, Repr

inductive Node where
  -- A value, an inline table included; nothing can be added to it.
  | value (json : Json)
  | table (kind : TableKind) (entries : List (String × Node))
  -- A list of tables under repeated headers, the latest first.
  | tables (items : List (List (String × Node)))

abbrev Entries := List (String × Node)

mutual
def Node.toJson : Node → Json
  | .value json => json
  | .table _ entries => .obj (entriesJson entries)
  | .tables items => .arr (itemsJson items).reverse

def entriesJson : List (String × Node) → List (String × Json)
  | [] => []
  | (name,node) :: rest => (name,node.toJson) :: entriesJson rest

def itemsJson : List (List (String × Node)) → List Json
  | [] => []
  | entries :: rest => .obj (entriesJson entries) :: itemsJson rest
end

namespace Entries

-- Changes the table at the end of a path, which is a dotted key or part of a header. Tables that
-- are missing on the way are made; at a list of tables the path goes on in the latest one.
def within (dotted : Bool) (change : TableKind → Entries → Option Entries) :
    List String → TableKind → Entries → Option Entries
  | [],kind,entries => change kind entries
  | name :: rest,_,entries =>
      match Table.get? entries name with
      | none => do
          let kind : TableKind := if dotted then .dotted else .implied
          let made ← within dotted change rest kind []
          some (Table.insert name (.table kind made) entries)
      | some (.table kind inner) =>
          if dotted && kind == .declared then none
          else do
            let changed ← within dotted change rest kind inner
            some (Table.insert name (.table kind changed) entries)
      | some (.tables (latest :: others)) => do
          let changed ← within dotted change rest .declared latest
          some (Table.insert name (.tables (changed :: others)) entries)
      | some _ => none

def addNew (name : String) (node : Node) (entries : Entries) : Option Entries :=
  if Table.contains entries name then none else some (Table.insert name node entries)

def assign (path : List String) (value : Json) (entries : Entries) : Option Entries :=
  match path.getLast? with
  | none => none
  | some name =>
      match path.dropLast with
      | [] => addNew name (.value value) entries
      | tables =>
          within true (fun kind inner =>
            if kind == .dotted then addNew name (.value value) inner else none)
            tables .declared entries

def declare (path : List String) (entries : Entries) : Option Entries :=
  match path.getLast? with
  | none => none
  | some name =>
      within false (fun _ inner =>
        match Table.get? inner name with
        | none => some (Table.insert name (.table .declared []) inner)
        | some (.table .implied known) => some (Table.insert name (.table .declared known) inner)
        | some _ => none)
        path.dropLast .declared entries

def declareNext (path : List String) (entries : Entries) : Option Entries :=
  match path.getLast? with
  | none => none
  | some name =>
      within false (fun _ inner =>
        match Table.get? inner name with
        | none => some (Table.insert name (.tables [[]]) inner)
        | some (.tables items) => some (Table.insert name (.tables ([] :: items)) inner)
        | some _ => none)
        path.dropLast .declared entries

end Entries

structure Document where
  entries : Entries := []
  header : List String := []

namespace Document

def declare (d : Document) (path : List String) : Option Document :=
  (Entries.declare path d.entries).map fun entries => { entries,header := path }

def declareNext (d : Document) (path : List String) : Option Document :=
  (Entries.declareNext path d.entries).map fun entries => { entries,header := path }

def assign (d : Document) (path : List String) (value : Json) : Option Document :=
  (Entries.within false (fun _ inner => Entries.assign path value inner) d.header .declared
    d.entries).map fun entries => { d with entries }

def toJson (d : Document) : Json :=
  .obj (entriesJson d.entries)

end Document

end OlapQuery.Toml
