import FullTextQuery.Text

/-!
TOML values, and the tables they are kept in. How a table came to be decides what may still be
added to it: one under a header is complete once the next header follows, one between braces at
its closing brace, and one that a longer header or a dotted key implies stays open.
-/

namespace FullTextQuery.Toml

/-- How a table came to be. -/
inductive Origin where
  /-- It has a header of its own. -/
  | header
  /-- A header of a table inside it implies it. -/
  | implied
  /-- A dotted key implies it. -/
  | dotted
  /-- It is written between braces. -/
  | braces
deriving DecidableEq, Repr

/-- A value. Numbers and times are recognised and not kept, as no preference holds one. -/
inductive Value where
  | string (text : Text)
  | boolean (value : Bool)
  | number
  | time
  /-- An array; `open` if its items are tables that headers add. -/
  | array (isOpen : Bool) (items : List Value)
  | table (origin : Origin) (entries : List (Text × Value))

/-- The entries of a table, in the order they were written. -/
abbrev Entries := List (Text × Value)

namespace Entries

/-- The value of a key. -/
def find? (key : Text) (entries : Entries) : Option Value :=
  entries.lookup key

/-- Gives a key that is there another value. -/
def replace (key : Text) (value : Value) (entries : Entries) : Entries :=
  entries.map fun entry => if entry.1 = key then (key, value) else entry

/-- Gives a new key its value; a key that is there is not defined again. -/
def add? (key : Text) (value : Value) (entries : Entries) : Option Entries :=
  if (entries.find? key).isSome then none else some (entries ++ [(key, value)])

/-- Changes the table that a path leads to. Tables missing on the way are made. A dotted key does
not reach into a table with a header or into an array, and nothing reaches into braces. -/
def within? (dotted : Bool) (change : Entries → Option Entries) :
    List Text → Entries → Option Entries
  | [], entries => change entries
  | key :: path, entries =>
    match entries.find? key with
    | none => do
      let inner ← within? dotted change path []
      some (entries ++ [(key, .table (if dotted then .dotted else .implied) inner)])
    | some (.table origin inner) =>
      if origin = .braces ∨ (dotted ∧ origin = .header) then none
      else do
        let inner ← within? dotted change path inner
        some (entries.replace key (.table origin inner))
    | some (.array true items) =>
      match dotted, items.getLast? with
      | false, some (.table origin inner) => do
        let inner ← within? dotted change path inner
        some (entries.replace key (.array true (items.dropLast ++ [.table origin inner])))
      | _, _ => none
    | some _ => none

/-- Defines what a dotted key leads to. -/
def define? (path : List Text) (value : Value) (entries : Entries) : Option Entries :=
  match path.getLast? with
  | none => none
  | some key => within? true (add? key value) path.dropLast entries

/-- Opens the table of a header: a new one, or one that was only implied. -/
def openTable? (path : List Text) (entries : Entries) : Option Entries :=
  match path.getLast? with
  | none => none
  | some key =>
    within? false
      (fun inner =>
        match inner.find? key with
        | none => some (inner ++ [(key, .table .header [])])
        | some (.table .implied kept) => some (inner.replace key (.table .header kept))
        | some _ => none)
      path.dropLast entries

/-- Opens the next table of an array of tables. -/
def openItem? (path : List Text) (entries : Entries) : Option Entries :=
  match path.getLast? with
  | none => none
  | some key =>
    within? false
      (fun inner =>
        match inner.find? key with
        | none => some (inner ++ [(key, .array true [.table .header []])])
        | some (.array true items) =>
          some (inner.replace key (.array true (items ++ [.table .header []])))
        | some _ => none)
      path.dropLast entries

end Entries

end FullTextQuery.Toml
