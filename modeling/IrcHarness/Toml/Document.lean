import IrcHarness.Toml.Value

/-!
# TOML Documents

How the lines of a text make up one table. A header opens a table and the
assignments behind it go there. Paths in headers and dotted keys create the
tables on their way.

Every table is defined once. A header may define a table that was only implied
by longer headers, and a dotted key may go through tables that dotted keys
implied, but neither may touch what the other, or braces, defined. A path
through an array of tables means its last element.

## Main definitions

* `Toml.Statement`: A header or an assignment.
* `Toml.modify?`: Change the table at the end of a path.
* `Toml.assign?`: Give a dotted key a value.
* `Toml.inlineTable?`: The table that the assignments in braces make.
* `Toml.document?`: The table that statements make.
-/

namespace IrcHarness

namespace Toml

/-- One line of a text that says something. -/
inductive Statement where
  /-- A header that opens a table. -/
  | header (path : List String)
  /-- A header that adds a table to an array. -/
  | element (path : List String)
  /-- An assignment to a dotted key, whose last part is given apart. -/
  | assign (path : List String) (key : String) (value : Value)

/-- A table under construction: its form and its entries. -/
abbrev Building := TableForm × Entries

/-- Change the table at the end of a path. Tables missing on the way are
    implied, by a dotted key if so said, and a dotted key passes implied tables
    only. -/
def modify? (dotted : Bool) (change : Building → Option Building) :
    List String → Building → Option Building
  | [], t => change t
  | key :: path, (form, entries) =>
    match Entries.find? key entries with
    | none =>
      match modify? dotted change path (⟨true, dotted⟩, []) with
      | none => none
      | some (f, es) => some (form, Entries.set key (.table f es) entries)
    | some (.table f es) =>
      if dotted && !f.implied then none
      else match modify? dotted change path (f, es) with
        | none => none
        | some (f, es) => some (form, Entries.set key (.table f es) entries)
    | some (.tables elements) =>
      match elements.reverse with
      | .table f es :: front =>
        match modify? dotted change path (f, es) with
        | none => none
        | some (f, es) =>
          some (form, Entries.set key (.tables (front.reverse ++ [.table f es])) entries)
      | _ => none
    | some _ => none

/-- Add an entry to a table, whose key must be new. A dotted key ends in a table
    that dotted keys implied, any other key does not. -/
def addKey? (isDotted : Bool) (key : String) (value : Value) : Building → Option Building
  | (form, entries) =>
    if form.dotted != isDotted then none
    else if (Entries.find? key entries).isSome then none
    else some (form, Entries.set key value entries)

/-- Give a dotted key a value. -/
def assign? (path : List String) (key : String) (value : Value) (t : Building) :
    Option Building :=
  modify? true (addKey? (path ≠ []) key value) path t

/-- Open a table by its header. It must be new, or implied by headers only. -/
def openTable? (key : String) : Building → Option Building
  | (form, entries) =>
    match Entries.find? key entries with
    | none => some (form, Entries.set key (.table .explicit []) entries)
    | some (.table f es) =>
      if f.implied && !f.dotted then
        some (form, Entries.set key (.table .explicit es) entries)
      else none
    | some _ => none

/-- Add a table to an array of tables, which may be new. -/
def addElement? (key : String) : Building → Option Building
  | (form, entries) =>
    match Entries.find? key entries with
    | none => some (form, Entries.set key (.tables [.table .explicit []]) entries)
    | some (.tables elements) =>
      some (form, Entries.set key (.tables (elements ++ [.table .explicit []])) entries)
    | some _ => none

/-- Take statements one after the other, with assignments going to the table at
    a path. -/
def build? (current : List String) (root : Building) : List Statement → Option Building
  | [] => some root
  | .header path :: rest =>
    match path.reverse with
    | [] => none
    | key :: front =>
      match modify? false (openTable? key) front.reverse root with
      | none => none
      | some root => build? path root rest
  | .element path :: rest =>
    match path.reverse with
    | [] => none
    | key :: front =>
      match modify? false (addElement? key) front.reverse root with
      | none => none
      | some root => build? path root rest
  | .assign path key value :: rest =>
    match modify? false (assign? path key value) current root with
    | none => none
    | some root => build? current root rest

/-- The table that statements make. -/
def document? (statements : List Statement) : Option Entries :=
  (build? [] (.explicit, []) statements).map Prod.snd

/-- Give a dotted key inside braces a value, going through tables that dotted
    keys of the same braces implied. -/
def assignInline? (key : String) (value : Value) : List String → Building → Option Building
  | [], (form, entries) =>
    if (Entries.find? key entries).isSome then none
    else some (form, Entries.set key value entries)
  | step :: path, (form, entries) =>
    match Entries.find? step entries with
    | none =>
      match assignInline? key value path (⟨true, true⟩, []) with
      | none => none
      | some (f, es) => some (form, Entries.set step (.inlineTable f es) entries)
    | some (.inlineTable f es) =>
      if !f.implied then none
      else match assignInline? key value path (f, es) with
        | none => none
        | some (f, es) => some (form, Entries.set step (.inlineTable f es) entries)
    | some _ => none

/-- The table that the assignments in braces make. -/
def inlineTable? (assignments : List (List String × String × Value)) : Option Value :=
  (assignments.foldlM (fun t a => assignInline? a.2.1 a.2.2 a.1 t) (TableForm.explicit, [])).map
    fun t => .inlineTable t.1 t.2

end Toml

end IrcHarness
