/-!
# TOML Values

What a TOML text can hold. Floats and points in time keep their text, which is
enough to tell them from other values.

Tables come in three kinds that later parts of a text treat differently: those
written in braces, those that have a header or follow from one, and the
elements of an array of tables. Of a table it is also remembered whether it
was only implied by a longer path, and whether that path was a dotted key.

## Main definitions

* `Toml.TableForm`: How a table came about.
* `Toml.Value`: A value.
* `Toml.Entries`: The keys of a table with their values.
* `Toml.Value.entries?`: The entries of a table of any kind.
* `Toml.Value.items?`: The items of an array of any kind.
-/

namespace IrcHarness

namespace Toml

/-- How a table came about. -/
structure TableForm where
  /-- It was only implied by a longer path so far. -/
  implied : Bool
  /-- It was implied by a dotted key. -/
  dotted : Bool
deriving DecidableEq, Repr

/-- The form of a table that stands for itself. -/
def TableForm.explicit : TableForm := ⟨false, false⟩

/-- A value. -/
inductive Value where
  /-- A text. -/
  | string (s : String)
  /-- A signed integer of 64 bits. -/
  | integer (n : Int)
  /-- A float, by its text. -/
  | float (text : String)
  /-- A truth value. -/
  | bool (b : Bool)
  /-- A date, a time of day, or both, by its text. -/
  | datetime (text : String)
  /-- Values in brackets. -/
  | array (items : List Value)
  /-- A table in braces. -/
  | inlineTable (form : TableForm) (entries : List (String × Value))
  /-- A table with a header, or implied by one. -/
  | table (form : TableForm) (entries : List (String × Value))
  /-- An array of tables, each with a header. -/
  | tables (elements : List Value)
deriving Repr

/-- The keys of a table with their values. -/
abbrev Entries := List (String × Value)

/-- The value of a key. -/
def Entries.find? (key : String) : Entries → Option Value
  | [] => none
  | (k, v) :: rest => if k = key then some v else Entries.find? key rest

/-- Give a key a value, in its place when it is there and at the end when it is
    not. -/
def Entries.set (key : String) (value : Value) : Entries → Entries
  | [] => [(key, value)]
  | (k, v) :: rest => if k = key then (k, value) :: rest else (k, v) :: Entries.set key value rest

/-- The entries of a table of any kind. -/
def Value.entries? : Value → Option Entries
  | .inlineTable _ entries => some entries
  | .table _ entries => some entries
  | _ => none

/-- The items of an array of any kind. -/
def Value.items? : Value → Option (List Value)
  | .array items => some items
  | .tables elements => some elements
  | _ => none

end Toml

end IrcHarness
