import ClientStub.Decimal.Binary64

/-!
# TOML values

The values of a TOML document and its tables. Tables list their keys in the order of the document. How a
table came about decides what may still be added to it.
-/

namespace ClientStub.Toml

/-- How a table came about: by a header of its own, as a step of another table's header, as a step of a
dotted key, or between braces. -/
inductive TableKind where
  | headed
  | passed
  | dotted
  | inline
  deriving DecidableEq, Repr

inductive Value where
  | string (text : String)
  | integer (value : Int)
  | real (value : Binary64)
  | infinite (negative : Bool)
  | notANumber
  | bool (value : Bool)
  | datetime (text : String)
  | array (items : List Value)
  | table (kind : TableKind) (entries : List (String × Value))
  /-- An array of tables under headers, each with its entries. -/
  | tables (items : List (List (String × Value)))
  deriving Repr

instance : Inhabited Value := ⟨.bool false⟩

/-- The entries of a table in the order of the document. -/
abbrev Entries := List (String × Value)

namespace Entries

def replace (key : String) (value : Value) : Entries → Entries
  | [] => []
  | (other, held) :: entries =>
    if other = key then (other, value) :: entries else (other, held) :: replace key value entries

def erase (key : String) (entries : Entries) : Entries := entries.filter fun (other, _) => other ≠ key

/-- Changes the table at the end of a path and returns what the change returns. Tables that are missing on
the path are made; a dotted path may only pass tables that no header defines, and nothing may be added to
an inline table. The path goes through the last table of an array of tables. -/
def changeAt {α : Type} (dotted : Bool) :
    List String → (TableKind → Entries → Option (α × Entries)) → TableKind → Entries → Option (α × Entries)
  | [], change, kind, entries => change kind entries
  | key :: path, change, _, entries =>
    match entries.lookup key with
    | none => do
      let kind := if dotted then TableKind.dotted else TableKind.passed
      let (result, inner) ← changeAt dotted path change kind []
      pure (result, entries ++ [(key, .table kind inner)])
    | some (.table kind inner) =>
      if kind = .inline || (dotted && kind = .headed) then none
      else do
        let (result, inner) ← changeAt dotted path change kind inner
        pure (result, entries.replace key (.table kind inner))
    | some (.tables items) =>
      match items.getLast? with
      | none => none
      | some last => do
        let (result, inner) ← changeAt dotted path change .headed last
        pure (result, entries.replace key (.tables (items.dropLast ++ [inner])))
    | some _ => none

/-- Adds a value under a dotted key, none of whose tables may be one of a header. -/
def addDotted (path : List String) (key : String) (value : Value) (entries : Entries) : Option Entries :=
  (changeAt true path
    (fun kind inner =>
      if (kind = .dotted) = path.isEmpty || (inner.lookup key).isSome then none
      else some ((), inner ++ [(key, value)]))
    .headed entries).map Prod.snd

end Entries

end ClientStub.Toml
