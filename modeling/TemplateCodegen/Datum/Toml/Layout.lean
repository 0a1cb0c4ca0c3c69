import TemplateCodegen.Datum.Basic

/-!
# Tables under construction

The rules by which the keys and headers of a TOML document make up one table. A table is defined
once: by a header, by dotted keys, or as a value. Headers may fill in a table that was only implied
by a longer header, dotted keys may only add to tables made by dotted keys, and values are closed.
On their way to such a table dotted keys may pass through implied tables and through the last of
repeated ones.
-/

namespace TemplateCodegen.Toml

/-- What has brought a table about. -/
inductive Origin where
  /-- A header of its own; also the top of a document or of an inline table. -/
  | header
  /-- The header of a table inside it. -/
  | implied
  /-- Dotted keys. -/
  | dotted
deriving DecidableEq, Repr

/-- What stands under a key while a document is put together. -/
inductive Item where
  /-- A finished value. -/
  | value (datum : Datum)
  /-- A table. -/
  | table (origin : Origin) (entries : List (String × Item))
  /-- The tables of repeated headers, in order. -/
  | tables (all : List (List (String × Item)))

/-- The entries of a table under construction. -/
abbrev Entries := List (String × Item)

/-- Put an item in the place of the one under a known key. -/
def replaceItem (key : String) (item : Item) : Entries → Entries
  | [] => []
  | (name, old) :: rest =>
    if name = key then (name, item) :: rest else (name, old) :: replaceItem key item rest

/-- Change the table at the end of a path. Missing tables on the way are made, by dotted keys or as
implied ones; of repeated tables the last is meant. Values on the way, and for dotted keys a table
with a header of its own that is not repeated, stand in the way. -/
def changeAt (isDotted : Bool) (change : Origin → Entries → Option Entries) :
    List String → Origin → Entries → Option Entries
  | [], origin, entries => change origin entries
  | key :: path, _, entries =>
    match entries.lookup key with
    | none =>
      let origin := if isDotted then Origin.dotted else Origin.implied
      (changeAt isDotted change path origin []).map fun inner =>
        entries ++ [(key, .table origin inner)]
    | some (.value _) => none
    | some (.table origin inner) =>
      if isDotted && origin == .header then none
      else
        (changeAt isDotted change path origin inner).map fun inner =>
          replaceItem key (.table origin inner) entries
    | some (.tables all) =>
      match all.getLast? with
      | none => none
      | some inner =>
        (changeAt isDotted change path .header inner).map fun inner =>
          replaceItem key (.tables (all.dropLast ++ [inner])) entries

/-- Enter a value under the last part of a key. A key of one part belongs to a table that is not
made by dotted keys, and one of several parts to a table that is. -/
def enterValue (key : String) (datum : Datum) (hasPath : Bool) (origin : Origin)
    (entries : Entries) : Option Entries :=
  if hasPath && origin != .dotted then none
  else
    match entries.lookup key with
    | some _ => none
    | none => some (entries ++ [(key, .value datum)])

/-- A key with its value. -/
structure Pair where
  /-- The parts of the key in front of the last. -/
  path : List String
  /-- The last part. -/
  key : String
  /-- The value. -/
  datum : Datum

/-- Enter keys and values into a table, one after the other. -/
def enterPairs (pairs : List Pair) (entries : Entries) : Option Entries :=
  pairs.foldlM (fun entries pair =>
    changeAt true (enterValue pair.key pair.datum (!pair.path.isEmpty)) pair.path .header entries)
    entries

/-- A header with the keys and values below it. -/
structure Block where
  /-- Whether the header may be repeated and makes a table each time. -/
  isRepeated : Bool
  /-- The parts of the header in front of the last. -/
  path : List String
  /-- The last part. -/
  key : String
  /-- The keys and values. -/
  pairs : List Pair

/-- Enter a block into the table that its path names. The entries of a table that was only implied
are taken over, and the table moves to the end. -/
def Block.enter (block : Block) (entries : Entries) : Option Entries :=
  if block.isRepeated then
    match entries.lookup block.key with
    | none =>
      (enterPairs block.pairs []).map fun inner => entries ++ [(block.key, .tables [inner])]
    | some (.tables all) =>
      (enterPairs block.pairs []).map fun inner =>
        replaceItem block.key (.tables (all ++ [inner])) entries
    | some _ => none
  else
    match entries.lookup block.key with
    | none =>
      (enterPairs block.pairs []).map fun inner => entries ++ [(block.key, .table .header inner)]
    | some (.table .implied implied) =>
      (enterPairs block.pairs implied).map fun inner =>
        entries.filter (·.1 != block.key) ++ [(block.key, .table .header inner)]
    | some _ => none

/-- Put a document together from the keys and values in front of all headers and the blocks. -/
def assemble (pairs : List Pair) (blocks : List Block) : Option Entries :=
  (enterPairs pairs []).bind fun top =>
    blocks.foldlM
      (fun top block => changeAt false (fun _ => block.enter) block.path .header top) top

mutual
/-- The datum of an item. -/
def Item.datum : Item → Datum
  | .value datum => datum
  | .table _ entries => .table (datumEntries entries)
  | .tables all => .array (datumTables all)

/-- The data of the entries of a table. -/
def datumEntries : List (String × Item) → List (String × Datum)
  | [] => []
  | (key, item) :: rest => (key, item.datum) :: datumEntries rest

/-- The data of repeated tables. -/
def datumTables : List (List (String × Item)) → List Datum
  | [] => []
  | entries :: rest => .table (datumEntries entries) :: datumTables rest
end

/-- A key is not entered twice. -/
theorem enterValue_of_lookup {key : String} {entries : Entries} {item : Item}
    (h : entries.lookup key = some item) (datum : Datum) (hasPath : Bool) (origin : Origin) :
    enterValue key datum hasPath origin entries = none := by
  unfold enterValue
  split
  · rfl
  · rw [h]

end TemplateCodegen.Toml
