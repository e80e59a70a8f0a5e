import ControlRelay.Toml.Basic

/-!
# Building TOML documents

The lines of a document fill its tables: a header opens a table or appends one to an array of
tables, and a key, which may have several parts, is set in the open table.  A table that a
header has opened is not opened again nor extended by dotted keys from outside, tables made by
dotted keys belong to those keys alone, and no key is set twice.  `Document.setKey?`,
`Document.openTable?` and `Document.openArrayTable?` enforce these rules.
-/

namespace ControlRelay.Toml

/-- What stands under a key while a document is built. -/
inductive Item where
  | value (value : Toml)
  /-- A table; `implicit` until a header opens it, `dotted` if dotted keys made it. -/
  | table (implicit dotted : Bool) (entries : List (String × Item))
  /-- An array of tables, the last one first. -/
  | tables (reversed : List (List (String × Item)))

namespace Item

mutual

/-- The finished value. -/
def toToml : Item → Toml
  | value v => v
  | table _ _ entries => .table (entriesToToml entries)
  | tables reversed => .array (tablesToToml reversed).reverse

/-- `toToml` for each entry. -/
def entriesToToml : List (String × Item) → List (String × Toml)
  | [] => []
  | (key, item) :: rest => (key, item.toToml) :: entriesToToml rest

/-- `toToml` for each table. -/
def tablesToToml : List (List (String × Item)) → List Toml
  | [] => []
  | entries :: rest => .table (entriesToToml entries) :: tablesToToml rest

end

end Item

/-- The entries of one table. -/
abbrev Tree := List (String × Item)

namespace Tree

/-- The item at a key. -/
def find? (key : String) (entries : Tree) : Option Item :=
  (List.find? (fun e => e.1 = key) entries).map (·.2)

/-- Replaces the item under a key, or appends it. -/
def set (key : String) (item : Item) : Tree → Tree
  | [] => [(key, item)]
  | (k, i) :: rest => if k = key then (key, item) :: rest else (k, i) :: set key item rest

/-- The entries without those at a key. -/
def remove (key : String) (entries : Tree) : Tree :=
  List.filter (fun e => e.1 ≠ key) entries

/-- Changes the table at the end of a path below `entries` by `f`, which also gets to know
whether dotted keys made that table.  Tables missing on the way are made; with `dotted` set,
tables that a header opened are not entered. -/
def modifyAt? (dotted : Bool) (f : Bool → Tree → Option Tree) :
    List String → Bool → Tree → Option Tree
  | [], isDotted, entries => f isDotted entries
  | key :: path, _, entries =>
    match find? key entries with
    | none =>
      (modifyAt? dotted f path dotted []).map fun es => set key (.table true dotted es) entries
    | some (.value _) => none
    | some (.table implicit isDotted inner) =>
      if dotted && !implicit then none
      else (modifyAt? dotted f path isDotted inner).map fun es =>
        set key (.table implicit isDotted es) entries
    | some (.tables []) => none
    | some (.tables (last :: earlier)) =>
      (modifyAt? dotted f path false last).map fun es => set key (.tables (es :: earlier)) entries

/-- Sets the key at the end of a dotted path to a value. -/
def setKey? (path : List String) (key : String) (value : Toml) (entries : Tree) :
    Option Tree :=
  modifyAt? true (fun isDotted inner =>
    if isDotted = path.isEmpty then none
    else
      match find? key inner with
      | some _ => none
      | none => some (inner ++ [(key, .value value)])) path false entries

end Tree

/-- A document being built: the finished tables, and the open one with its place. -/
structure Document where
  root : Tree := []
  /-- Where the open table belongs; the empty path is the top of the document. -/
  path : List String := []
  /-- Whether the open table is to be appended to an array of tables. -/
  appends : Bool := false
  opened : Tree := []

namespace Document

/-- Puts the open table in its place. -/
def close? (d : Document) : Option Tree :=
  match d.path.getLast? with
  | none => some d.opened
  | some key =>
    Tree.modifyAt? false (fun _ parent =>
      if d.appends then
        match Tree.find? key parent with
        | none => some (Tree.set key (.tables [d.opened]) parent)
        | some (.tables reversed) => some (Tree.set key (.tables (d.opened :: reversed)) parent)
        | some _ => none
      else
        match Tree.find? key parent with
        | none => some (Tree.set key (.table false false d.opened) parent)
        | some (.table true _ _) => some (Tree.set key (.table false false d.opened) parent)
        | some _ => none) d.path.dropLast false d.root

/-- The entries of the table at a path of headers. -/
def entriesAt? : List String → Tree → Option Tree
  | [], entries => some entries
  | key :: path, entries =>
    match Tree.find? key entries with
    | none => some []
    | some (.value _) => none
    | some (.table _ _ inner) => entriesAt? path inner
    | some (.tables []) => none
    | some (.tables (last :: _)) => entriesAt? path last

/-- The header `[path]`: opens the table, with the tables that are in it already. -/
def openTable? (d : Document) (path : List String) : Option Document := do
  let root ← d.close?
  let key ← path.getLast?
  let parent ← entriesAt? path.dropLast root
  match Tree.find? key parent with
  | none => some { root, path, opened := [] }
  | some (.table true false inner) =>
    let root ← Tree.modifyAt? false (fun _ es => some (Tree.remove key es)) path.dropLast
      false root
    some { root, path, opened := inner }
  | some _ => none

/-- The header `[[path]]`: opens a new table at the end of the array. -/
def openArrayTable? (d : Document) (path : List String) : Option Document := do
  let root ← d.close?
  let key ← path.getLast?
  let parent ← entriesAt? path.dropLast root
  match Tree.find? key parent with
  | none => some { root, path, appends := true, opened := [] }
  | some (.tables _) => some { root, path, appends := true, opened := [] }
  | some _ => none

/-- A line that sets a key of the open table. -/
def setKey? (d : Document) (path : List String) (key : String) (value : Toml) :
    Option Document :=
  (Tree.setKey? path key value d.opened).map fun opened => { d with opened }

/-- The finished document. -/
def finish? (d : Document) : Option Toml :=
  d.close?.map fun root => (Item.table false false root).toToml

end Document

end ControlRelay.Toml
