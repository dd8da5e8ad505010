/-!
# TOML documents

A document is a table of items under keys. Besides values it has tables that were opened by headers
or by dotted keys, and arrays of tables. How a table came to be decides what may still be added to
it, so a table remembers whether it was only passed through on the way to another one (`implicit`)
and whether that was by a dotted key (`dotted`).
-/

namespace SpineGrammar.Toml

/-- Writes under a key, in the place of what is there. -/
def putKey {α : Type} (key : String) (a : α) : List (String × α) → List (String × α)
  | [] => [(key, a)]
  | e :: es => if e.1 = key then (key, a) :: es else e :: putKey key a es

/-- A value. Floats and dates are kept as they are written. -/
inductive Value where
  | text (s : String)
  | integer (n : Int)
  | float (literal : String)
  | bool (b : Bool)
  | date (literal : String)
  | array (items : List Value)
  | inlineTable (entries : List (String × Value))

/-- What stands under a key. -/
inductive Item where
  | value (v : Value)
  | table (isImplicit isDotted : Bool) (entries : List (String × Item))
  /-- An array of tables, the last one last. -/
  | tables (all : List (List (String × Item)))

/-- A table and how it came to be. -/
structure Table where
  isImplicit : Bool
  isDotted : Bool
  entries : List (String × Item)

namespace Table

/-- A table without entries that was opened by its header. -/
def opened : Table := ⟨false, false, []⟩

/-- The item under a key. -/
def get? (t : Table) (key : String) : Option Item := t.entries.lookup key

/-- Writes an item under a key, in the place of the one that is there. -/
def put (t : Table) (key : String) (item : Item) : Table :=
  { t with entries := putKey key item t.entries }

/-- The table as an item. -/
def toItem (t : Table) : Item := .table t.isImplicit t.isDotted t.entries

/-! ## Changing a table below another -/

/-- Changes the table at the end of a path, opening those that are missing on the way; an array of
    tables is entered at its last table. A dotted key may pass only through tables without a header
    of their own, and no path leads through a value. -/
def changeBelow (byDots : Bool) (change : Table → Option Table) :
    (path : List String) → Table → Option Table
  | [], t => change t
  | key :: path, t =>
    match t.get? key with
    | none => do
      let below ← changeBelow byDots change path ⟨true, byDots, []⟩
      return t.put key below.toItem
    | some (.value _) => none
    | some (.tables all) => do
      let last ← all.getLast?
      let below ← changeBelow byDots change path ⟨false, false, last⟩
      return t.put key (.tables (all.dropLast ++ [below.entries]))
    | some (.table isImplicit isDotted entries) =>
      if byDots && !isImplicit then none
      else do
        let below ← changeBelow byDots change path ⟨isImplicit, isDotted, entries⟩
        return t.put key below.toItem

/-- Writes a value under a dotted key. A key may be written once only, and dots may not extend a
    table that has a header below it. -/
def write (t : Table) (path : List String) (key : String) (v : Value) : Option Table :=
  changeBelow true (fun t =>
    -- A dotted key ends in a table that dots have opened, and a plain one does not.
    if t.isDotted == path.isEmpty then none
    else if (t.get? key).isSome then none
    else some (t.put key (.value v))) path t

/-- Opens the table of a header. It may not have been opened before, neither by a header nor by
    dots. -/
def openTable (t : Table) (path : List String) (key : String) : Option Table :=
  changeBelow false (fun t =>
    match t.get? key with
    | none => some (t.put key opened.toItem)
    -- A table that headers only passed through may still get a header of its own.
    | some (.table true false entries) => some (t.put key (.table false false entries))
    | some _ => none) path t

/-- Adds a table to the array of tables of a header. -/
def openElement (t : Table) (path : List String) (key : String) : Option Table :=
  changeBelow false (fun t =>
    match t.get? key with
    | none => some (t.put key (.tables [[]]))
    | some (.tables all) => some (t.put key (.tables (all ++ [[]])))
    | some _ => none) path t

end Table

/-! ## Inline tables -/

/-- What is being read of an inline table: values, and tables that dots have opened. -/
inductive InlineItem where
  | value (v : Value)
  | dotted (entries : List (String × InlineItem))

namespace InlineItem

/-- Writes a value under a dotted key, which may be written once only. -/
def write (key : String) (v : Value) :
    (path : List String) → List (String × InlineItem) → Option (List (String × InlineItem))
  | [], entries =>
    if (entries.lookup key).isSome then none else some (putKey key (.value v) entries)
  | k :: path, entries =>
    match entries.lookup k with
    | none => do return putKey k (.dotted (← write key v path [])) entries
    | some (.dotted below) => do return putKey k (.dotted (← write key v path below)) entries
    | some (.value _) => none

mutual

/-- The value that was read. -/
def toValue : InlineItem → Value
  | .value v => v
  | .dotted entries => .inlineTable (toValues entries)

/-- The values that were read. -/
def toValues : List (String × InlineItem) → List (String × Value)
  | [] => []
  | (key, item) :: rest => (key, item.toValue) :: toValues rest

end

end InlineItem

end SpineGrammar.Toml
