/-!
# Addresses and locations

A node of a tree is named by its Gorn address, the child indices on the path that leads to it. A
`Location` adds the side of the spine on which something is to be inserted and its rank among the
rivals for that side.
-/

namespace SpineGrammar

/-- The child indices on the path from a subtree's root; the empty path is the root. -/
abbrev Address : Type := List Nat

namespace Address

/-- The address of the root. -/
def root : Address := []

/-- Whether an address names the root. -/
def isRoot (a : Address) : Bool := a.isEmpty

/-- The address of the `i`-th child of the node at `a`. -/
def child (a : Address) (i : Nat) : Address := a ++ [i]

/-- The indices in decimal, with `separator` between neighbours. -/
def joined (separator : String) (a : Address) : String :=
  separator.intercalate (a.map Nat.repr)

/-- The tuple form: `()` for the root, `(2)`, `(0, 1)`. -/
def text (a : Address) : String := "(" ++ a.joined ", " ++ ")"

/-- The form used inside names: `0_1`, and nothing for the root. -/
def suffix (a : Address) : String := a.joined "_"

/-- Addresses in lexicographic order, a path before its extensions; equal ones stay as often as they
    come. -/
def sort (as : List Address) : List Address := as.mergeSort fun a b => (compare a b).isLE

end Address

/-- A side of the spine. -/
inductive Slot where
  | left
  | right
  deriving DecidableEq, Repr

namespace Slot

/-- The slot that a code number stands for. -/
def ofCode? : Int → Option Slot
  | 0 => some .left
  | 1 => some .right
  | _ => none

/-- The code number of a slot. -/
def code : Slot → Nat
  | .left => 0
  | .right => 1

/-- The word for a slot. -/
def text : Slot → String
  | .left => "left"
  | .right => "right"

/-- The name of a slot in data that is exchanged. -/
def name : Slot → String
  | left => "Left"
  | right => "Right"

/-- The slot with a given name. -/
def ofName? : String → Option Slot
  | "Left" => some .left
  | "Right" => some .right
  | _ => none

theorem ofName?_name (s : Slot) : ofName? s.name = some s := by
  cases s <;> rfl

theorem ofCode?_code (s : Slot) : ofCode? s.code = some s := by
  cases s <;> rfl

end Slot

/-- Where something is inserted: under which node, on which side of the spine, and as the
    how-manieth of that side. -/
structure Location where
  target : Address
  slot : Slot
  order : Nat
  deriving DecidableEq, Repr

/-- What rivals have in common: the target and the side. -/
def Location.site (l : Location) : Address × Slot := (l.target, l.slot)

end SpineGrammar
