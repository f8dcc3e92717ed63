import SignalBinding.Fragment.Basic

/-!
# Shelves of blocks

Blocks under names, built up step by step. A name that was never used stands for the empty block.
-/

namespace SignalBinding

/-- Blocks under names. -/
structure Shelf where
  entries : List (String × Block) := []
  deriving Inhabited

namespace Shelf

/-- The block under `name`. -/
def get (shelf : Shelf) (name : String) : Block :=
  (shelf.entries.lookup name).getD []

/-- Puts a block under `name` in the place of the one there. -/
def set (shelf : Shelf) (name : String) (block : Block) : Shelf :=
  ⟨(name, block) :: shelf.entries⟩

/-- A step of building up blocks. -/
inductive Step
  /-- One more fragment at the end of a block. -/
  | append (name : String) (fragment : Fragment)
  /-- All fragments of the block `other`, as it is now, at the end of a block. -/
  | extend (name other : String)
  deriving DecidableEq, Repr

/-- The name of the block that a step changes. -/
def Step.name : Step → String
  | append name _ => name
  | extend name _ => name

def apply (shelf : Shelf) : Step → Shelf
  | .append name fragment => shelf.set name (shelf.get name ++ [fragment])
  | .extend name other => shelf.set name (shelf.get name ++ shelf.get other)

@[simp] theorem get_empty (name : String) : ({} : Shelf).get name = [] := rfl

theorem get_set (shelf : Shelf) (name other : String) (block : Block) :
    (shelf.set name block).get other = if other = name then block else shelf.get other := by
  by_cases h : other = name
  · simp [get, set, h]
  · have hb : (other == name) = false := by simpa using h
    simp [get, set, h, hb, List.lookup_cons]

end Shelf

end SignalBinding
