import Autostart.FileStore.Change
import Autostart.SortedMap.Lemmas

/-!
# What locations hold

What each elementary change to a store does to the node at a location: a change at one place leaves
every other place as it was, and the root is a directory throughout.
-/

namespace Autostart.FileStore

/-- The root is always a directory. -/
@[simp]
theorem node?_root (fs : FileStore) : fs.node? [] = some .directory :=
  rfl

/-- Away from the root a location holds what its map of nodes says. -/
theorem node?_of_ne {loc : Location} (h : loc ≠ []) (fs : FileStore) :
    fs.node? loc = fs.nodes.find? loc :=
  if_neg h

/-- A location holds the node that was set there. -/
theorem node?_set_self {loc : Location} (h : loc ≠ []) (fs : FileStore) (node : Node) :
    (fs.set loc node).node? loc = some node := by
  simp [node?_of_ne h, set]

/-- Setting a node leaves every other location as it was. -/
theorem node?_set_of_ne {loc loc' : Location} (h : loc' ≠ loc) (fs : FileStore) (node : Node) :
    (fs.set loc node).node? loc' = fs.node? loc' := by
  by_cases h' : loc' = []
  · simp [h']
  · simp [node?_of_ne h', set, h]

/-- Dropping a tree leaves exactly what is not below its location. -/
theorem node?_dropTree {loc' : Location} (h : loc' ≠ []) (fs : FileStore) (loc : Location) :
    (fs.dropTree loc).node? loc' = if loc.isPrefixOf loc' then none else fs.node? loc' := by
  by_cases hp : loc.isPrefixOf loc' <;> simp [node?_of_ne h, dropTree, hp]

end Autostart.FileStore
