import Autostart.FileStore.Basic
import Autostart.SortedMap.Lemmas
import Mathlib.Data.List.Nodup

/-!
# Names in directories

A directory lists each name once, and only names that a path can lead to.
-/

namespace Autostart.FileStore

/-- A location lists no name twice. -/
theorem nodup_namesBelow (fs : FileStore) (loc : Location) : (fs.namesBelow loc).Nodup := by
  refine (SortedMap.nodup_keys fs.nodes).filterMap fun key key' name h h' => ?_
  -- The location and the name that a key ends with determine the key.
  have hkey : ∀ k : Location, name ∈ (if k.dropLast = loc then
      k.getLast?.filter Path.isPlainName else none) → k = loc ++ [name] := by
    intro k hk
    split at hk
    · next hdrop =>
      have hlast := (Option.mem_filter_iff.1 hk).1
      rw [← hdrop]
      exact (List.dropLast_append_getLast? name hlast).symm
    · cases hk
  rw [hkey key h, hkey key' h']

/-- A location lists only names without a slash. -/
theorem isPlainName_of_mem_namesBelow {fs : FileStore} {loc : Location} {name : String}
    (h : name ∈ fs.namesBelow loc) : Path.isPlainName name = true := by
  obtain ⟨key, -, hkey⟩ := List.mem_filterMap.1 h
  split at hkey
  · exact (Option.mem_filter_iff.1 hkey).2
  · cases hkey

/-- A directory lists no name twice. -/
theorem nodup_namesIn (fs : FileStore) (p : Path) : (fs.namesIn p).Nodup := by
  unfold namesIn
  split
  · exact nodup_namesBelow fs _
  · exact List.nodup_nil

/-- A directory lists only names without a slash. -/
theorem isPlainName_of_mem_namesIn {fs : FileStore} {p : Path} {name : String}
    (h : name ∈ fs.namesIn p) : Path.isPlainName name = true := by
  unfold namesIn at h
  split at h
  · exact isPlainName_of_mem_namesBelow h
  · cases h

end Autostart.FileStore
