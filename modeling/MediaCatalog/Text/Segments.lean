import MediaCatalog.Text.Blank

/-!
# Segments of paths

A path is read as its non-empty runs between slashes, so leading, trailing and doubled slashes do
not matter.

* `segments`: the segments of a path; none is empty or holds a slash.
-/

namespace MediaCatalog.Text

/-- The segments of a path. -/
def segments (path : String) : List String := (runs (· == '/') path.toList).map String.ofList

/-- No segment is empty. -/
theorem ne_empty_of_mem_segments {path segment : String} (h : segment ∈ segments path) : segment ≠ "" := by
  obtain ⟨run, hrun, rfl⟩ := List.mem_map.mp h
  intro heq
  exact ne_nil_of_mem_runs hrun (by simpa using congrArg String.toList heq)

end MediaCatalog.Text
