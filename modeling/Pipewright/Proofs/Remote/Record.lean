import Pipewright.Remote.Record

/-!
# Records that are sent

Whoever receives the value of a record can tell which record it was.
-/
namespace Pipewright

/-- A request for a blob is known from its value. -/
theorem CreateBlob.toJson_injective {request other : CreateBlob}
    (same : request.toJson = other.toJson) : request = other := by
  cases request
  cases other
  simpa [toJson] using same

/-- A file of a tree is known from its value. -/
theorem TreeEntry.toJson_injective {entry other : TreeEntry} (same : entry.toJson = other.toJson) :
    entry = other := by
  cases entry
  cases other
  simpa [toJson] using same

/-- A request for a tree is known from its value. -/
theorem CreateTree.toJson_injective {request other : CreateTree}
    (same : request.toJson = other.toJson) : request = other := by
  cases request
  cases other
  simpa [toJson, List.map_inj_right fun _ _ => TreeEntry.toJson_injective] using same

/-- A request for a commit is known from its value. -/
theorem CreateCommit.toJson_injective {request other : CreateCommit}
    (same : request.toJson = other.toJson) : request = other := by
  cases request
  cases other
  simpa [toJson, Json.texts, List.map_inj_right fun _ _ => Json.text.inj] using same

/-- A request to move a branch is known from its value. -/
theorem UpdateRef.toJson_injective {request other : UpdateRef}
    (same : request.toJson = other.toJson) : request = other := by
  cases request
  cases other
  simpa [toJson] using same

end Pipewright
