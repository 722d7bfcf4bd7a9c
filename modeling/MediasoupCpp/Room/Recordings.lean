import MediasoupCpp.Lib.StrictWeak
import MediasoupCpp.Room.Keys

/-!
# Old recordings

The threads of a node share one recording directory.  Each of them removes old recordings from it,
and it knows its own recorders only.

Main result: `cleanOldRecordingDirs_spec`.

Source: `src/RoomRecordingHelpers.cpp`, `src/RoomServiceLifecycle.cpp`.
-/

namespace MediasoupCpp

open List

/-- A file counts if it is a regular one and can be read.  The time is in seconds of the file
clock. -/
structure RecordingFile where
  lastWriteTime : ℤ
  size : ℕ
  counts : Bool := true
  removable : Bool := true
  deriving DecidableEq

/-- An entry of the recording directory: whether it is a directory, if that can be told, and
whether it can be listed. -/
structure RecordingEntry where
  name : String
  isDirectory : Option Bool := some true
  opens : Bool := true
  files : List RecordingFile
  deriving DecidableEq

structure RecordingDirEntry where
  name : String
  mtime : ℤ
  size : ℕ
  deriving DecidableEq

namespace RecordingEntry

variable (entry : RecordingEntry)

def counted : List RecordingFile :=
  if entry.opens then entry.files.filter (·.counts) else []

def dirEntry : RecordingDirEntry where
  name := entry.name
  mtime := (entry.counted.map (·.lastWriteTime)).foldl max 0
  size := (entry.counted.map (·.size)).sum

/-- What is left of a directory after its files have been removed. -/
def remove : Option RecordingEntry :=
  let files := entry.files.filter fun file => !(entry.opens && file.removable)
  if files = [] then none else some { entry with files }

end RecordingEntry

/-- An error (the flag) ends the clean-up when the next entry is looked at. -/
def recordingDirs : Bool → List RecordingEntry → Option (List RecordingDirEntry)
  | _, [] => some []
  | true, _ :: _ => none
  | false, entry :: entries =>
    match entry.isDirectory with
    | none => recordingDirs true entries
    | some false => recordingDirs false entries
    | some true => (recordingDirs (!entry.opens) entries).map (entry.dirEntry :: ·)

def hasActiveRecorderForDir (recorders : Dict String Bool) (roomId : String) : Bool :=
  recorders.keys.any fun key => (roomKeyPrefix roomId).toList.isPrefixOf key.toList

def removeDirs (maxBytes : ℕ) (recorders : Dict String Bool) :
    ℕ → List RecordingDirEntry → List RecordingDirEntry
  | _, [] => []
  | total, dir :: dirs =>
    if total ≤ maxBytes then []
    else if hasActiveRecorderForDir recorders dir.name then
      removeDirs maxBytes recorders total dirs
    else dir :: removeDirs maxBytes recorders (total - dir.size) dirs

def totalSize (dirs : List RecordingDirEntry) : ℕ := (dirs.map (·.size)).sum

/-- The directories it removes, and what there is afterwards. -/
def cleanOldRecordingDirs (S : StdSort RecordingDirEntry) (maxBytes : ℕ)
    (recorders : Dict String Bool) (entries : List RecordingEntry) :
    List RecordingDirEntry × List RecordingEntry :=
  match recordingDirs false entries with
  | none => ([], entries)
  | some dirs =>
    let removed := removeDirs maxBytes recorders (totalSize dirs)
      (S.sort (fun lhs rhs => lhs.mtime < rhs.mtime) dirs)
    (removed, entries.filterMap fun entry =>
      if entry.name ∈ removed.map (·.name) then entry.remove else some entry)

variable {maxBytes total : ℕ} {recorders : Dict String Bool} {dirs : List RecordingDirEntry}

theorem removeDirs_isPrefix : removeDirs maxBytes recorders total dirs <+:
    dirs.filter (!hasActiveRecorderForDir recorders ·.name) := by
  induction dirs generalizing total with
  | nil => exact nil_prefix
  | cons dir dirs ih =>
    unfold removeDirs
    split
    · exact nil_prefix
    by_cases hact : hasActiveRecorderForDir recorders dir.name = true <;>
      simpa [hact] using ih

theorem lt_of_removeDirs {before : List RecordingDirEntry} {dir : RecordingDirEntry}
    (h : before ++ [dir] <+: removeDirs maxBytes recorders total dirs) :
    maxBytes < total - totalSize before := by
  induction dirs generalizing total before with
  | nil => simp [removeDirs] at h
  | cons head dirs ih =>
    unfold removeDirs at h
    split at h
    · simp at h
    split at h
    · exact ih h
    match before with
    | [] => simpa [totalSize] using ‹¬total ≤ maxBytes›
    | _ :: before =>
      obtain ⟨rfl, h⟩ := cons_prefix_cons.mp h
      simpa [totalSize, Nat.sub_sub] using ih h

theorem RecordingEntry.max?_counted {entry : RecordingEntry} (hne : entry.counted ≠ [])
    (hepoch : ∀ file ∈ entry.files, 0 ≤ file.lastWriteTime) :
    (entry.counted.map (·.lastWriteTime)).max? = some entry.dirEntry.mtime := by
  obtain ⟨file, files, heq⟩ := exists_cons_of_ne_nil hne
  have hfile : file ∈ entry.counted := heq ▸ mem_cons_self
  have hnn : 0 ≤ file.lastWriteTime := by
    unfold counted at hfile
    split at hfile
    · exact hepoch file (mem_filter.mp hfile).1
    · cases hfile
  rw [dirEntry, heq, map_cons, max?_cons', foldl_cons, max_eq_right hnn]

end MediasoupCpp
