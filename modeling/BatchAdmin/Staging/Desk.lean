/-
The staging desk: what clients ask of the staging area.

A request at the desk is a sequence of calls on the area. Overwriting is
looked into before anything is stored: where it is refused, a path that
already has a file is a conflict. An upload is all or nothing: content
goes into a draft that is opened at the first octet, so empty content
leaves no trace, and the draft is either committed with everything in it
or discarded. A delete by pattern lists once and then removes the
matches one by one; a removal that fails or comes too late is not
counted and does not stop the others.
-/
import BatchAdmin.Staging.Area
import BatchAdmin.Staging.FileInfo
import BatchAdmin.Glob.Pattern
import BatchAdmin.Time.Written

namespace BatchAdmin

open Text

-- ================================================================= the desk

/-- The rules of the desk. -/
structure DeskRules where
  /-- A path that has a file may get another. -/
  allowOverwrite : Bool
  /-- The folder left out of short paths. -/
  shortPathRoot : String
  deriving DecidableEq, Repr

/-- Content as it arrives: chunk by chunk, and then either its end or a
failure to read on. -/
structure Content where
  chunks : List (List Octet)
  broken : Bool

/-- Content that arrives in one piece. -/
def Content.whole (content : List Octet) : Content := ⟨[content], false⟩

namespace Desk

/-- A disk fault as the desk reports it. -/
def storeFailure (fault : DiskFault) : Failure := .store fault.message

/-- What the desk tells about a stored file. -/
def info (rules : DeskRules) (f : StoredFile) : FileInfo :=
  .ofFile f.path.text f.modified.writtenMillis true rules.shortPathRoot

-- ================================================================= listing

/-- A window of the staged files, and how many there are. -/
def list (rules : DeskRules) (faults : StoreFaults) (area : StagingArea)
    (offset limit : Nat) : Answer (List FileInfo × Nat) :=
  match area.list faults with
  | .error fault => .error (storeFailure fault)
  | .ok files =>
      .ok (((files.drop offset).take limit).map (info rules), files.length)

-- ================================================================ deleting

/-- Removes files one by one and counts those that went. -/
def removeAll (faults : StoreFaults) (area : StagingArea) :
    List StoredFile → Nat × StagingArea
  | [] => (0, area)
  | f :: rest =>
      match area.remove faults f.path with
      | .ok (true, area) =>
          let (count, area) := removeAll faults area rest
          (count + 1, area)
      | .ok (false, area) => removeAll faults area rest
      | .error _ => removeAll faults area rest

/-- Removes every staged file the pattern matches; tells how many were
removed. -/
def delete (faults : StoreFaults) (area : StagingArea)
    (pattern : String) : Answer Nat × StagingArea :=
  match Glob.read pattern with
  | .error failure => (.error failure, area)
  | .ok glob =>
      match area.list faults with
      | .error fault => (.error (storeFailure fault), area)
      | .ok files =>
          let (count, area) := removeAll faults area
            (files.filter fun f => glob.matches f.path.text)
          (.ok count, area)

-- ================================================================ creating

/-- A path that has a file is a conflict unless overwriting is
allowed. -/
def checkOverwrite (rules : DeskRules) (faults : StoreFaults)
    (area : StagingArea) (path : StagePath) : Answer Unit :=
  if rules.allowOverwrite then .ok ()
  else
    match area.stat faults path with
    | .error fault => .error (storeFailure fault)
    | .ok (some _) => .error (.pathConflict path.text)
    | .ok none => .ok ()

/-- Creates an empty file. -/
def create (rules : DeskRules) (faults : StoreFaults)
    (area : StagingArea) (path : String) (now : Instant) :
    Answer FileInfo × StagingArea :=
  match StagePath.read path with
  | .error failure => (.error failure, area)
  | .ok path =>
      match checkOverwrite rules faults area path with
      | .error failure => (.error failure, area)
      | .ok () =>
          match area.create faults path now with
          | (.error fault, area) => (.error (storeFailure fault), area)
          | (.ok stored, area) => (.ok (info rules stored), area)

-- =============================================================== uploading

/-- Writes the chunks into a draft that has had `earlier` writes; a
draft that cannot be written to the end is discarded. -/
def fill (faults : StoreFaults) (area : StagingArea) (draft : Draft)
    (now : Instant) (earlier : Nat) :
    List (List Octet) → Except DiskFault Unit × StagingArea
  | [] => (.ok (), area)
  | chunk :: rest =>
      if chunk.isEmpty then fill faults area draft now earlier rest
      else
        match area.write faults draft earlier chunk now with
        | .error fault => (.error fault, area.discard draft)
        | .ok area => fill faults area draft now (earlier + 1) rest

/-- The failure of an upload that the area gives a fault for. -/
def transferFailure (path : StagePath) (fault : DiskFault) : Failure :=
  .upload (.transfer path.fileName fault.message)

/-- The failure of an upload whose content cannot be read on. -/
def brokenOff (path : StagePath) : Failure :=
  .upload (.transfer path.fileName "content broke off")

/-- The failure of an upload that brings nothing: its content has broken
off, or there is none. -/
def fruitless (path : StagePath) (content : Content) : Failure :=
  if content.broken then brokenOff path else .upload (.empty path.fileName)

/-- The content of an upload, stored at a path that has passed the
overwrite check. -/
def transfer (faults : StoreFaults) (area : StagingArea)
    (path : StagePath) (content : Content) (now : Instant) :
    Answer StoredFile × StagingArea :=
  if content.chunks.all (·.isEmpty) then
    (.error (fruitless path content), area)
  else
    match area.stage faults path now with
    | (.error fault, area) => (.error (transferFailure path fault), area)
    | (.ok draft, area) =>
        match fill faults area draft now 0 content.chunks with
        | (.error fault, area) => (.error (transferFailure path fault), area)
        | (.ok (), area) =>
            if content.broken then
              (.error (brokenOff path), area.discard draft)
            else
              match area.commit faults draft with
              | (.error fault, area) =>
                  (.error (transferFailure path fault), area.discard draft)
              | (.ok stored, area) => (.ok stored, area)

/-- Uploads content to a staged path. -/
def uploadTo (rules : DeskRules) (faults : StoreFaults)
    (area : StagingArea) (path : StagePath) (content : Content)
    (now : Instant) : Answer FileInfo × StagingArea :=
  match checkOverwrite rules faults area path with
  | .error failure => (.error failure, area)
  | .ok () =>
      match transfer faults area path content now with
      | (.error failure, area) => (.error failure, area)
      | (.ok stored, area) => (.ok (info rules stored), area)

/-- Uploads content to a path given as text. -/
def upload (rules : DeskRules) (faults : StoreFaults)
    (area : StagingArea) (path : String) (content : Content)
    (now : Instant) : Answer FileInfo × StagingArea :=
  match StagePath.read path with
  | .error failure => (.error failure, area)
  | .ok path => uploadTo rules faults area path content now

end Desk

end BatchAdmin
