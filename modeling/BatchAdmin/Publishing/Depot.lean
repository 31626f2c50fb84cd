/-
The depot: the staging area and the publisher that hands its files on.

Every upload that succeeds is given a number of its own, so that two
uploads to one path are two files to the publisher. An upload that is to
be published is first stored; only a stored file is handed on, and a
refusal leaves it stored.
-/
import BatchAdmin.Publishing.Publisher
import BatchAdmin.Staging.Desk

namespace BatchAdmin

/-- The staging area with its publisher. -/
structure Depot where
  area : StagingArea
  publisher : Publisher
  /-- How many uploads have succeeded. -/
  uploads : Nat

namespace Depot

/-- A depot with nothing in it. -/
def fresh (channel : Option Channel) (root : StagingRoot := .usual) :
    Depot :=
  ⟨.fresh root, .fresh channel, 0⟩

/-- The file of a successful upload, with a number of its own. -/
def numbered (depot : Depot) :
    Answer FileInfo × StagingArea → Answer FileInfo × Depot
  | (.error failure, area) => (.error failure, { depot with area })
  | (.ok file, area) =>
      (.ok { file with uploadId := some depot.uploads },
        { depot with area, uploads := depot.uploads + 1 })

/-- Creates an empty file. -/
def create (depot : Depot) (rules : DeskRules) (faults : StoreFaults)
    (path : String) (now : Instant) : Answer FileInfo × Depot :=
  let (answer, area) := Desk.create rules faults depot.area path now
  (answer, { depot with area })

/-- Deletes the files that a pattern matches; tells how many. -/
def delete (depot : Depot) (faults : StoreFaults) (pattern : String) :
    Answer Nat × Depot :=
  let (answer, area) := Desk.delete faults depot.area pattern
  (answer, { depot with area })

/-- Uploads content to a path. -/
def upload (depot : Depot) (rules : DeskRules) (faults : StoreFaults)
    (path : String) (content : Content) (now : Instant) :
    Answer FileInfo × Depot :=
  depot.numbered (Desk.upload rules faults depot.area path content now)

/-- Hands a file on. -/
def publish (depot : Depot) (file : FileInfo) : Answer Unit × Depot :=
  let (answer, publisher) := depot.publisher.hand file
  (answer, { depot with publisher })

/-- Uploads content into a folder and hands the file on. -/
def uploadAndPublish (depot : Depot) (rules : DeskRules)
    (faults : StoreFaults) (folder name : String) (content : Content)
    (now : Instant) : Answer FileInfo × Depot :=
  match StagePath.inFolder folder name with
  | .error failure => (.error failure, depot)
  | .ok path =>
      match depot.numbered
          (Desk.uploadTo rules faults depot.area path content now) with
      | (.error failure, depot) => (.error failure, depot)
      | (.ok file, depot) =>
          match depot.publish file with
          | (.error failure, depot) => (.error failure, depot)
          | (.ok (), depot) => (.ok file, depot)

end Depot

end BatchAdmin
