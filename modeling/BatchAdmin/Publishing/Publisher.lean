/-
Publishing: each stored file is handed on once.

A publish goes through four steps that other publishes may come between.
It claims the file (`claim`), which only one publish can hold at a time;
it offers the file to the channel (`offer`); on a refusal it gives the
claim back (`release`), so that a later publish can try again; on
acceptance the claim stays for good and the file is announced to the
subscriber (`announce`). A publish that finds the file claimed is told
that there is nothing to do.

What counts as the same file is its key: path, time stamp and upload.
-/
import BatchAdmin.Publishing.Channel
import BatchAdmin.Failure

namespace BatchAdmin

-- ============================================================= the bulletin

/-- Announcements waiting for the subscriber, oldest first. -/
structure Bulletin where
  waiting : List FileInfo
  /-- How many were dropped before the subscriber came for them. -/
  lost : Nat
  deriving DecidableEq

namespace Bulletin

/-- How many announcements are kept. -/
def capacity : Nat := 64

/-- Nothing announced yet. -/
def empty : Bulletin := ⟨[], 0⟩

/-- One more announcement; when there is no room the oldest goes. -/
def announce (b : Bulletin) (file : FileInfo) : Bulletin :=
  let all := b.waiting ++ [file]
  { waiting := all.drop (all.length - capacity)
    lost := b.lost + (all.length - capacity) }

end Bulletin

-- ============================================================ the publisher

/-- What makes two files the same to the publisher. -/
structure FileKey where
  path : String
  timestamp : String
  uploadId : Option Nat
  deriving DecidableEq, Repr

/-- The key of a file. -/
def FileInfo.key (file : FileInfo) : FileKey :=
  ⟨file.path, file.timestamp, file.uploadId⟩

/-- The publisher. -/
structure Publisher where
  channel : Option Channel
  /-- The files that are published or being published. -/
  claimed : List FileKey
  bulletin : Bulletin

namespace Publisher

/-- A publisher that has published nothing. -/
def fresh (channel : Option Channel) : Publisher :=
  ⟨channel, [], .empty⟩

-- ---------------------------------------------------------------- the steps

/-- Claims a file; none if it is claimed already. -/
def claim (p : Publisher) (key : FileKey) : Option Publisher :=
  if p.claimed.contains key then none
  else some { p with claimed := key :: p.claimed }

/-- Offers a file to the channel; without one it counts as accepted. -/
def offer (p : Publisher) (file : FileInfo) :
    Except String Unit × Publisher :=
  match p.channel with
  | none => (.ok (), p)
  | some channel =>
      let (outcome, channel) := channel.deliver file
      (outcome, { p with channel := some channel })

/-- Gives a claim back. -/
def release (p : Publisher) (key : FileKey) : Publisher :=
  { p with claimed := p.claimed.filter (· ≠ key) }

/-- Tells the subscriber. -/
def announce (p : Publisher) (file : FileInfo) : Publisher :=
  { p with bulletin := p.bulletin.announce file }

-- --------------------------------------------------------- a whole publish

/-- Publishes a file: true if this call did, false if it was claimed
before, or why the channel refused it. -/
def publish (p : Publisher) (file : FileInfo) :
    Except String Bool × Publisher :=
  match p.claim file.key with
  | none => (.ok false, p)
  | some p =>
      match p.offer file with
      | (.error why, p) => (.error why, p.release file.key)
      | (.ok (), p) => (.ok true, p.announce file)

/-- Publishes a file on a client's behalf: a refusal is an upload that
failed downstream. -/
def hand (p : Publisher) (file : FileInfo) : Answer Unit × Publisher :=
  match p.publish file with
  | (.ok _, p) => (.ok (), p)
  | (.error why, p) =>
      (.error (.upload (.downstream file.shortPath why)), p)

/-- The announcements since the last collection, and how many were
lost; afterwards none wait. -/
def collect (p : Publisher) : Bulletin × Publisher :=
  (p.bulletin, { p with bulletin := .empty })

end Publisher

end BatchAdmin
