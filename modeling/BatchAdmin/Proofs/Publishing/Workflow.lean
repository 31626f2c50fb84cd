/-
Uploads that are to be handed on.

Such an upload is stored first and then handed on, under a number of its
own. It can end in three ways (`Depot.Ends`): it fails, and nothing has
changed but for folders; the channel refuses its file, which stays stored
and unpublished; or it is published.

`uploadAndPublish_ends`: after whatever clients have come for before, it
ends in one of these ways. There is no fourth. In particular a file that
was stored is never skipped as published already, since its number is new
and a key with it has not been claimed; while a listing, which does not
tell of numbers, can tell of a key that has.
-/
import BatchAdmin.Proofs.Publishing.Daybook

namespace BatchAdmin

open Text StagingArea

theorem StagePath.inFolder_ne {folder name : String} {failure : Failure}
    (h : inFolder folder name = .error failure) (file why : String) :
    failure ≠ .upload (.downstream file why) := by
  unfold inFolder read at h
  dsimp only at h
  split at h
  · cases h
    nofun
  · split at h
    · cases h
    · cases h
      nofun

namespace Depot

variable {rules : DeskRules} {faults : StoreFaults} {before : Depot}
  {folder name : String} {content : Content} {now : Instant}

/-- The upload has put its file where it was to go, where it is listed, and
has changed no other. -/
structure Staged (rules : DeskRules) (faults : StoreFaults) (before : Depot)
    (folder name : String) (content : Content) (now : Instant)
    (stored : StoredFile) (after : StagingArea) : Prop where
  path : StagePath.inFolder folder name = .ok stored.path
  answer : Desk.uploadTo rules faults before.area stored.path content now
    = (.ok (Desk.info rules stored), after)
  placed : before.area.Placed after stored content.octets
  listed : stored ∈ after.files
  contents : after.contentAt?
    = Function.update before.area.contentAt? stored.path
        (some content.octets)

/-- How an upload can end that is to be handed on. -/
inductive Ends (rules : DeskRules) (faults : StoreFaults) (before : Depot)
    (folder name : String) (content : Content) (now : Instant) :
    Answer FileInfo × Depot → Prop
  /-- Its path cannot be read or its file cannot be stored. -/
  | failed {failure : Failure} {after : StagingArea}
      (hwhy : ((StagePath.inFolder folder name).bind fun path =>
        (Desk.uploadTo rules faults before.area path content now).1)
          = .error failure)
      (hfailure : ∀ file why, failure ≠ .upload (.downstream file why))
      (hsame : before.area.SameFiles after) :
      Ends rules faults before folder name content now
        (.error failure, { before with area := after })
  /-- The channel has been offered the file, and refused it. -/
  | refused {stored : StoredFile} {after : StagingArea} {file : FileInfo}
      {channel : Channel} {why : String}
      (hstaged : Staged rules faults before folder name content now stored
        after)
      (hfile : file = { Desk.info rules stored with
        uploadId := some before.uploads })
      (hchannel : before.publisher.channel = some channel)
      (hwhy : (channel.deliver file).1 = .error why)
      (hagain : Publisher.Offers
          { before.publisher with channel := before.publisher.pastOffer file }
          (Desk.info rules stored)
        ↔ (Desk.info rules stored).key ∉ before.publisher.claimed) :
      Ends rules faults before folder name content now
        (.error (.upload (.downstream file.shortPath why)),
          ⟨after, { before.publisher with
            channel := before.publisher.pastOffer file },
          before.uploads + 1⟩)
  /-- The channel has been offered the file, and accepted it; a subscriber
  is told of this file more. -/
  | published {stored : StoredFile} {after : StagingArea} {file : FileInfo}
      {bulletin : Bulletin}
      (hstaged : Staged rules faults before folder name content now stored
        after)
      (hfile : file = { Desk.info rules stored with
        uploadId := some before.uploads })
      (hnew : file.key ∉ before.publisher.claimed)
      (hchannel : ∀ channel, before.publisher.channel = some channel →
        (channel.deliver file).1 = .ok ())
      (htold : before.publisher.bulletin.Gains file bulletin) :
      Ends rules faults before folder name content now
        (.ok file,
          ⟨after, ⟨before.publisher.pastOffer file,
            file.key :: before.publisher.claimed, bulletin⟩,
          before.uploads + 1⟩)

/-- Once the file is stored, the channel decides. -/
theorem ends_of_staged {stored : StoredFile} {after : StagingArea}
    (hnew : ∀ key ∈ before.publisher.claimed,
      key.uploadId ≠ some before.uploads)
    (hstaged : Staged rules faults before folder name content now stored
      after) :
    Ends rules faults before folder name content now
      (before.uploadAndPublish rules faults folder name content now) := by
  let file : FileInfo :=
    { Desk.info rules stored with uploadId := some before.uploads }
  have hfree : file.key ∉ before.publisher.claimed :=
    fun hmem => hnew _ hmem rfl
  have hp := before.publisher.publishes file
  unfold uploadAndPublish
  rw [hstaged.path]
  dsimp only
  rw [hstaged.answer]
  have hfile : before.numbered (.ok (Desk.info rules stored), after)
      = (.ok file, ⟨after, before.publisher, before.uploads + 1⟩) := rfl
  rw [hfile]
  unfold publish Publisher.hand
  dsimp only
  generalize before.publisher.publish file = outcome at hp ⊢
  cases hp with
  | skipped hclaimed => exact absurd hclaimed hfree
  | refused _ hchannel hwhy =>
      exact .refused hstaged rfl hchannel hwhy Publisher.offers_iff
  | accepted _ hchannel =>
      exact .published hstaged rfl hfree hchannel
        (Bulletin.gains_announce _ file)

theorem ends (h : before.area.Orderly)
    (hnew : ∀ key ∈ before.publisher.claimed,
      key.uploadId ≠ some before.uploads)
    (rules : DeskRules) (faults : StoreFaults) (folder name : String)
    (content : Content) (now : Instant) :
    Ends rules faults before folder name content now
      (before.uploadAndPublish rules faults folder name content now) := by
  cases hpath : StagePath.inFolder folder name with
  | error failure =>
      unfold uploadAndPublish
      rw [hpath]
      refine .failed ?_ (StagePath.inFolder_ne hpath) fun _ => rfl
      rw [hpath]
      rfl
  | ok path =>
      have hs := Desk.uploadTo_stores h rules faults path content now
      have ha := Desk.orderly_uploadTo h rules faults path content now
      rcases hupload : Desk.uploadTo rules faults before.area path content now
        with ⟨answer, after⟩
      rw [hupload] at hs ha
      cases hs with
      | failed hfailure hsame =>
          unfold uploadAndPublish
          rw [hpath]
          dsimp only
          rw [hupload]
          refine .failed ?_ hfailure hsame
          rw [hpath]
          exact congrArg (·.1) hupload
      | placed hstored hplaced =>
          subst hstored
          exact ends_of_staged hnew ⟨hpath, hupload, hplaced,
            (hplaced.mem_files h ha).2 (.inl rfl), hplaced.contents h ha⟩

end Depot

/-- A key with the number of the next upload has not been claimed. -/
theorem Daybook.Sound.unclaimed {d : Daybook} {rules : DeskRules}
    {channel : Option Channel} (h : d.Sound rules channel) :
    ∀ key ∈ d.depot.publisher.claimed,
      key.uploadId ≠ some d.depot.uploads := by
  intro key hkey heq
  rw [h.told.claimed] at hkey
  obtain ⟨file, hfile, rfl⟩ := List.mem_map.1 hkey
  obtain ⟨entry, hentry, hhanded⟩ := List.mem_filterMap.1 hfile
  cases entry with
  | handed _ =>
      cases hhanded
      exact absurd (h.numbered _ hentry _ heq) (Nat.lt_irrefl _)
  | stored _ => cases hhanded
  | refused _ => cases hhanded

/-- Whatever clients have come for before, and whatever failed: an upload to
any folder and name, with any content and any calls failing, to be handed on
through any channel, fails and leaves all files and the publisher as they
were; or its file is staged, offered once, and refused; or it is staged, accepted
and told of once to a subscriber. -/
theorem Depot.uploadAndPublish_ends {area : StagingArea} (h : area.Orderly)
    (rules : DeskRules) (channel : Option Channel) (visits : List Visit)
    (faults : StoreFaults) (folder name : String) (content : Content)
    (now : Instant) :
    let before := ((Daybook.opened rules area channel).play rules visits).depot
    Ends rules faults before folder name content now
      (before.uploadAndPublish rules faults folder name content now) := by
  have hd := Daybook.sound_play h rules channel visits
  exact ends hd.orderly hd.unclaimed rules faults folder name content now

/-- A second upload to a path at one moment is offered to the channel as the
first was, and here it is refused. -/
theorem Depot.uploadedAgain_ends :
    let rules : DeskRules := { allowOverwrite := true, shortPathRoot := "in" }
    let content (text : String) : Content := .whole (octetsOf text)
    let visit : Visit :=
      ⟨.uploadAndPublish "in" "a" (content "one"), .none, ⟨0, 0⟩⟩
    let before := ((Daybook.opened rules .fresh
      (some (.fickle (· == 1) 0))).play rules [visit]).depot
    let outcome := before.uploadAndPublish rules .none "in" "a"
      (content "two") ⟨0, 0⟩
    StagingArea.fresh.Orderly
      ∧ Ends rules .none before "in" "a" (content "two") ⟨0, 0⟩ outcome
      ∧ outcome.1
          = .error (.upload (.downstream "a" "downstream unavailable"))
      ∧ outcome.2.publisher.channel.bind (·.offered?) = some 2 := by
  intro rules content visit before outcome
  have hends := uploadAndPublish_ends (StagingArea.orderly_fresh .usual) rules
    (some (.fickle (· == 1) 0)) [visit] .none "in" "a" (content "two") ⟨0, 0⟩
  exact ⟨StagingArea.orderly_fresh .usual, hends, by decide +kernel,
    by decide +kernel⟩

end BatchAdmin
