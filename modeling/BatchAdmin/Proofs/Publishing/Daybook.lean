/-
The days of a depot.

Clients create files, upload them, hand them on and delete them, one after
the other. The daybook tells which files have been stored, as their clients
were told of them, and which have been handed on or refused. The depot
does not read it (`depot_take`).

A file that is stored at a path is a version of it until the next is. A
client can know it by two names: as the upload that made it was answered,
with the number of that upload, or as a listing tells of it, without one
(`FileInfo.listed`). The two have different keys, so the publisher takes
them for different files.

`handedOnce_iff_undoubled`: whatever clients ask for and whatever fails,
each version is handed on once at most by either name; so once at most
altogether exactly if not by both. And a listing tells of every file as of
the current version of its path.
-/
import BatchAdmin.Publishing.Depot
import BatchAdmin.Proofs.Publishing.Bulletin
import BatchAdmin.Proofs.Publishing.Offers
import BatchAdmin.Proofs.Staging.Outcomes
import Mathlib.Data.Finset.Card

namespace BatchAdmin

open Text

-- ============================================================= the versions

/-- The file as a listing tells of it. -/
def FileInfo.listed (file : FileInfo) : FileInfo :=
  { file with uploadId := none }

/-- What the daybook tells of: a file that was stored, as its client was
told of it; a file that was handed on, and one that the channel refused. -/
inductive Entry where
  | stored (file : FileInfo)
  | handed (file : FileInfo)
  | refused (file : FileInfo)
  deriving DecidableEq

namespace Entry

/-- The file that an entry is about. -/
def file : Entry → FileInfo
  | .stored file | .handed file | .refused file => file

def stored? : Entry → Option FileInfo
  | .stored file => some file
  | _ => none

def handed? : Entry → Option FileInfo
  | .handed file => some file
  | _ => none

/-- The file, if it was offered to the channel. -/
def offered? : Entry → Option FileInfo
  | .handed file | .refused file => some file
  | .stored _ => none

end Entry

/-- A file that was stored, and the files that have been handed on since,
the latest first. -/
structure Version where
  file : FileInfo
  handed : List FileInfo
  deriving DecidableEq

namespace Version

/-- The keys that the version is known by. -/
def names (v : Version) : List FileKey := [v.file.key, v.file.listed.key]

/-- The keys of the files that have been handed on since. -/
def keys (v : Version) : List FileKey := v.handed.map (·.key)

/-- How often the version has been handed on. -/
def times (v : Version) : Nat := v.keys.countP (· ∈ v.names)

/-- It has been handed on by both of its names. -/
def Doubled (v : Version) : Prop :=
  v.file.key ≠ v.file.listed.key ∧ v.names ⊆ v.keys

/-- Where no key is handed on twice, only the two names can come
together. -/
theorem times_le_one_iff {v : Version} (h : v.keys.Nodup) :
    v.times ≤ 1 ↔ ¬v.Doubled := by
  unfold times
  rw [List.countP_eq_length_filter, ← List.toFinset_card_of_nodup (h.filter _),
    Finset.card_le_one]
  simp only [List.mem_toFinset, List.mem_filter, decide_eq_true_eq]
  constructor
  · rintro hone ⟨hne, hboth⟩
    have hown : v.file.key ∈ v.names := List.mem_cons_self
    have hlisted : v.file.listed.key ∈ v.names :=
      List.mem_cons_of_mem _ List.mem_cons_self
    exact hne (hone _ ⟨hboth hown, hown⟩ _ ⟨hboth hlisted, hlisted⟩)
  · rintro hnot a ⟨ha, haname⟩ b ⟨hb, hbname⟩
    by_contra hne
    refine hnot ?_
    unfold names at haname hbname
    unfold Doubled names
    rw [List.mem_pair] at haname hbname
    rw [List.cons_subset, List.cons_subset]
    rcases haname with rfl | rfl
    · rcases hbname with rfl | rfl
      · exact absurd rfl hne
      · exact ⟨hne, ha, hb, List.nil_subset _⟩
    · rcases hbname with rfl | rfl
      · exact ⟨Ne.symm hne, hb, ha, List.nil_subset _⟩
      · exact absurd rfl hne

end Version

-- ============================================================== the daybook

/-- What a client comes for. -/
inductive Purpose where
  | create (path : String)
  | upload (path : String) (content : Content)
  | uploadAndPublish (folder name : String) (content : Content)
  | delete (pattern : String)
  /-- To hand on a stored file as its client was told of it; the last that
  was stored has the number 0. -/
  | publishStored (number : Nat)
  /-- To hand on a file as a listing tells of it. -/
  | publishListed (file : FileInfo)

/-- A client's visit, with what the store makes fail during it. -/
structure Visit where
  purpose : Purpose
  faults : StoreFaults
  now : Instant

/-- What a visit makes of a depot, with the files that clients were told
of. -/
def Visit.serve (visit : Visit) (rules : DeskRules) (told : List FileInfo)
    (depot : Depot) : Depot :=
  match visit.purpose with
  | .create path => (depot.create rules visit.faults path visit.now).2
  | .upload path content =>
      (depot.upload rules visit.faults path content visit.now).2
  | .uploadAndPublish folder name content =>
      (depot.uploadAndPublish rules visit.faults folder name content
        visit.now).2
  | .delete pattern => (depot.delete visit.faults pattern).2
  | .publishStored number =>
      match told[number]? with
      | none => depot
      | some file => (depot.publish file).2
  | .publishListed file => (depot.publish file.listed).2

/-- A depot and what has been stored and handed on, the latest first. -/
structure Daybook where
  depot : Depot
  entries : List Entry

namespace Daybook

variable {d : Daybook} {rules : DeskRules} {faults : StoreFaults}
  {area after : StagingArea} {channel : Option Channel} {path : StagePath}
  {content : List Octet} {now : Instant} {file : FileInfo} {v : Version}
  {entries : List Entry}

/-- The files that have been stored, as they were told of. -/
def storedIn (entries : List Entry) : List FileInfo :=
  entries.filterMap Entry.stored?

/-- The files that have been handed on. -/
def handedIn (entries : List Entry) : List FileInfo :=
  entries.filterMap Entry.handed?

/-- The files that the channel has been offered. -/
def offeredIn (entries : List Entry) : List FileInfo :=
  entries.filterMap Entry.offered?

/-- The version of a path that is stored last. -/
def version? (path : String) : List Entry → Option Version
  | [] => none
  | .stored file :: earlier =>
      if file.path = path then some ⟨file, []⟩ else version? path earlier
  | .handed file :: earlier =>
      (version? path earlier).map fun v => ⟨v.file, file :: v.handed⟩
  | .refused _ :: earlier => version? path earlier

-- --------------------------------------------------------------- the visits

/-- An answer that tells of a file tells of one that has been stored. -/
def keep (d : Daybook) : Answer FileInfo × Depot → Daybook
  | (.ok file, depot) => ⟨depot, .stored file :: d.entries⟩
  | (.error _, depot) => ⟨depot, d.entries⟩

/-- A file is handed on or refused if its publish tells so; if it tells
that there was nothing to do, the file has not been offered. -/
def handOn (d : Daybook) (file : FileInfo) : Daybook where
  depot := (d.depot.publish file).2
  entries := match (d.depot.publisher.publish file).1 with
    | .ok true => .handed file :: d.entries
    | .ok false => d.entries
    | .error _ => .refused file :: d.entries

/-- The daybook after a visit. -/
def take (rules : DeskRules) (d : Daybook) (visit : Visit) : Daybook :=
  match visit.purpose with
  | .create path =>
      d.keep (d.depot.create rules visit.faults path visit.now)
  | .upload path content =>
      d.keep (d.depot.upload rules visit.faults path content visit.now)
  | .uploadAndPublish folder name content =>
      match StagePath.inFolder folder name with
      | .error _ => d
      | .ok path =>
          let (answer, depot) := d.depot.numbered
            (Desk.uploadTo rules visit.faults d.depot.area path content
              visit.now)
          let kept := d.keep (answer, depot)
          match answer with
          | .error _ => kept
          | .ok file => kept.handOn file
  | .delete pattern =>
      ⟨(d.depot.delete visit.faults pattern).2, d.entries⟩
  | .publishStored number =>
      match (storedIn d.entries)[number]? with
      | none => d
      | some file => d.handOn file
  | .publishListed file => d.handOn file.listed

/-- The daybook after a list of visits. -/
def play (rules : DeskRules) (d : Daybook) (visits : List Visit) : Daybook :=
  visits.foldl (take rules) d

/-- A daybook that begins with what is stored. -/
def opened (rules : DeskRules) (area : StagingArea)
    (channel : Option Channel) : Daybook :=
  ⟨⟨area, .fresh channel, 0⟩,
    area.files.map fun f => .stored (Desk.info rules f)⟩

theorem depot_keep (d : Daybook) (outcome : Answer FileInfo × Depot) :
    (d.keep outcome).depot = outcome.2 := by
  rcases outcome with ⟨failure | file, depot⟩
  · rfl
  · rfl

/-- The depot goes as it does without a daybook; an upload that is to be
handed on is entered at both of its steps. -/
theorem depot_take (d : Daybook) (visit : Visit) :
    (d.take rules visit).depot
      = visit.serve rules (storedIn d.entries) d.depot := by
  unfold take Visit.serve
  cases visit.purpose with
  | create path => exact depot_keep d _
  | upload path content => exact depot_keep d _
  | uploadAndPublish folder name content =>
      unfold Depot.uploadAndPublish
      dsimp only
      cases StagePath.inFolder folder name with
      | error failure => rfl
      | ok path =>
          dsimp only
          rcases d.depot.numbered (Desk.uploadTo rules visit.faults
              d.depot.area path content visit.now) with
            ⟨failure | file, depot⟩
          · rfl
          · dsimp only [handOn, keep]
            rcases depot.publish file with ⟨failure | _, depot⟩
            · rfl
            · rfl
  | delete pattern => rfl
  | publishStored number =>
      dsimp only
      cases (storedIn d.entries)[number]? with
      | none => rfl
      | some file => rfl
  | publishListed file => rfl

-- ============================================================ the bookkeeping

/-- What has been handed on since was handed on at some time. -/
theorem handed_sublist {path : String} (h : version? path entries = some v) :
    v.handed.Sublist (handedIn entries) := by
  induction entries generalizing v with
  | nil => cases h
  | cons entry earlier ih =>
      cases entry with
      | stored file =>
          unfold version? at h
          split at h
          · cases h
            exact List.nil_sublist _
          · exact ih h
      | handed file =>
          unfold version? at h
          obtain ⟨before, hbefore, rfl⟩ := Option.map_eq_some_iff.1 h
          exact (ih hbefore).cons_cons file
      | refused file => exact ih h

/-- The entries tell what has become of a publisher that has published
nothing and had the channel. -/
structure Told (channel : Option Channel) (p : Publisher)
    (entries : List Entry) : Prop where
  /-- What has been handed on is what the channel has accepted. -/
  heard : Publisher.heard channel (offeredIn entries)
    = (p.channel, handedIn entries)
  /-- It is what is claimed. -/
  claimed : p.claimed = (handedIn entries).map (·.key)
  nodup : p.claimed.Nodup
  /-- And it is what was announced. -/
  bulletin : p.bulletin.Tells (handedIn entries).reverse

namespace Told

variable {p : Publisher}

theorem refused (h : Told channel p entries) {offered : Channel}
    {why : String} (hchannel : p.channel = some offered)
    (hwhy : (offered.deliver file).1 = .error why) :
    Told channel { p with channel := p.pastOffer file }
      (.refused file :: entries) :=
  ⟨Publisher.heard_of_refused h.heard hchannel hwhy, h.claimed, h.nodup,
    h.bulletin⟩

theorem accepted (h : Told channel p entries) (hfree : file.key ∉ p.claimed)
    (hchannel : ∀ offered, p.channel = some offered →
      (offered.deliver file).1 = .ok ()) :
    Told channel ⟨p.pastOffer file, file.key :: p.claimed,
        p.bulletin.announce file⟩
      (.handed file :: entries) where
  heard := Publisher.heard_of_accepted h.heard hchannel
  claimed := congrArg (file.key :: ·) h.claimed
  nodup := List.nodup_cons.2 ⟨hfree, h.nodup⟩
  bulletin := by
    show (p.bulletin.announce file).Tells (file :: handedIn entries).reverse
    rw [List.reverse_cons]
    exact h.bulletin.announce file

end Told

/-- The daybook tells how things are. -/
structure Sound (rules : DeskRules) (channel : Option Channel)
    (d : Daybook) : Prop where
  orderly : d.depot.area.Orderly
  told : Told channel d.depot.publisher d.entries
  /-- A file that is there is the current version of its path. -/
  listed : ∀ f ∈ d.depot.area.files, ∃ v,
    version? f.path.text d.entries = some v
      ∧ Desk.info rules f = v.file.listed
  /-- The number of the next upload is new. -/
  numbered : ∀ entry ∈ d.entries, ∀ n, entry.file.uploadId = some n →
    n < d.depot.uploads

namespace Sound

/-- Some of the files have gone, or none. -/
theorem kept (h : d.Sound rules channel) (ha : after.Orderly)
    (hfiles : ∀ f ∈ after.files, f ∈ d.depot.area.files) :
    Sound rules channel ⟨{ d.depot with area := after }, d.entries⟩ where
  orderly := ha
  told := h.told
  listed := fun f hf => h.listed f (hfiles f hf)
  numbered := h.numbered

/-- A file has been stored. -/
theorem stored (h : d.Sound rules channel) (ha : after.Orderly) {f : StoredFile}
    (hplaced : d.depot.area.Placed after f content)
    (hlisted : Desk.info rules f = file.listed) {uploads : Nat}
    (hle : d.depot.uploads ≤ uploads)
    (hnumber : ∀ n, file.uploadId = some n → n < uploads) :
    Sound rules channel
      ⟨⟨after, d.depot.publisher, uploads⟩, .stored file :: d.entries⟩ where
  orderly := ha
  told := ⟨h.told.heard, h.told.claimed, h.told.nodup, h.told.bulletin⟩
  listed := by
    have hpath : f.path.text = file.path := congrArg (·.path) hlisted
    intro g hg
    dsimp only at hg ⊢
    unfold version?
    rcases (hplaced.mem_files h.orderly ha).1 hg with rfl | ⟨hne, hold⟩
    · exact ⟨⟨file, []⟩, if_pos hpath.symm, hlisted⟩
    · rw [if_neg fun heq =>
        hne (StagePath.text_injective (heq.symm.trans hpath.symm))]
      exact h.listed g hold
  numbered := by
    intro entry hentry n hn
    rcases List.mem_cons.1 hentry with rfl | hold
    · exact hnumber n hn
    · exact Nat.lt_of_lt_of_le (h.numbered entry hold n hn) hle

/-- A number that is told of once more is not new. -/
theorem numbered_cons {entry : Entry} (h : d.Sound rules channel)
    (hnumber : ∀ n, entry.file.uploadId = some n → n < d.depot.uploads) :
    ∀ e ∈ entry :: d.entries, ∀ n, e.file.uploadId = some n →
      n < d.depot.uploads := by
  intro e he
  rcases List.mem_cons.1 he with rfl | hold
  · exact hnumber
  · exact h.numbered e hold

/-- A file has been handed on, or it has not. -/
theorem handOn (h : d.Sound rules channel)
    (hnumber : ∀ n, file.uploadId = some n → n < d.depot.uploads) :
    (d.handOn file).Sound rules channel := by
  have hp := d.depot.publisher.publishes file
  unfold Daybook.handOn Depot.publish
  dsimp only
  rw [Publisher.hand_eq]
  generalize d.depot.publisher.publish file = outcome at hp ⊢
  cases hp with
  | skipped => exact h
  | refused _ hchannel hwhy =>
      exact ⟨h.orderly, h.told.refused hchannel hwhy, h.listed,
        h.numbered_cons hnumber⟩
  | accepted hfree hchannel =>
      refine ⟨h.orderly, h.told.accepted hfree hchannel, fun f hf => ?_,
        h.numbered_cons hnumber⟩
      obtain ⟨v, hv, hlisted⟩ := h.listed f hf
      refine ⟨⟨v.file, file :: v.handed⟩, ?_, hlisted⟩
      dsimp only
      unfold version?
      rw [hv]
      rfl

/-- A request to store has been answered, without a number. -/
theorem keep {outcome : Answer FileInfo × StagingArea}
    (h : d.Sound rules channel)
    (hs : Desk.Stores rules d.depot.area path content outcome)
    (ha : outcome.2.Orderly) :
    (d.keep (outcome.1, { d.depot with area := outcome.2 })).Sound rules
      channel := by
  cases hs with
  | failed _ hsame =>
      exact h.kept ha fun f hf => (hsame.mem_files h.orderly ha).1 hf
  | placed _ hplaced =>
      exact h.stored ha hplaced rfl (Nat.le_refl _) nofun

/-- An upload has been answered. -/
theorem keep_uploadTo (h : d.Sound rules channel) (faults : StoreFaults)
    (path : StagePath) (content : Content) (now : Instant) :
    (d.keep (d.depot.numbered (Desk.uploadTo rules faults d.depot.area path
      content now))).Sound rules channel := by
  have hs := Desk.uploadTo_stores h.orderly rules faults path content now
  have ha := Desk.orderly_uploadTo h.orderly rules faults path content now
  generalize Desk.uploadTo rules faults d.depot.area path content now
    = outcome at hs ha ⊢
  cases hs with
  | failed _ hsame =>
      exact h.kept ha fun f hf => (hsame.mem_files h.orderly ha).1 hf
  | placed _ hplaced =>
      refine h.stored ha hplaced rfl (Nat.le_succ _) fun n hn => ?_
      cases hn
      exact Nat.lt_succ_self _

/-- Who was told of a number was told of one that is not new. -/
theorem numbered_stored (h : d.Sound rules channel) {number : Nat}
    (htold : (storedIn d.entries)[number]? = some file) :
    ∀ n, file.uploadId = some n → n < d.depot.uploads := by
  obtain ⟨entry, hentry, hfile⟩ :=
    List.mem_filterMap.1 (List.mem_of_getElem? htold)
  cases entry with
  | stored _ =>
      cases hfile
      exact h.numbered _ hentry
  | handed _ => cases hfile
  | refused _ => cases hfile

/-- Every visit is entered as it should be. -/
theorem take (h : d.Sound rules channel) (visit : Visit) :
    (d.take rules visit).Sound rules channel := by
  obtain ⟨purpose, faults, now⟩ := visit
  cases purpose with
  | create text =>
      have ha : (Desk.create rules faults d.depot.area text now).2.Orderly :=
        Order.orderly_serve h.orderly (.create text) rules faults now
      unfold Daybook.take Depot.create
      dsimp only
      cases hread : StagePath.read text with
      | error failure =>
          unfold Desk.create
          rw [hread]
          exact h
      | ok path =>
          exact h.keep (Desk.create_stores h.orderly rules faults hread now) ha
  | upload text content =>
      unfold Daybook.take Depot.upload Desk.upload
      dsimp only
      cases StagePath.read text with
      | error failure => exact h
      | ok path =>
          exact h.keep_uploadTo faults path content now
  | uploadAndPublish folder name content =>
      unfold Daybook.take
      dsimp only
      cases StagePath.inFolder folder name with
      | error failure => exact h
      | ok path =>
          have hkept := h.keep_uploadTo faults path content now
          dsimp only
          generalize d.depot.numbered (Desk.uploadTo rules faults
            d.depot.area path content now) = outcome at hkept ⊢
          rcases outcome with ⟨failure | file, depot⟩
          · exact hkept
          · exact hkept.handOn (hkept.numbered _ List.mem_cons_self)
  | delete pattern =>
      obtain ⟨ha, hfiles⟩ := Desk.kept_delete h.orderly faults pattern
      exact h.kept ha hfiles
  | publishStored number =>
      unfold Daybook.take
      dsimp only
      cases htold : (storedIn d.entries)[number]? with
      | none => exact h
      | some file => exact h.handOn (h.numbered_stored htold)
  | publishListed file => exact h.handOn nofun

end Sound

/-- The version of a path is the file that is listed at it. -/
theorem version?_of_mem {files : List StoredFile}
    (hpaths : files.Pairwise fun f g => f.path ≠ g.path) {f : StoredFile}
    (hf : f ∈ files) :
    version? f.path.text (files.map fun f => .stored (Desk.info rules f))
      = some ⟨Desk.info rules f, []⟩ := by
  induction files with
  | nil => cases hf
  | cons g rest ih =>
      obtain ⟨hg, hrest⟩ := List.pairwise_cons.1 hpaths
      rw [List.map_cons]
      unfold version?
      rcases List.mem_cons.1 hf with rfl | hf
      · exact if_pos rfl
      · have hne : g.path.text ≠ f.path.text := fun heq =>
          hg f hf (StagePath.text_injective heq)
        exact (if_neg hne).trans (ih hrest hf)

theorem sound_opened (h : area.Orderly) (rules : DeskRules)
    (channel : Option Channel) :
    (opened rules area channel).Sound rules channel := by
  have hnone {α : Type} (pick : Entry → Option α)
      (hpick : ∀ file, pick (.stored file) = none) :
      (opened rules area channel).entries.filterMap pick = [] := by
    unfold opened
    rw [List.filterMap_eq_nil_iff]
    intro entry hentry
    obtain ⟨f, -, rfl⟩ := List.mem_map.1 hentry
    exact hpick _
  have hhanded : handedIn (opened rules area channel).entries = [] :=
    hnone _ fun _ => rfl
  have hoffered : offeredIn (opened rules area channel).entries = [] :=
    hnone _ fun _ => rfl
  refine ⟨h, ⟨?_, ?_, List.nodup_nil, ?_⟩, ?_, ?_⟩
  · rw [hhanded, hoffered]
    rfl
  · rw [hhanded]
    rfl
  · rw [hhanded]
    exact Bulletin.tells_empty
  · exact fun f hf => ⟨_, version?_of_mem h.nodup_files hf, rfl⟩
  · intro entry hentry n hn
    obtain ⟨f, -, rfl⟩ := List.mem_map.1 hentry
    cases hn

theorem sound_play (h : area.Orderly) (rules : DeskRules)
    (channel : Option Channel) (visits : List Visit) :
    ((opened rules area channel).play rules visits).Sound rules channel :=
  Turns.keeps (fun _ visit hs => hs.take visit) (sound_opened h rules channel)
    visits

/-- Whatever clients come for and whatever fails: no key is handed on twice;
a version is handed on once at most exactly if it is not by both of its
names; every listing tells of the current versions; and the subscriber has
been told of what was handed on, in order and once of each. -/
theorem handedOnce_iff_undoubled (h : area.Orderly) (rules : DeskRules)
    (channel : Option Channel) (visits : List Visit) :
    let d := (opened rules area channel).play rules visits
    (∀ path v, version? path d.entries = some v →
        v.keys.Nodup ∧ (v.times ≤ 1 ↔ ¬v.Doubled))
      ∧ (∀ faults offset limit window total,
          Desk.list rules faults d.depot.area offset limit
              = .ok (window, total) →
          ∀ file ∈ window, ∃ v, version? file.path d.entries = some v
            ∧ file = v.file.listed)
      ∧ Publisher.heard channel (offeredIn d.entries)
          = (d.depot.publisher.channel, handedIn d.entries)
      ∧ d.depot.publisher.bulletin.Tells (handedIn d.entries).reverse := by
  intro d
  have hd : d.Sound rules channel := sound_play h rules channel visits
  refine ⟨?_, ?_, hd.told.heard, hd.told.bulletin⟩
  · intro path v hv
    have hkeys : v.keys.Nodup := by
      refine List.Sublist.nodup ((handed_sublist hv).map _) ?_
      rw [← hd.told.claimed]
      exact hd.told.nodup
    exact ⟨hkeys, Version.times_le_one_iff hkeys⟩
  · intro faults offset limit window total hlist file hfile
    unfold Desk.list at hlist
    split at hlist
    · cases hlist
    · rename_i files hfiles
      cases hlist
      rw [StagingArea.files_of_list hfiles] at hfile
      obtain ⟨f, hf, rfl⟩ := List.mem_map.1 hfile
      exact hd.listed f (List.mem_of_mem_drop (List.mem_of_mem_take hf))

/-- Two uploads to one path at one moment are two versions: both are handed
on, and the later one once. -/
theorem overwritten_handedOnce :
    let rules : DeskRules := { allowOverwrite := true, shortPathRoot := "" }
    let file (number : Nat) : FileInfo :=
      { FileInfo.ofFile "in/a" "1970-01-01T00:00:00.000Z" true "" with
        uploadId := some number }
    let upload (content : String) : Visit :=
      ⟨.uploadAndPublish "in" "a" (.whole (octetsOf content)), .none, ⟨0, 0⟩⟩
    let d := (opened rules .fresh (some .log)).play rules
      [upload "one", upload "two"]
    let v : Version := ⟨file 1, [file 1]⟩
    StagingArea.fresh.Orderly ∧ handedIn d.entries = [file 1, file 0]
      ∧ version? "in/a" d.entries = some v ∧ ¬v.Doubled := by
  intro rules file upload d v
  have hd := handedOnce_iff_undoubled (StagingArea.orderly_fresh .usual) rules
    (some .log) [upload "one", upload "two"]
  have hv : version? "in/a" d.entries = some v := by decide +kernel
  have htimes : v.times = 1 := by decide
  exact ⟨StagingArea.orderly_fresh .usual, by decide +kernel, hv,
    (hd.1 _ v hv).2.1 htimes.le⟩

/-- A file is uploaded and handed on; what a listing then tells of it is
handed on as well, and so the one version a second time. -/
theorem listedToo_doubled :
    let rules : DeskRules := { allowOverwrite := true, shortPathRoot := "" }
    let listed := FileInfo.ofFile "in/a" "1970-01-01T00:00:00.000Z" true ""
    let file : FileInfo := { listed with uploadId := some 0 }
    let upload : Visit :=
      ⟨.uploadAndPublish "in" "a" (.whole (octetsOf "one")), .none, ⟨0, 0⟩⟩
    let d := (opened rules .fresh (some .log)).play rules [upload]
    let d' := d.take rules ⟨.publishListed listed, .none, ⟨0, 0⟩⟩
    let v : Version := ⟨file, [listed, file]⟩
    d.depot.area.files.map (Desk.info rules) = [listed]
      ∧ version? "in/a" d'.entries = some v ∧ v.Doubled ∧ v.times = 2 := by
  intro rules listed file upload d d' v
  have hlisted : d.depot.area.files.map (Desk.info rules) = [listed] := by
    decide +kernel
  have hv : version? "in/a" d'.entries = some v := by decide +kernel
  have hdoubled : v.Doubled := ⟨by decide, by decide⟩
  exact ⟨hlisted, hv, hdoubled, by decide⟩

end Daybook

end BatchAdmin
