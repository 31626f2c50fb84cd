/-
Uploads are all or nothing, but for one way to lose a link.

What an upload makes of the area is told of every regular file, in the
area or elsewhere, and for any content of the area, links included, wherever
they lead: it is granted, and then its file is where its path leads and
nothing else has changed; or it fails, and then nothing has. One kind of
path is an exception. A commit moves the draft first and looks for the file
then, and what has been moved stays moved. Where the path leads through
the very link that the draft takes the place of (`Severs`), the file is not
found any more, and an upload fails that has stored its file.

`allOrNothing_iff_unsevered`: uploads are all or nothing, whatever the
store makes fail and wherever the content breaks off, exactly if this does
not happen; and each answer is given exactly when it should be (`Told`).
-/
import BatchAdmin.Staging.Desk
import BatchAdmin.Proofs.Staging.Drafts

namespace BatchAdmin

open Text

-- ============================================================= the contents

namespace Content

/-- What a file is to hold in the end. -/
def octets (content : Content) : List Octet := content.chunks.flatten

/-- How many writes the chunks take: empty ones take none. -/
def writes (content : Content) : Nat :=
  (content.chunks.filter fun chunk => !chunk.isEmpty).length

theorem octets_eq_nil {content : Content} :
    content.octets = [] ↔ content.chunks.all (·.isEmpty) = true := by
  simp [octets, List.flatten_eq_nil_iff]

/-- The content arrives to its end, and no call that stores it is made to
fail. -/
structure Unhindered (content : Content) (faults : StoreFaults) : Prop where
  arrives : content.broken = false
  stage : faults.fails .stage = false
  write : ∀ n < content.writes, faults.fails (.write n) = false
  commit : faults.fails .commit = false

end Content

namespace Desk

open StagingArea

variable {rules : DeskRules} {faults : StoreFaults} {area base : StagingArea}
  {path : StagePath} {content : Content} {now : Instant} {draft : Draft}
  {target : String}

-- ============================================================== the writing

/-- A draft gets all chunks if none of their writes is made to fail. -/
theorem fill_of_writes (chunks : List (List Octet)) (earlier : Nat)
    (held : List Octet)
    (h : ∀ n < (chunks.filter fun chunk => !chunk.isEmpty).length,
      faults.fails (.write (earlier + n)) = false) :
    fill faults (base.holding draft held now) draft now earlier chunks
      = (.ok (), base.holding draft (held ++ chunks.flatten) now) := by
  induction chunks generalizing earlier held with
  | nil => rw [fill, List.flatten_nil, List.append_nil]
  | cons chunk rest ih =>
      rw [fill, List.flatten_cons, ← List.append_assoc]
      cases chunk with
      | nil =>
          rw [if_pos List.isEmpty_nil, List.append_nil]
          exact ih earlier held h
      | cons octet more =>
          rw [List.filter_cons_of_pos rfl, List.length_cons] at h
          have hfirst : faults.fails (.write earlier) = false :=
            h 0 (Nat.succ_pos _)
          rw [if_neg (by simp), write_holding _ hfirst]
          refine ih (earlier + 1) (held ++ octet :: more) fun n hn => ?_
          rw [Nat.add_right_comm]
          exact h (n + 1) (Nat.succ_lt_succ hn)

/-- A draft is discarded at the first write that fails. -/
theorem fill_of_fails (chunks : List (List Octet)) (earlier : Nat)
    (held : List Octet)
    (h : ∃ n < (chunks.filter fun chunk => !chunk.isEmpty).length,
      faults.fails (.write (earlier + n)) = true) :
    fill faults (base.holding draft held now) draft now earlier chunks
      = (.error .unavailable, base.discard draft) := by
  induction chunks generalizing earlier held with
  | nil =>
      obtain ⟨n, hn, -⟩ := h
      exact absurd hn (Nat.not_lt_zero n)
  | cons chunk rest ih =>
      rw [fill]
      cases chunk with
      | nil =>
          rw [if_pos List.isEmpty_nil]
          exact ih earlier held h
      | cons octet more =>
          rw [if_neg (by simp)]
          cases hw : faults.fails (.write earlier) with
          | true => rw [write_of_fails hw, discard_holding]
          | false =>
              rw [write_holding _ hw]
              refine ih (earlier + 1) (held ++ octet :: more) ?_
              -- The write that fails is not the first, and so is a later one.
              obtain ⟨n, hn, hfails⟩ := h
              rw [List.filter_cons_of_pos rfl, List.length_cons] at hn
              cases n with
              | zero =>
                  rw [Nat.add_zero, hw] at hfails
                  cases hfails
              | succ n =>
                  refine ⟨n, Nat.lt_of_succ_lt_succ hn, ?_⟩
                  rw [Nat.add_right_comm]
                  exact hfails

-- ============================================================= the transfers

/-- The answer tells that an upload has broken off. -/
def Broken {α : Type} (answer : Answer α) : Prop :=
  ∃ name detail, answer = .error (.upload (.transfer name detail))

/-- How the content of an upload is stored that brings something. -/
inductive Course (faults : StoreFaults) (area : StagingArea)
    (path : StagePath) (content : Content) (now : Instant) :
    Answer StoredFile × StagingArea → Prop
  | granted {stored : StoredFile} {after : StagingArea} {loc : Location}
      (h : content.Unhindered faults) (hr : area.Receives path now)
      (hs : ¬area.Severs path now)
      (hstored : area.StoredAt after path content.octets loc) :
      Course faults area path content now (.ok stored, after)
  | severed {answer : Answer StoredFile} {after : StagingArea}
      (hbroken : Broken answer)
      (h : content.Unhindered faults) (hr : ¬area.Receives path now)
      (hs : area.Severs path now) (hother : ¬area.SameFiles after) :
      Course faults area path content now (answer, after)
  | failed {answer : Answer StoredFile} {after : StagingArea}
      (hbroken : Broken answer)
      (hr : ¬(content.Unhindered faults ∧ area.Receives path now))
      (hs : ¬(content.Unhindered faults ∧ area.Severs path now))
      (hsame : area.SameFiles after) :
      Course faults area path content now (answer, after)

/-- A transfer that is hindered and leaves all files as they were. -/
theorem Course.hindered {answer : Answer StoredFile} {after : StagingArea}
    (h : ¬content.Unhindered faults) (hbroken : Broken answer)
    (hsame : area.SameFiles after) :
    Course faults area path content now (answer, after) :=
  .failed hbroken (fun hr => h hr.1) (fun hs => h hs.1) hsame

theorem broken_transfer {α : Type} (path : StagePath) (fault : DiskFault) :
    Broken (α := α) (.error (transferFailure path fault)) := ⟨_, _, rfl⟩

theorem broken_brokenOff {α : Type} (path : StagePath) :
    Broken (α := α) (.error (brokenOff path)) := ⟨_, _, rfl⟩

/-- A draft with everything in it is committed. -/
theorem Course.committed (hfree : content.Unhindered faults)
    (hopening : area.Opening base path draft)
    (hopen : area.stage .none path now
      = (.ok draft, base.holding draft [] now)) :
    Course faults area path content now
      (match (base.holding draft content.octets now).commit faults draft with
        | (.error fault, area) =>
            (.error (transferFailure path fault), area.discard draft)
        | (.ok stored, area) => (.ok stored, area)) := by
  cases hopening.ends hopen with
  | barred hr hs h =>
      obtain ⟨fault, hfault⟩ := h content.octets faults hfree.commit
      rw [hfault]
      dsimp only
      rw [discard_holding]
      exact .failed (broken_transfer _ _) (fun h => hr h.2)
        (fun h => hs h.2) hopening.discard
  | stored loc hr hs h =>
      obtain ⟨stored, hstored, hat⟩ := h content.octets faults hfree.commit
      rw [hstored]
      exact .granted hfree hr hs hat
  | severed loc hr hs hfile hdraft h =>
      obtain ⟨fault, hfault⟩ := h content.octets faults hfree.commit
      rw [hfault]
      refine .severed (broken_transfer _ _) hfree hr hs fun hsame => ?_
      have hlook : ((base.settled draft loc content.octets now).discard
          draft).disk.look loc = some (.file content.octets now) := by
        unfold StagingArea.discard settled Disk.moved
        rw [Disk.look_unset, if_neg hdraft, Disk.look_set_self]
      have hlost := (hsame loc).trans hfile
      unfold Disk.file? at hlost
      rw [hlook] at hlost
      cases hlost

/-- Once a draft has been opened, it is committed with everything in it, or
it is discarded. -/
theorem Course.opened (hoctets : content.octets ≠ [])
    (hstage : faults.fails .stage = false)
    (hopening : area.Opening base path draft)
    (hopen : area.stage .none path now
      = (.ok draft, base.holding draft [] now)) :
    Course faults area path content now
      (transfer faults area path content now) := by
  have hsome : ¬content.chunks.all (·.isEmpty) = true := by
    rwa [← Content.octets_eq_nil]
  unfold transfer
  rw [if_neg hsome, stage_eq_none hstage, hopen]
  dsimp only
  by_cases hwrites : ∀ n < content.writes, faults.fails (.write n) = false
  · rw [fill_of_writes content.chunks 0 []
      (by simpa [Content.writes] using hwrites)]
    dsimp only
    rw [List.nil_append]
    cases hbroken : content.broken with
    | true =>
        rw [if_pos rfl, discard_holding]
        refine .hindered (fun h => ?_) (broken_brokenOff _) hopening.discard
        rw [h.arrives] at hbroken
        cases hbroken
    | false =>
        rw [if_neg (by simp)]
        cases hcommit : faults.fails .commit with
        | true =>
            rw [commit_of_fails hcommit]
            dsimp only
            rw [discard_holding]
            refine .hindered (fun h => ?_) (broken_transfer _ _)
              hopening.discard
            rw [h.commit] at hcommit
            cases hcommit
        | false =>
            exact .committed ⟨hbroken, hstage, hwrites, hcommit⟩ hopening hopen
  · rw [fill_of_fails content.chunks 0 []
      (by simpa [Content.writes] using hwrites)]
    exact .hindered (fun h => hwrites h.write) (broken_transfer _ _)
      hopening.discard

theorem transfer_course (hfresh : area.Fresh)
    (hoctets : content.octets ≠ []) :
    Course faults area path content now
      (transfer faults area path content now) := by
  have hsome : ¬content.chunks.all (·.isEmpty) = true := by
    rwa [← Content.octets_eq_nil]
  cases hstage : faults.fails .stage with
  | true =>
      unfold transfer
      rw [if_neg hsome, stage_of_fails hstage]
      refine .hindered (fun h => ?_) (broken_transfer _ _) fun _ => rfl
      rw [h.stage] at hstage
      cases hstage
  | false =>
      rcases stage_cases hfresh path now with
        ⟨fault, after, hopen, hsame⟩ | ⟨draft, base, hopen, hopening⟩
      · unfold transfer
        rw [if_neg hsome, stage_eq_none hstage, hopen]
        refine .failed (broken_transfer _ _) ?_ ?_ hsame
        · rintro ⟨-, draft, staged, stored, hstaged, -⟩
          cases hopen.symm.trans hstaged
        · rintro ⟨-, draft, staged, disk, fault', hstaged, -⟩
          cases hopen.symm.trans hstaged
      · exact .opened hoctets hstage hopening hopen

-- ================================================================ the checks

/-- Overwriting is refused, and there is a file at the path. -/
def Taken (rules : DeskRules) (faults : StoreFaults) (area : StagingArea)
    (path : StagePath) : Prop :=
  rules.allowOverwrite = false ∧ faults.fails .stat = false
    ∧ (area.contentAt? path).isSome = true

/-- Overwriting is refused, and it cannot be told what is at the path. -/
def Untold (rules : DeskRules) (faults : StoreFaults) (area : StagingArea)
    (path : StagePath) : Prop :=
  rules.allowOverwrite = false ∧ ∃ fault, area.stat faults path = .error fault

/-- What the overwrite check can come to. -/
inductive Checked (rules : DeskRules) (faults : StoreFaults)
    (area : StagingArea) (path : StagePath) : Answer Unit → Prop
  | cleared (ht : ¬Taken rules faults area path)
      (hu : ¬Untold rules faults area path) :
      Checked rules faults area path (.ok ())
  | taken (ht : Taken rules faults area path)
      (hu : ¬Untold rules faults area path) :
      Checked rules faults area path (.error (.pathConflict path.text))
  | untold {detail : String} (ht : ¬Taken rules faults area path)
      (hu : Untold rules faults area path) :
      Checked rules faults area path (.error (.store detail))

/-- What looking at a path tells of the file there. -/
theorem stat_cases (area : StagingArea) (faults : StoreFaults)
    (path : StagePath) :
    (∃ stored, area.stat faults path = .ok (some stored)
        ∧ faults.fails .stat = false ∧ (area.contentAt? path).isSome = true)
      ∨ area.stat faults path = .ok none ∧ area.contentAt? path = none
      ∨ ∃ fault, area.stat faults path = .error fault
        ∧ (faults.fails .stat = true ∨ area.contentAt? path = none) := by
  unfold StagingArea.stat StagingArea.guard contentAt?
  cases faults.fails .stat with
  | true => exact .inr (.inr ⟨_, rfl, .inl rfl⟩)
  | false =>
      cases area.disk.find true path.names with
      | error fault =>
          cases fault with
          | notFound => exact .inr (.inl ⟨rfl, rfl⟩)
          | _ => exact .inr (.inr ⟨_, rfl, .inr rfl⟩)
      | ok place =>
          cases place with
          | found loc e =>
              cases e with
              | file content modified => exact .inl ⟨_, rfl, rfl, rfl⟩
              | _ => exact .inr (.inl ⟨rfl, rfl⟩)
          | _ => exact .inr (.inl ⟨rfl, rfl⟩)

theorem checkOverwrite_checked (rules : DeskRules) (faults : StoreFaults)
    (area : StagingArea) (path : StagePath) :
    Checked rules faults area path
      (checkOverwrite rules faults area path) := by
  unfold checkOverwrite
  cases hrules : rules.allowOverwrite with
  | true => exact .cleared (by simp [Taken, hrules]) (by simp [Untold, hrules])
  | false =>
      rw [if_neg (by simp)]
      rcases stat_cases area faults path with
        ⟨stored, hstat, hfails, hfile⟩ | ⟨hstat, hnone⟩
          | ⟨fault, hstat, hwhy⟩
      · rw [hstat]
        exact .taken ⟨hrules, hfails, hfile⟩ (by simp [Untold, hstat])
      · rw [hstat]
        exact .cleared (by simp [Taken, hnone]) (by simp [Untold, hstat])
      · rw [hstat]
        refine .untold ?_ ⟨hrules, fault, hstat⟩
        rintro ⟨-, hfails, hfile⟩
        rcases hwhy with hwhy | hwhy
        · rw [hfails] at hwhy
          cases hwhy
        · rw [hwhy] at hfile
          cases hfile

-- =============================================================== the uploads

/-- The path that is meant may be stored at. -/
def Cleared (rules : DeskRules) (faults : StoreFaults) (area : StagingArea)
    (target : String) (path : StagePath) : Prop :=
  StagePath.read target = .ok path ∧ ¬Taken rules faults area path
    ∧ ¬Untold rules faults area path

/-- An upload that is granted has stored its file and changed no other; one
that fails has changed none. -/
inductive AllOrNothing (before : StagingArea) (target : String)
    (content : Content) : Answer FileInfo × StagingArea → Prop
  | all {info : FileInfo} {after : StagingArea} {path : StagePath}
      {loc : Location} (hpath : StagePath.read target = .ok path)
      (h : before.StoredAt after path content.octets loc) :
      AllOrNothing before target content (.ok info, after)
  | nothing {failure : Failure} {after : StagingArea}
      (h : before.SameFiles after) :
      AllOrNothing before target content (.error failure, after)

theorem AllOrNothing.same {before : StagingArea}
    {outcome : Answer FileInfo × StagingArea} {failure : Failure}
    (h : AllOrNothing before target content outcome)
    (hfailure : outcome.1 = .error failure) : before.SameFiles outcome.2 := by
  cases h with
  | all _ _ => cases hfailure
  | nothing hsame => exact hsame

/-- When which answer is given. -/
structure Told (rules : DeskRules) (faults : StoreFaults)
    (area : StagingArea) (target : String) (content : Content)
    (now : Instant) (outcome : Answer FileInfo × StagingArea) : Prop where
  unread : (∃ detail, outcome.1 = .error (.invalidPath detail))
    ↔ ∀ path, StagePath.read target ≠ .ok path
  taken : (∃ text, outcome.1 = .error (.pathConflict text))
    ↔ ∃ path, StagePath.read target = .ok path ∧ Taken rules faults area path
  untold : (∃ detail, outcome.1 = .error (.store detail))
    ↔ ∃ path, StagePath.read target = .ok path ∧ Untold rules faults area path
  empty : (∃ name, outcome.1 = .error (.upload (.empty name)))
    ↔ ∃ path, Cleared rules faults area target path
      ∧ content.octets = [] ∧ content.broken = false
  /-- Empty content does not even make a folder. -/
  traceless : content.octets = [] → outcome.2 = area
  broken : Broken outcome.1
    ↔ ∃ path, Cleared rules faults area target path
      ∧ (content.octets = [] ∧ content.broken = true
        ∨ content.octets ≠ []
          ∧ ¬(content.Unhindered faults ∧ area.Receives path now))
  granted : (∃ info, outcome.1 = .ok info)
    ↔ ∃ path, Cleared rules faults area target path
      ∧ content.octets ≠ [] ∧ content.Unhindered faults
      ∧ area.Receives path now

/-- What an upload can come to. -/
inductive Outcome (rules : DeskRules) (faults : StoreFaults)
    (area : StagingArea) (target : String) (content : Content)
    (now : Instant) : Answer FileInfo × StagingArea → Prop
  | unread {detail : String} (h : ∀ path, StagePath.read target ≠ .ok path) :
      Outcome rules faults area target content now
        (.error (.invalidPath detail), area)
  | taken {path : StagePath} (hread : StagePath.read target = .ok path)
      (ht : Taken rules faults area path)
      (hu : ¬Untold rules faults area path) :
      Outcome rules faults area target content now
        (.error (.pathConflict path.text), area)
  | untold {path : StagePath} {detail : String}
      (hread : StagePath.read target = .ok path)
      (ht : ¬Taken rules faults area path)
      (hu : Untold rules faults area path) :
      Outcome rules faults area target content now
        (.error (.store detail), area)
  | fruitless {path : StagePath} (h : Cleared rules faults area target path)
      (ho : content.octets = []) :
      Outcome rules faults area target content now
        (.error (fruitless path content), area)
  | transferred {path : StagePath} {outcome : Answer StoredFile × StagingArea}
      (h : Cleared rules faults area target path)
      (ho : content.octets ≠ [])
      (hcourse : Course faults area path content now outcome) :
      Outcome rules faults area target content now
        (outcome.1.map (info rules), outcome.2)

/-- Only what is wrong with a path makes it unreadable. -/
theorem read_error {failure : Failure}
    (h : StagePath.read target = .error failure) :
    ∃ detail, failure = .invalidPath detail := by
  unfold StagePath.read at h
  split at h
  · cases h
  · cases h
    exact ⟨_, rfl⟩

theorem upload_outcome (hfresh : area.Fresh) :
    Outcome rules faults area target content now
      (upload rules faults area target content now) := by
  unfold upload uploadTo
  cases hread : StagePath.read target with
  | error failure =>
      obtain ⟨detail, rfl⟩ := read_error hread
      refine .unread fun path hpath => ?_
      cases hread.symm.trans hpath
  | ok path =>
      dsimp only
      have hchecked := checkOverwrite_checked rules faults area path
      generalize checkOverwrite rules faults area path = check at hchecked
      cases hchecked with
      | taken ht hu => exact .taken hread ht hu
      | untold ht hu => exact .untold hread ht hu
      | cleared ht hu =>
          have hcleared : Cleared rules faults area target path :=
            ⟨hread, ht, hu⟩
          dsimp only
          by_cases ho : content.octets = []
          · have hnone := Content.octets_eq_nil.1 ho
            unfold transfer
            rw [if_pos hnone]
            exact .fruitless hcleared ho
          · have hcourse : Course faults area path content now
                (transfer faults area path content now) :=
              transfer_course hfresh ho
            generalize transfer faults area path content now = outcome
              at hcourse
            have h : Outcome rules faults area target content now
                (outcome.1.map (info rules), outcome.2) :=
              .transferred hcleared ho hcourse
            obtain ⟨_ | _, after⟩ := outcome
            · exact h
            · exact h

theorem Cleared.iff (h : Cleared rules faults area target path)
    (path' : StagePath) :
    Cleared rules faults area target path' ↔ path' = path := by
  constructor
  · intro h'
    cases h.1.symm.trans h'.1
    rfl
  · rintro rfl
    exact h

/-- Each answer is given exactly when it should be. -/
theorem Outcome.told {outcome : Answer FileInfo × StagingArea}
    (h : Outcome rules faults area target content now outcome) :
    Told rules faults area target content now outcome := by
  cases h with
  | unread h =>
      have hnone (path : StagePath) :
          ¬Cleared rules faults area target path := fun hc => h path hc.1
      constructor <;> simp [Broken, h, hnone]
  | @taken path hread ht hu =>
      have hnone (path' : StagePath) :
          ¬Cleared rules faults area target path' := by
        rintro ⟨hread', ht', -⟩
        cases hread.symm.trans hread'
        exact ht' ht
      constructor <;> simp [Broken, hread, ht, hu, hnone]
  | @untold path detail hread ht hu =>
      have hnone (path' : StagePath) :
          ¬Cleared rules faults area target path' := by
        rintro ⟨hread', -, hu'⟩
        cases hread.symm.trans hread'
        exact hu' hu
      constructor <;> simp [Broken, hread, ht, hu, hnone]
  | @fruitless path h ho =>
      have hc := h.iff
      unfold Desk.fruitless brokenOff
      cases hb : content.broken with
      | false => constructor <;> simp [Broken, h.1, h.2.1, h.2.2, hc, ho, hb]
      | true => constructor <;> simp [Broken, h.1, h.2.1, h.2.2, hc, ho, hb]
  | @transferred path outcome h ho hcourse =>
      have hc := h.iff
      cases hcourse with
      | granted hf hr hs hstored =>
          constructor <;>
            simp [Broken, Except.map, h.1, h.2.1, h.2.2, hc, ho, hf, hr]
      | severed hbroken hf hr hs hother =>
          obtain ⟨name, detail, rfl⟩ := hbroken
          constructor <;>
            simp [Broken, Except.map, h.1, h.2.1, h.2.2, hc, ho, hf, hr]
      | failed hbroken hr hs hsame =>
          obtain ⟨name, detail, rfl⟩ := hbroken
          rcases not_and_or.1 hr with hno | hno
          · constructor <;>
              simp [Broken, Except.map, h.1, h.2.1, h.2.2, hc, ho, hno]
          · constructor <;>
              simp [Broken, Except.map, h.1, h.2.1, h.2.2, hc, ho, hno]

theorem Outcome.allOrNothing_iff {outcome : Answer FileInfo × StagingArea}
    (h : Outcome rules faults area target content now outcome) :
    AllOrNothing area target content outcome
      ↔ ¬∃ path, Cleared rules faults area target path ∧ content.octets ≠ []
          ∧ content.Unhindered faults ∧ area.Severs path now := by
  cases h with
  | unread h =>
      refine iff_of_true (.nothing fun _ => rfl) ?_
      rintro ⟨path, hc, -⟩
      exact h path hc.1
  | taken hread ht hu =>
      refine iff_of_true (.nothing fun _ => rfl) ?_
      rintro ⟨path', ⟨hread', ht', -⟩, -⟩
      cases hread.symm.trans hread'
      exact ht' ht
  | untold hread ht hu =>
      refine iff_of_true (.nothing fun _ => rfl) ?_
      rintro ⟨path', ⟨hread', -, hu'⟩, -⟩
      cases hread.symm.trans hread'
      exact hu' hu
  | fruitless h ho =>
      refine iff_of_true (.nothing fun _ => rfl) ?_
      rintro ⟨path', -, ho', -⟩
      exact ho' ho
  | @transferred path outcome h ho hcourse =>
      have hsevers : (∃ path', Cleared rules faults area target path'
          ∧ content.octets ≠ [] ∧ content.Unhindered faults
          ∧ area.Severs path' now)
            ↔ content.Unhindered faults ∧ area.Severs path now := by
        simp [h.iff, ho]
      rw [hsevers]
      cases hcourse with
      | granted hf hr hs hstored =>
          exact iff_of_true (.all h.1 hstored) fun hs' => hs hs'.2
      | severed hbroken hf hr hs hother =>
          obtain ⟨name, detail, rfl⟩ := hbroken
          refine iff_of_false ?_ fun hs' => hs' ⟨hf, hs⟩
          intro hall
          cases hall with
          | nothing hsame => exact hother hsame
      | failed hbroken hr hs hsame =>
          obtain ⟨name, detail, rfl⟩ := hbroken
          exact iff_of_true (.nothing hsame) hs

/-- Without links an upload is always all or nothing. -/
theorem allOrNothing_of_unlinked (hfresh : area.Fresh)
    (hlinks : ∀ loc target, area.disk.look loc ≠ some (.link target)) :
    AllOrNothing area target content
      (upload rules faults area target content now) := by
  refine (upload_outcome hfresh).allOrNothing_iff.2 ?_
  rintro ⟨path, -, -, -, hsevers⟩
  obtain ⟨loc, link, hlink, -⟩ := hsevers.link hfresh
  exact hlinks loc link hlink

/-- Whatever the area holds, the rules are and the store makes fail, and
however the content arrives: an upload stores its file and changes no
other, or it fails and changes none, exactly if it does not get to move a
draft to where its path does not find it any more. And each answer is given
exactly when it should be. -/
theorem allOrNothing_iff_unsevered (hfresh : area.Fresh) (rules : DeskRules)
    (faults : StoreFaults) (target : String) (content : Content)
    (now : Instant) :
    (AllOrNothing area target content
        (upload rules faults area target content now)
      ↔ ¬∃ path, Cleared rules faults area target path ∧ content.octets ≠ []
          ∧ content.Unhindered faults ∧ area.Severs path now)
      ∧ Told rules faults area target content now
          (upload rules faults area target content now) :=
  ⟨(upload_outcome hfresh).allOrNothing_iff, (upload_outcome hfresh).told⟩

/-- The root of an area, with a link in it. -/
def linked (target : String) : StagingArea :=
  { disk := Disk.fresh.put ["x"] (.link target), drafts := 0 }

/-- The link leads back to the root. -/
def looped : StagingArea := linked "."

theorem fresh_looped : looped.Fresh :=
  StagingArea.fresh_of_unnamed (by decide) (by decide)

/-- An upload through the link, to another name, is granted. -/
theorem besideLink_granted :
    let rules : DeskRules := { allowOverwrite := false, shortPathRoot := "" }
    let content : Content := .whole (octetsOf "new")
    looped.Fresh
      ∧ (∃ path, Cleared rules .none looped "x/y" path ∧ content.octets ≠ []
          ∧ content.Unhindered .none ∧ looped.Receives path ⟨0, 0⟩) :=
  ⟨fresh_looped,
    (allOrNothing_iff_unsevered fresh_looped _ .none "x/y" _ ⟨0, 0⟩).2.granted.1
      ⟨_, rfl⟩⟩

/-- An upload through the link, to its own name, fails, and yet its file
has taken the place of the link. -/
theorem throughLink_severs :
    let rules : DeskRules := { allowOverwrite := false, shortPathRoot := "" }
    let outcome :=
      upload rules .none looped "x/x" (.whole (octetsOf "new")) ⟨0, 0⟩
    outcome.1 = .error (.upload (.transfer "x" "not a folder"))
      ∧ looped.disk.file? ["x"] = none
      ∧ outcome.2.disk.file? ["x"] = some (octetsOf "new", ⟨0, 0⟩)
      ∧ ¬AllOrNothing looped "x/x" (.whole (octetsOf "new")) outcome := by
  intro rules outcome
  have hanswer : outcome.1 = .error (.upload (.transfer "x" "not a folder")) :=
    rfl
  have hbefore : looped.disk.file? ["x"] = none := by decide
  have hafter : outcome.2.disk.file? ["x"]
      = some (octetsOf "new", ⟨0, 0⟩) := by decide
  refine ⟨hanswer, hbefore, hafter, fun hall => ?_⟩
  have hsame := hall.same hanswer ["x"]
  rw [hafter, hbefore] at hsame
  cases hsame

-- The same happens where the link names the root from the top of the file
-- system.
example :
    let outcome := upload { allowOverwrite := true, shortPathRoot := "" } .none
      (linked "/tmp/.tmp000000/staging") "x/x" (.whole (octetsOf "new")) ⟨0, 0⟩
    outcome.1.toBool = false
      ∧ outcome.2.disk.file? ["x"] = some (octetsOf "new", ⟨0, 0⟩) := by
  decide +kernel

-- A link out of the area is followed, and the file is stored there.
example :
    let outcome := upload { allowOverwrite := true, shortPathRoot := "" } .none
      (linked "/tmp") "x/y" (.whole (octetsOf "new")) ⟨0, 0⟩
    outcome.1.toBool = true
      ∧ outcome.2.disk.file? ["/", "tmp", "y"]
        = some (octetsOf "new", ⟨0, 0⟩) := by
  decide +kernel

end Desk

end BatchAdmin
