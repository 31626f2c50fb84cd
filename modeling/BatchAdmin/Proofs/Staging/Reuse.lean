/-
Paths that can be used again.

A listing shows files only, but an area has folders too: every file that is
created and every upload that brings something leaves the folders on its
way, whether it succeeds or not, and nothing ever takes a folder away. So a
path can be used again once the files above it are gone, unless a request
has gone through it (`Trodden`): then there is a folder in the way, which no
delete removes and no listing shows. `storable_iff_untrodden` says
that there is nothing else to it, over every history of requests.
-/
import BatchAdmin.Proofs.Staging.FaultFree
import BatchAdmin.Proofs.Staging.Outcomes

namespace BatchAdmin

open Text StagingArea

-- ================================================================= the paths

namespace StagePath

variable {p q : StagePath}

/-- The way to the other path leads through this one. -/
def Above (p q : StagePath) : Prop := p.pieces <+: q.pieces ∧ p ≠ q

theorem names_prefix_iff : p.names <+: q.names ↔ p.pieces <+: q.pieces :=
  List.prefix_map_iff_of_injective fun _ _ => String.ofList_injective

theorem above_iff : p.Above q ↔ p.names <+: q.names.dropLast := by
  unfold Above
  rw [← names_prefix_iff]
  constructor
  · rintro ⟨⟨rest, hrest⟩, hne⟩
    have hmore : rest ≠ [] := by
      rintro rfl
      exact hne (names_injective (by rwa [List.append_nil] at hrest))
    rw [← hrest, List.dropLast_append_of_ne_nil hmore]
    exact List.prefix_append _ _
  · intro hpre
    refine ⟨hpre.trans (List.dropLast_prefix _), ?_⟩
    rintro rfl
    have hlonger := hpre.length_le
    have hpos := List.length_pos_iff.2 p.names_ne_nil
    rw [List.length_dropLast] at hlonger
    omega

theorem names_prefix_iff_above : p.names <+: q.names ↔ p = q ∨ p.Above q := by
  rw [names_prefix_iff]
  unfold Above
  by_cases hpq : p = q
  · subst hpq
    exact iff_of_true List.prefix_rfl (.inl rfl)
  · simp [hpq]

end StagePath

/-- On the way to a path there can be files only that are listed. -/
theorem StagingArea.Orderly.unfiled_iff {area : StagingArea}
    {path : StagePath} (h : area.Orderly) {names : List String}
    (hnames : names <+: path.names) :
    area.disk.Unfiled [] names
      ↔ ∀ f ∈ area.files, ¬ f.path.names <+: names := by
  constructor
  · intro hway f hf hpre
    obtain ⟨content, he, -⟩ := h.mem_files.1 hf
    exact hway _ hpre _ _ he
  · intro hfiles more hmore content time he
    rcases h.addressed he with hl | ⟨other, hother, -⟩
    · exact hl.not_prefix path (hmore.trans hnames)
    · refine hfiles ⟨other, time, content.length⟩ ?_ (hother ▸ hmore)
      exact h.mem_files.2 ⟨content, hother ▸ he, rfl⟩

-- =============================================================== the requests

variable {home : StagingRoot} {root : String} {area : StagingArea}
  {path : StagePath} {now : Instant}

/-- The rules that allow overwriting. -/
def DeskRules.lenient (root : String) : DeskRules := ⟨true, root⟩

namespace Desk

variable {content : Content}

/-- Where overwriting is allowed nothing is looked into. -/
theorem cleared_iff {target : String} :
    Cleared (.lenient root) .none area target path
      ↔ StagePath.read target = .ok path := by
  simp [Cleared, Taken, Untold, DeskRules.lenient]

end Desk

-- =============================================================== the histories

/-- What clients do at the desk. -/
inductive Chore where
  /-- To have something stored, at a moment. -/
  | store (order : Order) (now : Instant)
  | delete (pattern : String)

namespace Chore

/-- The area after a chore, if overwriting is allowed and nothing is made to
fail. -/
def done (root : String) (area : StagingArea) : Chore → StagingArea
  | .store order now => (order.serve (.lenient root) .none area now).2
  | .delete pattern => (Desk.delete .none area pattern).2

/-- The chore asks for folders on the way to a path: a file is to be stored
there, and if it is uploaded, there is something to store. -/
def Paves (path : StagePath) : Chore → Prop
  | .store order _ => order.target = .ok path
      ∧ ∀ content, order.content? = some content → content.octets ≠ []
  | .delete _ => False

theorem Paves.unique {chore : Chore} {other : StagePath} (h : chore.Paves path)
    (hother : chore.Paves other) : other = path := by
  cases chore with
  | store order now =>
      have heq := hother.1.symm.trans h.1
      injection heq
  | delete pattern => cases h

/-- Whatever is done leaves the folders on the way to its path, or no other
than before. -/
theorem folders_done (h : area.Orderly) (root : String) (chore : Chore) :
    (∃ path, chore.Paves path
        ∧ (area.paved path).disk.SameFolders (chore.done root area).disk)
      ∨ (∀ path, ¬ chore.Paves path)
        ∧ area.disk.SameFolders (chore.done root area).disk := by
  cases chore with
  | delete pattern => exact .inr ⟨fun _ => id, Desk.folders_delete h pattern⟩
  | store order now =>
      unfold done Paves
      dsimp only
      rw [order.serve_eq]
      cases htarget : order.target with
      | error failure => exact .inr ⟨nofun, .refl _⟩
      | ok path =>
          have hcheck : Desk.checkOverwrite (.lenient root) .none area path
              = .ok () := rfl
          dsimp only
          rw [hcheck]
          cases hcontent : order.content? with
          | none =>
              refine .inl ⟨path, ⟨rfl, nofun⟩, ?_⟩
              have hcreated := h.tidy.folders_create path now
              rcases hc : area.create .none path now with ⟨_ | _, after⟩
              · rw [hc] at hcreated
                exact hcreated
              · rw [hc] at hcreated
                exact hcreated
          | some content =>
              dsimp only
              by_cases ho : content.octets = []
              · have hnone : Desk.transfer .none area path content now
                    = (.error (Desk.fruitless path content), area) :=
                  if_pos (Content.octets_eq_nil.1 ho)
                rw [hnone]
                exact .inr ⟨fun _ hp => hp.2 content rfl ho, .refl _⟩
              · refine .inl ⟨path, ⟨rfl, fun other hother => ?_⟩, ?_⟩
                · cases hother
                  exact ho
                · have hstored := Desk.folders_transfer h.tidy ho path now
                  rcases ht : Desk.transfer .none area path content now with
                    ⟨_ | _, after⟩
                  · rw [ht] at hstored
                    exact hstored
                  · rw [ht] at hstored
                    exact hstored

/-- The root of the area stays. -/
theorem root_done (h : area.Orderly) (root : String) (chore : Chore) :
    (chore.done root area).disk.root = area.disk.root := by
  rcases folders_done h root chore with ⟨path, -, hsame⟩ | ⟨-, hsame⟩
  · exact hsame.root.trans (h.tidy.root_paved path)
  · exact hsame.root

theorem orderly_done (h : area.Orderly) (root : String) (chore : Chore) :
    (chore.done root area).Orderly := by
  cases chore with
  | store order now => exact order.orderly_serve h _ _ _
  | delete pattern => exact (Desk.kept_delete h .none pattern).1

/-- The chore makes a folder at a path: it asks for folders on the way to
another one, which leads through this one, and no file is in the way. -/
def Treads (area : StagingArea) (path : StagePath) (chore : Chore) : Prop :=
  ∃ target, chore.Paves target ∧ path.Above target
    ∧ Disk.Askable area.disk.root target.names.dropLast
    ∧ ∀ f ∈ area.files, f.path ≠ path ∧ ¬ f.path.Above path

/-- What a chore adds to the folders. -/
theorem mem_folders_done (h : area.Orderly)
    (hroot : area.disk.get? [] = some .folder)
    (hshort : ∀ name ∈ path.names, Disk.tooLong name = false) (chore : Chore) :
    path.names ∈ (chore.done root area).disk.folders
      ↔ path.names ∈ area.disk.folders ∨ chore.Treads area path := by
  rcases folders_done h root chore with
    ⟨target, hpaves, hsame⟩ | ⟨hnone, hsame⟩
  · rw [hsame.folders]
    have hdots := target.dotless_names.dropLast
    refine (h.tidy.tree.mem_folders_makeFolders hdots hroot).trans
      (or_congr_right ?_)
    have hfiles : area.disk.Unfiled [] path.names
        ↔ ∀ f ∈ area.files, ¬ f.path.names <+: path.names :=
      h.unfiled_iff List.prefix_rfl
    simp only [StagePath.names_prefix_iff_above, not_or] at hfiles
    constructor
    · rintro ⟨hask, more, hmore, hpath, -, hway⟩
      obtain rfl : path.names = more := hpath
      exact ⟨target, hpaves, StagePath.above_iff.2 hmore, hask, hfiles.1 hway⟩
    · rintro ⟨other, hother, habove, hask, hfree⟩
      cases hpaves.unique hother
      exact ⟨hask, path.names, StagePath.above_iff.1 habove, rfl, hshort,
        hfiles.2 hfree⟩
  · rw [hsame.folders]
    refine (or_iff_left ?_).symm
    rintro ⟨target, hpaves, -⟩
    exact hnone target hpaves

end Chore

/-- The area after chores that began with an empty one. -/
def Desk.history (home : StagingRoot) (root : String) (chores : List Chore) :
    StagingArea :=
  chores.foldl (fun area chore => chore.done root area) (.fresh home)

/-- One of the chores has made a folder at the path. -/
def Trodden (home : StagingRoot) (root : String) (chores : List Chore)
    (path : StagePath) : Prop :=
  ∃ before chore after, chores = before ++ chore :: after
    ∧ chore.Treads (Desk.history home root before) path

namespace Desk

variable {chores : List Chore}

theorem history_concat (home : StagingRoot) (root : String)
    (chores : List Chore) (chore : Chore) :
    history home root (chores ++ [chore])
      = chore.done root (history home root chores) := by
  unfold history
  rw [List.foldl_concat]

theorem orderly_history (home : StagingRoot) (root : String)
    (chores : List Chore) : (history home root chores).Orderly := by
  induction chores using List.reverseRecOn with
  | nil => exact orderly_fresh home
  | append_singleton chores chore ih =>
      rw [history_concat]
      exact Chore.orderly_done ih root chore

/-- The area is where it was. -/
theorem home_history (home : StagingRoot) (root : String)
    (chores : List Chore) : (history home root chores).disk.root = home := by
  induction chores using List.reverseRecOn with
  | nil => rfl
  | append_singleton chores chore ih =>
      rw [history_concat]
      exact (Chore.root_done (orderly_history home root chores) root
        chore).trans ih

theorem trodden_concat {chore : Chore} :
    Trodden home root (chores ++ [chore]) path
      ↔ Trodden home root chores path
        ∨ chore.Treads (history home root chores) path := by
  constructor
  · rintro ⟨before, trodden, after, heq, htreads⟩
    induction after using List.reverseRecOn with
    | nil =>
        obtain ⟨rfl, hlast⟩ := List.append_inj' heq rfl
        cases hlast
        exact .inr htreads
    | append_singleton after last =>
        rw [← List.cons_append, ← List.append_assoc] at heq
        obtain ⟨rfl, -⟩ := List.append_inj' heq rfl
        exact .inl ⟨before, trodden, after, rfl, htreads⟩
  · rintro (⟨before, trodden, after, rfl, htreads⟩ | htreads)
    · exact ⟨before, trodden, after ++ [chore], by simp, htreads⟩
    · exact ⟨chores, chore, [], rfl, htreads⟩

/-- The folder of the area stays. -/
theorem root_history (home : StagingRoot) (root : String)
    (chores : List Chore) :
    (history home root chores).disk.get? [] = some .folder := by
  induction chores using List.reverseRecOn with
  | nil => rfl
  | append_singleton chores chore ih =>
      have ho := orderly_history home root chores
      rw [history_concat]
      rcases Chore.folders_done ho root chore with
        ⟨target, -, hsame⟩ | ⟨-, hsame⟩
      · refine hsame.folders.symm.subset ?_
        have hdots := target.dotless_names.dropLast
        exact (ho.tidy.tree.mem_folders_makeFolders hdots ih).2 (.inl ih)
      · exact hsame.folders.symm.subset ih

/-- The folders of the area are where a chore has made one. -/
theorem mem_folders_history
    (hshort : ∀ name ∈ path.names, Disk.tooLong name = false) :
    path.names ∈ (history home root chores).disk.folders
      ↔ Trodden home root chores path := by
  induction chores using List.reverseRecOn with
  | nil =>
      refine iff_of_false (fun hmem => ?_) ?_
      · have hfree := Disk.get?_fresh home path.names
        rw [if_neg path.names_ne_nil] at hfree
        cases hfree.symm.trans hmem
      · rintro ⟨before, chore, after, heq, -⟩
        simp at heq
  | append_singleton chores chore ih =>
      rw [history_concat, trodden_concat, ← ih]
      exact Chore.mem_folders_done (orderly_history home root chores)
        (root_history home root chores) hshort chore

-- ================================================================ the answers

/-- Nothing is in the way of a file: neither a file above its path nor a
folder at it. -/
def Open (home : StagingRoot) (root : String) (chores : List Chore)
    (path : StagePath) : Prop :=
  (∀ f ∈ (history home root chores).files, ¬ f.path.Above path)
    ∧ ¬ Trodden home root chores path

theorem takes_iff_open (hpass : Disk.Passable home path.names) :
    ((history home root chores).paved path).disk.Takes path.names
      ↔ Open home root chores path := by
  have ho := orderly_history home root chores
  have hroot := root_history home root chores
  have hfiles := ho.unfiled_iff (List.dropLast_prefix path.names)
  simp only [← StagePath.above_iff] at hfiles
  unfold Open
  rw [← hfiles, ← mem_folders_history hpass.2.2]
  exact ho.tidy.tree.takes_paved_iff hroot path.dotless_names
    ((home_history home root chores).symm ▸ hpass) path.names_ne_nil

/-- At the desk, that is what a creation goes by. -/
theorem create_isOk_iff {text : String}
    (hread : StagePath.read text = .ok path)
    (hpass : Disk.Passable home path.names) (now : Instant) :
    (∃ info, (create (.lenient root) .none (history home root chores) text
        now).1 = .ok info) ↔ Open home root chores path := by
  have hcreated : (∃ stored,
      ((history home root chores).create .none path now).1 = .ok stored)
        ↔ Open home root chores path :=
    ((orderly_history home root chores).tidy.create_isOk_iff
      (root_history home root chores)).trans (takes_iff_open hpass)
  rw [← hcreated]
  have hcheck : checkOverwrite (.lenient root) .none
      (history home root chores) path = .ok () := rfl
  unfold create
  rw [hread]
  dsimp only
  rw [hcheck]
  dsimp only
  rcases (history home root chores).create .none path now with ⟨_ | _, after⟩
  · exact iff_of_false nofun nofun
  · exact iff_of_true ⟨_, rfl⟩ ⟨_, rfl⟩

/-- So does an upload that brings something, and to its end. -/
theorem upload_isOk_iff {text : String} {content : Content}
    (hread : StagePath.read text = .ok path)
    (hfits : (history home root chores).Fits path)
    (hcontent : content.octets ≠ []) (hwhole : content.broken = false)
    (now : Instant) :
    (∃ info, (upload (.lenient root) .none (history home root chores) text
        content now).1 = .ok info) ↔ Open home root chores path := by
  have ho := orderly_history home root chores
  have hfresh := ho.tidy.fresh
  have hfree : content.Unhindered .none :=
    ⟨hwhole, rfl, fun _ _ => rfl, rfl⟩
  have hreceived : (history home root chores).Receives path now
      ↔ Open home root chores path :=
    (ho.tidy.receives_iff (root_history home root chores) hfits).trans
      (takes_iff_open (home_history home root chores ▸ hfits.passable))
  rw [(upload_outcome hfresh).told.granted, ← hreceived]
  constructor
  · rintro ⟨other, hcleared, -, -, hreceives⟩
    cases hread.symm.trans (cleared_iff.1 hcleared)
    exact hreceives
  · exact fun hreceives =>
      ⟨path, cleared_iff.2 hread, hcontent, hfree, hreceives⟩

/-- After every history of creations, uploads and deletes, where overwriting
is allowed and nothing is made to fail: a file can be created at a path, and
content uploaded to it, exactly if no staged file is above it and no earlier
request has made a folder at it. A file below a path shows that there has
been such a request; where no files are left, it is the only thing that can
be in the way. -/
theorem storable_iff_untrodden (home : StagingRoot) (root : String)
    (chores : List Chore) {text : String}
    (hread : StagePath.read text = .ok path)
    (hfits : (history home root chores).Fits path) (now : Instant) :
    ((∃ info, (create (.lenient root) .none (history home root chores) text
        now).1 = .ok info) ↔ Open home root chores path)
      ∧ (∀ content : Content, content.octets ≠ [] → content.broken = false →
        ((∃ info, (upload (.lenient root) .none (history home root chores) text
            content now).1 = .ok info) ↔ Open home root chores path))
      ∧ (∀ f ∈ (history home root chores).files, path.Above f.path →
        Trodden home root chores path)
      ∧ ((history home root chores).files = [] →
        (Open home root chores path ↔ ¬ Trodden home root chores path)) := by
  have hpass : Disk.Passable home path.names :=
    home_history home root chores ▸ hfits.passable
  refine ⟨create_isOk_iff hread hpass now,
    fun content hcontent hwhole =>
      upload_isOk_iff hread hfits hcontent hwhole now,
    fun f hf habove => ?_, fun hnone => ?_⟩
  · -- What a file is in is a folder.
    have ho := orderly_history home root chores
    obtain ⟨content, he, -⟩ := ho.mem_files.1 hf
    obtain ⟨more, hmore⟩ := (StagePath.above_iff.1 habove).trans
      (List.dropLast_prefix f.path.names)
    have hbelow : more ≠ [] := by
      rintro rfl
      rw [List.append_nil] at hmore
      exact habove.2 (StagePath.names_injective hmore)
    rw [← hmore] at he
    exact (mem_folders_history hfits.passable.2.2).1
      (ho.tidy.tree.folder_of_below hbelow he)
  · unfold Open
    rw [hnone]
    simp

-- ------------------------------------------------------- a folder left behind

/-- A file is created in a folder, and deleted. -/
def cleared : List Chore :=
  [.store (.create "a/b") ⟨0, 0⟩, .delete "*"]

/-- The folder is still there: no file is left, and yet its name cannot be
used for one. -/
theorem clearedFolder_refuses :
    ∃ path, StagePath.read "a" = .ok path
      ∧ (history .usual "" cleared).Fits path
      ∧ (history .usual "" cleared).files = []
      ∧ (create (.lenient "") .none (history .usual "" cleared) "a" ⟨0, 0⟩).1
        = .error (.store "is a folder")
      ∧ (upload (.lenient "") .none (history .usual "" cleared) "a" (.whole [1])
          ⟨0, 0⟩).1 = .error (.upload (.transfer "a" "is a folder")) := by
  refine ⟨⟨["a".toList], by decide, by decide⟩, rfl,
    ⟨⟨by decide, by decide +kernel, by decide⟩, by decide +kernel⟩, ?_, ?_, ?_⟩
  · decide +kernel
  · decide +kernel
  · decide +kernel

/-- Another file can be put into it. -/
theorem clearedFile_open :
    ∃ path, StagePath.read "a/b" = .ok path ∧ Open .usual "" cleared path
      ∧ ∃ info, (upload (.lenient "") .none (history .usual "" cleared) "a/b"
          (.whole [1]) ⟨0, 0⟩).1 = .ok info := by
  let path : StagePath := ⟨["a".toList, "b".toList], by decide, by decide⟩
  have hread : StagePath.read "a/b" = .ok path := by decide
  have hfits : (history .usual "" cleared).Fits path :=
    ⟨⟨by decide, by decide +kernel, by decide⟩, by decide +kernel⟩
  obtain ⟨hcreate, hupload, -⟩ :=
    storable_iff_untrodden .usual "" cleared hread hfits ⟨0, 0⟩
  have hcreated : (create (.lenient "") .none (history .usual "" cleared) "a/b"
      ⟨0, 0⟩).1 = .ok (info (.lenient "") ⟨path, ⟨0, 0⟩, 0⟩) := by
    decide +kernel
  have hopen : Open .usual "" cleared path := hcreate.1 ⟨_, hcreated⟩
  exact ⟨path, hread, hopen, (hupload (.whole [1]) (by decide) rfl).2 hopen⟩

end Desk

end BatchAdmin
