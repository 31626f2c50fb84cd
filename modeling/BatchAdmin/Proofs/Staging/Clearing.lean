/-
What a bare star leaves.

A pattern of stars is one run, and a run takes any characters but a line
feed. A staged path may have line feeds in it: what its pieces may not be is
empty, made of dots or reserved, or have separators in them. So a pattern of
stars matches the paths that are written in one line (`aims_stars`).

In an area that requests have made, paths lead to the files that are listed
for them (`leadsBack_of_orderly`), so a delete by stars counts and takes
away these files and leaves the others. It clears the area exactly if no
path has a line feed in it (`stars_clear_iff`).
-/
import BatchAdmin.Proofs.Glob.Reading
import BatchAdmin.Proofs.Staging.Deletes
import BatchAdmin.Proofs.Staging.Traffic

namespace BatchAdmin

open Text StagingArea

-- ============================================================== the patterns

/-- A pattern of one star and more. -/
def stars (more : Nat) : String :=
  String.ofList (List.replicate (more + 1) '*')

namespace Glob

/-- Stars are read as one run. -/
theorem read_stars (more : Nat) :
    Glob.read (stars more) = .ok ⟨stars more, whole [.run]⟩ := by
  have hstars : (stars more).toList = List.replicate (more + 1) '*' :=
    String.toList_ofList
  have hs : Spells [.stars more] (stars more).toList := by
    rw [hstars, ← List.append_nil (List.replicate _ _)]
    exact spells_nil.cons trivial
  have hne : stars more ≠ "" := by
    intro hempty
    rw [hempty] at hstars
    cases hstars
  have hord : ∀ sign ∈ [Sign.stars more], sign.InOrder :=
    List.forall_mem_singleton.2 trivial
  exact read_eq_ok.2 ⟨hne, _, hs, hord, rfl⟩

/-- A run takes a whole path if there is no line feed in it. -/
theorem matches_run (source path : String) :
    Glob.matches ⟨source, whole [.run]⟩ path = true
      ↔ '\n' ∉ path.toList := by
  rw [matches_whole, fits_run]
  constructor
  · intro h
    obtain ⟨part, rest, hpath, hpart, hrest⟩ := h
    rw [hpath, fits_nil.1 hrest, List.append_nil]
    exact hpart
  · intro h
    exact ⟨path.toList, [], (List.append_nil _).symm, h, rfl⟩

end Glob

/-- Stars match the paths that are written in one line. -/
theorem aims_stars (more : Nat) (path : StagePath) :
    Sweep.Aims (stars more) path ↔ '\n' ∉ path.chars := by
  have hmatches := Glob.matches_run (stars more) path.text
  unfold StagePath.text at hmatches
  rw [String.toList_ofList] at hmatches
  rw [← hmatches]
  exact Sweep.aims_iff (Glob.read_stars more) path

-- ================================================================ the areas

namespace Desk

variable {area : StagingArea} {faults : StoreFaults} {glob : Glob}

/-- In an orderly area the path of a file leads to the file. -/
theorem leadsBack_of_orderly (h : area.Orderly) :
    LeadsBack area (area.targets faults glob) := by
  refine leadsBack_of_lead fun x hx => ?_
  obtain ⟨e, hmem, hf⟩ :=
    StagingArea.mem_staged.1 (List.mem_of_mem_filter hx)
  have he := h.distinct.mem_entries.1 hmem
  obtain ⟨content, rfl, hloc, -⟩ := (h.stagedAt_eq_some he).1 hf
  rw [hloc] at he ⊢
  have hfind : area.disk.find false x.2.path.names
      = .ok (.found x.2.path.names (.file content x.2.modified)) :=
    h.tidy.tree.find_of_get? x.2.path.dotless_names (h.passable he) he
  exact Disk.lead?_eq_some.2 ⟨.file content x.2.modified, nofun, hfind⟩

/-- What a delete by stars that nothing hinders makes of an area: it counts
the files with paths in one line and leaves the others, so it counts all and
leaves none exactly if there are no others. -/
structure ClearsLines (area : StagingArea)
    (outcome : Answer Nat × StagingArea) : Prop where
  answer : outcome.1 = .ok (area.files.countP fun f => '\n' ∉ f.path.chars)
  files : ∀ f, f ∈ outcome.2.files ↔ f ∈ area.files ∧ '\n' ∈ f.path.chars
  all : outcome.1 = .ok area.files.length
    ↔ ∀ f ∈ area.files, '\n' ∉ f.path.chars
  none : outcome.2.files = [] ↔ ∀ f ∈ area.files, '\n' ∉ f.path.chars

theorem clearsLines (h : area.Orderly) (more : Nat)
    (hlist : faults.fails .list = false)
    (hfree : ∀ f ∈ area.files, faults.stuck f.path.text = false) :
    ClearsLines area (delete faults area (stars more)) := by
  have hmatches : ∀ f ∈ area.files,
      (Glob.matches ⟨stars more, Glob.whole [.run]⟩ f.path.text
        && !faults.stuck f.path.text) = decide ('\n' ∉ f.path.chars) := by
    intro f hf
    have hm := Glob.matches_run (stars more) f.path.text
    unfold StagePath.text at hm ⊢
    rw [String.toList_ofList] at hm
    rw [Bool.eq_iff_iff, decide_eq_true_iff, ← hm]
    simp [show faults.stuck (String.ofList f.path.chars) = false
      from hfree f hf]
  obtain ⟨hanswer, hfiles⟩ := files_of_leadsBack h.distinct
    (Glob.read_stars more) hlist (leadsBack_of_orderly h)
  rw [List.countP_congr fun f hf => by rw [hmatches f hf]] at hanswer
  have hleft : ∀ f, f ∈ (delete faults area (stars more)).2.files
      ↔ f ∈ area.files ∧ '\n' ∈ f.path.chars := by
    intro f
    rw [hfiles]
    refine and_congr_right fun hf => ?_
    rw [hmatches f hf, decide_eq_false_iff_not, not_not]
  refine ⟨hanswer, hleft, ?_, ?_⟩
  · rw [hanswer, Except.ok.injEq, List.countP_eq_length]
    simp only [decide_eq_true_iff]
  · rw [List.eq_nil_iff_forall_not_mem]
    simp only [hleft, not_and]

end Desk

namespace Traffic

/-- Whatever has been asked for, in whatever order steps have been taken and
whatever has failed: a pattern of stars matches the paths without a line
feed, and a delete by it that nothing hinders clears the area of the files
with these paths and of no others. -/
theorem stars_clear_iff (rules : DeskRules) (orders : List Order)
    (patterns : List String) (moves : List Move) (more : Nat) :
    let area := ((opened .fresh orders patterns).play rules
      moves).intake.area
    (∀ path, Sweep.Aims (stars more) path ↔ '\n' ∉ path.chars)
      ∧ ∀ faults : StoreFaults, faults.fails .list = false →
          (∀ f ∈ area.files, faults.stuck f.path.text = false) →
          Desk.ClearsLines area (Desk.delete faults area (stars more)) := by
  intro area
  have hs : ((opened .fresh orders patterns).play rules moves).Sound
      .fresh orders := sound_play (orderly_fresh _) orders patterns moves
  exact ⟨aims_stars more, fun faults hlist hfree =>
    Desk.clearsLines hs.orderly more hlist hfree⟩

/-- The steps of one request after another, each as many as it needs. -/
def inTurn (counts : List Nat) : List Move :=
  counts.zipIdx.flatMap fun (count, errand) =>
    List.replicate count (.errand ⟨errand, .none, ⟨0, 0⟩⟩)

/-- Two files are cleared away by stars; an upload on its way is not one of
them. -/
theorem twoFiles_cleared :
    let rules : DeskRules := { allowOverwrite := true, shortPathRoot := "" }
    let orders : List Order := [.create "a b", .upload "in/*.csv"
      (.whole (octetsOf "one")), .upload "c" (.whole (octetsOf "two"))]
    let area := ((opened .fresh orders []).play rules
      (inTurn [2, 4, 3])).intake.area
    area.files.length = 2
      ∧ (∀ f ∈ area.files, StoreFaults.none.stuck f.path.text = false)
      ∧ (∀ f ∈ area.files, Sweep.Aims (stars 2) f.path)
      ∧ (Desk.delete .none area (stars 2)).1 = .ok 2
      ∧ (Desk.delete .none area (stars 2)).2.files = [] := by
  intro rules orders area
  have hlength : area.files.length = 2 := by
    rw [← area.staged_perm.length_eq]
    decide +kernel
  have hlines : ∀ f ∈ area.files, '\n' ∉ f.path.chars := by
    intro f hf
    have hall : ∀ f ∈ area.staged.map (·.2), '\n' ∉ f.path.chars := by
      decide +kernel
    exact hall f (area.staged_perm.mem_iff.2 hf)
  obtain ⟨haims, hclears⟩ :=
    stars_clear_iff rules orders [] (inTurn [2, 4, 3]) 2
  have hcleared := hclears .none rfl fun _ _ => rfl
  refine ⟨hlength, fun _ _ => rfl,
    fun f hf => (haims f.path).2 (hlines f hf), ?_, hcleared.none.2 hlines⟩
  exact (hcleared.all.2 hlines).trans (congrArg Except.ok hlength)

/-- A file is created at a path with a line feed in it; a delete by a star
does not count it and leaves it there. -/
theorem twoLines_stay :
    let rules : DeskRules := { allowOverwrite := true, shortPathRoot := "" }
    let area := ((opened .fresh [.create "a\nb"] []).play rules
      (inTurn [2])).intake.area
    stars 0 = "*" ∧ area.files.map (·.path.text) = ["a\nb"]
      ∧ Desk.delete .none area (stars 0) = (.ok 0, area) := by
  intro rules area
  have hstaged : area.staged.map (·.2.path.text) = ["a\nb"] := by
    decide +kernel
  have htargets : area.targets .none ⟨stars 0, Glob.whole [.run]⟩ = [] := by
    decide +kernel
  refine ⟨by decide, ?_,
    Desk.delete_of_no_targets (Glob.read_stars 0) rfl htargets⟩
  have hperm := area.staged_perm.map (·.path.text)
  rw [List.map_map] at hperm
  exact (List.singleton_perm.1 (hstaged ▸ hperm)).symm

end Traffic

end BatchAdmin
