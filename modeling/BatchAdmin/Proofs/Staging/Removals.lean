/-
Every removal is counted once.

What a step takes away is told without asking who took it: the paths that
were listed before it and have no file after it (`Traffic.lost`). A request
that stores takes nothing away, and a step of a delete takes away what it
counts (`lost_errand`, `lost_sweep`), whatever others have done to the area
since it was listed.

`tally_play`: over a whole course, the deletes have counted as many files
as were lost; each delete has counted those that were lost in its own
steps; its pattern matches them; and a file that no pattern matches is
never lost.
-/
import BatchAdmin.Proofs.Staging.Traffic
import Mathlib.Algebra.BigOperators.Group.List.Basic
import Mathlib.Algebra.GroupWithZero.Nat

namespace BatchAdmin

open Text StagingArea

/-- The step is one of this delete. -/
def Move.ofSweep (number : Nat) : Move → Bool
  | .errand _ => false
  | .sweep n _ => n == number

namespace Traffic

variable {s : Traffic} {rules : DeskRules} {turn : Turn}
  {faults : StoreFaults} {area area' before : StagingArea}
  {orders : List Order} {patterns : List String} {e : Errand} {w : Sweep}
  {move : Move} {moves : List Move}

-- ================================================================ the losses

/-- The paths that are listed before a step and have no file after it. -/
def lost (rules : DeskRules) (s : Traffic) (move : Move) : List StagePath :=
  (s.intake.area.files.map (·.path)).filter fun path =>
    ((s.take rules move).intake.area.contentAt? path).isNone

/-- What is lost along a course, with the step in which it is. -/
def losses (rules : DeskRules) : Traffic → List Move → List (Move × StagePath)
  | _, [] => []
  | s, move :: rest =>
      (s.lost rules move).map (move, ·) ++ losses rules (s.take rules move) rest

/-- The paths listed are those that can be seen, each once. -/
theorem mem_paths (h : area.Orderly) {path : StagePath} :
    path ∈ area.files.map (·.path) ↔ area.contentAt? path ≠ none := by
  rw [List.mem_map]
  constructor
  · rintro ⟨f, hf, rfl⟩
    obtain ⟨content, hc, -⟩ := h.listed_iff.1 ⟨f, hf, rfl, rfl⟩
    rw [hc]
    nofun
  · intro hc
    obtain ⟨content, hc⟩ := Option.ne_none_iff_exists'.1 hc
    obtain ⟨f, hf, hpath, -⟩ := h.listed_iff.2 ⟨content, hc, rfl⟩
    exact ⟨f, hf, hpath⟩

theorem nodup_paths (h : area.Orderly) : (area.files.map (·.path)).Nodup :=
  List.pairwise_map.2 h.nodup_files

/-- Nothing is lost where what can be seen stays. -/
theorem lost_of_kept (h : s.intake.area.Orderly)
    (hkept : ∀ path, s.intake.area.contentAt? path ≠ none →
      (s.take rules move).intake.area.contentAt? path ≠ none) :
    s.lost rules move = [] := by
  unfold lost
  rw [List.filter_eq_nil_iff]
  intro path hpath
  rw [Option.isNone_iff_eq_none]
  exact hkept path ((mem_paths h).1 hpath)

/-- Only this file is lost where it alone goes. -/
theorem lost_of_gone (h : s.intake.area.Orderly) {path : StagePath}
    (hfile : s.intake.area.contentAt? path ≠ none)
    (hgone : ∀ p, (s.take rules move).intake.area.contentAt? p
      = Function.update s.intake.area.contentAt? path none p) :
    s.lost rules move = [path] := by
  have hother (p : StagePath)
      (hp : p ∈ s.intake.area.files.map (·.path)) :
      ((s.take rules move).intake.area.contentAt? p).isNone
        = (p == path) := by
    rw [hgone, Function.update_apply]
    split
    · rename_i heq
      rw [heq, beq_self_eq_true]
      rfl
    · rename_i hne
      rw [beq_false_of_ne hne, Option.isNone_eq_false_iff,
        Option.isSome_iff_ne_none]
      exact (mem_paths h).1 hp
  unfold lost
  rw [List.filter_congr hother, List.filter_beq,
    List.count_eq_one_of_mem (nodup_paths h) ((mem_paths h).2 hfile),
    List.replicate_one]

/-- A request that stores takes nothing away. -/
theorem lost_errand (h : s.Sound before orders) (turn : Turn) :
    s.lost rules (.errand turn) = [] := by
  refine lost_of_kept h.orderly fun path hfile => ?_
  cases he : s.intake.errands[turn.errand]? with
  | none => rwa [take_errand_none he]
  | some e =>
      rw [take_errand he]
      have hf := e.effect h.orderly.tidy (h.kept.drafted he) rules turn
      rcases hf.contents with ⟨other, _, -, -, -, hcontents⟩
        | ⟨-, -, hcontents⟩
      · rw [hcontents, Function.update_apply]
        split
        · nofun
        · exact hfile
      · rwa [hcontents]

/-- A step of a delete takes away what it tells. -/
theorem lost_sweep (h : s.Sound before orders) {number : Nat}
    (hw : s.sweeps[number]? = some w) :
    s.lost rules (.sweep number faults)
      = (w.step faults s.intake.area).2.2.toList := by
  rcases (w.steps h.orderly faults).contents with
    ⟨path, hgone, hfile, hb⟩ | ⟨hgone, harea⟩
  · rw [hgone]
    refine lost_of_gone h.orderly hfile fun p => ?_
    rw [take_sweep hw]
    exact hb.contents p
  · rw [hgone]
    refine lost_of_kept h.orderly fun path hfile => ?_
    rw [take_sweep hw]
    dsimp only
    rwa [harea]

-- ================================================================ the counts

/-- How many files the deletes have counted. -/
def counted (s : Traffic) : Nat := (s.sweeps.map (·.phase.counted)).sum

/-- How many files a delete has counted. -/
def countedBy (s : Traffic) (number : Nat) : Nat :=
  (s.sweeps[number]?.map (·.phase.counted)).getD 0

/-- Nothing has been counted yet. -/
theorem counted_opened (area : StagingArea) (orders : List Order)
    (patterns : List String) :
    (opened area orders patterns).counted = 0
      ∧ ∀ number, (opened area orders patterns).countedBy number = 0 := by
  unfold opened counted countedBy
  dsimp only
  constructor
  · rw [List.map_map, List.sum_eq_zero]
    intro count hcount
    obtain ⟨pattern, -, rfl⟩ := List.mem_map.1 hcount
    rfl
  · intro number
    rw [List.getElem?_map, Option.map_map]
    cases patterns[number]? with
    | none => rfl
    | some pattern => rfl

/-- One of the numbers has grown, and so has the sum. -/
private theorem sum_set {counts : List Nat} {n a k : Nat}
    (h : counts[n]? = some a) :
    (counts.set n (a + k)).sum = counts.sum + k := by
  induction counts generalizing n with
  | nil => cases h
  | cons count rest ih =>
      cases n with
      | zero =>
          cases h
          rw [List.set_cons_zero, List.sum_cons, List.sum_cons]
          omega
      | succ n =>
          rw [List.set_cons_succ, List.sum_cons, List.sum_cons, ih h]
          omega

theorem countP_ofSweep (number : Nat) (paths : List StagePath) :
    (paths.map (move, ·)).countP (·.1.ofSweep number)
      = if move.ofSweep number then paths.length else 0 := by
  rw [List.countP_map]
  split
  · rename_i hmove
    exact List.countP_eq_length.2 fun _ _ => hmove
  · rename_i hmove
    exact List.countP_eq_zero.2 fun _ _ => hmove

/-- A step is counted for what is lost in it, by the delete that takes the
step and by no other. -/
theorem counted_take (h : s.Sound before orders) (rules : DeskRules)
    (move : Move) :
    (s.take rules move).counted = s.counted + (s.lost rules move).length
      ∧ ∀ number, (s.take rules move).countedBy number
          = s.countedBy number
            + if move.ofSweep number then (s.lost rules move).length
              else 0 := by
  cases move with
  | errand turn =>
      rw [lost_errand h]
      exact ⟨rfl, fun number => rfl⟩
  | sweep number faults =>
      cases hw : s.sweeps[number]? with
      | none =>
          have hlost : s.lost rules (.sweep number faults) = [] :=
            lost_of_kept h.orderly fun path hfile => by
              rwa [take_sweep_none hw]
          rw [take_sweep_none hw, hlost]
          exact ⟨rfl, fun n => (ite_self 0).symm ▸ rfl⟩
      | some w =>
          have hcounted := (w.steps h.orderly faults).counted
          rw [lost_sweep h hw, take_sweep hw]
          unfold counted countedBy
          dsimp only
          constructor
          · rw [List.map_set, hcounted, sum_set]
            rw [List.getElem?_map, hw]
            rfl
          · intro n
            rw [List.getElem?_set]
            obtain ⟨hlt, -⟩ := List.getElem?_eq_some_iff.1 hw
            by_cases hn : number = n
            · subst hn
              rw [if_pos rfl, if_pos hlt, hw]
              unfold Move.ofSweep
              rw [if_pos (beq_self_eq_true number)]
              exact hcounted
            · rw [if_neg hn]
              unfold Move.ofSweep
              rw [if_neg (by simpa using hn), Nat.add_zero]

theorem play_cons (s : Traffic) (move : Move) (rest : List Move) :
    s.play rules (move :: rest) = (s.take rules move).play rules rest := rfl

/-- Along a course, what is counted is what is lost. -/
theorem counted_play (h : s.Sound before orders) (rules : DeskRules)
    (moves : List Move) :
    (s.play rules moves).counted
        = s.counted + (losses rules s moves).length
      ∧ ∀ number, (s.play rules moves).countedBy number
          = s.countedBy number
            + (losses rules s moves).countP (·.1.ofSweep number) := by
  induction moves generalizing s with
  | nil => exact ⟨rfl, fun _ => rfl⟩
  | cons move rest ih =>
      obtain ⟨hall, heach⟩ := counted_take h rules move
      obtain ⟨hrest, hrests⟩ := ih (h.take move)
      rw [play_cons]
      unfold losses
      constructor
      · rw [hrest, hall, List.length_append, List.length_map, Nat.add_assoc]
      · intro number
        rw [hrests, heach, List.countP_append, countP_ofSweep, Nat.add_assoc]

-- ================================================================== the aims

/-- The deletes have yet to try only what their patterns match. -/
structure Aiming (patterns : List String) (s : Traffic) : Prop where
  patterned : ∀ n : Nat, s.sweeps[n]?.map Sweep.pattern = patterns[n]?
  aimed : ∀ {n : Nat} {w : Sweep}, s.sweeps[n]? = some w →
    ∀ left count, w.phase = .removing left count →
      ∀ f ∈ left, Sweep.Aims w.pattern f.path

theorem aiming_opened (area : StagingArea) (orders : List Order)
    (patterns : List String) :
    (opened area orders patterns).Aiming patterns := by
  unfold opened
  constructor
  · intro n
    dsimp only
    rw [List.getElem?_map, Option.map_map]
    exact Option.map_id'
  · intro n w hw left count hphase
    rw [List.getElem?_map, Option.map_eq_some_iff] at hw
    obtain ⟨pattern, -, rfl⟩ := hw
    cases hphase

/-- A step keeps the aims, and what is lost in it is what a delete aims
at. -/
theorem Aiming.take (ha : s.Aiming patterns) (h : s.Sound before orders)
    (rules : DeskRules) (move : Move) :
    (s.take rules move).Aiming patterns
      ∧ ∀ path ∈ s.lost rules move, ∃ n faults pattern,
          move = .sweep n faults ∧ patterns[n]? = some pattern
            ∧ Sweep.Aims pattern path := by
  cases move with
  | errand turn =>
      rw [lost_errand h]
      exact ⟨⟨ha.patterned, ha.aimed⟩, nofun⟩
  | sweep number faults =>
      cases hw : s.sweeps[number]? with
      | none =>
          have hlost : s.lost rules (.sweep number faults) = [] :=
            lost_of_kept h.orderly fun path hfile => by
              rwa [take_sweep_none hw]
          rw [take_sweep_none hw, hlost]
          exact ⟨ha, nofun⟩
      | some w =>
          have hpattern : patterns[number]? = some w.pattern := by
            rw [← ha.patterned, hw]
            rfl
          obtain ⟨hnext, hgone⟩ :=
            (w.steps h.orderly faults).aimed (ha.aimed hw)
          rw [lost_sweep h hw, take_sweep hw]
          refine ⟨⟨fun n => ?_, fun hx left count hphase => ?_⟩,
            fun path hpath => ⟨number, faults, w.pattern, rfl, hpattern,
              hgone path (Option.mem_toList.1 hpath)⟩⟩
          · rw [← ha.patterned, List.getElem?_set]
            split
            · rename_i hn
              subst hn
              obtain ⟨hlt, -⟩ := List.getElem?_eq_some_iff.1 hw
              rw [if_pos hlt, hw]
              rfl
            · rfl
          · rcases (Turns.getElem?_set_iff hw).1 hx with ⟨-, rfl⟩ | ⟨-, hx⟩
            · exact hnext left count hphase
            · exact ha.aimed hx left count hphase

theorem Aiming.play (ha : s.Aiming patterns) (h : s.Sound before orders)
    (moves : List Move) : (s.play rules moves).Aiming patterns := by
  induction moves generalizing s with
  | nil => exact ha
  | cons move rest ih => exact ih (ha.take h rules move).1 (h.take move)

theorem Aiming.losses (ha : s.Aiming patterns) (h : s.Sound before orders)
    (moves : List Move) :
    ∀ loss ∈ losses rules s moves, ∃ n faults pattern,
      loss.1 = .sweep n faults ∧ patterns[n]? = some pattern
        ∧ Sweep.Aims pattern loss.2 := by
  induction moves generalizing s with
  | nil => nofun
  | cons move rest ih =>
      obtain ⟨hnext, hlost⟩ := ha.take h rules move
      intro loss hloss
      rcases List.mem_append.1 hloss with hloss | hloss
      · obtain ⟨path, hpath, rfl⟩ := List.mem_map.1 hloss
        exact hlost path hpath
      · exact ih hnext (h.take move) loss hloss

/-- A file at which no delete aims stays. -/
theorem Aiming.spared (ha : s.Aiming patterns) (h : s.Sound before orders)
    {path : StagePath}
    (hnone : ∀ pattern ∈ patterns, ¬Sweep.Aims pattern path)
    (hfile : s.intake.area.contentAt? path ≠ none) (moves : List Move) :
    (s.play rules moves).intake.area.contentAt? path ≠ none := by
  induction moves generalizing s with
  | nil => exact hfile
  | cons move rest ih =>
      obtain ⟨hnext, hlost⟩ := ha.take h rules move
      refine ih hnext (h.take move) fun hgone => ?_
      have hmem : path ∈ s.lost rules move :=
        List.mem_filter.2 ⟨(mem_paths h.orderly).2 hfile,
          Option.isNone_iff_eq_none.2 hgone⟩
      obtain ⟨n, faults, pattern, -, hpattern, haims⟩ := hlost path hmem
      exact hnone pattern (List.mem_of_getElem? hpattern) haims

-- ================================================================= the tally

/-- What the deletes have counted of what was lost. -/
structure Tally (patterns : List String) (losses : List (Move × StagePath))
    (s : Traffic) : Prop where
  /-- All counts together are the number of files lost. -/
  total : (s.sweeps.map (·.phase.counted)).sum = losses.length
  /-- Each has counted what was lost in its own steps. -/
  each : ∀ (n : Nat) (w : Sweep), s.sweeps[n]? = some w →
    w.phase.counted = losses.countP (·.1.ofSweep n)
  /-- What is lost is lost in a step of a delete that matches it. -/
  aimed : ∀ loss ∈ losses, ∃ n faults pattern, loss.1 = .sweep n faults
    ∧ patterns[n]? = some pattern ∧ Sweep.Aims pattern loss.2

/-- From an orderly area on, whatever is asked for, in whatever order steps
are taken and whatever fails: the deletes count every file that is lost
once, and only files that their patterns match are lost. -/
theorem tally_play (h : area.Orderly) (rules : DeskRules)
    (orders : List Order) (patterns : List String) (moves : List Move) :
    Tally patterns (losses rules (opened area orders patterns) moves)
        ((opened area orders patterns).play rules moves)
      ∧ ∀ path, (∀ pattern ∈ patterns, ¬Sweep.Aims pattern path) →
          ∀ cut, cut <+: moves →
            ((opened area orders patterns).play rules
              cut).intake.area.contentAt? path ≠ none →
            ((opened area orders patterns).play rules
              moves).intake.area.contentAt? path ≠ none := by
  have hs := sound_opened h orders patterns
  have ha := aiming_opened area orders patterns
  obtain ⟨hzero, hzeros⟩ := counted_opened area orders patterns
  obtain ⟨htotal, heach⟩ := counted_play hs rules moves
  constructor
  · refine ⟨?_, fun n w hw => ?_, ha.losses hs moves⟩
    · rw [hzero, Nat.zero_add] at htotal
      exact htotal
    · have hcounted := heach n
      rw [hzeros, Nat.zero_add] at hcounted
      rw [← hcounted]
      unfold countedBy
      rw [hw]
      rfl
  · rintro path hnone cut ⟨rest, rfl⟩ hfile
    have hplayed : (opened area orders patterns).play rules (cut ++ rest)
        = ((opened area orders patterns).play rules cut).play rules rest :=
      List.foldl_append
    rw [hplayed]
    exact (ha.play hs cut).spared (sound_play h orders patterns cut) hnone
      hfile rest

/-- Two deletes that have both listed a file: one takes it away, the file is
created again, and the other takes it away again. Each counts one, and a
file that neither matches stays. -/
theorem sweptTwice_tally :
    let rules : DeskRules := { allowOverwrite := true, shortPathRoot := "" }
    let other : StagePath := ⟨["b".toList], by decide, by decide⟩
    let orders : List Order := [.create "a", .create "a", .create "b"]
    let patterns := ["a", "[a]"]
    let turns (numbers : List Nat) : List Move :=
      numbers.map fun n => .errand ⟨n, .none, ⟨0, 0⟩⟩
    let sweeps (numbers : List Nat) : List Move :=
      numbers.map fun n => .sweep n .none
    let cut : List Move := turns [0, 0] ++ sweeps [0, 1] ++ turns [2, 2]
    let moves : List Move :=
      cut ++ (sweeps [0] ++ turns [1, 1] ++ sweeps [1, 0, 1])
    let start := opened .fresh orders patterns
    StagingArea.fresh.Orderly
      ∧ Tally patterns (losses rules start moves) (start.play rules moves)
      ∧ (losses rules start moves).length = 2
      ∧ (start.play rules moves).sweeps.map (·.phase.counted) = [1, 1]
      ∧ (∀ pattern ∈ patterns, ¬Sweep.Aims pattern other)
      ∧ (start.play rules moves).intake.area.contentAt? other ≠ none := by
  intro rules other orders patterns turns sweeps cut moves start
  have hcounted : (start.play rules moves).sweeps.map (·.phase.counted)
      = [1, 1] := by decide +kernel
  have hnone : ∀ pattern ∈ patterns, ¬Sweep.Aims pattern other := by
    decide +kernel
  have hfile : (start.play rules cut).intake.area.contentAt? other
      ≠ none := by decide +kernel
  obtain ⟨htally, hspared⟩ :=
    tally_play (orderly_fresh _) rules orders patterns moves
  refine ⟨orderly_fresh _, htally, ?_, hcounted, hnone,
    hspared other hnone cut (List.prefix_append _ _) hfile⟩
  rw [← htally.total, hcounted]
  rfl

end Traffic

end BatchAdmin
