/-
Requests and deletes at one staging area.

Any number of requests that store and of deletes by pattern take their
steps in any order (`Traffic.take`), under whatever rules and whatever
fails. The log tells what has happened to files: which request has stored
at which path, and which delete has taken away which file. No step reads
it.

`shows_play`: at every moment the log tells all that can be seen. At each
path there is what the latest entry of the log left there (`shown`), and a
request that is told of in the log has been granted, with all of its
content stored. A listing has exactly the files that can be seen, in the
strict order of their paths. And a draft holds what has come of its
content, where no path leads, and nobody else's step touches it.
-/
import BatchAdmin.Proofs.Staging.Effects
import BatchAdmin.Proofs.Staging.Sweeps

namespace BatchAdmin

open Text StagingArea

-- =============================================================== the traffic

/-- What has happened to the file at a path. -/
inductive Trace where
  | stored (errand : Nat) (path : StagePath)
  | removed (sweep : Nat) (path : StagePath)
  deriving DecidableEq

namespace Trace

def path : Trace → StagePath
  | .stored _ path | .removed _ path => path

/-- What is at the path afterwards. -/
def leaves (orders : List Order) : Trace → Option (List Octet)
  | .stored errand _ => orders[errand]?.map (·.octets)
  | .removed _ _ => none

end Trace

/-- A step of an errand or of a delete. -/
inductive Move where
  | errand (turn : Turn)
  | sweep (number : Nat) (faults : StoreFaults)

/-- Errands and deletes at one area, with the log of what has happened to
files, oldest first. -/
structure Traffic where
  intake : Intake
  sweeps : List Sweep
  log : List Trace

namespace Traffic

variable {s : Traffic} {rules : DeskRules} {turn : Turn}
  {faults : StoreFaults} {area area' before : StagingArea}
  {orders : List Order} {e : Errand} {w : Sweep}

/-- Requests and deletes of which none has taken a step. -/
def opened (area : StagingArea) (orders : List Order)
    (patterns : List String) : Traffic :=
  ⟨.opened area orders, patterns.map (⟨·, .asked⟩), []⟩

/-- The traffic after a step of one of them. -/
def take (rules : DeskRules) (s : Traffic) : Move → Traffic
  | .errand turn =>
      ⟨s.intake.take rules turn, s.sweeps,
        s.log ++ ((s.intake.storesAt? rules turn).map
          (.stored turn.errand)).toList⟩
  | .sweep number faults =>
      match s.sweeps[number]? with
      | none => s
      | some w =>
          let (area, phase, gone) := w.step faults s.intake.area
          ⟨{ s.intake with area }, s.sweeps.set number { w with phase },
            s.log ++ (gone.map (.removed number)).toList⟩

/-- The traffic after a list of steps. -/
def play (rules : DeskRules) (s : Traffic) (moves : List Move) : Traffic :=
  moves.foldl (take rules) s

theorem take_errand (he : s.intake.errands[turn.errand]? = some e) :
    s.take rules (.errand turn)
      = ⟨⟨(e.step rules turn s.intake.area).1,
            s.intake.errands.set turn.errand
              { e with phase := (e.step rules turn s.intake.area).2.1 },
            s.intake.history ++ ((e.step rules turn s.intake.area).2.2.map
              (turn.errand, ·)).toList⟩,
          s.sweeps,
          s.log ++ (((e.step rules turn s.intake.area).2.2.bind
            Mark.path?).map (.stored turn.errand)).toList⟩ := by
  unfold take Intake.storesAt?
  dsimp only
  rw [Intake.take_of_getElem? he, he]
  rfl

theorem take_errand_none (he : s.intake.errands[turn.errand]? = none) :
    s.take rules (.errand turn) = s := by
  unfold take Intake.storesAt?
  dsimp only
  rw [Intake.take_of_none he, he]
  simp

theorem take_sweep {number : Nat} (hw : s.sweeps[number]? = some w) :
    s.take rules (.sweep number faults)
      = ⟨{ s.intake with area := (w.step faults s.intake.area).1 },
          s.sweeps.set number
            { w with phase := (w.step faults s.intake.area).2.1 },
          s.log ++ ((w.step faults s.intake.area).2.2.map
            (.removed number)).toList⟩ := by
  unfold take
  dsimp only
  rw [hw]

theorem take_sweep_none {number : Nat} (hw : s.sweeps[number]? = none) :
    s.take rules (.sweep number faults) = s := by
  unfold take
  dsimp only
  rw [hw]

-- =================================================================== the log

/-- The latest entry of a log that is about a path. -/
def latest? (log : List Trace) (path : StagePath) : Option Trace :=
  log.reverse.find? (·.path = path)

/-- What the log tells of the content at a path, from what there was
before. -/
def shown (before : StagingArea) (orders : List Order) (log : List Trace)
    (path : StagePath) : Option (List Octet) :=
  match latest? log path with
  | none => before.contentAt? path
  | some trace => trace.leaves orders

theorem shown_append (log : List Trace) (trace : Trace) :
    shown before orders (log ++ [trace])
      = Function.update (shown before orders log) trace.path
          (trace.leaves orders) := by
  funext path
  unfold shown latest?
  rw [List.reverse_concat]
  by_cases h : path = trace.path
  · subst h
    rw [List.find?_cons_of_pos (by simp), Function.update_self]
  · rw [List.find?_cons_of_neg (by simpa using Ne.symm h),
      Function.update_of_ne h]

-- =============================================================== the soundness

/-- What holds of the traffic at every moment. -/
structure Sound (before : StagingArea) (orders : List Order) (s : Traffic) :
    Prop where
  orderly : s.intake.area.Orderly
  kept : s.intake.Kept
  asked : ∀ n : Nat, s.intake.errands[n]?.map Errand.order = orders[n]?
  /-- A request may store at the path of its order only. -/
  target : ∀ {n : Nat} {e : Errand} {path : StagePath},
    s.intake.errands[n]? = some e → e.phase.path? = some path →
    e.order.target = .ok path
  whole : ∀ {n : Nat} {e : Errand}, s.intake.errands[n]? = some e →
    Errand.Whole e.order e.phase
  /-- Who has stored has been granted what it asked for. -/
  granted : ∀ {n : Nat} {path : StagePath}, .stored n path ∈ s.log →
    ∃ e info, s.intake.errands[n]? = some e
      ∧ e.phase = .answered (.ok info) ∧ e.order.target = .ok path
      ∧ e.order.broken = false
  shown : s.intake.area.contentAt? = shown before orders s.log

theorem sound_opened (h : area.Orderly) (orders : List Order)
    (patterns : List String) :
    (opened area orders patterns).Sound area orders where
  orderly := h
  kept := Intake.kept_opened h.tidy orders
  asked n := by
    unfold opened Intake.opened
    rw [List.getElem?_map, Option.map_map]
    exact Option.map_id'
  target he hpath := by
    rw [Intake.asked_of_opened he] at hpath
    cases hpath
  whole he := by
    rw [Intake.asked_of_opened he]
    nofun
  granted := nofun
  shown := rfl

section Errand

variable (h : s.Sound before orders) {number : Nat}
  (he : s.intake.errands[number]? = some e) {phase : Errand.Phase}
  {mark : Option Mark} (hf : e.Effect s.intake.area area' phase mark)

include h he hf

theorem Sound.target_errand {n : Nat} {x : Errand} {path : StagePath}
    (hx : (s.intake.errands.set number { e with phase })[n]? = some x)
    (hp : x.phase.path? = some path) : x.order.target = .ok path := by
  rcases (Turns.getElem?_set_iff he).1 hx with ⟨-, rfl⟩ | ⟨-, hx⟩
  · rcases hf.target hp with hwas | htarget
    · have htarget := h.target he hwas
      exact htarget
    · exact htarget
  · exact h.target hx hp

/-- Whoever has been granted what it asked for stays so. -/
theorem Sound.granted_errand
    (hunbroken : ∀ path, mark = some (.stored path) →
      e.order.broken = false)
    {n : Nat} {path : StagePath}
    (hmem : .stored n path
      ∈ s.log ++ ((mark.bind Mark.path?).map (.stored number)).toList) :
    ∃ x info, (s.intake.errands.set number { e with phase })[n]? = some x
      ∧ x.phase = .answered (.ok info) ∧ x.order.target = .ok path
      ∧ x.order.broken = false := by
  rcases List.mem_append.1 hmem with hmem | hmem
  · obtain ⟨x, info, hx, hphase, htarget, hwhole⟩ := h.granted hmem
    by_cases hn : n = number
    · subst hn
      cases he.symm.trans hx
      exact ⟨_, info, (Turns.getElem?_set_iff he).2 (.inl ⟨rfl, rfl⟩),
        hf.answered hphase, htarget, hwhole⟩
    · exact ⟨x, info, (Turns.getElem?_set_iff he).2 (.inr ⟨hn, hx⟩), hphase,
        htarget, hwhole⟩
  · rw [Option.mem_toList, Option.map_eq_some_iff] at hmem
    obtain ⟨other, hother, heq⟩ := hmem
    cases heq
    obtain ⟨told, rfl, htold⟩ := Option.bind_eq_some_iff.1 hother
    cases Mark.path?_eq_some.1 htold
    rcases hf.contents with ⟨_, info, hmark, hp, hphase, -⟩ | ⟨hmark, -, -⟩
    · cases hmark
      have htarget := h.target he hp
      exact ⟨_, info, (Turns.getElem?_set_iff he).2 (.inl ⟨rfl, rfl⟩),
        hphase, htarget, hunbroken _ rfl⟩
    · exact absurd rfl (hmark _)

/-- The log tells what a step of an errand makes of the contents. -/
theorem Sound.shown_errand :
    area'.contentAt? = Traffic.shown before orders
      (s.log ++ ((mark.bind Mark.path?).map (.stored number)).toList) := by
  rcases hf.contents with ⟨path, _, rfl, -, -, hcontents⟩
    | ⟨hmark, -, hcontents⟩
  · have hleaves : (Trace.stored number path).leaves orders
        = some e.order.octets := by
      unfold Trace.leaves
      dsimp only
      rw [← h.asked, he]
      rfl
    have hlog : ((some (Mark.stored path)).bind Mark.path?).map
        (Trace.stored number) = some (.stored number path) := rfl
    rw [hlog, Option.toList_some, shown_append, hleaves, ← h.shown]
    exact funext hcontents
  · have hlog : mark.bind Mark.path? = none := by
      rw [Option.bind_eq_none_iff]
      intro told htold
      cases told with
      | cleared => rfl
      | stored path => exact absurd htold (hmark path)
    rw [hlog, Option.map_none, Option.toList_none, List.append_nil, ← h.shown]
    exact funext hcontents

end Errand

/-- A turn of an errand keeps the traffic sound. -/
theorem Sound.errand (h : s.Sound before orders) (turn : Turn) :
    (s.take rules (.errand turn)).Sound before orders := by
  cases he : s.intake.errands[turn.errand]? with
  | none =>
      rw [take_errand_none he]
      exact h
  | some e =>
      rw [take_errand he]
      have hf := e.effect h.orderly.tidy (h.kept.drafted he) rules turn
      obtain ⟨hwhole, hunbroken⟩ := Errand.step_whole (h.whole he) turn
      refine ⟨Errand.orderly_step h.orderly (h.kept.drafted he) turn,
        h.kept.step he hf _, fun n => ?_, h.target_errand he hf,
        fun hx => ?_, h.granted_errand he hf hunbroken,
        h.shown_errand he hf⟩
      · rw [← h.asked, List.getElem?_set]
        split
        · rename_i hn
          subst hn
          obtain ⟨hlt, -⟩ := List.getElem?_eq_some_iff.1 he
          rw [if_pos hlt, he]
          rfl
        · rfl
      · rcases (Turns.getElem?_set_iff he).1 hx with ⟨-, rfl⟩ | ⟨-, hx⟩
        · exact hwhole
        · exact h.whole hx

/-- A step of a delete keeps the traffic sound. -/
theorem Sound.sweep (h : s.Sound before orders) (number : Nat)
    (faults : StoreFaults) :
    (s.take rules (.sweep number faults)).Sound before orders := by
  cases hw : s.sweeps[number]? with
  | none =>
      rw [take_sweep_none hw]
      exact h
  | some w =>
      rw [take_sweep hw]
      have hs := w.steps h.orderly faults
      rcases hs.contents with ⟨path, hgone, -, hb⟩ | ⟨hgone, harea⟩
      · refine ⟨hs.orderly h.orderly, h.kept.became hb, h.asked, h.target,
          h.whole, fun hmem => ?_, ?_⟩
        · rcases List.mem_append.1 hmem with hmem | hmem
          · exact h.granted hmem
          · rw [hgone] at hmem
            cases List.mem_singleton.1 hmem
        · rw [hgone, Option.map_some, Option.toList_some, shown_append,
            ← h.shown]
          exact funext hb.contents
      · rw [hgone, harea]
        refine ⟨h.orderly, h.kept, h.asked, h.target, h.whole, ?_, ?_⟩
        · rw [Option.map_none, Option.toList_none, List.append_nil]
          exact h.granted
        · rw [Option.map_none, Option.toList_none, List.append_nil]
          exact h.shown

/-- Every move keeps the traffic sound. -/
theorem Sound.take (h : s.Sound before orders) (move : Move) :
    (s.take rules move).Sound before orders := by
  cases move with
  | errand turn => exact h.errand turn
  | sweep number faults => exact h.sweep number faults

theorem sound_play (h : area.Orderly) (orders : List Order)
    (patterns : List String) (moves : List Move) :
    ((opened area orders patterns).play rules moves).Sound area orders :=
  Turns.keeps (fun _ move hs => hs.take move) (sound_opened h orders patterns)
    moves

-- ================================================================ the moments

/-- A step of another leaves a draft as it is. -/
theorem Sound.untouched (h : s.Sound before orders) {n : Nat}
    (he : s.intake.errands[n]? = some e) {draft : Draft} {writes : Nat}
    {left : Content} (hphase : e.phase = .filling draft writes left)
    {move : Move} (hother : ∀ turn, move = .errand turn → turn.errand ≠ n) :
    (s.take rules move).intake.area.disk.get? draft.hidden
      = s.intake.area.disk.get? draft.hidden := by
  cases move with
  | errand turn =>
      cases hx : s.intake.errands[turn.errand]? with
      | none => rw [take_errand_none hx]
      | some x =>
          rw [take_errand hx]
          have hf := x.effect h.orderly.tidy (h.kept.drafted hx) rules turn
          exact h.kept.other hx hf (Ne.symm (hother turn rfl)) he hphase
  | sweep number faults =>
      cases hw : s.sweeps[number]? with
      | none => rw [take_sweep_none hw]
      | some w =>
          rw [take_sweep hw]
          obtain ⟨hl, -⟩ := h.kept.drafted he draft writes left hphase
          rcases (w.steps h.orderly faults).contents with
            ⟨path, -, -, hb⟩ | ⟨-, harea⟩
          · exact hb.hidden _ hl
          · rw [harea]

/-- A draft of the n-th errand is out of everybody else's reach. -/
structure Guarded (s : Traffic) (n : Nat) (order : Order) (draft : Draft)
    (left : Content) : Prop where
  /-- It holds what has come of its content. -/
  drafted : Drafted order left (s.intake.area.disk.get? draft.hidden)
  /-- No path leads to it or through it. -/
  hidden : ∀ path : StagePath, ¬draft.hidden <+: path.names
  /-- Nobody else's step touches it, whatever its path or pattern is. -/
  untouched : ∀ rules move,
    (∀ turn, move = .errand turn → turn.errand ≠ n) →
    (s.take rules move).intake.area.disk.get? draft.hidden
      = s.intake.area.disk.get? draft.hidden

/-- What can be seen at a moment, and what cannot. -/
structure Shows (before : StagingArea) (orders : List Order) (s : Traffic) :
    Prop where
  /-- At each path is what the latest entry of the log left there. -/
  shown : ∀ path,
    s.intake.area.contentAt? path = shown before orders s.log path
  /-- Who has stored was asked to store there, and has stored all of its
  content. -/
  granted : ∀ n path, .stored n path ∈ s.log →
    ∃ order info, orders[n]? = some order ∧ order.target = .ok path
      ∧ order.broken = false
      ∧ s.intake.errands[n]? = some ⟨order, .answered (.ok info)⟩
  /-- A listing is in the strict order of paths. -/
  rising : ∀ faults files, s.intake.area.list faults = .ok files →
    files.Pairwise fun a b => a.path.text < b.path.text
  /-- It has exactly the files that can be seen. -/
  listed : ∀ faults files, s.intake.area.list faults = .ok files →
    ∀ path size, (∃ f ∈ files, f.path = path ∧ f.size = size)
      ↔ ∃ content, s.intake.area.contentAt? path = some content
          ∧ content.length = size
  /-- It tells of each what looking at its path does. -/
  found : ∀ faults files, s.intake.area.list faults = .ok files →
    ∀ f, f ∈ files ↔ s.intake.area.stat .none f.path = .ok (some f)
  /-- Drafts cannot be seen. -/
  guarded : ∀ (n : Nat) (order : Order) (draft : Draft) (writes : Nat)
    (left : Content),
    s.intake.errands[n]? = some ⟨order, .filling draft writes left⟩ →
    s.Guarded n order draft left

theorem Sound.shows (h : s.Sound before orders) : s.Shows before orders where
  shown path := congrFun h.shown path
  granted n path hmem := by
    obtain ⟨⟨order, phase⟩, info, he, rfl, htarget, hwhole⟩ := h.granted hmem
    refine ⟨order, info, ?_, htarget, hwhole, he⟩
    rw [← h.asked, he]
    rfl
  rising faults files hlist := by
    rw [files_of_list hlist]
    exact h.orderly.rising_files
  listed faults files hlist path size := by
    rw [files_of_list hlist]
    exact h.orderly.listed_iff
  found faults files hlist f := by
    rw [files_of_list hlist]
    exact h.orderly.mem_files_iff_stat
  guarded n order draft writes left he := by
    obtain ⟨hl, hd⟩ := h.kept.drafted he draft writes left rfl
    exact ⟨hd, hl.not_prefix, fun rules move hother =>
      h.untouched he rfl hother⟩

/-- From an orderly area on, whatever is asked for, in whatever order steps
are taken and whatever fails: at every moment the log tells all that can be
seen, and no draft can be seen or touched by others. -/
theorem shows_play (h : area.Orderly) (rules : DeskRules)
    (orders : List Order) (patterns : List String) (moves : List Move) :
    ((opened area orders patterns).play rules moves).Shows area orders :=
  (sound_play h orders patterns moves).shows

/-- An upload with a delete of all files in the middle of it: the delete
takes away the file that was there, and does not find the draft, which is
committed afterwards. -/
theorem sweptUpload_shows :
    let rules : DeskRules := { allowOverwrite := true, shortPathRoot := "" }
    let path : StagePath := ⟨["a".toList], by decide, by decide⟩
    let orders : List Order :=
      [.create "a", .upload "a" (.whole (octetsOf "one"))]
    let turns (numbers : List Nat) : List Move :=
      numbers.map fun n => .errand ⟨n, .none, ⟨0, 0⟩⟩
    let moves : List Move := turns [0, 0, 1, 1, 1]
      ++ List.replicate 3 (.sweep 0 .none) ++ turns [1]
    let s := (opened .fresh orders ["*"]).play rules moves
    StagingArea.fresh.Orderly ∧ s.Shows .fresh orders
      ∧ s.log = [.stored 0 path, .removed 0 path, .stored 1 path] :=
  ⟨orderly_fresh _, shows_play (orderly_fresh _) _ _ _ _, by decide +kernel⟩

end Traffic

end BatchAdmin
