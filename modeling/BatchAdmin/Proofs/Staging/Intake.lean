/-
Requests that overlap at the desk.

A request that stores a file is not one step. It looks into overwriting
first; then it creates its file, or opens a draft, writes chunk by chunk
and commits; and between any two of these other requests may take steps
of their own. What they share is the staging area; what each has for
itself is how far it has come (`Phase`). A turn is the number of an errand,
whose next step is taken, with what the store does to it and the time it
happens (`Intake.take`), so a list of turns is one of the orders in which
any number of requests can be mixed. The steps are those of the desk, and
a request that takes its turns with nobody in between is served as at the
desk (`play_alone`).

The history tells who was found free to store and who has stored, in
order. It is not part of what the requests act on: no step reads it.
-/
import BatchAdmin.Staging.Desk
import BatchAdmin.Proofs.Staging.Calls
import BatchAdmin.Proofs.Turns

namespace BatchAdmin

open Text

-- ============================================================== the orders

/-- What a client asks to have stored. -/
inductive Order where
  /-- An empty file. -/
  | create (path : String)
  | upload (path : String) (content : Content)
  /-- An upload of which folder and file name are told. -/
  | uploadInto (folder name : String) (content : Content)

namespace Order

/-- The path the order is for. -/
def target : Order → Answer StagePath
  | .create path => StagePath.read path
  | .upload path _ => StagePath.read path
  | .uploadInto folder name _ => StagePath.inFolder folder name

/-- The content that comes with an upload. -/
def content? : Order → Option Content
  | .create _ => none
  | .upload _ content => some content
  | .uploadInto _ _ content => some content

/-- What the file is to hold. -/
def octets (order : Order) : List Octet :=
  match order.content? with
  | none => []
  | some content => content.chunks.flatten

/-- What the desk does for the order. -/
def serve (order : Order) (rules : DeskRules) (faults : StoreFaults)
    (area : StagingArea) (now : Instant) : Answer FileInfo × StagingArea :=
  match order with
  | .create path => Desk.create rules faults area path now
  | .upload path content => Desk.upload rules faults area path content now
  | .uploadInto folder name content =>
      match StagePath.inFolder folder name with
      | .error failure => (.error failure, area)
      | .ok path => Desk.uploadTo rules faults area path content now

/-- The turns after which the order has been answered for sure. -/
def span (order : Order) : Nat :=
  match order.content? with
  | none => 2
  | some content => content.chunks.length + 3

theorem two_le_span (order : Order) : 2 ≤ order.span := by
  unfold span
  split <;> omega

theorem le_span {order : Order} {content : Content}
    (h : order.content? = some content) :
    content.chunks.length + 3 ≤ order.span := by
  unfold span
  rw [h]

/-- The desk does one thing after the other for every kind of order. -/
theorem serve_eq (order : Order) (rules : DeskRules) (faults : StoreFaults)
    (area : StagingArea) (now : Instant) :
    order.serve rules faults area now
      = match order.target with
        | .error failure => (.error failure, area)
        | .ok path =>
            match Desk.checkOverwrite rules faults area path,
              order.content? with
            | .error failure, _ => (.error failure, area)
            | .ok (), none =>
                match area.create faults path now with
                | (.error fault, area) =>
                    (.error (Desk.storeFailure fault), area)
                | (.ok stored, area) => (.ok (Desk.info rules stored), area)
            | .ok (), some content =>
                match Desk.transfer faults area path content now with
                | (.error failure, area) => (.error failure, area)
                | (.ok stored, area) =>
                    (.ok (Desk.info rules stored), area) := by
  cases order with
  | create path =>
      unfold serve Desk.create
      cases htarget : StagePath.read path with
      | error failure => simp only [target, htarget]
      | ok path =>
          simp only [target, htarget, content?]
          cases Desk.checkOverwrite rules faults area path <;> rfl
  | upload path content =>
      unfold serve Desk.upload Desk.uploadTo
      cases htarget : StagePath.read path with
      | error failure => simp only [target, htarget]
      | ok path =>
          simp only [target, htarget, content?]
          cases Desk.checkOverwrite rules faults area path <;> rfl
  | uploadInto folder name content =>
      unfold serve Desk.uploadTo
      cases htarget : StagePath.inFolder folder name with
      | error failure => simp only [target, htarget]
      | ok path =>
          simp only [target, htarget, content?]
          cases Desk.checkOverwrite rules faults area path <;> rfl

end Order

-- ============================================================= the errands

/-- How far an order has come. -/
inductive Errand.Phase where
  | asked
  /-- It may store at the path. -/
  | cleared (path : StagePath)
  /-- A draft has had `writes` writes, and `left` is still to come. -/
  | filling (draft : Draft) (writes : Nat) (left : Content)
  | answered (answer : Answer FileInfo)

/-- The path at which the order may yet store. -/
def Errand.Phase.path? : Errand.Phase → Option StagePath
  | .cleared path => some path
  | .filling draft _ _ => some draft.path
  | _ => none

/-- The request has been granted. -/
def Errand.Phase.succeeded : Errand.Phase → Bool
  | .answered (.ok _) => true
  | _ => false

/-- Where the draft is that is being filled. -/
def Errand.Phase.hidden? : Errand.Phase → Option Location
  | .filling draft _ _ => some draft.hidden
  | _ => none

/-- An order on its way. -/
structure Errand where
  order : Order
  phase : Errand.Phase

/-- What is told of an errand. -/
inductive Mark where
  | cleared
  | stored (path : StagePath)
  deriving DecidableEq

/-- The path at which there has been stored. -/
def Mark.path? : Mark → Option StagePath
  | .cleared => none
  | .stored path => some path

theorem Mark.path?_eq_some {told : Mark} {path : StagePath} :
    told.path? = some path ↔ told = .stored path := by
  cases told with
  | cleared => simp [path?]
  | stored path' => simp [path?]

/-- An errand that goes on, with the calls that fail for it and the time. -/
structure Turn where
  errand : Nat
  faults : StoreFaults
  now : Instant

namespace Errand

/-- The first step: the path is read and looked into. -/
def ask (rules : DeskRules) (turn : Turn) (area : StagingArea)
    (order : Order) : Phase × Option Mark :=
  match order.target with
  | .error failure => (.answered (.error failure), none)
  | .ok path =>
      match Desk.checkOverwrite rules turn.faults area path with
      | .error failure => (.answered (.error failure), none)
      | .ok () => (.cleared path, some .cleared)

/-- The second step: an empty file is created, or a draft is opened for
content that brings something. -/
def enter (rules : DeskRules) (turn : Turn) (area : StagingArea)
    (path : StagePath) :
    Option Content → StagingArea × Phase × Option Mark
  | none =>
      match area.create turn.faults path turn.now with
      | (.error fault, area) =>
          (area, .answered (.error (Desk.storeFailure fault)), none)
      | (.ok stored, area) =>
          (area, .answered (.ok (Desk.info rules stored)),
            some (.stored path))
  | some content =>
      if content.chunks.all (·.isEmpty) then
        (area, .answered (.error (Desk.fruitless path content)), none)
      else
        match area.stage turn.faults path turn.now with
        | (.error fault, area) =>
            (area, .answered (.error (Desk.transferFailure path fault)), none)
        | (.ok draft, area) => (area, .filling draft 0 content, none)

/-- A further step: the next chunk is written, or the draft is
committed. -/
def fill (rules : DeskRules) (turn : Turn) (area : StagingArea)
    (draft : Draft) (writes : Nat) (left : Content) :
    StagingArea × Phase × Option Mark :=
  match left.chunks.dropWhile (·.isEmpty) with
  | chunk :: rest =>
      match area.write turn.faults draft writes chunk turn.now with
      | .error fault =>
          (area.discard draft,
            .answered (.error (Desk.transferFailure draft.path fault)), none)
      | .ok area =>
          (area, .filling draft (writes + 1) { left with chunks := rest },
            none)
  | [] =>
      if left.broken then
        (area.discard draft, .answered (.error (Desk.brokenOff draft.path)),
          none)
      else
        match area.commit turn.faults draft with
        | (.error fault, area) =>
            (area.discard draft,
              .answered (.error (Desk.transferFailure draft.path fault)),
              none)
        | (.ok stored, area) =>
            (area, .answered (.ok (Desk.info rules stored)),
              some (.stored draft.path))

/-- The next step of an errand: the area after it, the phase after it, and
what is told of it. -/
def step (rules : DeskRules) (turn : Turn) (area : StagingArea) (e : Errand) :
    StagingArea × Phase × Option Mark :=
  match e.phase with
  | .asked => (area, ask rules turn area e.order)
  | .cleared path => enter rules turn area path e.order.content?
  | .filling draft writes left => fill rules turn area draft writes left
  | .answered answer => (area, .answered answer, none)

end Errand

-- ============================================================== the intake

/-- A staging area with the errands at it and what has been told of them. -/
structure Intake where
  area : StagingArea
  errands : List Errand
  history : List (Nat × Mark)

namespace Intake

/-- Requests of which none has taken a step. -/
def opened (area : StagingArea) (orders : List Order) : Intake :=
  ⟨area, orders.map (⟨·, .asked⟩), []⟩

/-- The intake after the next step of an errand. -/
def take (rules : DeskRules) (s : Intake) (turn : Turn) : Intake :=
  match s.errands[turn.errand]? with
  | none => s
  | some e =>
      let (area, phase, mark) := e.step rules turn s.area
      ⟨area, s.errands.set turn.errand { e with phase },
        s.history ++ (mark.map (turn.errand, ·)).toList⟩

/-- The intake after a list of turns. -/
def play (rules : DeskRules) (s : Intake) (turns : List Turn) : Intake :=
  turns.foldl (take rules) s

/-- The path at which an errand stores when it takes this turn. -/
def storesAt? (rules : DeskRules) (s : Intake) (turn : Turn) :
    Option StagePath := do
  let e ← s.errands[turn.errand]?
  let mark ← (e.step rules turn s.area).2.2
  mark.path?

/-- The paths at which there has been stored. -/
def storedIn (history : List (Nat × Mark)) : List StagePath :=
  history.filterMap fun told => told.2.path?

/-- The paths at which there has been stored since an errand was found free
to store. -/
def storedSince (s : Intake) (number : Nat) : List StagePath :=
  storedIn (s.history.dropWhile (· ≠ (number, .cleared)))

theorem take_of_getElem? {rules : DeskRules} {s : Intake} {turn : Turn}
    {e : Errand} (h : s.errands[turn.errand]? = some e) :
    s.take rules turn
      = ⟨(e.step rules turn s.area).1,
          s.errands.set turn.errand
            { e with phase := (e.step rules turn s.area).2.1 },
          s.history ++ ((e.step rules turn s.area).2.2.map
            (turn.errand, ·)).toList⟩ := by
  unfold take
  rw [h]

theorem take_of_none {rules : DeskRules} {s : Intake} {turn : Turn}
    (h : s.errands[turn.errand]? = none) : s.take rules turn = s := by
  unfold take
  rw [h]

end Intake

-- ============================================================== one errand

namespace Errand

variable {rules : DeskRules} {turn : Turn} {area : StagingArea}

/-- An errand that takes some turns with nobody in between. -/
def run (rules : DeskRules) (turn : Turn) :
    Nat → StagingArea → Errand → StagingArea × Phase
  | 0, area, e => (area, e.phase)
  | n + 1, area, e =>
      let (area, phase, _) := e.step rules turn area
      run rules turn n area { e with phase }

theorem run_answered (n : Nat) (order : Order) (answer : Answer FileInfo) :
    run rules turn n area ⟨order, .answered answer⟩
      = (area, .answered answer) := by
  induction n with
  | zero => rfl
  | succ n ih => exact ih

/-- What the desk makes of a draft that is to get this content. -/
def finish (rules : DeskRules) (turn : Turn) (area : StagingArea)
    (draft : Draft) (writes : Nat) (left : Content) :
    StagingArea × Phase :=
  match Desk.fill turn.faults area draft turn.now writes left.chunks with
  | (.error fault, area) =>
      (area, .answered (.error (Desk.transferFailure draft.path fault)))
  | (.ok (), area) =>
      if left.broken then
        (area.discard draft, .answered (.error (Desk.brokenOff draft.path)))
      else
        match area.commit turn.faults draft with
        | (.error fault, area) =>
            (area.discard draft,
              .answered (.error (Desk.transferFailure draft.path fault)))
        | (.ok stored, area) =>
            (area, .answered (.ok (Desk.info rules stored)))

/-- With a turn for every chunk and one more, a draft is filled and
committed as at the desk. -/
theorem run_filling (order : Order) (draft : Draft) (writes : Nat)
    (left : Content) (n : Nat) (hn : left.chunks.length < n) :
    run rules turn n area ⟨order, .filling draft writes left⟩
      = finish rules turn area draft writes left := by
  obtain ⟨chunks, broken⟩ := left
  induction chunks generalizing n area writes with
  | nil =>
      obtain ⟨k, rfl⟩ := Nat.exists_eq_succ_of_ne_zero (Nat.ne_of_gt hn)
      unfold run step fill finish Desk.fill
      cases broken with
      | true => exact run_answered k order _
      | false =>
          rcases hc : area.commit turn.faults draft with ⟨_ | _, area'⟩
          · simp only [List.dropWhile_nil, hc]
            exact run_answered k order _
          · simp only [List.dropWhile_nil, hc]
            exact run_answered k order _
  | cons chunk rest ih =>
      obtain ⟨k, rfl⟩ :=
        Nat.exists_eq_succ_of_ne_zero (Nat.ne_of_gt (Nat.zero_lt_of_lt hn))
      rw [List.length_cons] at hn
      by_cases hempty : chunk.isEmpty = true
      · -- An empty chunk takes no turn.
        have hfinish : finish rules turn area draft writes
            ⟨chunk :: rest, broken⟩
              = finish rules turn area draft writes ⟨rest, broken⟩ := by
          unfold finish
          simp only [Desk.fill, hempty, if_true]
        rw [hfinish, ← ih writes (k + 1) (Nat.lt_of_succ_lt hn)]
        unfold run step fill
        simp only [List.dropWhile_cons, hempty, if_true]
      · unfold finish
        rw [Desk.fill, if_neg hempty]
        unfold run step fill
        simp only [List.dropWhile_cons_of_neg hempty]
        cases hw : area.write turn.faults draft writes chunk turn.now with
        | error fault =>
            simp only
            exact run_answered k order _
        | ok area =>
            simp only
            exact ih (writes + 1) k (Nat.lt_of_succ_lt_succ hn)

/-- An upload that may store takes its turns as at the desk. -/
theorem run_cleared {order : Order} {content : Content}
    (h : order.content? = some content) (path : StagePath) (n : Nat)
    (hn : content.chunks.length + 2 ≤ n) :
    run rules turn n area ⟨order, .cleared path⟩
      = match Desk.transfer turn.faults area path content turn.now with
        | (.error failure, area) => (area, .answered (.error failure))
        | (.ok stored, area) =>
            (area, .answered (.ok (Desk.info rules stored))) := by
  obtain ⟨k, rfl⟩ := Nat.exists_eq_add_of_le' (Nat.le_of_add_left_le hn)
  unfold run step enter Desk.transfer
  simp only [h]
  split
  · exact run_answered (k + 1) order _
  · cases hs : area.stage turn.faults path turn.now with
    | mk outcome area =>
      cases outcome with
      | error fault => exact run_answered (k + 1) order _
      | ok draft =>
          have hpath := StagingArea.path_of_stage hs
          simp only
          rw [run_filling order draft 0 content (k + 1) (by omega)]
          unfold finish
          rw [hpath]
          rcases Desk.fill turn.faults area draft turn.now 0 content.chunks
            with ⟨_ | _, area⟩
          · rfl
          · cases content.broken with
            | true => rfl
            | false =>
                rcases hc : area.commit turn.faults draft with
                  ⟨_ | _, area'⟩
                · simp [hc]
                · simp [hc]

/-- With turns enough an order is served as at the desk. -/
theorem run_span (order : Order) :
    run rules turn order.span area ⟨order, .asked⟩
      = ((order.serve rules turn.faults area turn.now).2,
          .answered (order.serve rules turn.faults area turn.now).1) := by
  obtain ⟨n, hspan⟩ := Nat.exists_eq_add_of_le' order.two_le_span
  rw [order.serve_eq, hspan]
  unfold run step ask
  cases htarget : order.target with
  | error failure => exact run_answered (n + 1) order _
  | ok path =>
      cases hcheck : Desk.checkOverwrite rules turn.faults area path with
      | error failure =>
          simp only [hcheck]
          exact run_answered (n + 1) order _
      | ok _ =>
          simp only [hcheck]
          cases hcontent : order.content? with
          | none =>
              unfold run step enter
              simp only [hcontent]
              rcases area.create turn.faults path turn.now with ⟨_ | _, area⟩
              · exact run_answered n order _
              · exact run_answered n order _
          | some content =>
              have hlength := order.le_span hcontent
              rw [run_cleared hcontent path (n + 1) (by omega)]
              dsimp only
              rcases Desk.transfer turn.faults area path content turn.now
                with ⟨_ | _, area⟩
              · rfl
              · rfl

end Errand

namespace Intake

variable {rules : DeskRules} {faults : StoreFaults} {now : Instant}

/-- Turns that all go to one errand are its own. -/
theorem play_replicate (n : Nat) (area : StagingArea) (e : Errand)
    (history : List (Nat × Mark)) :
    let s := play rules ⟨area, [e], history⟩
      (List.replicate n ⟨0, faults, now⟩)
    let r := e.run rules ⟨0, faults, now⟩ n area
    s.area = r.1 ∧ s.errands = [⟨e.order, r.2⟩] := by
  induction n generalizing area e history with
  | zero => exact ⟨rfl, rfl⟩
  | succ n ih => exact ih _ _ _

/-- A request that takes its turns with nobody in between is served as at
the desk. -/
theorem play_alone (area : StagingArea) (order : Order) :
    let s := (opened area [order]).play rules
      (List.replicate order.span ⟨0, faults, now⟩)
    let served := order.serve rules faults area now
    s.area = served.2 ∧ s.errands = [⟨order, .answered served.1⟩] := by
  have h := @play_replicate rules faults now
    order.span area ⟨order, .asked⟩ []
  rw [Errand.run_span] at h
  exact h

end Intake

end BatchAdmin
