/-
Publishes that overlap.

A publish is not one step. It claims its file, offers it to the channel,
and then either gives the claim back or tells the subscriber, and between
any two of these other publishes may take steps of their own. What they
share is the publisher; what each has for itself is how far it has come
(`Stage`). A turn is the number of a call, whose next step is taken
(`Dispatch.take`), so a list of numbers is one of the orders in which any
number of calls can be mixed. The steps are those of the publisher, and a
call that takes its turns with nobody in between does what a publish does
(`play_alone`).

The history tells the offers and announcements in their order, with the
call that made them. It is not part of what the calls act on: no step
reads it.
-/
import BatchAdmin.Publishing.Publisher
import BatchAdmin.Proofs.Turns

namespace BatchAdmin

-- =============================================================== the calls

/-- How far a publish has come. -/
inductive Stage where
  | asked
  /-- It has the claim; the channel has not been offered the file. -/
  | claimed
  /-- The channel refused the file; the claim has not been given back. -/
  | refused (why : String)
  /-- The channel accepted the file; the subscriber has not been told. -/
  | accepted
  | answered (answer : Except String Bool)
  deriving DecidableEq

namespace Stage

/-- A delivery is in flight: the claim is held, and the channel has not
accepted the file. -/
def inFlight : Stage → Bool
  | .claimed | .refused _ => true
  | _ => false

/-- The channel has accepted the file of the call. -/
def delivered : Stage → Bool
  | .accepted | .answered (.ok true) => true
  | _ => false

/-- The call was told that there is nothing to do. -/
def turnedAway : Stage → Bool
  | .answered (.ok false) => true
  | _ => false

end Stage

/-- A publish of a file on its way. -/
structure Call where
  file : FileInfo
  stage : Stage
  deriving DecidableEq

/-- What a publish does that others can see. -/
inductive Deed where
  | offered (accepted : Bool)
  | announced
  deriving DecidableEq

/-- A deed of the call with this number, for its file. -/
structure Event where
  call : Nat
  file : FileInfo
  deed : Deed
  deriving DecidableEq

/-- The next step of the call with a number: the publisher after it, the
call after it, and what it did. -/
def Call.step (publisher : Publisher) (number : Nat) (c : Call) :
    Publisher × Call × List Event :=
  match c.stage with
  | .asked =>
      match publisher.claim c.file.key with
      | none => (publisher, { c with stage := .answered (.ok false) }, [])
      | some publisher => (publisher, { c with stage := .claimed }, [])
  | .claimed =>
      match publisher.offer c.file with
      | (.error why, publisher) =>
          (publisher, { c with stage := .refused why },
            [⟨number, c.file, .offered false⟩])
      | (.ok (), publisher) =>
          (publisher, { c with stage := .accepted },
            [⟨number, c.file, .offered true⟩])
  | .refused why =>
      (publisher.release c.file.key,
        { c with stage := .answered (.error why) }, [])
  | .accepted =>
      (publisher.announce c.file, { c with stage := .answered (.ok true) },
        [⟨number, c.file, .announced⟩])
  | .answered _ => (publisher, c, [])

-- ============================================================ the dispatch

/-- A publisher with the calls on it and what they have done. -/
structure Dispatch where
  publisher : Publisher
  calls : List Call
  history : List Event

namespace Dispatch

/-- Calls that have not taken a step. -/
def opened (publisher : Publisher) (files : List FileInfo) : Dispatch :=
  ⟨publisher, files.map (⟨·, .asked⟩), []⟩

/-- The dispatch after the next step of a call. -/
def take (d : Dispatch) (number : Nat) : Dispatch :=
  match d.calls[number]? with
  | none => d
  | some c =>
      let (publisher, c, events) := c.step d.publisher number
      ⟨publisher, d.calls.set number c, d.history ++ events⟩

/-- The dispatch after a list of turns. -/
def play (d : Dispatch) (turns : List Nat) : Dispatch :=
  turns.foldl take d

/-- What has been done for the files with a key. -/
def deeds (d : Dispatch) (key : FileKey) : List Deed :=
  (d.history.filter (·.file.key = key)).map (·.deed)

/-- What a call has done. -/
def deedsOf (d : Dispatch) (number : Nat) : List Deed :=
  (d.history.filter (·.call = number)).map (·.deed)

/-- The calls with a key whose delivery is in flight. -/
def inFlight (d : Dispatch) (key : FileKey) : List Call :=
  d.calls.filter fun c => c.file.key = key ∧ c.stage.inFlight

/-- A delivery of the key has succeeded. -/
def Delivered (d : Dispatch) (key : FileKey) : Prop :=
  .offered true ∈ d.deeds key

instance (d : Dispatch) (key : FileKey) : Decidable (d.Delivered key) :=
  inferInstanceAs (Decidable (_ ∈ _))

theorem take_of_getElem? {d : Dispatch} {number : Nat} {c : Call}
    (h : d.calls[number]? = some c) :
    d.take number
      = ⟨(c.step d.publisher number).1,
          d.calls.set number (c.step d.publisher number).2.1,
          d.history ++ (c.step d.publisher number).2.2⟩ := by
  unfold take
  rw [h]

theorem take_of_none {d : Dispatch} {number : Nat}
    (h : d.calls[number]? = none) : d.take number = d := by
  unfold take
  rw [h]

/-- Taken without a break, the steps of a call are a publish. -/
theorem play_alone (publisher : Publisher) (file : FileInfo) :
    let d := (opened publisher [file]).play [0, 0, 0]
    d.publisher = (publisher.publish file).2
      ∧ d.calls = [⟨file, .answered (publisher.publish file).1⟩] := by
  dsimp only
  unfold Publisher.publish play opened
  simp only [List.foldl_cons, List.foldl_nil, List.map_cons, List.map_nil]
  cases hclaim : publisher.claim file.key with
  | none => simp [take, Call.step, hclaim]
  | some claimed =>
      rcases hoffer : claimed.offer file with ⟨outcome, offered⟩
      cases outcome with
      | error why => simp [take, Call.step, hclaim, hoffer]
      | ok _ => simp [take, Call.step, hclaim, hoffer]

end Dispatch

-- =============================================================== the steps

/-- What a step of a call can be, with all that it changes. -/
inductive Call.Steps (p : Publisher) (number : Nat) (c : Call) :
    Publisher → Call → List Event → Prop
  | turnAway : c.stage = .asked → c.file.key ∈ p.claimed →
      Steps p number c p { c with stage := .answered (.ok false) } []
  | claim : c.stage = .asked → c.file.key ∉ p.claimed →
      Steps p number c { p with claimed := c.file.key :: p.claimed }
        { c with stage := .claimed } []
  | refuse (channel : Option Channel) (why : String) : c.stage = .claimed →
      Steps p number c { p with channel } { c with stage := .refused why }
        [⟨number, c.file, .offered false⟩]
  | accept (channel : Option Channel) : c.stage = .claimed →
      Steps p number c { p with channel } { c with stage := .accepted }
        [⟨number, c.file, .offered true⟩]
  | release (why : String) : c.stage = .refused why →
      Steps p number c (p.release c.file.key)
        { c with stage := .answered (.error why) } []
  | announce : c.stage = .accepted →
      Steps p number c (p.announce c.file)
        { c with stage := .answered (.ok true) } [⟨number, c.file, .announced⟩]
  | rest (answer : Except String Bool) : c.stage = .answered answer →
      Steps p number c p c []

/-- An offer changes nothing but the channel. -/
theorem Publisher.offer_eq (p : Publisher) (file : FileInfo) :
    ∃ channel, (p.offer file).2 = { p with channel } := by
  obtain ⟨channel, claimed, bulletin⟩ := p
  cases channel with
  | none => exact ⟨none, rfl⟩
  | some channel => exact ⟨_, rfl⟩

/-- The next step of a call is one of these. -/
theorem Call.steps (p : Publisher) (number : Nat) (c : Call) :
    Steps p number c (c.step p number).1 (c.step p number).2.1
      (c.step p number).2.2 := by
  obtain ⟨file, stage⟩ := c
  cases stage with
  | asked =>
      unfold step Publisher.claim
      by_cases h : file.key ∈ p.claimed
      · simp only [List.contains_iff_mem, h, if_true]
        exact .turnAway rfl h
      · simp only [List.contains_iff_mem, h, if_false]
        exact .claim rfl h
  | claimed =>
      obtain ⟨channel, hchannel⟩ := p.offer_eq file
      unfold step
      rcases hoffer : p.offer file with ⟨outcome, offered⟩
      rw [hoffer] at hchannel
      dsimp only at hchannel
      subst hchannel
      cases outcome with
      | error why => simpa only [hoffer] using .refuse channel why rfl
      | ok _ => simpa only [hoffer] using .accept channel rfl
  | refused why => exact .release why rfl
  | accepted => exact .announce rfl
  | answered answer => exact .rest answer rfl

/-- A step keeps the file of its call. -/
theorem Call.Steps.file {p q : Publisher} {number : Nat} {c c' : Call}
    {events : List Event} (h : Steps p number c q c' events) :
    c'.file = c.file := by
  cases h <;> rfl

/-- A step does what it does for the file of its call. -/
theorem Call.Steps.event {p q : Publisher} {number : Nat} {c c' : Call}
    {events : List Event} (h : Steps p number c q c' events) :
    ∀ e ∈ events, e.call = number ∧ e.file = c.file := by
  cases h <;> simp

end BatchAdmin
