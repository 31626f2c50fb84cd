/-
Sessions: lines answered one after another.

Whatever a client sends, a request comes to one event at the gateway at most
(`handle_reacts`), and to none at all if it only asks (`handle_reading`). So a
session of the program is a list of events, whatever the lines are and
whenever they come in (`session_plays`), and what is known of gateways by
their events is known of the program.
-/
import BatchAdmin.Proofs.Gateway.Orders
import BatchAdmin.Web.Exchange

namespace BatchAdmin.Web

open Text

variable {g : Gateway}

-- ================================================================ one request

/-- A gateway is as it was, or after one event. -/
def Reacts (before after : Gateway) : Prop :=
  after = before ∨ ∃ event, after = before.after event

theorem Reacts.refl (g : Gateway) : Reacts g g := .inl rfl

theorem Reacts.after (g : Gateway) (event : Gateway.Event) :
    Reacts g (g.after event) := .inr ⟨event, rfl⟩

/-- The first file of a form is the last thing that is looked at. -/
theorem receive_reacts (boundary : List Octet) (fuel : Nat)
    (folder : Option String) (s : List Octet) :
    Reacts g (UploadForm.receive g boundary fuel folder s).2 := by
  induction fuel generalizing folder s with
  | zero => exact .refl g
  | succ fuel ih =>
      unfold UploadForm.receive
      split
      · exact .refl g
      · exact .refl g
      · split
        · split
          · exact .refl g
          · apply Reacts.after g (.uploadAndPublish _ _ _)
        · split
          · exact .refl g
          · apply ih

theorem uploadForm_reacts (g : Gateway) (r : Request)
    (folder : Option String) :
    Reacts g (UploadForm.handle g r folder).2 := by
  unfold UploadForm.handle
  split
  · exact .refl g
  · split
    · exact .refl g
    · apply receive_reacts

theorem launch_reacts (g : Gateway) (r : Request) :
    Reacts g (launch g r).2 := by
  unfold launch
  dsimp only
  split
  · exact .refl g
  · apply Reacts.after g (.launch _ _)

theorem stopAll_reacts (g : Gateway) (q : Query) :
    Reacts g (stopAll g q).2 := by
  unfold stopAll
  split
  · exact .refl g
  · exact .refl g
  · exact .after g .stopAll

theorem controlExecution_reacts (g : Gateway) (id : List Char) (q : Query) :
    Reacts g (controlExecution g id q).2 := by
  unfold controlExecution
  dsimp only
  split
  · exact .refl g
  · apply Reacts.after g (.stop _)
  · apply Reacts.after g (.restart _)
  · exact .refl g

theorem deleteFiles_reacts (g : Gateway) (path : List Char) :
    Reacts g (deleteFiles g path).2 := by
  unfold deleteFiles
  split
  · exact .refl g
  · apply Reacts.after g (.delete _)

theorem uploadFile_reacts (g : Gateway) (q : Query) (r : Request) :
    Reacts g (uploadFile g q r).2 := by
  unfold uploadFile
  split
  · exact .refl g
  · apply uploadForm_reacts

theorem uploadInto_reacts (g : Gateway) (path : List Char) (r : Request) :
    Reacts g (uploadInto g path r).2 := by
  unfold uploadInto
  split
  · exact .refl g
  · apply uploadForm_reacts

theorem answerRoute_reacts (g : Gateway) (route : Route) (method : String)
    (q : Query) (r : Request) :
    Reacts g (answerRoute g route method q r).2 := by
  unfold answerRoute
  split
  case h_1 => exact uploadFile_reacts g q r
  case h_3 => apply uploadInto_reacts
  case h_4 => apply deleteFiles_reacts
  case h_9 => exact launch_reacts g r
  case h_10 => exact stopAll_reacts g q
  case h_12 => apply controlExecution_reacts
  all_goals exact .refl g

theorem answerBehind_reacts (g : Gateway) (base : BasePath) (route : Route)
    (method : String) (q : Query) (r : Request) :
    Reacts g (answerBehind g base route method q r).2 := by
  unfold answerBehind
  split
  · exact .refl g
  · apply answerRoute_reacts

/-- A request comes to one event at most. -/
theorem handle_reacts (g : Gateway) (r : Request) :
    Reacts g (handle g r).2 := by
  unfold handle
  dsimp only
  split
  · exact .refl g
  · split
    · exact .refl g
    · split
      · apply answerBehind_reacts
      · apply answerBehind_reacts

/-- A method that asks and does nothing. -/
def Reading (method : String) : Prop := method = "GET" ∨ method = "HEAD"

instance (method : String) : Decidable (Reading method) :=
  inferInstanceAs (Decidable (_ ∨ _))

/-- What a route answers to such a method changes nothing, if the route
allows it. -/
theorem answerRoute_reading {route : Route} {method : String}
    (hmethod : Reading method)
    (hallowed : route.allowed.contains method = true) (q : Query)
    (r : Request) : (answerRoute g route method q r).2 = g := by
  have hpost : ¬Reading "POST" := by decide
  have hput : ¬Reading "PUT" := by decide
  unfold answerRoute
  split
  case h_1 | h_3 | h_9 => exact absurd hmethod hpost
  case h_10 | h_12 => exact absurd hmethod hput
  case h_4 =>
    -- only a delete and an upload are allowed there
    rcases hmethod with rfl | rfl
    · cases hallowed
    · cases hallowed
  all_goals rfl

theorem handle_reading (g : Gateway) {r : Request}
    (hmethod : Reading r.method) : (handle g r).2 = g := by
  have hbehind (base : BasePath) (route : Route) (q : Query)
      (hallowed : route.allowed.contains r.method = true) :
      (answerBehind g base route r.method q r).2 = g := by
    unfold answerBehind
    split
    · rfl
    · exact answerRoute_reading hmethod hallowed q r
  unfold handle
  dsimp only
  split
  · rfl
  · split
    · rfl
    · rename_i hallowed
      rw [Bool.not_eq_true, Bool.not_eq_false'] at hallowed
      split
      · apply hbehind _ _ _ hallowed
      · apply hbehind _ _ _ hallowed

-- =============================================================== many requests

/-- The gateway after lines that have come in, each at a moment. -/
def session (g : Gateway) (lines : List (Instant × String)) : Gateway :=
  lines.foldl (fun g line => (answerLine g line.1 line.2).2) g

/-- A line lets time pass, comes to an event at most, and lets the runners
move. -/
theorem answerLine_plays (g : Gateway) (now : Instant) (line : String) :
    ∃ events, (answerLine g now line).2 = g.play events := by
  unfold answerLine
  split
  · exact ⟨[], rfl⟩
  · rename_i doc hread
    let ms := g.now.millisBetween now
    rcases handle_reacts (movedTo g now) (.ofJson doc) with
      hsame | ⟨event, hevent⟩
    · refine ⟨[.advance ms, .settle], ?_⟩
      show (handle (movedTo g now) (.ofJson doc)).2.settle = _
      rw [hsame]
      rfl
    · refine ⟨[.advance ms, event, .settle], ?_⟩
      show (handle (movedTo g now) (.ofJson doc)).2.settle = _
      rw [hevent]
      rfl

/-- A session is a list of events. -/
theorem session_plays (g : Gateway) (lines : List (Instant × String)) :
    ∃ events, session g lines = g.play events := by
  induction lines generalizing g with
  | nil => exact ⟨[], rfl⟩
  | cons line rest ih =>
      obtain ⟨events, hfirst⟩ := answerLine_plays g line.1 line.2
      obtain ⟨more, hrest⟩ := ih (g.play events)
      refine ⟨events ++ more, ?_⟩
      show session (answerLine g line.1 line.2).2 rest = _
      rw [hfirst, hrest, Gateway.play_append]

/-- After every session the records of the program hold together. -/
theorem sound_session (settings : Settings) (now : Instant)
    (root : StagingRoot) (lines : List (Instant × String)) :
    (session (.fresh settings now root) lines).Sound := by
  obtain ⟨events, hplay⟩ := session_plays (.fresh settings now root) lines
  rw [hplay]
  exact Gateway.sound_play settings now root events

end BatchAdmin.Web
