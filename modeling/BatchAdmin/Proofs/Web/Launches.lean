/-
Launches with a line of parameters.

A launch may be asked for with parameters given twice: as an object and as
one line. The job is launched with the pairs of the line, and over them
those of the object (`launch_of_line`); a line that cannot be read is
refused before anything is launched. `launch_parameters_read_back` puts
this together with what lines are read as.
-/
import BatchAdmin.Proofs.Job.Parameters
import BatchAdmin.Proofs.Web.Targets

namespace BatchAdmin.Web

open Text

variable {g : Gateway} {r : Request} {job line : String}
  {parameters : List (String × String)}

-- ================================================================ the requests

/-- A launch is answered at its route, whatever the base path. -/
theorem handle_executions (hmethod : r.method = "POST")
    (hroute : Route.find? (BasePath.ofText (basePath g)) (readTarget r.uri).1
      = some .executions) :
    handle g r = launch g r := by
  rw [handle_allowed hmethod (by decide) hroute (by decide)]
  unfold answerBehind
  rw [if_neg fun h => Bool.false_ne_true h.2]
  rfl

/-- A job is launched with what its line says, and over that with what the
object says; or with nothing, if the line cannot be read. -/
theorem launch_of_line
    (hbody : LaunchBody.read r = .ok ⟨job, parameters, some line⟩) :
    launch g r
      = match Parameters.read line with
        | .ok d => controlled 201 (g.launch job (d.insertAll parameters))
        | .error failure => (.ofFailure failure, g) := by
  unfold launch LaunchBody.effective
  simp only [hbody, bind, Except.bind]
  cases Parameters.read line <;> rfl

/-- For all lines: if one is written for pairs of keys and values that can be
given, with blanks and blank segments anywhere, it is read as the dictionary
that has under each key the value of its last pair; it fails to be read
exactly if one of its segments is faulty. A request to launch a job with
parameters given both as an object and as a line launches it with those of
the line, of which those of the object take the place, and changes nothing
if the line cannot be read. -/
theorem launch_parameters_read_back :
    (∀ (pairs : List (String × String)) (line : String),
      Parameters.Written pairs line.toList →
      (∀ p ∈ pairs, Parameters.Key p.1.toList ∧ Parameters.Value p.2.toList) →
      ∃ d, Parameters.read line = .ok d
        ∧ ∀ key, d.get? key = Dict.last? key pairs)
    ∧ (∀ line : String,
      ((∃ failure, Parameters.read line = .error failure)
        ↔ ∃ s ∈ pieces (· == ',') line.toList, Parameters.Faulty s)
      ∧ ∀ failure, Parameters.read line = .error failure →
          ∃ detail, failure = .invalidParameters detail)
    ∧ ∀ (g : Gateway) (r : Request) (job line : String)
        (parameters : List (String × String)),
      r.method = "POST" →
      Route.find? (BasePath.ofText (basePath g)) (readTarget r.uri).1
        = some .executions →
      LaunchBody.read r = .ok ⟨job, parameters, some line⟩ →
      (∀ d, Parameters.read line = .ok d →
        ∃ both, handle g r = controlled 201 (g.launch job both)
          ∧ ∀ key, both.get? key
            = (Dict.last? key parameters).or (d.get? key))
      ∧ ∀ failure, Parameters.read line = .error failure →
          handle g r = (.ofFailure failure, g) := by
  refine ⟨fun pairs line hline hpairs => ?_,
    fun line => ⟨Parameters.read_fails_iff,
      fun _ => Parameters.invalidParameters_of_read⟩,
    fun g r job line parameters hmethod hroute hbody => ?_⟩
  · exact ⟨_, Parameters.read_written hline hpairs, Dict.get?_ofList pairs⟩
  · rw [handle_executions hmethod hroute, launch_of_line hbody]
    constructor
    · intro d hd
      rw [hd]
      exact ⟨_, rfl, Dict.get?_insertAll d parameters⟩
    · intro failure hfails
      rw [hfails]

-- ---------------------------------------------------- a launch asked for twice

/-- A document with parameters given both ways. -/
def bothText : List Char :=
  ("\x7b\"jobname\":\"load\",\"parameters\":\x7b\"date\":\"2024-01-02\"\x7d,"
    ++ "\"jobparameters\":\"input = a=b.csv,, date=2024-01-01\"\x7d").toList

/-- A request to launch what the document says. -/
def bothWays : Request :=
  { method := "POST", uri := "/executions"
    headers := [("content-type", "application/json")]
    body := octets bothText }

theorem read_bothWays :
    LaunchBody.read bothWays = .ok ⟨"load", [("date", "2024-01-02")],
      some "input = a=b.csv,, date=2024-01-01"⟩ := by
  have hshort : ¬ LaunchBody.sizeLimit < bothWays.body.length := by
    decide +kernel
  have htext : chars? bothWays.body = some bothText := chars?_octets bothText
  have hdocument : ((Json.selected? LaunchBody.names bothText).bind
      LaunchBody.ofJson) = some ⟨"load", [("date", "2024-01-02")],
        some "input = a=b.csv,, date=2024-01-01"⟩ := by decide +kernel
  unfold LaunchBody.read
  dsimp only
  rw [if_neg (not_or.2 ⟨by decide +kernel, hshort⟩), htext, Option.bind_some,
    hdocument]

/-- The line is read back, and of the date the object's counts. -/
theorem bothWays_launches :
    ∃ d both, Parameters.read "input = a=b.csv,, date=2024-01-01" = .ok d
      ∧ d.get? "input" = some "a=b.csv"
      ∧ handle (.fresh .default ⟨0, 0⟩) bothWays
        = controlled 201 ((Gateway.fresh .default ⟨0, 0⟩).launch "load" both)
      ∧ both.get? "input" = some "a=b.csv"
      ∧ both.get? "date" = some "2024-01-02" := by
  obtain ⟨hwritten, -, hlaunch⟩ := launch_parameters_read_back
  have hinput : Parameters.Segment [("input", "a=b.csv")]
      "input = a=b.csv".toList :=
    @Parameters.Segment.pair "input" "a=b.csv" [] [' '] [' '] []
      (by decide) (by decide) (by decide) (by decide)
  have hdate : Parameters.Segment [("date", "2024-01-01")]
      " date=2024-01-01".toList :=
    @Parameters.Segment.pair "date" "2024-01-01" [' '] [] [] []
      (by decide) (by decide) (by decide) (by decide)
  have hnone : Parameters.Segment [] [] := .blank (by decide)
  have hline : Parameters.Written
      [("input", "a=b.csv"), ("date", "2024-01-01")]
      "input = a=b.csv,, date=2024-01-01".toList :=
    .cons hinput (.cons hnone (.last hdate))
  obtain ⟨d, hd, hget⟩ := hwritten _ _ hline (by decide)
  obtain ⟨both, hhandle, hboth⟩ :=
    (hlaunch (.fresh .default ⟨0, 0⟩) bothWays "load" _
      [("date", "2024-01-02")] rfl (by decide +kernel) read_bothWays).1 d hd
  refine ⟨d, both, hd, ?_, hhandle, ?_, ?_⟩
  · rw [hget]
    decide
  · rw [hboth, hget]
    decide
  · rw [hboth, hget]
    decide

end BatchAdmin.Web
