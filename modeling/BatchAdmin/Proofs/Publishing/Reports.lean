/-
What a publish reports, and what has become of the file.

A publish that answers true has delivered its file. A publish that
answers false has only found the file claimed: the call that holds the
claim may have delivered the file, and may as well be about to fail and
give the claim back. So a caller can be told that a file is published
which has not been delivered, and will not be unless somebody tries again
(`turnedAway_undelivered`).

That is the only way for reports and deliveries to disagree.
`reportsHold_iff_unheard`: whatever the order of the calls, at every
moment a file that some call has reported as published, and of which no
delivery is in flight, has been delivered, exactly if a claim is given
back only when no call has been turned away from its file.
-/
import BatchAdmin.Proofs.Publishing.Delivery

namespace BatchAdmin

theorem Stage.turnedAway_iff {stage : Stage} :
    stage.turnedAway = true ↔ stage = .answered (.ok false) := by
  constructor
  · intro h
    match stage, h with
    | .answered (.ok false), _ => rfl
  · rintro rfl
    rfl

namespace Dispatch

variable {d : Dispatch} {number : Nat} {c c' : Call} {q : Publisher}
  {events : List Event}

-- ============================================================== the reports

/-- A call has reported that the file is published. -/
def Reported (d : Dispatch) (key : FileKey) : Prop :=
  ∃ c ∈ d.calls, c.file.key = key ∧ ∃ now, c.stage = .answered (.ok now)

/-- What is reported has been delivered, unless a delivery is in
flight. -/
def ReportsHold (d : Dispatch) : Prop :=
  ∀ key, d.Reported key → d.inFlight key = [] → d.Delivered key

/-- If the next step of the call gives its claim back, no call has been
turned away from the file. -/
def Unheard (d : Dispatch) (number : Nat) : Prop :=
  ∀ c why, d.calls[number]? = some c → c.stage = .refused why →
    ∀ x ∈ d.calls, x.file.key = c.file.key → x.stage.turnedAway = false

/-- Whoever was turned away was so from a file that is still claimed. -/
def Backed (d : Dispatch) : Prop :=
  ∀ c ∈ d.calls, c.stage.turnedAway = true →
    c.file.key ∈ d.publisher.claimed

/-- The reports hold as long as the claims do that others were turned away
for: without a delivery in flight, a claim is kept by a call that has
delivered. -/
theorem Sound.reportsHold_iff (h : d.Sound) : d.ReportsHold ↔ d.Backed := by
  constructor
  · intro hr c hmem haway
    have hreported : d.Reported c.file.key :=
      ⟨c, hmem, rfl, false, Stage.turnedAway_iff.1 haway⟩
    by_cases hflight : d.inFlight c.file.key = []
    · exact (h.claimed_iff_delivered hflight).2 (hr _ hreported hflight)
    · obtain ⟨x, hx⟩ := List.exists_mem_of_ne_nil _ hflight
      obtain ⟨hx, hin⟩ := List.mem_filter.1 hx
      rw [decide_eq_true_eq] at hin
      obtain ⟨n, hx⟩ := List.mem_iff_getElem?.1 hx
      exact (h.claimed _).2 ⟨n, x, hx, hin.1, Stage.holds_of_inFlight hin.2⟩
  · rintro hbacked key ⟨c, hmem, rfl, now, hstage⟩ hflight
    cases now with
    | true =>
        obtain ⟨n, hc⟩ := List.mem_iff_getElem?.1 hmem
        exact h.delivered_iff.2 ⟨n, c, hc, rfl, by rw [hstage]; rfl⟩
    | false =>
        exact (h.claimed_iff_delivered hflight).1
          (hbacked c hmem (Stage.turnedAway_iff.2 hstage))

-- ================================================================ the steps

/-- Claims that stay are as good for those turned away as they were. -/
theorem Backed.set (h : d.Backed)
    (hkept : ∀ key ∈ d.publisher.claimed, key ∈ q.claimed)
    (hnew : c'.stage.turnedAway = true → c'.file.key ∈ q.claimed) :
    Backed ⟨q, d.calls.set number c', d.history ++ events⟩ := by
  intro x hx haway
  rcases List.mem_or_eq_of_mem_set hx with hx | rfl
  · exact hkept _ (h x hx haway)
  · exact hnew haway

/-- A claim that is given back must not have turned anybody away. -/
theorem Backed.release_iff (h : d.Backed) (hc : d.calls[number]? = some c)
    {why : String} (hstage : c.stage = .refused why) :
    Backed ⟨d.publisher.release c.file.key,
        d.calls.set number { c with stage := .answered (.error why) },
        d.history ++ events⟩
      ↔ ∀ x ∈ d.calls, x.file.key = c.file.key →
          x.stage.turnedAway = false := by
  constructor
  · intro hafter x hx hkey
    rw [← Bool.not_eq_true]
    intro haway
    obtain ⟨n, hx⟩ := List.mem_iff_getElem?.1 hx
    have hn : n ≠ number := by
      rintro rfl
      rw [hc] at hx
      injection hx with hx
      rw [← hx, hstage] at haway
      cases haway
    have hmem := hafter x (List.mem_of_getElem?
      ((Turns.getElem?_set_iff hc).2 (.inr ⟨hn, hx⟩))) haway
    exact of_decide_eq_true (List.mem_filter.1 hmem).2 hkey
  · intro hnone x hx haway
    rcases List.mem_or_eq_of_mem_set hx with hx | rfl
    · refine List.mem_filter.2 ⟨h x hx haway, decide_eq_true ?_⟩
      intro hkey
      rw [hnone x hx hkey] at haway
      cases haway
    · cases haway

/-- A step leaves nobody turned away for nothing exactly if it does not give
back a claim that somebody was turned away for: only giving a claim back
makes a file free. -/
theorem Backed.step_iff (h : d.Backed) (hc : d.calls[number]? = some c)
    (hs : Call.Steps d.publisher number c q c' events) :
    Backed ⟨q, d.calls.set number c', d.history ++ events⟩
      ↔ ∀ why, c.stage = .refused why →
          ∀ x ∈ d.calls, x.file.key = c.file.key →
            x.stage.turnedAway = false := by
  cases hs with
  | turnAway hstage hclaimed =>
      exact iff_of_true (h.set (fun _ hk => hk) fun _ => hclaimed)
        (by simp [hstage])
  | claim hstage _ =>
      exact iff_of_true (h.set (fun _ => List.mem_cons_of_mem _) nofun)
        (by simp [hstage])
  | refuse _ _ hstage =>
      exact iff_of_true (h.set (fun _ hk => hk) nofun) (by simp [hstage])
  | accept _ hstage =>
      exact iff_of_true (h.set (fun _ hk => hk) nofun) (by simp [hstage])
  | release why hstage =>
      rw [h.release_iff hc hstage]
      exact ⟨fun hnone _ _ => hnone, fun hnone => hnone why hstage⟩
  | announce hstage =>
      exact iff_of_true (h.set (fun _ hk => hk) nofun) (by simp [hstage])
  | rest answer hstage =>
      exact iff_of_true
        (h.set (fun _ hk => hk) (h c (List.mem_of_getElem? hc)))
        (by simp [hstage])

/-- So does a turn. -/
theorem Backed.take_iff (h : d.Backed) (turn : Nat) :
    (d.take turn).Backed ↔ d.Unheard turn := by
  unfold Unheard
  cases hc : d.calls[turn]? with
  | none =>
      rw [take_of_none hc]
      exact iff_of_true h nofun
  | some c =>
      rw [take_of_getElem? hc, h.step_iff hc (c.steps d.publisher turn)]
      constructor
      · rintro hnone x why ⟨⟩
        exact hnone why
      · exact fun hnone why => hnone c why rfl

-- =========================================================== what they say

/-- However any number of publishes of any files are mixed, and whatever
the channel says: at every moment every file that a call has reported as
published, and of which no delivery is in flight, has been delivered,
exactly if a claim is given back only while no call has been turned away
from its file. -/
theorem reportsHold_iff_unheard (channel : Option Channel)
    (files : List FileInfo) (turns : List Nat) :
    (∀ cut, cut <+: turns →
        ((opened (.fresh channel) files).play cut).ReportsHold)
      ↔ Turns.Heeds take Unheard (opened (.fresh channel) files) turns := by
  refine Turns.throughout_iff_heeds (P := Sound) (Q := ReportsHold)
    (fun _ turn h => h.take turn) (fun s turn h hr => ?_)
    (sound_opened channel files) ?_
  · rw [(h.take turn).reportsHold_iff]
    exact (h.reportsHold_iff.1 hr).take_iff turn
  · rw [(sound_opened channel files).reportsHold_iff]
    intro c hc haway
    obtain ⟨file, -, rfl⟩ := List.mem_map.1 hc
    cases haway

/-- Two publishes of one file, through a channel that refuses the first
delivery: the first call claims the file, the second is told that it is
published already, the delivery fails, and the claim is given back. Then
nothing is in flight and nothing has been delivered. -/
theorem turnedAway_undelivered :
    let file : FileInfo :=
      { path := "in/report.csv", shortPath := "in/report.csv",
        timestamp := "2024-01-01T00:00:00Z", isLocal := true,
        deleteCount := 0, uploadId := none }
    let d := (opened (.fresh (some (.fickle (· == 0) 0))) [file, file]).play
      [0, 1, 0, 0]
    d.calls.map (·.stage) = [.answered (.error "downstream unavailable"),
        .answered (.ok false)]
      ∧ d.Reported file.key ∧ d.inFlight file.key = []
      ∧ ¬ d.Delivered file.key := by
  refine ⟨by decide, ⟨_, List.mem_cons_of_mem _ List.mem_cons_self, rfl,
    false, rfl⟩, by decide, by decide⟩

end Dispatch

end BatchAdmin
