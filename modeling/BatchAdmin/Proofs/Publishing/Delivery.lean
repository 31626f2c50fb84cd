/-
Each file is delivered once.

However the steps of publishes are mixed, and whatever the channel says,
the claim on a file has one holder: a call holds it from the moment it
claims the file until it gives it back, and for good once the channel has
accepted. The list of claimed files tells exactly which files have a
holder (`Sound`). All else follows. There is one delivery in flight for
a file at most; none is in flight and none is attempted once one has
succeeded; and a file whose deliveries have all failed and ended is not
claimed any more, so that it can be tried again.

What a call has done is told by how far it has come (`Stage.told`), so a
call announces its file once when the channel has accepted it, and never
when it has not. What waits for the subscriber is what all calls have
announced, in order.
-/
import BatchAdmin.Proofs.Publishing.Bulletin
import BatchAdmin.Proofs.Publishing.Calls

namespace BatchAdmin

-- ========================================================== what stages tell

namespace Stage

/-- The call holds the claim on its file. -/
def holds (stage : Stage) : Bool := stage.inFlight || stage.delivered

/-- What a call at this stage has done. -/
def told : Stage → List Deed
  | .asked | .claimed | .answered (.ok false) => []
  | .refused _ | .answered (.error _) => [.offered false]
  | .accepted => [.offered true]
  | .answered (.ok true) => [.offered true, .announced]

/-- A call has delivered its file if the channel accepted its offer. -/
theorem offered_mem_told {stage : Stage} :
    .offered true ∈ stage.told ↔ stage.delivered = true := by
  cases stage with
  | answered answer =>
      rcases answer with why | published
      · simp [told, delivered]
      · cases published <;> simp [told, delivered]
  | _ => simp [told, delivered]

theorem holds_of_delivered {stage : Stage} (h : stage.delivered = true) :
    stage.holds = true := by
  rw [holds, h, Bool.or_true]

theorem holds_of_inFlight {stage : Stage} (h : stage.inFlight = true) :
    stage.holds = true := by
  rw [holds, h, Bool.true_or]

/-- A call has done nothing, or offered its file in vain, or had it
accepted and then announced it, which after the acceptance is its next
step. -/
theorem told_cases (stage : Stage) :
    stage.told = [] ∨ stage.told = [.offered false]
      ∨ stage.told = [.offered true, .announced]
      ∨ (stage.told = [.offered true] ∧ stage = .accepted) := by
  cases stage with
  | answered answer =>
      rcases answer with why | published
      · exact .inr (.inl rfl)
      · cases published with
        | false => exact .inl rfl
        | true => exact .inr (.inr (.inl rfl))
  | asked => exact .inl rfl
  | claimed => exact .inl rfl
  | refused why => exact .inr (.inl rfl)
  | accepted => exact .inr (.inr (.inr ⟨rfl, rfl⟩))

end Stage

namespace Dispatch

variable {d : Dispatch} {key : FileKey} {number : Nat}

-- ============================================================ the histories

/-- The files announced, in order. -/
def announced (d : Dispatch) : List FileInfo :=
  (d.history.filter (·.deed = .announced)).map (·.file)

/-- No offer follows an offer that was accepted. -/
def Final (deeds : List Deed) : Prop :=
  deeds.Pairwise fun earlier later =>
    earlier = .offered true → ∀ accepted, later ≠ .offered accepted

/-- The claim on every file is kept as it should be. -/
structure Sound (d : Dispatch) : Prop where
  /-- What a call has done is told by its stage. -/
  told : ∀ {n : Nat} {c : Call}, d.calls[n]? = some c →
    d.deedsOf n = c.stage.told
  /-- Every deed is of a call, for the file of the call. -/
  owned : ∀ e ∈ d.history, ∃ c, d.calls[e.call]? = some c ∧ e.file = c.file
  /-- Two calls do not hold the claim on one file. -/
  sole : ∀ {n m : Nat} {c c' : Call}, d.calls[n]? = some c →
    d.calls[m]? = some c' → c.file.key = c'.file.key →
    c.stage.holds = true → c'.stage.holds = true → n = m
  /-- A file is claimed if a call holds the claim. -/
  claimed : ∀ key, key ∈ d.publisher.claimed
    ↔ ∃ (n : Nat) (c : Call), d.calls[n]? = some c ∧ c.file.key = key
        ∧ c.stage.holds = true
  /-- Once a file is accepted it is not offered again. -/
  final : ∀ key, Final (d.deeds key)
  /-- The bulletin tells of what was announced. -/
  bulletin : d.publisher.bulletin.Tells d.announced

/-- A file is delivered if a call has delivered it. -/
theorem Sound.delivered_iff (h : d.Sound) : d.Delivered key
    ↔ ∃ (n : Nat) (c : Call), d.calls[n]? = some c ∧ c.file.key = key
        ∧ c.stage.delivered = true := by
  unfold Delivered deeds
  rw [List.mem_map]
  constructor
  · rintro ⟨e, hmem, hdeed⟩
    obtain ⟨he, hkey⟩ := List.mem_filter.1 hmem
    obtain ⟨c, hc, hfile⟩ := h.owned e he
    refine ⟨e.call, c, hc, ?_, ?_⟩
    · rw [← hfile]
      exact of_decide_eq_true hkey
    · rw [← Stage.offered_mem_told, ← h.told hc]
      exact List.mem_map.2 ⟨e, List.mem_filter.2 ⟨he, by simp⟩, hdeed⟩
  · rintro ⟨n, c, hc, hkey, hd⟩
    rw [← Stage.offered_mem_told, ← h.told hc] at hd
    obtain ⟨e, hmem, hdeed⟩ := List.mem_map.1 hd
    obtain ⟨he, hn⟩ := List.mem_filter.1 hmem
    obtain ⟨c', hc', hfile⟩ := h.owned e he
    rw [of_decide_eq_true hn, hc] at hc'
    injection hc' with hc'
    refine ⟨e, List.mem_filter.2 ⟨he, ?_⟩, hdeed⟩
    rw [decide_eq_true_eq, hfile, ← hc', hkey]

theorem sound_opened (channel : Option Channel) (files : List FileInfo) :
    (opened (.fresh channel) files).Sound := by
  have hasked : ∀ {n : Nat} {c : Call},
      (opened (.fresh channel) files).calls[n]? = some c →
      c.stage = .asked := by
    intro n c hc
    unfold opened at hc
    rw [List.getElem?_map, Option.map_eq_some_iff] at hc
    obtain ⟨file, -, rfl⟩ := hc
    rfl
  refine ⟨?_, ?_, ?_, ?_, ?_, Bulletin.tells_empty⟩
  · intro n c hc
    rw [hasked hc]
    rfl
  · intro e he
    cases he
  · intro n m c c' hc _ _ hh _
    rw [hasked hc] at hh
    cases hh
  · intro key
    constructor
    · intro hk
      cases hk
    · rintro ⟨n, c, hc, -, hh⟩
      rw [hasked hc] at hh
      cases hh
  · intro key
    exact List.Pairwise.nil

end Dispatch

-- ================================================================ the steps

variable {p q : Publisher} {number : Nat} {c c' : Call} {events : List Event}

namespace Call.Steps

/-- What a step does is what the next stage tells besides. -/
theorem told (h : Steps p number c q c' events) :
    c'.stage.told = c.stage.told ++ events.map (·.deed) := by
  cases h with
  | rest => simp
  | _ => simp_all [Stage.told]

/-- The claim on the file is kept with the list of claimed files: nothing
changes, or a free claim is taken, or the claim is given back. -/
theorem claim_cases (h : Steps p number c q c' events) :
    (q.claimed = p.claimed ∧ c'.stage.holds = c.stage.holds)
      ∨ (c.file.key ∉ p.claimed ∧ q.claimed = c.file.key :: p.claimed
          ∧ c'.stage.holds = true)
      ∨ (q.claimed = p.claimed.filter (· ≠ c.file.key)
          ∧ c.stage.holds = true ∧ c'.stage.holds = false) := by
  cases h with
  | turnAway hs _ => exact .inl ⟨rfl, by rw [hs]; rfl⟩
  | claim _ hfree => exact .inr (.inl ⟨hfree, rfl, rfl⟩)
  | refuse _ _ hs => exact .inl ⟨rfl, by rw [hs]; rfl⟩
  | accept _ hs => exact .inl ⟨rfl, by rw [hs]; rfl⟩
  | release _ hs => exact .inr (.inr ⟨rfl, by rw [hs]; rfl, rfl⟩)
  | announce hs => exact .inl ⟨rfl, by rw [hs]; rfl⟩
  | rest _ _ => exact .inl ⟨rfl, rfl⟩

/-- A file is offered by a call whose delivery has not succeeded and that
holds the claim on it. -/
theorem offering (h : Steps p number c q c' events) {accepted : Bool}
    (hmem : .offered accepted ∈ events.map (·.deed)) :
    c.stage.holds = true ∧ c.stage.delivered = false := by
  cases h with
  | refuse _ _ hs => rw [hs]; exact ⟨rfl, rfl⟩
  | accept _ hs => rw [hs]; exact ⟨rfl, rfl⟩
  | _ => simp at hmem

/-- The bulletin tells of what the step announces, besides what it told of
before. -/
theorem bulletin (h : Steps p number c q c' events) {files : List FileInfo}
    (hb : p.bulletin.Tells files) :
    q.bulletin.Tells (files
      ++ (events.filter (·.deed = .announced)).map (·.file)) := by
  cases h with
  | announce _ => exact hb.announce c.file
  | _ => exact (List.append_nil files).symm ▸ hb

end Call.Steps

-- ============================================================= the dispatch

namespace Dispatch

variable {d : Dispatch}

/-- A call other than the one with this number holds the claim. -/
def HeldBesides (d : Dispatch) (number : Nat) (key : FileKey) : Prop :=
  ∃ (n : Nat) (x : Call), n ≠ number ∧ d.calls[n]? = some x
    ∧ x.file.key = key ∧ x.stage.holds = true

/-- A file is claimed if one call or another than it holds the claim. -/
theorem Sound.claimed_before (h : d.Sound) (hc : d.calls[number]? = some c)
    (key : FileKey) : key ∈ d.publisher.claimed
    ↔ (c.file.key = key ∧ c.stage.holds = true)
      ∨ d.HeldBesides number key := by
  rw [h.claimed key]
  constructor
  · rintro ⟨n, x, hx, hkey, hh⟩
    by_cases hn : n = number
    · rw [hn, hc] at hx
      injection hx with hx
      exact .inl ⟨hx ▸ hkey, hx ▸ hh⟩
    · exact .inr ⟨n, x, hn, hx, hkey, hh⟩
  · rintro (⟨hkey, hh⟩ | ⟨n, x, -, hx, hkey, hh⟩)
    · exact ⟨number, c, hc, hkey, hh⟩
    · exact ⟨n, x, hx, hkey, hh⟩

section Step

variable (h : d.Sound) (hc : d.calls[number]? = some c)
  (hs : Call.Steps d.publisher number c q c' events)

include h hc hs

/-- After a step its call has done what its stage tells; the others have
done nothing. -/
theorem Sound.told_step {n : Nat} {x : Call}
    (hx : (d.calls.set number c')[n]? = some x) :
    ((d.history ++ events).filter (·.call = n)).map (·.deed)
      = x.stage.told := by
  rw [List.filter_append, List.map_append]
  rcases (Turns.getElem?_set_iff hc).1 hx with ⟨rfl, rfl⟩ | ⟨hn, hx⟩
  · have hall : events.filter (·.call = n) = events :=
      List.filter_eq_self.2 fun e he => by simp [(hs.event e he).1]
    rw [hall, hs.told, ← h.told hc]
    rfl
  · have hnone : events.filter (·.call = n) = [] := by
      rw [List.filter_eq_nil_iff]
      intro e he
      rw [(hs.event e he).1]
      simpa using Ne.symm hn
    rw [hnone, List.map_nil, List.append_nil, ← h.told hx]
    rfl

/-- After a step every deed is of a call, for the file of the call. -/
theorem Sound.owned_step : ∀ e ∈ d.history ++ events,
    ∃ x, (d.calls.set number c')[e.call]? = some x ∧ e.file = x.file := by
  intro e he
  rcases List.mem_append.1 he with he | he
  · obtain ⟨x, hx, hfile⟩ := h.owned e he
    by_cases hn : e.call = number
    · rw [hn, hc] at hx
      injection hx with hx
      refine ⟨c', (Turns.getElem?_set_iff hc).2 (.inl ⟨hn, rfl⟩), ?_⟩
      rw [hfile, ← hx, hs.file]
    · exact ⟨x, (Turns.getElem?_set_iff hc).2 (.inr ⟨hn, hx⟩), hfile⟩
  · obtain ⟨hn, hfile⟩ := hs.event e he
    refine ⟨c', (Turns.getElem?_set_iff hc).2 (.inl ⟨hn, rfl⟩), ?_⟩
    rw [hfile, hs.file]

/-- No other call holds the claim on the file of a call that holds it
after its step. -/
theorem Sound.unrivalled (hh : c'.stage.holds = true) {n : Nat} {x : Call}
    (hn : n ≠ number) (hx : d.calls[n]? = some x)
    (hkey : x.file.key = c.file.key) : x.stage.holds = false := by
  rw [← Bool.not_eq_true]
  intro hxh
  rcases hs.claim_cases with ⟨-, heq⟩ | ⟨hfree, -⟩ | ⟨-, -, hlost⟩
  · exact hn (h.sole hx hc hkey hxh (heq ▸ hh))
  · exact hfree ((h.claimed _).2 ⟨n, x, hx, hkey, hxh⟩)
  · rw [hh] at hlost
    cases hlost

/-- After a step no two calls hold the claim on one file. -/
theorem Sound.sole_step {n m : Nat} {x y : Call}
    (hx : (d.calls.set number c')[n]? = some x)
    (hy : (d.calls.set number c')[m]? = some y)
    (hkey : x.file.key = y.file.key) (hxh : x.stage.holds = true)
    (hyh : y.stage.holds = true) : n = m := by
  rcases (Turns.getElem?_set_iff hc).1 hx with ⟨hn, hxc⟩ | ⟨hn, hxd⟩
  · rcases (Turns.getElem?_set_iff hc).1 hy with ⟨hm, -⟩ | ⟨hm, hyd⟩
    · rw [hn, hm]
    · rw [hxc, hs.file] at hkey
      rw [h.unrivalled hc hs (hxc ▸ hxh) hm hyd hkey.symm] at hyh
      cases hyh
  · rcases (Turns.getElem?_set_iff hc).1 hy with ⟨-, hyc⟩ | ⟨-, hyd⟩
    · rw [hyc, hs.file] at hkey
      rw [h.unrivalled hc hs (hyc ▸ hyh) hn hxd hkey] at hxh
      cases hxh
    · exact h.sole hxd hyd hkey hxh hyh

/-- After a step a file is claimed if a call holds the claim. -/
theorem Sound.claimed_step (key : FileKey) : key ∈ q.claimed
    ↔ ∃ (n : Nat) (x : Call), (d.calls.set number c')[n]? = some x
        ∧ x.file.key = key ∧ x.stage.holds = true := by
  have hafter : (∃ (n : Nat) (x : Call),
        (d.calls.set number c')[n]? = some x ∧ x.file.key = key
          ∧ x.stage.holds = true)
      ↔ (c.file.key = key ∧ c'.stage.holds = true)
        ∨ d.HeldBesides number key := by
    constructor
    · rintro ⟨n, x, hx, hkey, hh⟩
      rcases (Turns.getElem?_set_iff hc).1 hx with ⟨-, rfl⟩ | ⟨hn, hx⟩
      · exact .inl ⟨hs.file ▸ hkey, hh⟩
      · exact .inr ⟨n, x, hn, hx, hkey, hh⟩
    · rintro (⟨hkey, hh⟩ | ⟨n, x, hn, hx, hkey, hh⟩)
      · exact ⟨number, c', (Turns.getElem?_set_iff hc).2 (.inl ⟨rfl, rfl⟩),
          hs.file ▸ hkey, hh⟩
      · exact ⟨n, x, (Turns.getElem?_set_iff hc).2 (.inr ⟨hn, hx⟩), hkey, hh⟩
  have hbefore := h.claimed_before hc key
  rw [hafter]
  rcases hs.claim_cases with ⟨hq, heq⟩ | ⟨-, hq, hh⟩ | ⟨hq, hh, hlost⟩
  · rw [hq, hbefore, heq]
  · rw [hq, List.mem_cons, hbefore]
    constructor
    · rintro (rfl | ⟨hkey, -⟩ | hother)
      · exact .inl ⟨rfl, hh⟩
      · exact .inl ⟨hkey, hh⟩
      · exact .inr hother
    · rintro (⟨hkey, -⟩ | hother)
      · exact .inl hkey.symm
      · exact .inr (.inr hother)
  · rw [hq, List.mem_filter, hbefore, decide_eq_true_eq]
    constructor
    · rintro ⟨⟨hkey, -⟩ | hother, hne⟩
      · exact absurd hkey.symm hne
      · exact .inr hother
    · rintro (⟨-, hh'⟩ | hother)
      · rw [hlost] at hh'
        cases hh'
      · refine ⟨.inr hother, ?_⟩
        obtain ⟨n, x, hn, hx, hkey, hxh⟩ := hother
        rintro rfl
        exact hn (h.sole hx hc hkey hxh hh)

/-- After a step no offer follows one that was accepted: who offers a file
holds the claim on it, and so nobody else has delivered it. -/
theorem Sound.final_step (key : FileKey) :
    Final (((d.history ++ events).filter (·.file.key = key)).map
      (·.deed)) := by
  unfold Final
  rw [List.filter_append, List.map_append, List.pairwise_append]
  refine ⟨h.final key, ?_, ?_⟩
  · cases hs <;> simp [List.filter_cons, apply_ite]
  · rintro _ hearlier _ hlater rfl accepted rfl
    obtain ⟨e, hmem, hdeed⟩ := List.mem_map.1 hlater
    obtain ⟨he, hkey⟩ := List.mem_filter.1 hmem
    rw [(hs.event e he).2, decide_eq_true_eq] at hkey
    obtain ⟨hh, hfresh⟩ := hs.offering (List.mem_map.2 ⟨e, he, hdeed⟩)
    obtain ⟨n, x, hx, hxkey, hxd⟩ := h.delivered_iff.1 hearlier
    have hn := h.sole hx hc (hxkey.trans hkey.symm)
      (Stage.holds_of_delivered hxd) hh
    rw [hn, hc] at hx
    injection hx with hx
    rw [hx, hxd] at hfresh
    cases hfresh

end Step

/-- A step keeps the claims as they should be. -/
theorem Sound.step (h : d.Sound) (hc : d.calls[number]? = some c)
    (hs : Call.Steps d.publisher number c q c' events) :
    Sound ⟨q, d.calls.set number c', d.history ++ events⟩ where
  told := h.told_step hc hs
  owned := h.owned_step hc hs
  sole := h.sole_step hc hs
  claimed := h.claimed_step hc hs
  final := h.final_step hc hs
  bulletin := by
    unfold announced
    rw [List.filter_append, List.map_append]
    exact hs.bulletin h.bulletin

/-- Every turn keeps the claims as they should be. -/
theorem Sound.take (h : d.Sound) (turn : Nat) : (d.take turn).Sound := by
  cases hc : d.calls[turn]? with
  | none =>
      rw [take_of_none hc]
      exact h
  | some c =>
      rw [take_of_getElem? hc]
      exact h.step hc (c.steps d.publisher turn)

/-- However the calls are mixed, the claims are kept as they should be. -/
theorem sound_play (channel : Option Channel) (files : List FileInfo)
    (turns : List Nat) : ((opened (.fresh channel) files).play turns).Sound :=
  Turns.keeps (fun _ turn h => h.take turn) (sound_opened channel files) turns

-- ========================================================== the deliveries

/-- Where no two positions are picked, one at most is. -/
private theorem length_filter_le_one {α : Type} {pick : α → Bool} :
    ∀ {l : List α}, (∀ {n m : Nat} {x y : α}, l[n]? = some x →
        l[m]? = some y → pick x = true → pick y = true → n = m) →
      (l.filter pick).length ≤ 1
  | [], _ => Nat.zero_le 1
  | a :: l, hsole => by
      have hrest : (l.filter pick).length ≤ 1 :=
        length_filter_le_one fun {n m} _ _ hx hy hpx hpy =>
          Nat.succ.inj (hsole (n := n + 1) (m := m + 1) hx hy hpx hpy)
      by_cases ha : pick a = true
      · have hnone : l.filter pick = [] := by
          rw [List.filter_eq_nil_iff]
          intro x hmem hpx
          obtain ⟨n, hx⟩ := List.mem_iff_getElem?.1 hmem
          have h0 := hsole (n := 0) (m := n + 1) rfl hx ha hpx
          omega
        rw [List.filter_cons_of_pos ha, hnone]
        exact Nat.le_refl 1
      · rw [List.filter_cons_of_neg ha]
        exact hrest

/-- One delivery of a file is in flight at most. -/
theorem Sound.length_inFlight_le (h : d.Sound) (key : FileKey) :
    (d.inFlight key).length ≤ 1 := by
  refine length_filter_le_one fun {n m x y} hx hy hpx hpy => ?_
  rw [decide_eq_true_eq] at hpx hpy
  exact h.sole hx hy (hpx.1.trans hpy.1.symm)
    (Stage.holds_of_inFlight hpx.2) (Stage.holds_of_inFlight hpy.2)

/-- Without a delivery in flight, no call holds the claim but one that has
delivered the file. -/
theorem Sound.claimed_iff_delivered (h : d.Sound) {key : FileKey}
    (hnone : d.inFlight key = []) :
    key ∈ d.publisher.claimed ↔ d.Delivered key := by
  rw [h.claimed, h.delivered_iff]
  constructor
  · rintro ⟨n, c, hc, hkey, hh⟩
    rcases (Bool.or_eq_true ..).mp hh with hin | hdone
    · have hmem : c ∈ d.inFlight key :=
        List.mem_filter.2 ⟨List.mem_of_getElem? hc, by simp [hkey, hin]⟩
      rw [hnone] at hmem
      cases hmem
    · exact ⟨n, c, hc, hkey, hdone⟩
  · rintro ⟨n, c, hc, hkey, hdone⟩
    exact ⟨n, c, hc, hkey, Stage.holds_of_delivered hdone⟩

/-- Nothing is offered after it was accepted. -/
theorem Final.not_mem_after {before after : List Deed} {accepted : Bool}
    (h : Final (before ++ .offered true :: after)) :
    .offered accepted ∉ after := by
  intro hmem
  have htail := (List.pairwise_append.1 h).2.1
  exact (List.pairwise_cons.1 htail).1 _ hmem rfl accepted rfl

/-- One offer is accepted at most. -/
theorem Final.count_le_one {deeds : List Deed} (h : Final deeds) :
    deeds.count (.offered true) ≤ 1 := by
  by_cases hmem : .offered true ∈ deeds
  · obtain ⟨before, after, rfl, hbefore⟩ := List.eq_append_cons_of_mem hmem
    rw [List.count_append, List.count_eq_zero.2 hbefore,
      List.count_cons_self, List.count_eq_zero.2 h.not_mem_after]
  · rw [List.count_eq_zero.2 hmem]
    exact Nat.zero_le 1

/-- However any number of publishes of any files are mixed, and whatever
the channel says: one delivery of a file is in flight at most, one
succeeds at most, and after it none is attempted; without a delivery in
flight a file is claimed exactly if its delivery has succeeded; and each
call has been refused, or accepted and then announced once, or has still to
be either. The last sixty-four announcements wait for the subscriber, in
their order, and those before them are counted as lost. -/
theorem delivered_once (channel : Option Channel) (files : List FileInfo)
    (turns : List Nat) :
    let d := (opened (.fresh channel) files).play turns
    (∀ key, (d.inFlight key).length ≤ 1
        ∧ (d.deeds key).count (.offered true) ≤ 1
        ∧ (∀ before after accepted,
            d.deeds key = before ++ .offered true :: after →
            .offered accepted ∉ after)
        ∧ (d.inFlight key = [] →
            (key ∈ d.publisher.claimed ↔ d.Delivered key)))
      ∧ (∀ n c, d.calls[n]? = some c →
          d.deedsOf n = [] ∨ d.deedsOf n = [.offered false]
            ∨ d.deedsOf n = [.offered true, .announced]
            ∨ (d.deedsOf n = [.offered true] ∧ c.stage = .accepted))
      ∧ d.publisher.bulletin.waiting
          = d.announced.drop (d.announced.length - 64)
      ∧ d.publisher.bulletin.lost = d.announced.length - 64 := by
  intro d
  have h : d.Sound := sound_play channel files turns
  refine ⟨fun key => ⟨h.length_inFlight_le key, (h.final key).count_le_one,
    ?_, h.claimed_iff_delivered⟩, ?_, h.bulletin.waiting, h.bulletin.lost⟩
  · intro before after accepted hdeeds
    exact Final.not_mem_after (hdeeds ▸ h.final key)
  · intro n c hc
    rw [h.told hc]
    exact c.stage.told_cases

end Dispatch

end BatchAdmin
