/-
Files side by side.

Which files an area can have together is up to their paths alone: where
none of them leads through another, requests can have made all of them
(`mem_paths_filed`). So a path has always company if it has a character
that is no slash: a path in which a digit stands in its place is another of
the same depth (`StagePath.exists_varied`).

What can have been made of an empty area is said by `Reached`: in rounds of
requests and deletes, each with steps of many in any order, under any rules
and with anything failing. Whole requests one after another are a special
case (`reached_history`).
-/
import BatchAdmin.Proofs.Staging.Reuse
import BatchAdmin.Proofs.Staging.Traffic

namespace BatchAdmin

open Text StagingArea

-- ============================================================ the characters

section Varied

variable {home : StagingRoot} {c d : Char} {a b front back : List Char}

/-- A character between slashes stands in one of the parts that they join. -/
theorem joined_eq_append {parts : List (List Char)}
    (h : joined ['/'] parts = front ++ c :: back) (hc : c ≠ '/') :
    ∃ before a b after, parts = before ++ (a ++ c :: b) :: after
      ∧ ∀ d, joined ['/'] (before ++ (a ++ d :: b) :: after)
          = front ++ d :: back := by
  unfold joined at h ⊢
  induction parts generalizing front with
  | nil => simp at h
  | cons part rest ih =>
      by_cases hrest : rest = []
      · subst hrest
        rw [List.intercalate_singleton] at h
        exact ⟨[], front, back, [], by rw [h]; rfl,
          fun d => List.intercalate_singleton⟩
      · rw [List.intercalate_cons_of_ne_nil hrest, List.append_assoc,
          List.singleton_append] at h
        rcases List.append_eq_append_iff.1 h with
          ⟨more, rfl, hmore⟩ | ⟨more, rfl, hmore⟩
        · -- It stands behind the first slash.
          cases more with
          | nil => exact absurd (List.cons_eq_cons.1 hmore).1.symm hc
          | cons slash more =>
              obtain ⟨rfl, hbehind⟩ := List.cons_eq_cons.1 hmore
              obtain ⟨before, a, b, after, rfl, hvary⟩ := ih hbehind
              refine ⟨part :: before, a, b, after, rfl, fun d => ?_⟩
              rw [List.cons_append,
                List.intercalate_cons_of_ne_nil (by simp), hvary d]
              simp
        · cases more with
          | nil => exact absurd (List.cons_eq_cons.1 hmore).1 hc
          | cons e more =>
              obtain ⟨rfl, rfl⟩ := List.cons_eq_cons.1 hmore
              refine ⟨[], front, more, rest, rfl, fun d => ?_⟩
              rw [List.nil_append, List.intercalate_cons_of_ne_nil hrest]
              simp

/-- What digits are not. -/
theorem isDigit_spec (hd : d.isDigit = true) :
    d ∉ StagePath.reserved ∧ StagePath.isSeparator d = false
      ∧ (d.toNat == 0) = false ∧ (octets [d]).length = 1 := by
  have hlow : 48 ≤ d.toNat ∧ d.toNat ≤ 57 := by
    simpa [Char.isDigit, UInt32.le_iff_toNat_le] using hd
  have hall : ∀ n : Fin 58, 48 ≤ n.val →
      Char.ofNat n.val ∉ StagePath.reserved
        ∧ StagePath.isSeparator (Char.ofNat n.val) = false
        ∧ ((Char.ofNat n.val).toNat == 0) = false
        ∧ (octets [Char.ofNat n.val]).length = 1 := by
    decide
  have hspec := hall ⟨d.toNat, by omega⟩ hlow.1
  rwa [Char.ofNat_toNat] at hspec

/-- A digit may stand in the place of any character of a piece. -/
theorem StagePath.Admissible.varied (h : Admissible (a ++ c :: b))
    (hd : d.isDigit = true) : Admissible (a ++ d :: b) := by
  obtain ⟨hreserved, hsep, -, -⟩ := isDigit_spec hd
  have hmem : d ∈ a ++ d :: b := by simp
  have hdot : d ≠ '.' := by
    rintro rfl
    exact hreserved (by decide)
  refine ⟨by simp, ?_, ?_⟩
  · have hdots : ¬ (a ++ d :: b = ['.'] ∨ a ++ d :: b = ['.', '.']) := by
      rintro (heq | heq)
      · rw [heq] at hmem
        exact hdot (by simpa using hmem)
      · rw [heq] at hmem
        exact hdot (by simpa using hmem)
    have hfront : ¬ reserved <+: a := by
      intro hpre
      have hno := h.not_isReserved
      unfold isReserved at hno
      rw [← Bool.not_eq_true, List.isPrefixOf_iff_prefix] at hno
      exact hno (hpre.trans (List.prefix_append a _))
    have hfree : ¬ isReserved (a ++ d :: b) = true := by
      unfold isReserved
      rw [List.isPrefixOf_iff_prefix]
      intro hpre
      rcases List.prefix_or_prefix_of_prefix hpre
        (List.prefix_append a _) with hshort | ⟨more, hmore⟩
      · exact hfront hshort
      · -- The prefix would go beyond the front, and have the digit in it.
        cases more with
        | nil =>
            rw [List.append_nil] at hmore
            exact hfront (hmore ▸ List.prefix_rfl)
        | cons e more =>
            rw [← hmore, List.prefix_append_right_inj] at hpre
            obtain ⟨rfl, -⟩ := List.cons_prefix_cons.1 hpre
            exact hreserved (hmore ▸ by simp)
    unfold pieceFault
    rw [if_neg hdots, if_neg hfree]
  · have hseps := h.2.2
    rw [List.any_append, List.any_cons, Bool.or_eq_false_iff,
      Bool.or_eq_false_iff] at hseps ⊢
    exact ⟨hseps.1, hsep, hseps.2.2⟩

/-- And of a name, which gets no longer. -/
theorem Disk.Passable.varied {before after : List String}
    (h : Passable home (before ++ String.ofList (a ++ c :: b) :: after))
    (hd : d.isDigit = true) :
    Passable home (before ++ String.ofList (a ++ d :: b) :: after) := by
  obtain ⟨-, -, hzero, hone⟩ := isDigit_spec hd
  have hlength : (octetsOf (String.ofList (a ++ d :: b))).length
      ≤ (octetsOf (String.ofList (a ++ c :: b))).length := by
    have hchar : 1 ≤ (octets [c]).length := by
      unfold octets
      rw [List.flatMap_singleton, String.length_utf8EncodeChar]
      exact c.utf8Size_pos
    have hsplit (e : Char) :
        (octetsOf (String.ofList (a ++ e :: b))).length
          = (octets a).length + ((octets [e]).length + (octets b).length) := by
      unfold octetsOf
      rw [String.toList_ofList, octets_append, List.length_append,
        ← List.singleton_append, octets_append, List.length_append]
    rw [hsplit, hsplit]
    omega
  obtain ⟨hzeros, hfar, hshort⟩ := h
  refine ⟨?_, ?_, ?_⟩
  · unfold hasZero at hzeros ⊢
    simp only [List.any_append, List.any_cons, String.toList_ofList,
      Bool.or_eq_false_iff] at hzeros ⊢
    exact ⟨hzeros.1, ⟨hzeros.2.1.1, hzero, hzeros.2.1.2.2⟩, hzeros.2.2⟩
  · unfold StagingRoot.tooFar at hfar ⊢
    rw [StagingRoot.wayLength_eq_sum, List.map_append, List.map_cons,
      List.sum_append, List.sum_cons] at hfar ⊢
    simp only [decide_eq_false_iff_not] at hfar ⊢
    omega
  · rw [List.forall_mem_append, List.forall_mem_cons] at hshort ⊢
    refine ⟨hshort.1, ?_, hshort.2.2⟩
    have hname := hshort.2.1
    unfold tooLong at hname ⊢
    simp only [decide_eq_false_iff_not] at hname ⊢
    omega

/-- A path with a digit in the place of some character is a path of the same
depth. -/
theorem StagePath.exists_varied {path : StagePath}
    (hpath : path.chars = front ++ c :: back) (hc : c ≠ '/')
    (hd : d.isDigit = true) :
    ∃ other : StagePath, other.chars = front ++ d :: back
      ∧ other.pieces.length = path.pieces.length
      ∧ (Disk.Passable home path.names → Disk.Passable home other.names) := by
  obtain ⟨before, a, b, after, hpieces, hvary⟩ := joined_eq_append hpath hc
  have hpiece := path.admissible
  rw [hpieces, List.forall_mem_append, List.forall_mem_cons] at hpiece
  refine ⟨⟨before ++ (a ++ d :: b) :: after, by simp, ?_⟩, hvary d, ?_, ?_⟩
  · rw [List.forall_mem_append, List.forall_mem_cons]
    exact ⟨hpiece.1, hpiece.2.1.varied hd, hpiece.2.2⟩
  · rw [hpieces]
    simp
  · unfold names
    rw [hpieces, List.map_append, List.map_cons, List.map_append,
      List.map_cons]
    exact fun hpass => hpass.varied hd

end Varied

-- ================================================================= the areas

variable {area : StagingArea} {rules : DeskRules} {faults : StoreFaults}
  {now : Instant}

namespace Traffic

/-- Steps of requests are steps of the intake. -/
theorem intake_play_errands (s : Traffic) (turns : List Turn) :
    (s.play rules (turns.map .errand)).intake = s.intake.play rules turns := by
  induction turns generalizing s with
  | nil => rfl
  | cons turn rest ih => exact ih _

/-- Steps that a delete takes with nobody in between. -/
theorem area_play_sweep (n : Nat) (intake : Intake) (w : Sweep)
    (log : List Trace) :
    (play rules ⟨intake, [w], log⟩
        (List.replicate n (.sweep 0 faults))).intake.area
      = (w.run faults n intake.area).1 := by
  induction n generalizing intake w log with
  | zero => rfl
  | succ n ih => exact ih _ _ _

end Traffic

namespace StagingArea

/-- What requests and deletes can have made of an empty area. -/
inductive Reached : StagingArea → Prop
  | fresh (root : StagingRoot) : Reached (.fresh root)
  /-- Steps of requests and deletes in any order. -/
  | round {area : StagingArea} (h : Reached area) (rules : DeskRules)
      (orders : List Order) (patterns : List String)
      (moves : List Move) :
      Reached ((Traffic.opened area orders patterns).play rules
        moves).intake.area

theorem Reached.orderly (h : area.Reached) : area.Orderly := by
  induction h with
  | fresh root => exact orderly_fresh root
  | round _ rules orders patterns moves ih =>
      exact (Traffic.sound_play ih orders patterns moves).orderly

/-- A request that has the area for itself is a round. -/
theorem Reached.serve (h : area.Reached) (order : Order) (rules : DeskRules)
    (faults : StoreFaults) (now : Instant) :
    (order.serve rules faults area now).2.Reached := by
  have hround := h.round rules [order] []
    ((List.replicate order.span ⟨0, faults, now⟩).map .errand)
  rw [Traffic.intake_play_errands] at hround
  exact (Intake.play_alone area order).1 ▸ hround

/-- So is a delete. -/
theorem Reached.delete (h : area.Reached) (faults : StoreFaults)
    (pattern : String) : (Desk.delete faults area pattern).2.Reached := by
  have hround := h.round ⟨true, ""⟩ [] [pattern]
    (List.replicate (area.files.length + 2) (.sweep 0 faults))
  have hplay := @Traffic.area_play_sweep ⟨true, ""⟩ faults
    (area.files.length + 2) (.opened area []) ⟨pattern, .asked⟩ []
  have hspan : ((⟨pattern, .asked⟩ : Sweep).run faults
      (area.files.length + 2) (Intake.opened area []).area).1
        = (Desk.delete faults area pattern).2 :=
    congrArg (·.1) (Sweep.run_span pattern)
  exact hplay.trans hspan ▸ hround

end StagingArea

-- ================================================================= the files

namespace Desk

variable {home : StagingRoot} {root : String} {paths : List StagePath}

/-- Whole requests, one after another, are rounds. -/
theorem reached_history (home : StagingRoot) (root : String)
    (chores : List Chore) : (history home root chores).Reached := by
  induction chores using List.reverseRecOn with
  | nil => exact .fresh home
  | append_singleton chores chore ih =>
      rw [history_concat]
      cases chore with
      | store order now => exact ih.serve order _ _ now
      | delete pattern => exact ih.delete _ pattern

/-- The creation of files at the paths, one after another. -/
def filing (paths : List StagePath) (now : Instant) : List Chore :=
  paths.map fun path => .store (.create path.text) now

/-- Creations make folders above their paths only. -/
theorem not_trodden_filing {path : StagePath}
    (hflat : ∀ other ∈ paths, ¬ path.Above other) :
    ¬ Trodden home root (filing paths now) path := by
  rintro ⟨before, chore, after, heq, target, hpaves, habove, -⟩
  have hmem : chore ∈ filing paths now := by simp [heq]
  obtain ⟨other, hother, rfl⟩ := List.mem_map.1 hmem
  have htarget := other.read_text.symm.trans hpaves.1
  injection htarget with htarget
  exact hflat other hother (htarget ▸ habove)

/-- A creation at a path with nothing in the way adds a file there. -/
theorem paths_created {chores : List Chore} {path : StagePath}
    (hpass : Disk.Passable home path.names)
    (hopen : Open home root chores path) (now : Instant) (p : StagePath) :
    (∃ f ∈ (history home root
        (chores ++ [.store (.create path.text) now])).files, f.path = p)
      ↔ (∃ f ∈ (history home root chores).files, f.path = p) ∨ p = path := by
  have ho := orderly_history home root chores
  obtain ⟨info, hok⟩ := (create_isOk_iff path.read_text hpass now).2 hopen
  have hstores := create_stores ho (.lenient root) .none path.read_text now
  have hdone : history home root (chores ++ [.store (.create path.text) now])
      = (create (.lenient root) .none (history home root chores) path.text
          now).2 := history_concat home root chores _
  have ho' := orderly_history home root
    (chores ++ [.store (.create path.text) now])
  rw [hdone] at ho' ⊢
  revert hok hstores ho'
  rcases create (.lenient root) .none (history home root chores) path.text now
    with ⟨answer, after⟩
  rintro rfl hstores ho'
  cases hstores with
  | placed hpath hplaced =>
      simp only [hplaced.mem_files ho ho', hpath]
      constructor
      · rintro ⟨f, rfl | ⟨-, hf⟩, rfl⟩
        · exact .inr hpath
        · exact .inl ⟨f, hf, rfl⟩
      · intro h
        by_cases hp : p = path
        · exact ⟨_, .inl rfl, hpath.trans hp.symm⟩
        · obtain ⟨f, hf, rfl⟩ := h.resolve_right hp
          exact ⟨f, .inr ⟨hp, hf⟩, rfl⟩

/-- Where none of the paths is above another, all of them have files
then. -/
theorem mem_paths_filed (root : String) (now : Instant)
    (hpass : ∀ path ∈ paths, Disk.Passable home path.names)
    (hflat : ∀ path ∈ paths, ∀ other ∈ paths, ¬ path.Above other)
    (path : StagePath) :
    (∃ f ∈ (history home root (filing paths now)).files, f.path = path)
      ↔ path ∈ paths := by
  induction paths using List.reverseRecOn generalizing path with
  | nil =>
      refine iff_of_false ?_ List.not_mem_nil
      rintro ⟨f, hf, -⟩
      rw [show history home root (filing [] now) = .fresh home from rfl,
        files_fresh] at hf
      cases hf
  | append_singleton paths last ih =>
      rw [List.forall_mem_append] at hpass
      have hold : ∀ {p}, p ∈ paths → p ∈ paths ++ [last] :=
        List.mem_append_left _
      have hlast : last ∈ paths ++ [last] := by simp
      have hfiled := ih hpass.1 fun p hp q hq => hflat p (hold hp) q (hold hq)
      have hopen : Open home root (filing paths now) last := by
        constructor
        · intro f hf habove
          have hpath := (hfiled f.path).1 ⟨f, hf, rfl⟩
          exact hflat f.path (hold hpath) last hlast habove
        · exact not_trodden_filing fun other hother =>
            hflat last hlast other (hold hother)
      have hmore : filing (paths ++ [last]) now
          = filing paths now ++ [.store (.create last.text) now] :=
        List.map_append
      rw [hmore, paths_created (hpass.2 last (by simp)) hopen, hfiled,
        List.mem_append, List.mem_singleton]

/-- So can paths of one depth. -/
theorem exists_reached_filed {depth : Nat}
    (hpass : ∀ path ∈ paths, Disk.Passable home path.names)
    (hdepth : ∀ path ∈ paths, path.pieces.length = depth) :
    ∃ area : StagingArea, area.Reached ∧ area.disk.root = home
      ∧ ∀ path, (∃ f ∈ area.files, f.path = path) ↔ path ∈ paths := by
  refine ⟨_, reached_history home "" (filing paths default),
    home_history home "" _, mem_paths_filed "" default hpass ?_⟩
  rintro path hpath other hother ⟨hpre, hne⟩
  have heq := hpre.eq_of_length
    ((hdepth path hpath).trans (hdepth other hother).symm)
  exact hne (StagePath.names_injective (congrArg (List.map String.ofList) heq))

end Desk

end BatchAdmin
