/-
Lines of parameters.

A line that is written for pairs has a segment for each of them, with
blanks wherever one likes, and blank segments in between (`Written`). It is
read as those pairs, in order (`readPairs_written`), and the dictionary
made of them has under each key the last value given for it
(`get?_insertAll`).

A line cannot be read exactly if one of its segments is faulty
(`readPairs_fails_iff`): it is not blank, and has no `=` in it or nothing
but blanks before the first one.
-/
import BatchAdmin.Job.Parameters
import BatchAdmin.Proofs.Text.Blanks
import BatchAdmin.Proofs.Text.Escapes

namespace BatchAdmin

open Text

-- =========================================================== the dictionaries

namespace Dict

variable {d : Dict} {name value : String} {es : List (String × String)}

/-- The value of the last entry under a name. -/
def last? (name : String) (es : List (String × String)) : Option String :=
  (es.filter fun e => e.1 == name).getLast?.map (·.2)

theorem last?_cons (name : String) (e : String × String)
    (es : List (String × String)) :
    last? name (e :: es)
      = (last? name es).or (if e.1 = name then some e.2 else none) := by
  unfold last?
  by_cases hname : e.1 = name
  · rw [List.filter_cons_of_pos (by simpa using hname), List.getLast?_cons,
      if_pos hname]
    cases (es.filter fun e => e.1 == name).getLast? <;> rfl
  · rw [List.filter_cons_of_neg (by simpa using hname), if_neg hname,
      Option.or_none]

/-- Placing an entry leaves what is under other names. -/
theorem find?_place_of_ne {other : String} (hne : name ≠ other)
    (es : List (String × String)) :
    (place name value es).find? (fun e => e.1 == other)
      = es.find? fun e => e.1 == other := by
  have hne' : ((name, value).1 == other) = false := by simpa using hne
  induction es with
  | nil => simp [place, hne]
  | cons e rest ih =>
      obtain ⟨n, v⟩ := e
      unfold place
      split
      · rename_i heq
        subst heq
        rw [List.find?_cons, List.find?_cons, hne']
      · split
        · rw [List.find?_cons, hne']
        · rw [List.find?_cons, List.find?_cons, ih]

theorem get?_insert_of_ne {other : String} (hne : name ≠ other) :
    (d.insert name value).get? other = d.get? other := by
  unfold get? insert
  rw [find?_place_of_ne hne]

/-- Of entries put in one after another the last one counts, and where
there is none what was there before. -/
theorem get?_insertAll (d : Dict) (es : List (String × String))
    (name : String) :
    (d.insertAll es).get? name = (last? name es).or (d.get? name) := by
  unfold insertAll
  induction es generalizing d with
  | nil => rfl
  | cons e rest ih =>
      rw [List.foldl_cons, ih, last?_cons, Option.or_assoc]
      congr 1
      by_cases hname : e.1 = name
      · subst hname
        rw [get?_insert_self, if_pos rfl, Option.some_or]
      · rw [get?_insert_of_ne hname, if_neg hname, Option.none_or]

theorem get?_ofList (es : List (String × String)) (name : String) :
    (ofList es).get? name = last? name es := by
  unfold ofList
  rw [get?_insertAll]
  exact Option.or_none

end Dict

namespace Parameters

variable {line s rest key value : List Char}
  {pairs : List (String × String)} {text : String}

-- ================================================================== the lines

/-- A key that a line can give a value: not empty, without blanks at its
ends, commas or equals signs. -/
def Key (key : List Char) : Prop :=
  key ≠ [] ∧ trim key = key ∧ ',' ∉ key ∧ '=' ∉ key

/-- A value that a line can give: without blanks at its ends or commas. -/
def Value (value : List Char) : Prop :=
  trim value = value ∧ ',' ∉ value

instance (key : List Char) : Decidable (Key key) :=
  inferInstanceAs (Decidable (_ ∧ _))

instance (value : List Char) : Decidable (Value value) :=
  inferInstanceAs (Decidable (_ ∧ _))

/-- What stands between commas: blanks, or a key and its value with blanks
around them. -/
inductive Segment : List (String × String) → List Char → Prop
  | blank {s : List Char} : Blank s → Segment [] s
  | pair {key value : String} {a b c d : List Char} :
      Blank a → Blank b → Blank c → Blank d →
      Segment [(key, value)]
        ((a ++ key.toList ++ b) ++ '=' :: (c ++ value.toList ++ d))

/-- A line written for pairs, with commas between its segments. -/
inductive Written : List (String × String) → List Char → Prop
  | last {pairs : List (String × String)} {s : List Char} :
      Segment pairs s → Written pairs s
  | cons {pairs more : List (String × String)} {s rest : List Char} :
      Segment pairs s → Written more rest →
      Written (pairs ++ more) (s ++ ',' :: rest)

-- =============================================================== the segments

theorem not_mem_of_blank {c : Char} (hc : isBlank c = false) (h : Blank s) :
    c ∉ s := by
  intro hmem
  rw [h c hmem] at hc
  cases hc

/-- A comma parts the segments before it from those behind it. -/
theorem segments_append (s rest : List Char) :
    segments (s ++ ',' :: rest) = segments s ++ segments rest := by
  unfold segments pieces
  rw [List.splitOnP_append_cons s rest (by rfl), List.map_append,
    List.filter_append]

/-- Without commas a line is one segment, if it is not blank. -/
theorem segments_whole (hcomma : ',' ∉ s) :
    segments s = if Blank s then [] else [trim s] := by
  unfold segments pieces
  rw [List.splitOnP_eq_singleton fun c hc => by
    simpa using ne_of_mem_of_not_mem hc hcomma, List.map_singleton]
  split
  · rename_i hs
    rw [trim_eq_nil.2 hs]
    rfl
  · rename_i hs
    rw [List.filter_cons_of_pos (by simpa [trim_eq_nil] using hs),
      List.filter_nil]

theorem mem_segments :
    s ∈ segments line
      ↔ ∃ t ∈ pieces (· == ',') line, ¬ Blank t ∧ trim t = s := by
  unfold segments
  rw [List.mem_filter, List.mem_map]
  constructor
  · rintro ⟨⟨t, ht, rfl⟩, hne⟩
    exact ⟨t, ht, by simpa [trim_eq_nil] using hne, rfl⟩
  · rintro ⟨t, ht, hblank, rfl⟩
    exact ⟨⟨t, ht, rfl⟩, by simpa [trim_eq_nil] using hblank⟩

-- ================================================================ one segment

/-- A trimmed segment is cut at its first equals sign. -/
theorem readSegment_trim (hkey : '=' ∉ key) :
    readSegment (trim (key ++ '=' :: value))
      = if Blank key then .error (.noKey (trim (key ++ '=' :: value)))
        else .ok (String.ofList (trim key), String.ofList (trim value)) := by
  have hfront : '=' ∉ trimFront key := by
    obtain ⟨a, -, hs⟩ := exists_trimFront key
    intro hmem
    exact hkey (hs ▸ List.mem_append_right _ hmem)
  unfold readSegment
  rw [trim_stop (by rfl), cut_append hfront]
  dsimp only
  rw [trim_trimFront, trim_trimBack]
  split
  · rename_i hempty
    rw [if_pos (trim_eq_nil.1 (List.isEmpty_iff.1 hempty))]
  · rename_i hempty
    rw [if_neg fun hblank => hempty (List.isEmpty_iff.2 (trim_eq_nil.2 hblank))]

/-- A segment that is written for a pair is read as that pair, and one that
is blank as none. -/
theorem readPairs_segment (h : Segment pairs s)
    (hpairs : ∀ p ∈ pairs, Key p.1.toList ∧ Value p.2.toList) :
    readPairs s = .ok pairs := by
  unfold readPairs
  cases h with
  | blank hs =>
      rw [segments_whole (not_mem_of_blank (by decide) hs), if_pos hs]
      rfl
  | @pair key value a b c d ha hb hc hd =>
      obtain ⟨⟨hkey, htrim, hcomma, hequals⟩, htrim', hcomma'⟩ :=
        hpairs _ (List.mem_singleton_self _)
      have hno {e : Char} (he : isBlank e = false) {x t y : List Char}
          (hx : Blank x) (hy : Blank y) (ht : e ∉ t) : e ∉ x ++ t ++ y := by
        rw [List.mem_append, List.mem_append]
        rintro ((hmem | hmem) | hmem)
        · exact not_mem_of_blank he hx hmem
        · exact ht hmem
        · exact not_mem_of_blank he hy hmem
      have hwhole : ',' ∉ (a ++ key.toList ++ b)
          ++ '=' :: (c ++ value.toList ++ d) := by
        rw [List.mem_append, List.mem_cons]
        rintro (hmem | heq | hmem)
        · exact hno (by decide) ha hb hcomma hmem
        · cases heq
        · exact hno (by decide) hc hd hcomma' hmem
      have hsolid : ¬ Blank ((a ++ key.toList ++ b)
          ++ '=' :: (c ++ value.toList ++ d)) := fun hblank =>
        not_mem_of_blank (by decide) hblank
          (List.mem_append_right _ List.mem_cons_self)
      have hkeyed : ¬ Blank (a ++ key.toList ++ b) := by
        rw [← trim_eq_nil, trim_padded ha hb, htrim]
        exact hkey
      rw [segments_whole hwhole, if_neg hsolid, List.mapM_cons, List.mapM_nil,
        readSegment_trim (hno (by decide) ha hb hequals), if_neg hkeyed,
        trim_padded ha hb, trim_padded hc hd, htrim, htrim',
        String.ofList_toList, String.ofList_toList]
      rfl

-- =================================================================== the lines

theorem readPairs_append {ps qs : List (String × String)}
    (hs : readPairs s = .ok ps) (hrest : readPairs rest = .ok qs) :
    readPairs (s ++ ',' :: rest) = .ok (ps ++ qs) := by
  unfold readPairs at *
  rw [segments_append, List.mapM_append, hs, hrest]
  rfl

/-- A written line is read as the pairs it is written for. -/
theorem readPairs_written (h : Written pairs line)
    (hpairs : ∀ p ∈ pairs, Key p.1.toList ∧ Value p.2.toList) :
    readPairs line = .ok pairs := by
  induction h with
  | last hs => exact readPairs_segment hs hpairs
  | cons hs _ ih =>
      obtain ⟨hfirst, hmore⟩ := List.forall_mem_append.1 hpairs
      exact readPairs_append (readPairs_segment hs hfirst) (ih hmore)

/-- What keeps a line from being read: a segment that is not blank, and has
no equals sign or nothing but blanks before its first one. -/
def Faulty (s : List Char) : Prop :=
  ¬ Blank s ∧ ('=' ∉ s
    ∨ ∃ key value, s = key ++ '=' :: value ∧ '=' ∉ key ∧ Blank key)

theorem readSegment_fails_iff (hs : ¬ Blank s) :
    (∃ fault, readSegment (trim s) = .error fault) ↔ Faulty s := by
  by_cases hequals : '=' ∈ s
  · constructor
    · rintro ⟨fault, hread⟩
      obtain ⟨key, value, rfl, hkey⟩ := List.eq_append_cons_of_mem hequals
      rw [readSegment_trim hkey] at hread
      split at hread
      · rename_i hblank
        exact ⟨hs, .inr ⟨key, value, rfl, hkey, hblank⟩⟩
      · cases hread
    · rintro ⟨-, hnone | ⟨key, value, rfl, hkey, hblank⟩⟩
      · exact absurd hequals hnone
      · rw [readSegment_trim hkey, if_pos hblank]
        exact ⟨_, rfl⟩
  · refine ⟨fun _ => ⟨hs, .inl hequals⟩, fun _ => ?_⟩
    unfold readSegment
    rw [cut_eq_none fun hmem => hequals (mem_of_mem_trim hmem)]
    exact ⟨_, rfl⟩

/-- A row of readings fails if one of them does. -/
theorem mapM_fails_iff {ε α β : Type} {f : α → Except ε β} {xs : List α} :
    (∃ e, xs.mapM f = .error e) ↔ ∃ x ∈ xs, ∃ e, f x = .error e := by
  induction xs with
  | nil => simp [pure, Except.pure]
  | cons x rest ih =>
      rw [List.mapM_cons, List.exists_mem_cons_iff, ← ih]
      cases f x with
      | error e => exact ⟨fun _ => .inl ⟨e, rfl⟩, fun _ => ⟨e, rfl⟩⟩
      | ok y =>
          cases rest.mapM f with
          | error e => exact ⟨fun _ => .inr ⟨e, rfl⟩, fun _ => ⟨e, rfl⟩⟩
          | ok ys =>
              constructor
              · rintro ⟨e, ⟨⟩⟩
              · rintro (⟨e, ⟨⟩⟩ | ⟨e, ⟨⟩⟩)

/-- A line cannot be read if one of its segments is faulty. -/
theorem readPairs_fails_iff :
    (∃ fault, readPairs line = .error fault)
      ↔ ∃ s ∈ pieces (· == ',') line, Faulty s := by
  unfold readPairs
  rw [mapM_fails_iff]
  constructor
  · rintro ⟨x, hx, hfails⟩
    obtain ⟨s, hs, hblank, rfl⟩ := mem_segments.1 hx
    exact ⟨s, hs, (readSegment_fails_iff hblank).1 hfails⟩
  · rintro ⟨s, hs, hfaulty⟩
    exact ⟨trim s, mem_segments.2 ⟨s, hs, hfaulty.1, rfl⟩,
      (readSegment_fails_iff hfaulty.1).2 hfaulty⟩

-- ================================================================= the reading

/-- What a line that is written for pairs comes to. -/
theorem read_written (hline : Written pairs text.toList)
    (hpairs : ∀ p ∈ pairs, Key p.1.toList ∧ Value p.2.toList) :
    read text = .ok (.ofList pairs) := by
  unfold Parameters.read
  rw [readPairs_written hline hpairs]

theorem read_fails_iff :
    (∃ failure, read text = .error failure)
      ↔ ∃ s ∈ pieces (· == ',') text.toList, Faulty s := by
  rw [← readPairs_fails_iff]
  unfold Parameters.read
  cases readPairs text.toList with
  | ok pairs =>
      constructor
      · rintro ⟨failure, ⟨⟩⟩
      · rintro ⟨fault, ⟨⟩⟩
  | error fault => exact ⟨fun _ => ⟨fault, rfl⟩, fun _ => ⟨_, rfl⟩⟩

theorem invalidParameters_of_read {failure : Failure}
    (h : read text = .error failure) :
    ∃ detail, failure = .invalidParameters detail := by
  unfold read at h
  split at h
  · cases h
  · cases h
    exact ⟨_, rfl⟩

end Parameters

end BatchAdmin
