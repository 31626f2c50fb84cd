/-
Dictionaries: texts under names, each name once, in the order of names.

Job parameters are compared as a whole (two launches with the same
parameters are the same instance), so a dictionary has exactly one form:
its entries stand in strictly rising order of their names. The order is
part of the type, `insert` keeps it, and equality of dictionaries is
equality of entries.
-/
namespace BatchAdmin

/-- Texts under names, in strictly rising order of the names. -/
structure Dict where
  entries : List (String × String)
  rising : entries.Pairwise fun a b => a.1 < b.1

namespace Dict

instance : DecidableEq Dict := fun a b =>
  if h : a.entries = b.entries then
    .isTrue (by cases a; cases b; cases h; rfl)
  else .isFalse fun e => h (by rw [e])

/-- No entries. -/
def empty : Dict := ⟨[], .nil⟩

instance : Inhabited Dict := ⟨empty⟩

-- ============================================================== insertion

/-- An entry put at its place; the value under an equal name is
replaced. -/
def place (name value : String) :
    List (String × String) → List (String × String)
  | [] => [(name, value)]
  | (n, v) :: rest =>
      if name = n then (name, value) :: rest
      else if name < n then (name, value) :: (n, v) :: rest
      else (n, v) :: place name value rest

/-- A placed entry adds no name but its own. -/
theorem mem_place {name value : String} :
    ∀ {es : List (String × String)} {e : String × String},
      e ∈ place name value es → e = (name, value) ∨ e ∈ es
  | [], e, h => by simpa [place] using h
  | (n, v) :: rest, e, h => by
      unfold place at h
      split at h
      · rcases List.mem_cons.1 h with h | h
        · exact .inl h
        · exact .inr (List.mem_cons_of_mem _ h)
      · split at h
        · rcases List.mem_cons.1 h with h | h
          · exact .inl h
          · exact .inr h
        · rcases List.mem_cons.1 h with h | h
          · exact .inr (h ▸ List.mem_cons_self)
          · rcases mem_place h with h | h
            · exact .inl h
            · exact .inr (List.mem_cons_of_mem _ h)

/-- Of two different names one comes first. -/
private theorem name_lt {a b : String} (hne : ¬a = b) (hlt : ¬a < b) :
    b < a :=
  Std.lt_of_le_of_ne (Std.not_lt.1 hlt) fun h => hne h.symm

/-- Placing keeps the names rising. -/
theorem rising_place (name value : String) :
    ∀ {es : List (String × String)},
      es.Pairwise (fun a b => a.1 < b.1) →
      (place name value es).Pairwise fun a b => a.1 < b.1
  | [], _ => by simp [place]
  | (n, v) :: rest, h => by
      have hrest := (List.pairwise_cons.1 h).2
      have hhead := (List.pairwise_cons.1 h).1
      unfold place
      split
      · next heq =>
          subst heq
          exact List.pairwise_cons.2 ⟨hhead, hrest⟩
      · next hne =>
          split
          · next hlt =>
              refine List.pairwise_cons.2 ⟨?_, h⟩
              intro e he
              rcases List.mem_cons.1 he with he | he
              · exact he ▸ hlt
              · exact String.lt_trans hlt (hhead e he)
          · next hlt =>
              refine List.pairwise_cons.2 ⟨?_, rising_place name value hrest⟩
              intro e he
              rcases mem_place he with he | he
              · exact he ▸ name_lt hne hlt
              · exact hhead e he

/-- The dictionary with `value` under `name`. -/
def insert (d : Dict) (name value : String) : Dict :=
  ⟨place name value d.entries, rising_place name value d.rising⟩

/-- The entries put in one after another, later ones winning. -/
def insertAll (d : Dict) (es : List (String × String)) : Dict :=
  es.foldl (fun d e => d.insert e.1 e.2) d

/-- A dictionary from its entries, later ones winning. -/
def ofList (es : List (String × String)) : Dict :=
  empty.insertAll es

-- ================================================================= look-up

/-- The value under a name. -/
def get? (d : Dict) (name : String) : Option String :=
  (d.entries.find? fun e => e.1 == name).map (·.2)

/-- There is a value under the name. -/
def has (d : Dict) (name : String) : Bool :=
  d.entries.any fun e => e.1 == name

/-- A placed entry is the first under its name. -/
private theorem find?_place (name value : String)
    (es : List (String × String)) :
    (place name value es).find? (fun e => e.1 == name)
      = some (name, value) := by
  induction es with
  | nil => simp [place]
  | cons e rest ih =>
      obtain ⟨n, v⟩ := e
      unfold place
      by_cases hn : name = n
      · simp [hn]
      · by_cases hlt : name < n
        · simp [hn, hlt]
        · have hne : ¬n = name := fun h => hn h.symm
          simp [hn, hlt, hne, ih]

/-- What was put in is found. -/
theorem get?_insert_self (d : Dict) (name value : String) :
    (d.insert name value).get? name = some value := by
  unfold get? insert
  rw [find?_place]
  rfl

end Dict

end BatchAdmin
