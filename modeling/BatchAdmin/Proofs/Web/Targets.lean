/-
Where links lead.

A link is the base path, a path behind it and perhaps a query. Where the
base path is made of plain segments (`PlainBase`), it has no holes and
nothing in it separates a path from its query, so a request for a link is
routed by what stands behind the base path alone (`find?_behind`), with the
query as it was written (`readTarget_query`). `handle_get` puts this
together: a GET of a link is answered by the handler of its route.
-/
import BatchAdmin.Web.Handlers
import BatchAdmin.Proofs.Text.Escapes

namespace BatchAdmin.Web

open Text

variable {g : Gateway} {s base path query : List Char}

-- ================================================================ base paths

/-- A character that a path shows as it is. -/
def isUnreserved (c : Char) : Bool :=
  c.isAlphanum || c == '-' || c == '.' || c == '_' || c == '~'

/-- The base path is empty or made of plain segments. -/
def PlainBase (base : List Char) : Prop :=
  ∃ segments : List (List Char),
    (∀ s ∈ segments, s ≠ [] ∧ s.all isUnreserved = true)
      ∧ base = segments.flatMap fun s => '/' :: s

/-- A plain base path has no character that is reserved but slashes. -/
theorem PlainBase.not_mem (h : PlainBase base) {c : Char}
    (hslash : c ≠ '/') (hc : isUnreserved c = false) : c ∉ base := by
  obtain ⟨segments, hplain, rfl⟩ := h
  intro hmem
  obtain ⟨s, hs, hcs⟩ := List.mem_flatMap.1 hmem
  rcases List.mem_cons.1 hcs with heq | hcs
  · exact hslash heq
  · have hall := List.all_eq_true.1 (hplain s hs).2 c hcs
    rw [hc] at hall
    cases hall

/-- What stands behind a plain base path begins with a slash if the path
behind it does. -/
theorem PlainBase.head? (h : PlainBase base) (hpath : path.head? = some '/') :
    (base ++ path).head? = some '/' := by
  obtain ⟨segments, -, rfl⟩ := h
  cases segments with
  | nil => exact hpath
  | cons s rest => rfl

/-- Without braces a text has no holes. -/
theorem ofText_plain (hopen : '{' ∉ s) (hclose : '}' ∉ s) :
    BasePath.ofText s = s.map .char := by
  unfold BasePath.ofText
  induction s with
  | nil => rfl
  | cons c rest ih =>
      rw [List.mem_cons, not_or] at hopen hclose
      have hc : (c == '{') = false := by simpa using Ne.symm hopen.1
      have hc' : (c == '}') = false := by simpa using Ne.symm hclose.1
      rw [List.length_cons, BasePath.piecesFrom]
      simp only [hc, hc', Bool.or_self, Bool.false_and, Bool.false_eq_true,
        if_false, ih hopen.2 hclose.2, List.map_cons]

theorem PlainBase.ofText (h : PlainBase base) :
    BasePath.ofText base = base.map .char :=
  ofText_plain (h.not_mem (by decide) (by decide))
    (h.not_mem (by decide) (by decide))

theorem holes_chars (base : List Char) :
    BasePath.holes (base.map .char) = 0 := by
  unfold BasePath.holes
  rw [List.count_eq_zero]
  simp

theorem behind?_chars (base path : List Char) :
    BasePath.behind? (base.map .char) (base ++ path) = some path := by
  induction base with
  | nil => rfl
  | cons c rest ih =>
      rw [List.map_cons, List.cons_append, BasePath.behind?, if_pos rfl, ih]

/-- The route of a link is told by what stands behind the base path. -/
theorem find?_behind (h : PlainBase base) {names : List (List Char)}
    (hnames : Route.segments path = [] :: names) :
    Route.find? (BasePath.ofText base) (base ++ path)
      = Route.ofSegments names := by
  unfold Route.find?
  rw [h.ofText, behind?_chars]
  dsimp only
  rw [hnames]

-- =================================================================== targets

/-- A path has no scheme and no authority. -/
theorem withoutAuthority_eq (hs : s.head? = some '/') :
    withoutAuthority s = s := by
  obtain ⟨rest, rfl⟩ := List.head?_eq_some_iff.1 hs
  rfl

theorem takeWhile_hash (h : '#' ∉ s) : s.takeWhile (· != '#') = s := by
  induction s with
  | nil => rfl
  | cons c rest ih =>
      rw [List.mem_cons, not_or] at h
      rw [List.takeWhile_cons_of_pos (by simpa using Ne.symm h.1), ih h.2]

/-- A path is read as it is. -/
theorem readTarget_path (hs : s.head? = some '/') (hhash : '#' ∉ s)
    (hmark : '?' ∉ s) : readTarget (String.ofList s) = (s, []) := by
  unfold readTarget
  rw [String.toList_ofList, takeWhile_hash hhash, withoutAuthority_eq hs]
  dsimp only
  rw [cut_eq_none hmark]
  obtain ⟨rest, rfl⟩ := List.head?_eq_some_iff.1 hs
  rfl

/-- A path with a query is cut between them. -/
theorem readTarget_query (hs : s.head? = some '/') (hhash : '#' ∉ s)
    (hmark : '?' ∉ s) (hquery : '#' ∉ query) :
    readTarget (String.ofList (s ++ '?' :: query)) = (s, readForm query) := by
  have hall : '#' ∉ s ++ '?' :: query := by
    simp [hhash, hquery]
  have hhead : (s ++ '?' :: query).head? = some '/' := by
    obtain ⟨rest, rfl⟩ := List.head?_eq_some_iff.1 hs
    rfl
  unfold readTarget
  rw [String.toList_ofList, takeWhile_hash hall, withoutAuthority_eq hhead]
  dsimp only
  rw [cut_append hmark]
  obtain ⟨rest, rfl⟩ := List.head?_eq_some_iff.1 hs
  rfl

-- ================================================================== requests

/-- A GET of a target. -/
def get (uri : String) : Request :=
  { method := "GET", uri, headers := [], body := [] }

/-- A request by a method that its route allows is answered behind the base
path. -/
theorem handle_allowed {r : Request} {route : Route} {method : String}
    (hmethod : r.method = method) (hhead : method ≠ "HEAD")
    (hroute : Route.find? (BasePath.ofText (basePath g))
      (readTarget r.uri).1 = some route)
    (hallowed : route.allowed.contains method = true) :
    handle g r = answerBehind g (BasePath.ofText (basePath g)) route method
      (readTarget r.uri).2 r := by
  unfold handle
  dsimp only
  rw [hroute]
  dsimp only
  rw [hmethod, hallowed, if_neg hhead]
  rfl

/-- Behind a plain base path that is the answer of the handler of the
route. -/
theorem answerBehind_plain (h : PlainBase (basePath g)) (route : Route)
    (method : String) (q : Query) (r : Request) :
    answerBehind g (BasePath.ofText (basePath g)) route method q r
      = answerRoute g route method q r := by
  unfold answerBehind
  rw [h.ofText, holes_chars, if_neg (by simp)]

/-- Behind a plain base path a GET is answered by the handler of its route. -/
theorem handle_routed (h : PlainBase (basePath g)) {r : Request}
    {route : Route} (hmethod : r.method = "GET")
    (hroute : Route.find? (BasePath.ofText (basePath g))
      (readTarget r.uri).1 = some route)
    (hget : route.allowed.contains "GET" = true) :
    handle g r = answerRoute g route "GET" (readTarget r.uri).2 r := by
  rw [handle_allowed hmethod (by decide) hroute hget, answerBehind_plain h]

/-- So is a GET of what is written behind the base path. -/
theorem handle_get (h : PlainBase (basePath g)) {uri : String} {q : Query}
    {names : List (List Char)} {route : Route}
    (htarget : readTarget uri = (basePath g ++ path, q))
    (hnames : Route.segments path = [] :: names)
    (hroute : Route.ofSegments names = some route)
    (hget : route.allowed.contains "GET" = true) :
    handle g (get uri) = answerRoute g route "GET" q (get uri) := by
  have hread : readTarget (get uri).uri = (basePath g ++ path, q) := htarget
  have hfind : Route.find? (BasePath.ofText (basePath g))
      (readTarget (get uri).uri).1 = some route := by
    rw [hread, find?_behind h hnames, hroute]
  rw [handle_routed h rfl hfind hget, hread]

end BatchAdmin.Web
