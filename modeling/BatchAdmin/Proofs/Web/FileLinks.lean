/-
Links of files.

A listing tells each file with the link of its path. A DELETE of the link
is routed to the delete by pattern, which reads out of it the path as it
was written (`handle_fileUri`): escapes keep everything apart that has a
meaning in addresses. What has a meaning in patterns they do not keep apart
from what it means. So a link takes its file away, and no other, exactly if
the path as a pattern matches this file alone; and it does so in every area
if the path has no operator in it, and for no other path
(`fileLinks_remove_alone_iff`).
-/
import BatchAdmin.Proofs.Staging.Confinement
import BatchAdmin.Proofs.Staging.Singling
import BatchAdmin.Proofs.Web.SelfLinks

namespace BatchAdmin

open Text

/-- The gateway with this area. -/
def Gateway.holding (g : Gateway) (area : StagingArea) : Gateway :=
  { g with depot := { g.depot with area } }

namespace Web

variable {g : Gateway} {area : StagingArea} {path : StagePath}
  {f : StoredFile} {q : Query} {doc entity : Json}

-- ================================================================= the links

/-- The link of the file at a path. -/
def fileUri (g : Gateway) (path : StagePath) : String :=
  selfUri g (.file path.text)

theorem selfSegments_file (path : StagePath) :
    selfSegments (.file path.text)
      = "files".toList :: path.pieces.map pathSegment := by
  unfold selfSegments
  dsimp only
  rw [path.toList_text, path.slash_pieces_chars]

/-- The link is the path, escaped, behind the route of the files. -/
theorem selfPath_file (path : StagePath) :
    "/files".toList ++ '/' :: (ResourceId.file path.text).path
      = selfPath (.file path.text) := by
  unfold selfPath ResourceId.path joined
  dsimp only
  rw [selfSegments_file, path.toList_text, path.slash_pieces_chars,
    List.intercalate_cons_of_ne_nil (List.cons_ne_nil _ _),
    List.intercalate_cons_of_ne_nil (by simpa using path.nonempty)]
  rfl

/-- The segments of the link are routed to the files, and read as the
path. -/
theorem ofSegments_file (path : StagePath) :
    Route.ofSegments (selfSegments (.file path.text))
        = some (.filesAt (joined ['/'] (path.pieces.map pathSegment)))
      ∧ Route.textParameter (joined ['/'] (path.pieces.map pathSegment))
        = .ok path.text := by
  have hread : readSegment (joined ['/'] (path.pieces.map pathSegment))
      = some path.chars := readSegment_joined path.pieces
  have hne : joined ['/'] (path.pieces.map pathSegment) ≠ [] := by
    intro hnil
    rw [hnil] at hread
    have hchars : [] = path.chars := Option.some.inj hread
    have hnames := path.namesIn_chars
    rw [← hchars] at hnames
    exact path.nonempty hnames.symm
  constructor
  · rw [selfSegments_file]
    unfold Route.ofSegments
    dsimp only
    rw [if_pos rfl]
    cases hpieces : path.pieces with
    | nil => exact absurd hpieces path.nonempty
    | cons piece rest => exact ending_eq (hpieces ▸ hne)
  · unfold Route.textParameter
    rw [hread]
    rfl

/-- A listing is of staged files, each told with its link. -/
theorem linked_of_listFiles (h : listFiles g q = .ok doc)
    (hmem : entity ∈ entitiesIn doc) :
    ∃ f ∈ g.depot.area.files, entity.field? "path" = some (.text f.path.text)
      ∧ hrefOf? "self" entity = some (fileUri g f.path) := by
  unfold listFiles at h
  obtain ⟨⟨page, size⟩, -, h⟩ := bind_eq_ok.1 h
  obtain ⟨r, -, h⟩ := bind_eq_ok.1 h
  obtain ⟨⟨files, total⟩, hfiles, h⟩ := bind_eq_ok.1 h
  cases h
  obtain ⟨info, hinfo, rfl⟩ := mem_entitiesIn_paged hmem
  unfold Gateway.listFiles Desk.list at hfiles
  cases hlist : g.depot.area.list g.outages.store with
  | error fault =>
      rw [hlist] at hfiles
      cases hfiles
  | ok staged =>
      rw [hlist] at hfiles
      cases hfiles
      obtain ⟨f, hf, rfl⟩ := List.mem_map.1 hinfo
      have hstaged := List.mem_of_mem_drop (List.mem_of_mem_take hf)
      rw [StagingArea.files_of_list hlist] at hstaged
      refine ⟨f, hstaged, rfl, ?_⟩
      have hpath : "/files".toList = "/file".toList ++ ['s'] := by decide
      exact hrefOf?_linked rfl hpath (by decide) (selfPath_file f.path)

-- =============================================================== the requests

/-- A DELETE of a target. -/
def delete (uri : String) : Request :=
  { method := "DELETE", uri, headers := [], body := [] }

/-- Behind a plain base path it is answered by the handler of its route. -/
theorem handle_delete (h : PlainBase (basePath g)) {uri : String}
    {route : Route}
    (hroute : Route.find? (BasePath.ofText (basePath g)) (readTarget uri).1
      = some route)
    (hallowed : route.allowed.contains "DELETE" = true) :
    handle g (delete uri)
      = answerRoute g route "DELETE" (readTarget uri).2 (delete uri) := by
  rw [@handle_allowed g (delete uri) route "DELETE" rfl (by decide) hroute
    hallowed, answerBehind_plain h]
  rfl

/-- A DELETE of the link of a path is answered by a delete with the path for
its pattern. -/
theorem handle_fileUri (hbase : PlainBase (basePath g)) (path : StagePath) :
    handle g (delete (fileUri g path))
      = (.ofAnswer 200
          ((Desk.delete g.outages.store g.depot.area path.text).1.map
            fun count => (FileInfo.ofDelete path.text count).toJson),
        g.holding
          (Desk.delete g.outages.store g.depot.area path.text).2) := by
  obtain ⟨hroute, hread⟩ := ofSegments_file path
  obtain ⟨-, hfind⟩ := find?_self hbase hroute
  have hhandler (segments : List Char) (q : Query) (r : Request) :
      answerRoute g (.filesAt segments) "DELETE" q r
        = deleteFiles g segments := rfl
  unfold fileUri
  rw [handle_delete hbase hfind rfl, hhandler]
  unfold deleteFiles
  rw [hread]
  rfl

/-- A request has taken a file away and tells of one; the other files are as
they were. -/
structure RemovesAlone (g : Gateway) (f : StoredFile)
    (outcome : Response × Gateway) : Prop where
  told : ∃ doc, outcome.1 = .document 200 doc
    ∧ doc.field? "deleteCount" = some (.nat 1)
  lost : g.depot.area.Lost outcome.2.depot.area f

/-- The link of a file does so if the path of the file matches it alone. -/
theorem removesAlone_iff_singled (hbase : PlainBase (basePath g))
    (ho : g.depot.area.Orderly)
    (hlist : g.outages.store.fails .list = false)
    (hfree : ∀ path, g.outages.store.stuck path = false)
    (hf : f ∈ g.depot.area.files) :
    RemovesAlone g f (handle g (delete (fileUri g f.path)))
      ↔ g.depot.area.Singled f := by
  rw [handle_fileUri hbase,
    ← Desk.lost_iff_singled ho hlist (fun _ _ => hfree _) hf]
  constructor
  · exact fun h => h.lost
  · intro hlost
    have hone := (Desk.lost_iff_singled ho hlist (fun _ _ => hfree _) hf).1
      hlost
    refine ⟨?_, hlost⟩
    rw [Desk.answer_of_singled ho hlist (fun _ _ => hfree _) hf hone]
    exact ⟨_, rfl, rfl⟩

/-- In every area that requests can have made, a listing tells each file
with the link of its path; and where nothing hinders its removal, a DELETE
of the link takes this file away, tells of one, and leaves all others as
they were, exactly if the path, as a pattern, matches this file alone. It
does so in every such area if no character of the path is an operator of
patterns, and for every other path there is one in which it does not,
whatever the root of the area. -/
theorem fileLinks_remove_alone_iff (hbase : PlainBase (basePath g))
    (hlist : g.outages.store.fails .list = false)
    (hfree : ∀ path, g.outages.store.stuck path = false) :
    (∀ area : StagingArea, area.Reached →
      (∀ r doc, r.method = "GET" →
        Route.find? (BasePath.ofText (basePath g)) (readTarget r.uri).1
          = some .files →
        (handle (g.holding area) r).1 = .document 200 doc →
        ∀ entity ∈ entitiesIn doc, ∃ f ∈ area.files,
          entity.field? "path" = some (.text f.path.text)
            ∧ hrefOf? "self" entity = some (fileUri g f.path))
      ∧ ∀ f ∈ area.files,
        (RemovesAlone (g.holding area) f
            (handle (g.holding area) (delete (fileUri g f.path)))
          ↔ area.Singled f))
    ∧ ∀ (home : StagingRoot) (path : StagePath),
      Disk.Passable home path.names →
      ((∀ area : StagingArea, area.Reached → area.disk.root = home →
          ∀ f ∈ area.files, f.path = path → RemovesAlone (g.holding area) f
            (handle (g.holding area) (delete (fileUri g path))))
        ↔ Glob.Literal path.chars) := by
  have hremoves : ∀ area : StagingArea, area.Reached → ∀ f ∈ area.files,
      (RemovesAlone (g.holding area) f
          (handle (g.holding area) (delete (fileUri g f.path)))
        ↔ area.Singled f) := fun area hreached f hf =>
    @removesAlone_iff_singled (g.holding area) f hbase hreached.orderly hlist
      hfree hf
  refine ⟨fun area hreached => ⟨?_, hremoves area hreached⟩, ?_⟩
  · intro r doc hmethod hroute hdoc entity hmem
    rw [@handle_routed (g.holding area) hbase r .files hmethod hroute rfl]
      at hdoc
    exact linked_of_listFiles (ofAnswer_eq_document hdoc) hmem
  · intro home path hpass
    rw [← path.singled_iff_literal hpass]
    refine forall₃_congr fun area hreached hhome => ?_
    refine forall₃_congr fun f hf hpath => ?_
    subst hpath
    exact hremoves area hreached f hf

-- ---------------------------------------------------- names to be told apart

/-- A gateway with the usual settings. -/
def door : Gateway := .fresh .default ⟨0, 0⟩

theorem plainBase_door : PlainBase (basePath door) := ⟨[], by simp, by decide⟩

/-- Two files; the name of one is the escaped name of the other. -/
def discounts : StagingArea :=
  Desk.history .usual "" [.store (.create "in/50% off.csv") ⟨0, 0⟩,
    .store (.create "in/50%20off.csv") ⟨0, 0⟩]

/-- The link of each of them takes it away and leaves the other. -/
theorem discountLinks_remove_alone :
    discounts.files.map (fileUri door ·.path)
        = ["/files/in/50%25%20off.csv", "/files/in/50%2520off.csv"]
      ∧ (∃ doc, (handle (door.holding discounts) (get "/files")).1
          = .document 200 doc
        ∧ ∀ entity ∈ entitiesIn doc, ∃ f ∈ discounts.files,
            hrefOf? "self" entity = some (fileUri door f.path))
      ∧ ∀ f ∈ discounts.files, Disk.Passable .usual f.path.names
          ∧ RemovesAlone (door.holding discounts) f
            (handle (door.holding discounts)
              (delete (fileUri door f.path))) := by
  have hreached : discounts.Reached := Desk.reached_history _ _ _
  have hfiles := discounts.files_of_sorted (by decide +kernel)
  have hplain : ∀ f ∈ discounts.files, Disk.Passable .usual f.path.names
      ∧ Glob.Literal f.path.chars := by
    rw [hfiles]
    unfold Disk.Passable
    decide +kernel
  obtain ⟨hareas, hpaths⟩ :=
    fileLinks_remove_alone_iff plainBase_door rfl fun _ => rfl
  refine ⟨?_, ?_, fun f hf => ⟨(hplain f hf).1, ?_⟩⟩
  · rw [hfiles]
    decide +kernel
  · obtain ⟨hlisted, -⟩ := hareas discounts hreached
    have hroute : Route.find? (BasePath.ofText (basePath door))
        (readTarget (get "/files").uri).1 = some .files := by decide
    have hanswer : ∃ doc, (handle (door.holding discounts) (get "/files")).1
        = .document 200 doc := ⟨_, rfl⟩
    obtain ⟨doc, hdoc⟩ := hanswer
    refine ⟨doc, hdoc, fun entity hmem => ?_⟩
    obtain ⟨f, hf, -, hhref⟩ := hlisted (get "/files") doc rfl hroute hdoc
      entity hmem
    exact ⟨f, hf, hhref⟩
  · have hhome : discounts.disk.root = .usual := by
      unfold discounts
      exact Desk.home_history _ _ _
    exact (hpaths .usual f.path (hplain f hf).1).2 (hplain f hf).2 discounts
      hreached hhome f hf rfl

-- ---------------------------------------------------- a name with a star in it

/-- Two files; the name of one, as a pattern, matches the other's. -/
def starred : StagingArea :=
  Desk.history .usual "" [.store (.create "a*") ⟨0, 0⟩,
    .store (.create "ab") ⟨0, 0⟩]

/-- The link of the one takes both away, and tells of two. -/
theorem starLink_removes_both :
    starred.Reached
      ∧ starred.files.map (·.path.text) = ["a*", "ab"]
      ∧ (∃ doc, (handle (door.holding starred) (get "/files")).1
          = .document 200 doc
        ∧ (entitiesIn doc).map (hrefOf? "self")
          = [some "/files/a*", some "/files/ab"])
      ∧ (∃ doc, (handle (door.holding starred) (delete "/files/a*")).1
          = .document 200 doc
        ∧ doc.field? "deleteCount" = some (.nat 2))
      ∧ (handle (door.holding starred)
          (delete "/files/a*")).2.depot.area.files = [] := by
  have hfiles := starred.files_of_sorted (by decide +kernel)
  have hheld : (door.holding starred).depot.area.files
      = starred.disk.entries.filterMap StagingArea.stagedAt := hfiles
  let path : StagePath := ⟨["a*".toList], by decide, by decide⟩
  have hhandle : handle (door.holding starred) (delete "/files/a*")
      = (.document 200 (FileInfo.ofDelete "a*" 2).toJson,
        door.holding .fresh) := by
    have hlink : fileUri (door.holding starred) path = "/files/a*" := by
      decide +kernel
    have htext : path.text = "a*" := by decide
    have hdelete : Desk.delete .none starred "a*"
        = (.ok 2, .fresh) := by
      unfold Desk.delete StagingArea.list
      rw [hfiles]
      decide +kernel
    have htaken : Desk.delete (door.holding starred).outages.store
        (door.holding starred).depot.area "a*"
          = (.ok 2, .fresh) := hdelete
    rw [← hlink, @handle_fileUri (door.holding starred) plainBase_door, htext,
      htaken]
    rfl
  rw [hhandle]
  refine ⟨Desk.reached_history _ _ _, ?_, ⟨_, rfl, ?_⟩, ⟨_, rfl, rfl⟩, ?_⟩
  · rw [hfiles]
    decide +kernel
  · rw [hheld]
    decide +kernel
  · decide +kernel

end Web

end BatchAdmin
