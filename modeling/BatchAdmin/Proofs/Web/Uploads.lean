/-
Which part of a form an upload stores.

The reader goes through the parts with a folder in its hands, which is the
one that the request names or else the text of the first part named `path`
that it has met (`chosen`). One part is one step (`receive_part`), and by
induction the parts in front of the first file part do nothing but settle
the folder (`receive_passed`). So an upload is an upload of that one file
part, and what else stands in the form does not matter
(`upload_stores_first_file`); without such a part, or without a name for the
file, it is refused and nothing happens.
-/
import BatchAdmin.Proofs.Web.FileLinks
import BatchAdmin.Proofs.Web.Forms

namespace BatchAdmin.Web

open Text Multipart

-- ================================================================ boundaries

namespace MediaType

variable {s rest value name : List Char}

/-- A character of a word is printable. -/
theorem isQuotable_of_isWord {c : Char} (h : isWord c = true) :
    isQuotable c = true := by
  unfold isWord at h
  rcases Bool.or_eq_true_iff.1 h with h | h
  · have hcode : c.toNat = c.val.toNat := rfl
    unfold Char.isAlphanum Char.isAlpha Char.isUpper Char.isLower
      Char.isDigit at h
    simp only [Bool.or_eq_true, Bool.and_eq_true, decide_eq_true_eq,
      UInt32.le_iff_toNat_le, ge_iff_le, Char.reduceVal,
      UInt32.reduceToNat] at h
    simp only [isQuotable, Bool.and_eq_true, decide_eq_true_eq, hcode]
    omega
  · have hall : "!#$%&'*+-.^_`|~".toList.all isQuotable = true := by decide
    exact List.all_eq_true.1 hall c (List.contains_iff_mem.1 h)

/-- So is a word. -/
theorem all_takeWhile_isWord :
    (s.takeWhile isWord).all isQuotable = true :=
  List.all_eq_true.2 fun _ hc =>
    isQuotable_of_isWord (List.all_eq_true.1 List.all_takeWhile _ hc)

/-- And a quoted value. -/
theorem all_of_quotedValue (h : quotedValue s = some (value, rest)) :
    value.all isQuotable = true := by
  unfold quotedValue at h
  split at h
  · cases h
  · dsimp only at h
    split at h
    · obtain ⟨hall, h⟩ := Option.ite_none_right_eq_some.1 h
      cases h
      exact hall
    · cases h

/-- So the value of a parameter is. -/
theorem all_of_parameterValue (h : parameterValue s = some (value, rest)) :
    value.all isQuotable = true := by
  unfold parameterValue at h
  split at h
  · obtain ⟨⟨v, more⟩, hv, h⟩ := Option.bind_eq_some_iff.1 h
    have hall := all_of_quotedValue hv
    dsimp only at h
    split at h
    · cases h
      exact hall
    · cases h
      exact hall
    · cases h
  · dsimp only at h
    split at h
    · cases h
      exact all_takeWhile_isWord
    · split at h
      · cases h
      · cases h
        exact all_takeWhile_isWord
    · cases h

theorem all_of_parametersFrom {fuel : Nat}
    {ps : List (List Char × List Char)}
    (h : parametersFrom fuel s = some ps) (hmem : (name, value) ∈ ps) :
    value.all isQuotable = true := by
  induction fuel generalizing s ps with
  | zero => cases h
  | succ fuel ih =>
      rw [parametersFrom] at h
      dsimp only at h
      split at h
      · cases h
        cases hmem
      · split at h
        · obtain ⟨⟨v, rest⟩, hv, h⟩ := Option.bind_eq_some_iff.1 h
          obtain ⟨more, hmore, h⟩ := Option.bind_eq_some_iff.1 h
          cases h
          rcases List.mem_cons.1 hmem with heq | hmem
          · cases heq
            exact all_of_parameterValue hv
          · exact ih hmore hmem
        · cases h

/-- The parameters of a media type are printable. -/
theorem all_of_read? {m : MediaType} (h : read? s = some m)
    (hmem : (name, value) ∈ m.parameters) : value.all isQuotable = true := by
  unfold read? at h
  obtain ⟨⟨type, rest⟩, -, h⟩ := Option.bind_eq_some_iff.1 h
  dsimp only at h
  split at h
  · obtain ⟨⟨sub, rest⟩, -, h⟩ := Option.bind_eq_some_iff.1 h
    dsimp only at h
    split at h
    · cases h
      cases hmem
    · obtain ⟨ps, hps, h⟩ := Option.bind_eq_some_iff.1 h
      cases h
      exact all_of_parametersFrom hps hmem
    · cases h
  · cases h

end MediaType

namespace UploadForm

variable {g : Gateway} {r : Request} {boundary s : List Octet}
  {folder : Option String}

/-- The boundary that a request names has no line end in it. -/
theorem not_mem_boundary (h : boundary? r = some boundary) :
    13 ∉ boundary ∧ 10 ∉ boundary := by
  obtain ⟨text, htext, rfl⟩ := Option.map_eq_some_iff.1 h
  obtain ⟨m, hm, htext⟩ := Option.bind_eq_some_iff.1 htext
  obtain ⟨s, -, hread⟩ := Option.bind_eq_some_iff.1 hm
  have hshown : text.all MediaType.isQuotable = true := by
    unfold MediaType.boundary? at htext
    obtain ⟨-, hfound⟩ := Option.ite_none_right_eq_some.1 htext
    obtain ⟨⟨name, value⟩, hfind, rfl⟩ := Option.map_eq_some_iff.1 hfound
    exact MediaType.all_of_read? hread (List.mem_of_find?_eq_some hfind)
  have hoctets : ∀ b ∈ octets text, 32 ≤ b.toNat := by
    intro b hb
    obtain ⟨c, hc, hbc⟩ := List.mem_flatMap.1 hb
    have hc := List.all_eq_true.1 hshown c hc
    simp only [MediaType.isQuotable, Bool.and_eq_true, decide_eq_true_eq]
      at hc
    have hone : octets [c] = [UInt8.ofNat c.toNat] := by
      have hascii := octets_of_lt (n := c.toNat) (by omega)
      rwa [Char.ofNat_toNat] at hascii
    have hb : b ∈ octets [c] := List.mem_flatMap.2 ⟨c, by simp, hbc⟩
    rw [hone, List.mem_singleton] at hb
    rw [hb, UInt8.toNat_ofNat']
    omega
  exact ⟨fun hmem => absurd (hoctets 13 hmem) (by decide),
    fun hmem => absurd (hoctets 10 hmem) (by decide)⟩

-- ================================================================= the parts

/-- The name of the part is this. -/
def named (name : String) (p : Part boundary) : Bool :=
  p.head.name == some name

/-- The folder after a part was passed. -/
def chosen (folder : Option String) (p : Part boundary) : Option String :=
  folder.or (if named "path" p then some (partText p.head p.content)
    else none)

/-- The text of the first part named `path`. -/
def pathText (ps : List (Part boundary)) : Option String :=
  (ps.find? (named "path")).map fun p => partText p.head p.content

/-- Passing parts one after another chooses the text of the first path
part, unless there is a folder. -/
theorem foldl_chosen (ps : List (Part boundary)) :
    ps.foldl chosen folder = folder.or (pathText ps) := by
  induction ps generalizing folder with
  | nil => simp [pathText]
  | cons p ps ih =>
      rw [List.foldl_cons, ih]
      unfold chosen pathText
      rw [List.find?_cons]
      cases named "path" p with
      | true => simp
      | false => simp

/-- What a file part comes to: an upload of its content into the folder, or
a refusal if it has no name for the file. -/
def store (g : Gateway) (folder : Option String) (p : Part boundary) :
    Answer FileInfo × Gateway :=
  match p.head.fileName with
  | none => (.error noFileName, g)
  | some fileName =>
      g.uploadAndPublish (folder.getD "") fileName (.whole p.content)

/-- At a part the reader either stores it or goes on to the next. -/
theorem receive_part (hreturn : 13 ∉ boundary) {p : Part boundary}
    {ps : List (Part boundary)} (h : Written boundary (p :: ps) s) :
    ∃ next, Written boundary ps next ∧ ∀ fuel folder,
      receive g boundary (fuel + 1) folder s
        = if named "file" p then store g folder p
          else receive g boundary fuel (chosen folder p) next := by
  cases h with
  | @part blanks next ps p hblanks h =>
      obtain ⟨more, rfl⟩ := h.exists_eq
      refine ⟨_, h, fun fuel folder => ?_⟩
      have hcontent := content?_part p hreturn more
      rw [receive, next?_part p hblanks]
      dsimp only
      unfold named store chosen
      by_cases hfile : p.head.name = some "file"
      · rw [if_pos hfile, if_pos (by simpa using hfile)]
        cases p.head.fileName with
        | none => rfl
        | some fileName =>
            dsimp only
            unfold partContent
            rw [hcontent]
      · rw [if_neg hfile, if_neg (by simpa using hfile), hcontent]
        dsimp only
        congr 1
        cases folder with
        | some folder => simp
        | none => simp [named]

/-- Parts that are not the file are passed. -/
theorem receive_passed (hreturn : 13 ∉ boundary)
    {before rest : List (Part boundary)}
    (hbefore : ∀ p ∈ before, named "file" p = false)
    (h : Written boundary (before ++ rest) s) :
    ∃ next, Written boundary rest next ∧ ∀ fuel folder,
      receive g boundary (before.length + fuel) folder s
        = receive g boundary fuel (before.foldl chosen folder) next := by
  induction before generalizing s with
  | nil =>
      refine ⟨s, h, fun fuel folder => ?_⟩
      rw [List.length_nil, Nat.zero_add]
      rfl
  | cons p before ih =>
      obtain ⟨next, hnext, hpart⟩ := receive_part (g := g) hreturn h
      obtain ⟨last, hlast, hpassed⟩ := ih
        (fun q hq => hbefore q (List.mem_cons_of_mem _ hq)) hnext
      refine ⟨last, hlast, fun fuel folder => ?_⟩
      rw [List.length_cons, Nat.add_right_comm, hpart,
        hbefore p List.mem_cons_self, if_neg Bool.false_ne_true, hpassed]
      rfl

/-- The first file part is what is stored. -/
theorem receive_file (hreturn : 13 ∉ boundary)
    {before after : List (Part boundary)} {file : Part boundary}
    (hbefore : ∀ p ∈ before, named "file" p = false)
    (hfile : named "file" file = true)
    (h : Written boundary (before ++ file :: after) s) :
    receive g boundary (s.length + 1) folder s
      = store g (folder.or (pathText before)) file := by
  obtain ⟨next, hnext, hpassed⟩ := receive_passed (g := g) hreturn hbefore h
  obtain ⟨_, _, hpart⟩ := receive_part (g := g) hreturn hnext
  obtain ⟨fuel, hfuel⟩ :
      ∃ fuel, s.length + 1 = before.length + (fuel + 1) := by
    have hle := h.length_le
    rw [List.length_append, List.length_cons] at hle
    exact ⟨s.length - before.length, by omega⟩
  rw [hfuel, hpassed, hpart, hfile, if_pos rfl, foldl_chosen]

/-- Without a file part nothing is. -/
theorem receive_none (hreturn : 13 ∉ boundary)
    {parts : List (Part boundary)}
    (hparts : ∀ p ∈ parts, named "file" p = false)
    (h : Written boundary parts s) :
    receive g boundary (s.length + 1) folder s = (.error noFile, g) := by
  have hle := h.length_le
  rw [← List.append_nil parts] at h
  obtain ⟨next, hnext, hpassed⟩ := receive_passed (g := g) hreturn hparts h
  obtain ⟨fuel, hfuel⟩ :
      ∃ fuel, s.length + 1 = parts.length + (fuel + 1) :=
    ⟨s.length - parts.length, by omega⟩
  rw [hfuel, hpassed]
  cases hnext with
  | close rest =>
      rw [receive, next?_close]

-- ============================================================== the requests

/-- The response that tells how an upload went. -/
def told : Answer FileInfo × Gateway → Response × Gateway
  | (answer, g) => (.ofAnswer 200 (answer.map (·.toJson)), g)

/-- A form in the body is read from its first part on. -/
theorem handle_form (g : Gateway) (folder : Option String)
    (hboundary : boundary? r = some boundary)
    {parts : List (Part boundary)} (h : Form boundary parts r.body) :
    ∃ s, Written boundary parts s
      ∧ handle g r folder
        = told (receive g boundary (s.length + 1) folder s) := by
  obtain ⟨hreturn, hfeed⟩ := not_mem_boundary hboundary
  obtain ⟨s, hstart, hs⟩ := start?_form hreturn hfeed h
  refine ⟨s, hs, ?_⟩
  unfold handle
  rw [hboundary]
  dsimp only
  rw [hstart]
  rfl

end UploadForm

/-- A request for an upload, with the folder that its target names, if any:
in the query of the files, or in the route behind them. -/
inductive AsksUpload (g : Gateway) (r : Request) : Option String → Prop
  | query {folder : Option String}
      (hroute : Route.find? (BasePath.ofText (basePath g))
        (readTarget r.uri).1 = some .files)
      (hquery : (readTarget r.uri).2.text "path" = .ok folder) :
      AsksUpload g r folder
  | route {path : List Char} {folder : String}
      (hholes : (BasePath.ofText (basePath g)).holes = 0)
      (hroute : Route.find? (BasePath.ofText (basePath g))
        (readTarget r.uri).1 = some (.filesAt path))
      (hfolder : Route.textParameter path = .ok folder) :
      AsksUpload g r (some folder)

variable {g : Gateway} {r : Request} {boundary : List Octet}
  {folder : Option String}

/-- A POST that asks for an upload is answered by the reader of forms. -/
theorem handle_asksUpload (hpost : r.method = "POST")
    (h : AsksUpload g r folder) :
    handle g r = UploadForm.handle g r folder := by
  cases h with
  | query hroute hquery =>
      rw [handle_allowed hpost (by decide) hroute (by decide)]
      unfold answerBehind
      rw [if_neg fun h => Bool.false_ne_true h.2]
      show uploadFile g (readTarget r.uri).2 r = _
      unfold uploadFile
      rw [hquery]
  | @route path folder hholes hroute hfolder =>
      rw [handle_allowed hpost (by decide) hroute rfl]
      unfold answerBehind
      rw [hholes, if_neg fun h => Nat.lt_irrefl 0 h.1]
      show uploadInto g path r = _
      unfold uploadInto
      rw [hfolder]

section Targets

variable (h : PlainBase (basePath g))
include h

/-- The link of the files ends where their query starts. -/
private theorem not_mem_files {c : Char} (hslash : c ≠ '/')
    (hc : isUnreserved c = false) (hmem : c ∉ "/files".toList) :
    c ∉ basePath g ++ "/files".toList := by
  rw [List.mem_append, not_or]
  exact ⟨h.not_mem hslash hc, hmem⟩

/-- It is routed to the files. -/
private theorem find?_files :
    Route.find? (BasePath.ofText (basePath g))
      (basePath g ++ "/files".toList) = some .files := by
  have hnames : Route.segments "/files".toList = [] :: ["files".toList] := by
    decide
  rw [find?_behind h hnames]
  decide

/-- The link of the files asks for an upload and names no folder. -/
theorem asksUpload_root (huri : r.uri = linkRoute g "/files") :
    AsksUpload g r none := by
  have htarget : readTarget r.uri
      = (basePath g ++ "/files".toList, []) := by
    rw [huri]
    exact readTarget_path (h.head? (by decide))
      (not_mem_files h (by decide) (by decide) (by decide))
      (not_mem_files h (by decide) (by decide) (by decide))
  refine .query ?_ ?_
  · rw [htarget, find?_files h]
  · rw [htarget]
    rfl

/-- In its query any folder can be named. -/
theorem asksUpload_query {name : String}
    (huri : r.uri = String.ofList (basePath g ++ "/files".toList
      ++ '?' :: formQuery [("path".toList, name.toList)])) :
    AsksUpload g r (some name) := by
  have htarget : readTarget r.uri = (basePath g ++ "/files".toList,
      [("path".toList, name.toList)]) := by
    rw [huri, readTarget_query (h.head? (by decide))
      (not_mem_files h (by decide) (by decide) (by decide))
      (not_mem_files h (by decide) (by decide) (by decide))
      (not_mem_formQuery (by decide) (by decide) (by decide) _),
      readForm_formQuery]
  refine .query ?_ ?_
  · rw [htarget, find?_files h]
  · rw [htarget]
    exact congrArg (fun text => Except.ok (some text)) String.ofList_toList

/-- The link of a path asks for an upload into the folder with that path. -/
theorem asksUpload_route {path : StagePath} (huri : r.uri = fileUri g path) :
    AsksUpload g r (some path.text) := by
  obtain ⟨hroute, hread⟩ := ofSegments_file path
  obtain ⟨-, hfind⟩ := find?_self h hroute
  refine .route ?_ (huri ▸ hfind) hread
  rw [h.ofText]
  exact holes_chars _

end Targets

/-- For all forms: a POST that asks for an upload stores the first part named
`file`, under its file name, in the folder that the target names, or else in
the one that the first part named `path` in front of it says, or else in the
root, and publishes it. No other part matters. If that part has no file name,
or there is no such part, the request is refused and nothing happens. -/
theorem upload_stores_first_file {parts : List (Multipart.Part boundary)}
    (hpost : r.method = "POST") (hasks : AsksUpload g r folder)
    (hboundary : UploadForm.boundary? r = some boundary)
    (hform : Multipart.Form boundary parts r.body) :
    (∀ before file after, parts = before ++ file :: after →
        (∀ p ∈ before, p.head.name ≠ some "file") →
        file.head.name = some "file" →
      (∀ fileName, file.head.fileName = some fileName →
        handle g r = UploadForm.told (g.uploadAndPublish
          ((folder.or (UploadForm.pathText before)).getD "") fileName
          (.whole file.content)))
      ∧ (file.head.fileName = none → handle g r
          = (.ofFailure (.invalidRequest "file field has no filename"), g)))
    ∧ ((∀ p ∈ parts, p.head.name ≠ some "file") → handle g r
        = (.ofFailure
            (.invalidRequest "multipart field 'file' is required"), g)) := by
  obtain ⟨hreturn, -⟩ := UploadForm.not_mem_boundary hboundary
  obtain ⟨s, hs, hhandle⟩ :=
    UploadForm.handle_form g folder hboundary hform
  rw [handle_asksUpload hpost hasks, hhandle]
  constructor
  · rintro before file after rfl hbefore hfile
    rw [UploadForm.receive_file hreturn
      (fun p hp => by simpa [UploadForm.named] using hbefore p hp)
      (by simpa [UploadForm.named] using hfile) hs]
    unfold UploadForm.store
    constructor
    · intro fileName hname
      rw [hname]
    · intro hname
      rw [hname]
      rfl
  · intro hparts
    rw [UploadForm.receive_none hreturn
      (fun p hp => by simpa [UploadForm.named] using hparts p hp) hs]
    rfl

-- ------------------------------------------------------------- a mixed form

section Mixed

open Multipart

/-- A part with a text. -/
def textPart (disposition content : String)
    (hshown : (octetsOf disposition).all isValue = true)
    (hapart : ¬(lineEnd ++ hyphens ++ octetsOf "xyz")
      <:+: octetsOf content) : Part (octetsOf "xyz") :=
  .saying (octetsOf disposition) (octetsOf content) hshown hapart

/-- A part with a file. -/
def filePart (fileName content : String)
    (hshown : (fileDisposition fileName).all isValue = true)
    (hapart : ¬(lineEnd ++ hyphens ++ octetsOf "xyz")
      <:+: octetsOf content) : Part (octetsOf "xyz") :=
  .saying (fileDisposition fileName) (octetsOf content) hshown hapart

/-- A note and two folders. -/
def inFront : List (Part (octetsOf "xyz")) :=
  [textPart "form-data; name=note" "urgent" (by decide) (by decide),
    textPart "form-data; name=\"path\"" "inbox" (by decide) (by decide),
    textPart "form-data; name=\"path\"" "outbox" (by decide) (by decide)]

/-- Another folder and another file. -/
def behind : List (Part (octetsOf "xyz")) :=
  [textPart "form-data; name=\"path\"" "daily" (by decide) (by decide),
    filePart "b.csv" "3,4" (by decide) (by decide)]

/-- A file. -/
def between : Part (octetsOf "xyz") :=
  filePart "a.csv" "1,2" (by decide) (by decide)

/-- A POST of a form with these parts. -/
def postParts (uri : String) (parts : List (Part (octetsOf "xyz"))) :
    Request :=
  { method := "POST", uri
    headers := [("Content-Type", "multipart/form-data; boundary=xyz")]
    body := write parts }

/-- The first file goes to the first folder, or to the one that the target
names, in its query or in its route, and nothing else is done. A form without
a file is refused. -/
theorem mixedForm_stored :
    handle door (postParts "/files" (inFront ++ between :: behind))
        = UploadForm.told (door.uploadAndPublish "inbox" "a.csv"
            (.whole (octetsOf "1,2")))
      ∧ handle door (postParts "/files?path=old%2Fin"
          (inFront ++ between :: behind))
        = UploadForm.told (door.uploadAndPublish "old/in" "a.csv"
            (.whole (octetsOf "1,2")))
      ∧ handle door (postParts "/files/daily/2024"
          (inFront ++ between :: behind))
        = UploadForm.told (door.uploadAndPublish "daily/2024" "a.csv"
            (.whole (octetsOf "1,2")))
      ∧ handle door (postParts "/files" inFront)
        = (.ofFailure
            (.invalidRequest "multipart field 'file' is required"),
          door) := by
  have hboundary (uri : String) (parts : List (Part (octetsOf "xyz"))) :
      UploadForm.boundary? (postParts uri parts)
        = some (octetsOf "xyz") := by
    have hempty : UploadForm.boundary? (postParts "" [])
        = some (octetsOf "xyz") := by decide
    exact hempty
  have hfront : ∀ p ∈ inFront, p.head.name ≠ some "file" := by decide
  have hfile : between.head
      = { name := some "file", fileName := some "a.csv", media := none } :=
    Part.head_file _ _ (by decide)
  have hfolder : UploadForm.pathText inFront = some "inbox" := by decide
  have hstored {uri name : String} {folder : Option String}
      (h : AsksUpload door
        (postParts uri (inFront ++ between :: behind)) folder)
      (hname : (folder.or (some "inbox")).getD "" = name) :
      handle door (postParts uri (inFront ++ between :: behind))
        = UploadForm.told (door.uploadAndPublish name "a.csv"
            (.whole (octetsOf "1,2"))) := by
    obtain ⟨hfirst, -⟩ := upload_stores_first_file rfl h
      (hboundary uri (inFront ++ between :: behind))
      (.plain (written_write _))
    obtain ⟨hnamed, -⟩ := hfirst inFront between behind rfl hfront
      (by rw [hfile])
    rw [hnamed "a.csv" (by rw [hfile]), hfolder, hname]
    rfl
  let daily : StagePath :=
    ⟨["daily".toList, "2024".toList], by decide, by decide⟩
  have hroot : AsksUpload door
      (postParts "/files" (inFront ++ between :: behind)) none :=
    asksUpload_root plainBase_door rfl
  have hquery : AsksUpload door
      (postParts "/files?path=old%2Fin" (inFront ++ between :: behind))
      (some "old/in") := asksUpload_query plainBase_door (by decide)
  have hroute : AsksUpload door
      (postParts "/files/daily/2024" (inFront ++ between :: behind))
      (some daily.text) := asksUpload_route plainBase_door (by decide)
  refine ⟨hstored hroot rfl, hstored hquery rfl, ?_, ?_⟩
  · have htext : daily.text = "daily/2024" := by decide
    rw [htext] at hroute
    exact hstored hroute rfl
  · obtain ⟨-, hnone⟩ := upload_stores_first_file rfl
      (asksUpload_root plainBase_door rfl) (hboundary "/files" inFront)
      (.plain (written_write _))
    exact hnone hfront

end Mixed

end BatchAdmin.Web
