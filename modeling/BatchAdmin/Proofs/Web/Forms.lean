/-
Forms are read as they were written.

A form is written part by part: a boundary line, header lines, an empty
line, the content, and so on, with a last boundary that closes the form
(`Written`). What a part is made of is such that none of it can be taken for
a boundary or for the end of its headers (`Header`, `Part`). So each mark
that the reader looks for is first found where it was written
(`splitAt?_pass` says what is passed on the way), and the reader gets from
one part to the next with the head and the content of each (`next?_part`,
`content?_part`).
-/
import BatchAdmin.Web.Multipart
import BatchAdmin.Proofs.Text.Escapes
import Mathlib.Data.List.Infix

namespace BatchAdmin.Web.Multipart

open Text

-- ===================================================================== marks

section Marks

variable {mark front s : List Octet} {b c : Octet}

/-- An octet at which the mark does not start is passed. -/
theorem splitAt?_step (h : ¬mark <+: b :: s) (before : List Octet) :
    splitAt? mark before (b :: s) = splitAt? mark (b :: before) s := by
  rw [← List.isPrefixOf_iff_prefix] at h
  rw [splitAt?, if_neg h]

/-- So is a text within which it does not start. -/
theorem splitAt?_pass (before : List Octet)
    (h : ∀ done left, front = done ++ left → left ≠ [] →
      ¬mark <+: left ++ s) :
    splitAt? mark before (front ++ s)
      = splitAt? mark (front.reverse ++ before) s := by
  induction front generalizing before with
  | nil => rfl
  | cons b rest ih =>
      have hhere : ¬mark <+: b :: (rest ++ s) :=
        h [] (b :: rest) rfl (List.cons_ne_nil _ _)
      rw [List.cons_append, splitAt?_step hhere, ih]
      · simp
      · intro done left hrest hleft
        exact h (b :: done) left (by rw [hrest]; rfl) hleft

/-- A mark is found where it stands. -/
theorem splitAt?_here (before s : List Octet) :
    splitAt? mark before (mark ++ s) = some (before.reverse, mark ++ s) := by
  cases hs : mark ++ s with
  | nil =>
      rw [List.append_eq_nil_iff] at hs
      rw [hs.1]
      rfl
  | cons b rest =>
      have hhere : mark.isPrefixOf (b :: rest) = true := by
        rw [List.isPrefixOf_iff_prefix, ← hs]
        exact List.prefix_append _ _
      rw [splitAt?, if_pos hhere]

/-- A mark that starts in one text and not within it goes on into what
follows. -/
theorem eq_of_prefix (h : mark <+: front ++ c :: s) (hno : ¬mark <+: front) :
    ∃ rest, mark = front ++ c :: rest := by
  rcases List.prefix_or_prefix_of_prefix h (List.prefix_append front _)
    with hin | ⟨left, rfl⟩
  · exact absurd hin hno
  · rw [List.prefix_append_right_inj] at h
    cases left with
    | nil => exact absurd (by simp) hno
    | cons d rest =>
        obtain ⟨rfl, -⟩ := List.cons_prefix_cons.1 h
        exact ⟨rest, rfl⟩

/-- A text without a mark is passed when an octet follows it that the mark
does not have. -/
theorem splitAt?_stopped (hc : c ∉ mark) (hfront : ¬mark <:+: front)
    (before : List Octet) :
    splitAt? mark before (front ++ c :: s)
      = splitAt? mark (c :: (front.reverse ++ before)) s := by
  have hpass : splitAt? mark before (front ++ [c] ++ s)
      = splitAt? mark ((front ++ [c]).reverse ++ before) s := by
    refine splitAt?_pass before fun done left hleft hne hpre => ?_
    rcases List.eq_nil_or_concat left with rfl | ⟨left, d, rfl⟩
    · exact hne rfl
    · rw [List.concat_eq_append, ← List.append_assoc] at hleft
      obtain ⟨rfl, hd⟩ := List.append_inj' hleft rfl
      obtain rfl : c = d := List.head_eq_of_cons_eq hd
      have hno : ¬mark <+: left := fun hin =>
        hfront (hin.isInfix.trans ⟨done, [], by simp⟩)
      rw [List.concat_eq_append, List.append_assoc] at hpre
      obtain ⟨rest, rfl⟩ := eq_of_prefix hpre hno
      exact hc (by simp)
  simpa using hpass

/-- A text without a mark is passed when the mark follows it, if the mark
has its first octet only once. -/
theorem splitAt?_first (hc : c ∉ mark) (hfront : ¬(c :: mark) <:+: front) :
    splitAt? (c :: mark) [] (front ++ (c :: mark ++ s))
      = some (front, c :: mark ++ s) := by
  rw [splitAt?_pass, splitAt?_here]
  · simp
  · intro done left hleft hne hpre
    have hno : ¬(c :: mark) <+: left := fun hin =>
      hfront (hin.isInfix.trans ⟨done, [], by rw [hleft]; simp⟩)
    obtain ⟨rest, hrest⟩ := eq_of_prefix hpre hno
    cases left with
    | nil => exact hne rfl
    | cons d left =>
        obtain ⟨rfl, hmark⟩ := List.cons.inj hrest
        exact hc (by rw [hmark]; simp)

/-- A text without the first octet of a mark is passed. -/
theorem splitAt?_line (hc : c ∉ front) (before : List Octet) :
    splitAt? (c :: mark) before (front ++ s)
      = splitAt? (c :: mark) (front.reverse ++ before) s := by
  refine splitAt?_pass before fun done left hleft hne hpre => ?_
  cases left with
  | nil => exact hne rfl
  | cons d left =>
      obtain ⟨rfl, -⟩ := List.cons_prefix_cons.1 hpre
      exact hc (by rw [hleft]; simp)

end Marks

-- =================================================================== headers

/-- A header line as it is written: a name, and behind a colon a value with
blanks around it or not. -/
structure Header where
  name : List Octet
  value : List Octet
  named : name ≠ []
  tokens : name.all isToken = true
  shown : value.all isValue = true

namespace Header

/-- The line without its end. -/
def line (h : Header) : List Octet := h.name ++ 58 :: h.value

/-- The name and the value as they are read: the name in lower case, the
value without the blanks around it. -/
def read (h : Header) : List Octet × List Octet :=
  (h.name.map lowerOctet,
    ((h.value.dropWhile isGap).reverse.dropWhile isGap).reverse)

variable (h : Header) {b : Octet}

/-- A header line is read as the header that it was written for. -/
theorem headerLine_line : headerLine h.line = some h.read := by
  have htokens : ∀ b ∈ h.name, isToken b = true :=
    List.all_eq_true.1 h.tokens
  have hname : h.line.takeWhile isToken = h.name := by
    unfold line
    rw [List.takeWhile_append_of_pos htokens,
      List.takeWhile_cons_of_neg (by decide), List.append_nil]
  have hrest : h.line.drop h.name.length = 58 :: h.value :=
    List.drop_left
  have hshown : h.read.2.all isValue = true := by
    refine List.all_eq_true.2 fun b hb => ?_
    refine List.all_eq_true.1 h.shown b ?_
    have hb := List.dropWhile_sublist _ |>.mem (List.mem_reverse.1 hb)
    exact List.dropWhile_sublist _ |>.mem (List.mem_reverse.1 hb)
  have hnot : ¬(h.name.isEmpty = true ∨ (!h.read.2.all isValue) = true) := by
    rw [hshown, List.isEmpty_iff]
    simpa using h.named
  simp only [headerLine, hname, hrest]
  exact if_neg hnot

/-- No octet of a header line ends it. -/
theorem not_mem_line (hb : isToken b = false) (hb' : isValue b = false)
    (hcolon : b ≠ 58) : b ∉ h.line := by
  unfold line
  rw [List.mem_append, List.mem_cons]
  rintro (hmem | heq | hmem)
  · rw [List.all_eq_true.1 h.tokens b hmem] at hb
    cases hb
  · exact hcolon heq
  · rw [List.all_eq_true.1 h.shown b hmem] at hb'
    cases hb'

end Header

/-- Header lines, each with its end. -/
def written (hs : List Header) : List Octet :=
  hs.flatMap fun h => h.line ++ lineEnd

/-- Header lines up to an empty one are read as the headers. -/
theorem headers_written {hs : List Header} {fuel : Nat}
    (hfuel : hs.length < fuel) :
    headers fuel (written hs ++ lineEnd) = some (hs.map Header.read) := by
  induction hs generalizing fuel with
  | nil =>
      obtain ⟨fuel, rfl⟩ : ∃ n, fuel = n + 1 := ⟨fuel - 1, by omega⟩
      rfl
  | cons h rest ih =>
      obtain ⟨fuel, rfl⟩ : ∃ n, fuel = n + 1 := ⟨fuel - 1, by omega⟩
      have hline : (10 : Octet) ∉ h.line ++ [13] := by
        have hno := h.not_mem_line (b := 10) (by decide) (by decide)
          (by decide)
        simp [hno]
      have hcut : splitAt? [10] []
          ((h.line ++ [13]) ++ ([10] ++ (written rest ++ lineEnd)))
          = some (h.line ++ [13], [10] ++ (written rest ++ lineEnd)) := by
        rw [splitAt?_line hline, splitAt?_here]
        simp
      have hwritten : written (h :: rest) ++ lineEnd
          = (h.line ++ [13]) ++ ([10] ++ (written rest ++ lineEnd)) := by
        simp [written, lineEnd]
      have hreturn : withoutReturn (h.line ++ [13]) = h.line := by
        simp [withoutReturn]
      have hne : h.line.isEmpty = false := by
        simp [Header.line]
      rw [hwritten, headers, hcut]
      dsimp only
      rw [hreturn, hne, if_neg Bool.false_ne_true, h.headerLine_line]
      have hrest : headers fuel (written rest ++ lineEnd)
          = some (rest.map Header.read) := by
        refine ih ?_
        rw [List.length_cons] at hfuel
        omega
      show (headers fuel (written rest ++ lineEnd)).bind _ = _
      rw [hrest]
      rfl

/-- The empty line behind header lines is the first one. -/
theorem splitAt?_written {hs : List Header} (hne : hs ≠ [])
    (before s : List Octet) :
    ∃ lines, written hs = lines ++ lineEnd
      ∧ splitAt? (lineEnd ++ lineEnd) before (written hs ++ (lineEnd ++ s))
        = some (before.reverse ++ lines, lineEnd ++ lineEnd ++ s) := by
  induction hs generalizing before with
  | nil => exact absurd rfl hne
  | cons h rest ih =>
      have hpass : ∀ more, splitAt? (lineEnd ++ lineEnd) before
          (h.line ++ more)
            = splitAt? (lineEnd ++ lineEnd) (h.line.reverse ++ before)
              more := fun more =>
        splitAt?_line (h.not_mem_line (by decide) (by decide) (by decide))
          before
      cases rest with
      | nil =>
          have hform : written [h] ++ (lineEnd ++ s)
              = h.line ++ (lineEnd ++ lineEnd ++ s) := by
            simp [written]
          refine ⟨h.line, by simp [written], ?_⟩
          rw [hform, hpass, splitAt?_here]
          simp
      | cons h' rest =>
          obtain ⟨lines, hlines, hsplit⟩ := ih (List.cons_ne_nil _ _)
            (10 :: 13 :: (h.line.reverse ++ before))
          have hform : written (h :: h' :: rest) ++ (lineEnd ++ s)
              = h.line ++ (13 :: 10 :: (written (h' :: rest)
                ++ (lineEnd ++ s))) := by
            simp [written, lineEnd]
          -- the next line has a name, which does not start with a return
          obtain ⟨b, name, hname⟩ := List.exists_cons_of_ne_nil h'.named
          have hb : 13 ≠ b := by
            rintro rfl
            refine h'.not_mem_line (b := 13) (by decide) (by decide)
              (by decide) ?_
            simp [Header.line, hname]
          refine ⟨h.line ++ lineEnd ++ lines, ?_, ?_⟩
          · rw [List.append_assoc, ← hlines]
            rfl
          · rw [hform, hpass, splitAt?_step, splitAt?_step, hsplit]
            · simp [lineEnd]
            · simp [lineEnd]
            · simp [written, Header.line, hname, lineEnd, hb]

-- ===================================================================== parts

/-- A part of a form with this boundary: its header lines, not too many, and
a content in which the boundary does not stand on a line of its own. -/
structure Part (boundary : List Octet) where
  headers : List Header
  content : List Octet
  headed : headers ≠ []
  few : headers.length ≤ headerLimit
  apart : ¬(lineEnd ++ hyphens ++ boundary) <:+: content

variable {boundary s : List Octet}

/-- The head of a part. -/
def Part.head (p : Part boundary) : PartHead :=
  headOf (p.headers.map Header.read)

/-- Parts as they are written one after another, each behind a boundary line
that may end in blanks, with the closing boundary behind them; what follows
that is no matter. -/
inductive Written (boundary : List Octet) :
    List (Part boundary) → List Octet → Prop
  | close (rest : List Octet) :
      Written boundary [] (hyphens ++ boundary ++ (hyphens ++ rest))
  | part {blanks s : List Octet} {ps : List (Part boundary)}
      (p : Part boundary) (hblanks : blanks.all isGap = true)
      (h : Written boundary ps s) :
      Written boundary (p :: ps)
        (hyphens ++ boundary ++ (blanks ++ (lineEnd ++ (written p.headers
          ++ (lineEnd ++ (p.content ++ (lineEnd ++ s)))))))

/-- What is written stands at a boundary. -/
theorem Written.exists_eq {ps : List (Part boundary)}
    (h : Written boundary ps s) :
    ∃ more, s = hyphens ++ boundary ++ more := by
  cases h with
  | close rest => exact ⟨_, rfl⟩
  | part p hblanks h => exact ⟨_, rfl⟩

/-- There is at least one octet to each part. -/
theorem Written.length_le {ps : List (Part boundary)}
    (h : Written boundary ps s) : ps.length ≤ s.length := by
  induction h with
  | close rest => exact Nat.zero_le _
  | part p hblanks h ih =>
      simp only [List.length_cons, List.length_append]
      have hend : lineEnd.length = 2 := rfl
      omega

/-- What stands behind its front is what follows that. -/
theorem behind?_append (front s : List Octet) :
    behind? front (front ++ s) = some s := by
  unfold behind?
  rw [if_pos (List.isPrefixOf_iff_prefix.2 (List.prefix_append _ _)),
    List.drop_left]

/-- Behind the last part a form is done. -/
theorem next?_close (rest : List Octet) :
    next? boundary (hyphens ++ boundary ++ (hyphens ++ rest))
      = some .done := by
  have hlong : ¬(hyphens ++ rest).length < 2 := by
    simp [hyphens]
  unfold next?
  simp only [behind?_append, Option.bind_eq_bind, Option.bind_some, hlong,
    if_false, Option.isSome_some, if_true]

/-- At a part its head is read, and what follows is its content. -/
theorem next?_part (p : Part boundary) {blanks : List Octet}
    (hblanks : blanks.all isGap = true) (s : List Octet) :
    next? boundary (hyphens ++ boundary ++ (blanks ++ (lineEnd
        ++ (written p.headers ++ (lineEnd ++ s)))))
      = some (.part p.head s) := by
  obtain ⟨lines, hlines, hsplit⟩ := splitAt?_written p.headed [] s
  have hlong : ¬(blanks ++ (lineEnd ++ (written p.headers
      ++ (lineEnd ++ s)))).length < 2 := by
    simp [lineEnd]
    omega
  have hopen : behind? hyphens (blanks ++ (lineEnd ++ (written p.headers
      ++ (lineEnd ++ s)))) = none := by
    refine if_neg fun h => ?_
    obtain ⟨more, hmore⟩ := List.isPrefixOf_iff_prefix.1 h
    cases blanks with
    | nil => simp [hyphens, lineEnd] at hmore
    | cons b rest =>
        obtain rfl : 45 = b := (List.cons.inj hmore).1
        simp [isGap] at hblanks
  have hgaps : (blanks ++ (lineEnd ++ (written p.headers
      ++ (lineEnd ++ s)))).dropWhile isGap
        = lineEnd ++ (written p.headers ++ (lineEnd ++ s)) := by
    rw [List.dropWhile_append_of_pos (List.all_eq_true.1 hblanks)]
    rfl
  have hheaders := headers_written (Nat.lt_succ_of_le p.few)
  rw [hlines] at hheaders
  unfold next?
  simp only [behind?_append, Option.bind_eq_bind, Option.bind_some, hlong,
    if_false, hopen, Option.isSome_none, Bool.false_eq_true, hgaps, hsplit,
    List.reverse_nil, List.nil_append, hheaders]
  rfl

/-- The content of a part ends at the boundary behind it. -/
theorem content?_part (p : Part boundary) (hreturn : 13 ∉ boundary)
    (s : List Octet) :
    content? boundary
        (p.content ++ (lineEnd ++ (hyphens ++ boundary ++ s)))
      = some (p.content, hyphens ++ boundary ++ s) := by
  have hmark : (13 : Octet) ∉ 10 :: (hyphens ++ boundary) := by
    simp [hyphens, hreturn]
  have hfirst := splitAt?_first (s := s) hmark p.apart
  have hform : p.content ++ (lineEnd ++ (hyphens ++ boundary ++ s))
      = p.content ++ (13 :: 10 :: (hyphens ++ boundary) ++ s) := by
    simp [lineEnd]
  unfold content?
  rw [hform]
  exact congrArg (Option.map _) hfirst

/-- Parts as they are usually written: no blanks behind boundaries, nothing
behind the last. -/
def write : List (Part boundary) → List Octet
  | [] => hyphens ++ boundary ++ (hyphens ++ lineEnd)
  | p :: ps =>
      hyphens ++ boundary ++ ([] ++ (lineEnd ++ (written p.headers
        ++ (lineEnd ++ (p.content ++ (lineEnd ++ write ps))))))

/-- All parts can be written. -/
theorem written_write (ps : List (Part boundary)) :
    Written boundary ps (write ps) := by
  induction ps with
  | nil => exact .close lineEnd
  | cons p ps ih => exact .part p rfl ih

/-- A form with these parts: they may have a line or more in front that is
passed over, without a boundary in it. -/
inductive Form (boundary : List Octet) (ps : List (Part boundary)) :
    List Octet → Prop
  | plain {s : List Octet} (h : Written boundary ps s) : Form boundary ps s
  | led {lead s : List Octet} (hlead : ¬(hyphens ++ boundary) <:+: lead)
      (h : Written boundary ps s) : Form boundary ps (lead ++ lineEnd ++ s)

/-- A form is read from its first part on. -/
theorem start?_form {ps : List (Part boundary)} (hreturn : 13 ∉ boundary)
    (hfeed : 10 ∉ boundary) (h : Form boundary ps s) :
    ∃ s', start? boundary s = some s' ∧ Written boundary ps s' := by
  have hhere : ∀ {s'}, Written boundary ps s' → ∀ before,
      (splitAt? (hyphens ++ boundary) before s').map (·.2) = some s' := by
    intro s' hs before
    obtain ⟨more, rfl⟩ := hs.exists_eq
    rw [splitAt?_here]
    rfl
  cases h with
  | plain h => exact ⟨s, hhere h [], h⟩
  | @led lead s' hlead h =>
      refine ⟨s', ?_, h⟩
      have hreturn' : (13 : Octet) ∉ hyphens ++ boundary := by
        simp [hyphens, hreturn]
      have hfeed' : (10 : Octet) ∉ hyphens ++ boundary := by
        simp [hyphens, hfeed]
      have hnil : ¬(hyphens ++ boundary) <:+: [] := by simp [hyphens]
      have hform : lead ++ lineEnd ++ s'
          = lead ++ 13 :: ([] ++ 10 :: s') := by
        simp [lineEnd]
      unfold start?
      rw [hform, splitAt?_stopped hreturn' hlead,
        splitAt?_stopped hfeed' hnil]
      exact hhere h _

-- ===================================================================== names

/-- Octets as a quoted value writes them: a quote is escaped. -/
def quoted (s : List Octet) : List Octet :=
  s.flatMap fun b => if b = 34 then [92, 34] else [b]

/-- A quoted value is read back, unless it ends in a backslash, which would
escape the closing quote. -/
theorem quotedValue_quoted (h : s.getLast? ≠ some 92) (rest : List Octet) :
    quotedValue (quoted s ++ 34 :: rest) = some s := by
  induction s with
  | nil => rfl
  | cons b s ih =>
      have hs : s.getLast? ≠ some 92 := by
        intro hlast
        refine h ?_
        rw [List.getLast?_cons, hlast]
        rfl
      have hform : quoted (b :: s) ++ 34 :: rest
          = (if b = 34 then [92, 34] else [b])
            ++ (quoted s ++ 34 :: rest) := by
        simp [quoted]
      rw [hform]
      by_cases hquote : b = 34
      · subst hquote
        show (quotedValue (quoted s ++ 34 :: rest)).map _ = _
        rw [ih hs]
        rfl
      · rw [if_neg hquote, List.singleton_append]
        -- a backslash is the last octet, or something other than a quote
        -- follows it
        have hplain : ∀ more, b = 92 →
            quoted s ++ 34 :: rest ≠ 34 :: more := by
          rintro more rfl heq
          cases s with
          | nil => exact h rfl
          | cons c s =>
              by_cases hc : c = 34
              · simp [quoted, hc] at heq
              · simp [quoted, hc] at heq
        rw [quotedValue, ih hs]
        · rfl
        · exact hquote
        · exact hplain

/-- What a client says of a file with this name. -/
def fileDisposition (fileName : String) : List Octet :=
  octetsOf "form-data; name=\"file\"; filename=\""
    ++ (quoted (octetsOf fileName) ++ [34])

/-- The file part is read under its name, whatever the name is, as long as
that does not end in a backslash. -/
theorem headOf_fileDisposition {fileName : String}
    (h : (octetsOf fileName).getLast? ≠ some 92) :
    headOf [(octetsOf "content-disposition", fileDisposition fileName)]
      = { name := some "file", fileName := some fileName
          media := none } := by
  have hquoted : (quotedValue
      (quoted (octetsOf fileName) ++ [34])).bind chars?
        = some fileName.toList := by
    rw [quotedValue_quoted h]
    exact chars?_octets _
  have hname : attribute? (octetsOf "name")
      (fileDisposition fileName).length true (fileDisposition fileName)
        = some "file".toList := rfl
  have hfile : attribute? (octetsOf "filename")
      (fileDisposition fileName).length true (fileDisposition fileName)
        = some fileName.toList := hquoted
  have hfound : header? [(octetsOf "content-disposition",
      fileDisposition fileName)] "content-disposition"
        = some (fileDisposition fileName) := by
    simp [header?]
  have hmedia : header? [(octetsOf "content-disposition",
      fileDisposition fileName)] "content-type" = none := rfl
  unfold headOf
  rw [hfound, hmedia]
  dsimp only [Option.getD_some]
  rw [hname, hfile]
  simp

/-- A part with a single header, which says what the part is. -/
def Part.saying (disposition content : List Octet)
    (hshown : disposition.all isValue = true)
    (hapart : ¬(lineEnd ++ hyphens ++ boundary) <:+: content) :
    Part boundary where
  headers := [⟨octetsOf "Content-Disposition", disposition, by decide,
    by decide, hshown⟩]
  content
  headed := List.cons_ne_nil _ _
  few := Nat.le_of_ble_eq_true rfl
  apart := hapart

/-- A file can be sent under every name that a header may show and that does
not end in a backslash. -/
theorem Part.head_file {fileName : String} {content : List Octet}
    (hshown : (fileDisposition fileName).all isValue = true)
    (hapart : ¬(lineEnd ++ hyphens ++ boundary) <:+: content)
    (h : (octetsOf fileName).getLast? ≠ some 92) :
    (Part.saying (fileDisposition fileName) content hshown hapart).head
      = { name := some "file", fileName := some fileName
          media := none } := by
  have hname : (octetsOf "Content-Disposition").map lowerOctet
      = octetsOf "content-disposition" := by decide
  -- the text starts with a letter and ends with a quote: nothing is cut off
  have hfront : (fileDisposition fileName).dropWhile isGap
      = fileDisposition fileName := rfl
  have hback : (fileDisposition fileName).reverse.dropWhile isGap
      = (fileDisposition fileName).reverse := by
    unfold fileDisposition
    rw [← List.append_assoc, List.reverse_append]
    rfl
  refine Eq.trans (congrArg headOf ?_) (headOf_fileDisposition h)
  show [(_, _)] = [(_, _)]
  rw [hfront, hback, List.reverse_reverse, hname]

end BatchAdmin.Web.Multipart
