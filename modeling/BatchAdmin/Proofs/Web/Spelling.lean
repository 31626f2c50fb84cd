/-
What links are spelled with.

A link shows the name that it is for, escaped, and nothing of the name is
lost: reading the link gives it back, and so no two names have one link
(`links_lossless`). Paths and queries differ in one character only. A query
has a plus for a blank, which a path would keep for itself, so a name in a
path is the field of a form with an escaped blank in the place of every plus
(`pathSegment_eq_blanksEscaped`): whatever plus stands in a field stands for
a blank, because one that was in the name has been escaped.

The slashes of the path of a file are those of its name. No escaped piece has
one (`pieces_path_file`), so that cutting at slashes and reading can be done
in either order.
-/
import BatchAdmin.Proofs.Text.Numerals
import BatchAdmin.Proofs.Web.Links
import BatchAdmin.Proofs.Web.Targets

namespace BatchAdmin

-- ================================================================== spelling

namespace Text

variable {b : Octet} {c : Char} {s t separators : List Char}

/-- A text of characters that mean themselves in all parts of an address, of
percent escapes, and of these separators. -/
inductive Spelled (separators : List Char) : List Char → Prop
  | nil : Spelled separators []
  | plain {c : Char} {rest : List Char}
      (hplain : c.isAlphanum = true ∨ c ∈ ['*', '-', '.', '_'])
      (hrest : Spelled separators rest) : Spelled separators (c :: rest)
  | separator {c : Char} {rest : List Char} (hsep : c ∈ separators)
      (hrest : Spelled separators rest) : Spelled separators (c :: rest)
  | escape {high low : Char} {rest : List Char}
      (hhigh : (hexValue high).isSome = true)
      (hlow : (hexValue low).isSome = true)
      (hrest : Spelled separators rest) :
      Spelled separators ('%' :: high :: low :: rest)

theorem Spelled.append (hs : Spelled separators s)
    (ht : Spelled separators t) : Spelled separators (s ++ t) := by
  induction hs with
  | nil => exact ht
  | plain hplain _ ih => exact .plain hplain ih
  | separator hsep _ ih => exact .separator hsep ih
  | escape hhigh hlow _ ih => exact .escape hhigh hlow ih

theorem spelled_segmentOctet (b : Octet) :
    Spelled separators (segmentOctet b) := by
  have hb : b.toNat < 256 := b.toNat_lt
  have hdigit : ∀ n : Fin 16, (hexValue (hexDigit n.val)).isSome = true := by
    decide
  unfold segmentOctet
  split
  · rename_i hkept
    refine .plain ?_ .nil
    unfold isKept at hkept
    simpa [or_assoc] using hkept
  · exact .escape (hdigit ⟨b.toNat / 16, by omega⟩)
      (hdigit ⟨b.toNat % 16, by omega⟩) .nil

theorem spelled_pathSegment (s : List Char) :
    Spelled separators (pathSegment s) := by
  have hall (bs : List Octet) :
      Spelled separators (bs.flatMap segmentOctet) := by
    induction bs with
    | nil => exact .nil
    | cons b rest ih => exact (spelled_segmentOctet b).append ih
  exact hall (octets s)

theorem spelled_joined {sep : Char} {parts : List (List Char)}
    (hsep : sep ∈ separators)
    (hparts : ∀ part ∈ parts, Spelled separators part) :
    Spelled separators (joined [sep] parts) := by
  unfold joined
  induction parts with
  | nil => exact .nil
  | cons part rest ih =>
      obtain ⟨hpart, hrest⟩ := List.forall_mem_cons.1 hparts
      by_cases hnil : rest = []
      · subst hnil
        rwa [List.intercalate_singleton]
      · rw [List.intercalate_cons_of_ne_nil hnil]
        exact (hpart.append (.separator hsep .nil)).append (ih hrest)

-- ------------------------------------------------------------- the plus signs

/-- A text with an escaped blank for every plus. -/
def blanksEscaped (s : List Char) : List Char :=
  s.flatMap fun c => if c = '+' then escape 0x20 else [c]

theorem blanksEscaped_eq_self (h : '+' ∉ s) : blanksEscaped s = s := by
  have hself : ∀ c ∈ s, (if c = '+' then escape 0x20 else [c]) = [c] :=
    fun c hc => if_neg fun (heq : c = '+') => h (heq ▸ hc)
  exact (List.flatMap_congr hself).trans (List.flatMap_singleton' s)

theorem plus_not_mem_segmentOctet (b : Octet) : '+' ∉ segmentOctet b := by
  have hb : b.toNat < 256 := b.toNat_lt
  have hdigit : ∀ n : Fin 16, '+' ≠ hexDigit n.val := by decide
  unfold segmentOctet
  split
  · rename_i hkept
    intro hmem
    unfold isKept at hkept
    rw [← List.mem_singleton.1 hmem] at hkept
    cases hkept
  · unfold escape
    simp only [List.mem_cons, List.not_mem_nil, or_false]
    rintro (h | h | h)
    · cases h
    · exact hdigit ⟨b.toNat / 16, by omega⟩ h
    · exact hdigit ⟨b.toNat % 16, by omega⟩ h

/-- What is written for an octet has a plus only if the octet is a blank. -/
theorem segmentOctet_eq_blanksEscaped (b : Octet) :
    segmentOctet b = blanksEscaped (formOctet b) := by
  by_cases hblank : b = 0x20
  · subst hblank
    decide
  · have hform : formOctet b = segmentOctet b := by
      unfold formOctet segmentOctet
      rw [if_neg (by simpa using hblank)]
    rw [hform, blanksEscaped_eq_self (plus_not_mem_segmentOctet b)]

/-- A segment of a path is a field of a form with its pluses escaped. -/
theorem pathSegment_eq_blanksEscaped (s : List Char) :
    pathSegment s = blanksEscaped (formField s) := by
  have hassoc : blanksEscaped (formField s)
      = (octets s).flatMap fun b => blanksEscaped (formOctet b) :=
    List.flatMap_assoc
  rw [hassoc]
  exact List.flatMap_congr fun b _ => segmentOctet_eq_blanksEscaped b

end Text

-- ================================================================= the paths

open Text

/-- The path of a file is cut by its slashes as the name of the file is. -/
theorem pieces_path_file (path : String) :
    pieces (· == '/') (ResourceId.file path).path
      = (pieces (· == '/') path.toList).map pathSegment := by
  refine pieces_joined ?_ ?_
  · intro part hpart hslash
    obtain ⟨piece, -, rfl⟩ := List.mem_map.1 hpart
    cases isWritten_of_mem_pathSegment hslash
  · rw [ne_eq, List.map_eq_nil_iff]
    exact List.splitOnP_ne_nil _ _

theorem readSegment_path_file (path : String) :
    readSegment (ResourceId.file path).path = some path.toList :=
  (readSegment_joined _).trans (congrArg some (List.intercalate_splitOn '/'))

theorem readSegment_path_job (name : String) :
    readSegment (ResourceId.job name).path = some name.toList :=
  readSegment_pathSegment _

theorem path_file_inj {path other : String} :
    (ResourceId.file path).path = (ResourceId.file other).path
      ↔ path = other :=
  (injective_of_read readSegment_path_file fun _ _ =>
    String.toList_injective).eq_iff

theorem path_job_inj {name other : String} :
    (ResourceId.job name).path = (ResourceId.job other).path
      ↔ name = other :=
  (injective_of_read readSegment_path_job fun _ _ =>
    String.toList_injective).eq_iff

/-- Entities share a link to themselves if they share the path of their
key. -/
theorem selfLink_inj {α : Type} [Addressed α] {route : String} {x y : α} :
    selfLink route x = selfLink route y
      ↔ (Addressed.resourceId x).path = (Addressed.resourceId y).path := by
  unfold selfLink selfHref
  simp [String.ofList_inj]

-- =============================================================== the queries

namespace Web

variable {route : String} {filters others : Filters}
  {size number size' number' : Nat}

/-- The target of the link of a page is read as its route and its fields. -/
theorem readTarget_pageHref (hslash : route.toList.head? = some '/')
    (hhash : '#' ∉ route.toList) (hmark : '?' ∉ route.toList) :
    readTarget (pageHref route filters size number)
      = (route.toList, pageFields filters size number) := by
  have hquery : '#' ∉ formQuery (pageFields filters size number) :=
    not_mem_formQuery (by decide) (by decide) (by decide) _
  refine (readTarget_query hslash hhash hmark hquery).trans ?_
  rw [readForm_formQuery]

theorem pageFields_inj :
    pageFields filters size number = pageFields others size' number'
      ↔ filters = others ∧ size = size' ∧ number = number' := by
  have hnames : Function.Injective
      fun f : String × String => (f.1.toList, f.2.toList) := fun f f' h =>
    Prod.ext (String.toList_injective (congrArg Prod.fst h))
      (String.toList_injective (congrArg Prod.snd h))
  constructor
  · intro h
    obtain ⟨hfilters, htail⟩ := List.append_inj' h rfl
    simp only [List.cons.injEq, Prod.mk.injEq, writeNat_inj] at htail
    exact ⟨List.map_injective_iff.2 hnames hfilters, htail.2.1.2, htail.1.2⟩
  · rintro ⟨rfl, rfl, rfl⟩
    rfl

/-- Pages share a link if they share filters, size and number. -/
theorem pageHref_inj :
    pageHref route filters size number = pageHref route others size' number'
      ↔ filters = others ∧ size = size' ∧ number = number' := by
  rw [← pageFields_inj]
  constructor
  · intro h
    have hread := hrefQuery?_pageHref route filters size number
    rw [h, hrefQuery?_pageHref] at hread
    exact (Option.some.inj hread).symm
  · intro h
    obtain ⟨rfl, rfl, rfl⟩ := pageFields_inj.1 h
    rfl

-- ================================================================= the links

/-- Links lose nothing. The path of a job has no other characters than
letters, digits, four signs and escapes, is the field of a form with its
pluses escaped, and is read as the name; the path of a file has slashes
besides, where the name of the file has them, and is read as that name. The
query of the link of a page is read as the filters in their order, followed by
number and size, and that is what each link of a page asks for. So on one
route no two files, no two jobs and no two requests for pages share a link. -/
theorem links_lossless (route : String) :
    (∀ name : String, Spelled [] (ResourceId.job name).path
      ∧ (ResourceId.job name).path = blanksEscaped (formField name.toList)
      ∧ readSegment (ResourceId.job name).path = some name.toList)
    ∧ (∀ path : String, Spelled ['/'] (ResourceId.file path).path
      ∧ (pieces (· == '/') (ResourceId.file path).path).map readSegment
        = (pieces (· == '/') path.toList).map some
      ∧ readSegment (ResourceId.file path).path = some path.toList)
    ∧ (∀ (filters : Filters) (size number : Nat),
      hrefQuery? route (pageHref route filters size number)
          = some (pageFields filters size number)
        ∧ (route.toList.head? = some '/' → '#' ∉ route.toList →
          '?' ∉ route.toList →
          readTarget (pageHref route filters size number)
            = (route.toList, pageFields filters size number)))
    ∧ (∀ (α : Type) (p : Page α) (filters : Filters),
      ∀ link ∈ p.links route filters, ∃ number,
        hrefQuery? route link.href = some (pageFields filters p.size number)
          ∧ (link.rel, number) ∈ [("self", p.number), ("next", p.number + 1),
            ("prev", p.number - 1)])
    ∧ (∀ f g : FileInfo, selfLink route f = selfLink route g
      ↔ f.path = g.path)
    ∧ (∀ j k : JobSummary, selfLink route j = selfLink route k
      ↔ j.name = k.name)
    ∧ ∀ (filters others : Filters) (size size' number number' : Nat),
      pageHref route filters size number = pageHref route others size' number'
        ↔ filters = others ∧ size = size' ∧ number = number' := by
  refine ⟨fun name => ⟨spelled_pathSegment _, pathSegment_eq_blanksEscaped _,
      readSegment_path_job name⟩,
    fun path => ⟨?_, ?_, readSegment_path_file path⟩,
    fun filters size number => ⟨hrefQuery?_pageHref _ _ _ _,
      readTarget_pageHref⟩,
    fun α p filters link hlink => ?_,
    fun _ _ => selfLink_inj.trans path_file_inj,
    fun _ _ => selfLink_inj.trans path_job_inj,
    fun _ _ _ _ _ _ => pageHref_inj⟩
  · refine spelled_joined (List.mem_singleton_self _) fun part hpart => ?_
    obtain ⟨piece, -, rfl⟩ := List.mem_map.1 hpart
    exact spelled_pathSegment piece
  · rw [pieces_path_file, List.map_map]
    exact List.map_congr_left fun piece _ => readSegment_pathSegment piece
  · obtain ⟨number, hhref, hrel⟩ := leads_of_mem_links hlink
    exact ⟨number, hhref ▸ hrefQuery?_pageHref _ _ _ _, hrel⟩

/-- Filters with all that has a meaning in queries. -/
def oddFilters : Filters :=
  [("jobname", "my job&page=7"), ("jobname", "50%+é")]

/-- The link to the page behind the second one of three keeps them. -/
theorem oddFilters_kept :
    let p : Page FileInfo := .ofRequest ⟨1, 10, by decide⟩ 25 []
    let link : Link := ⟨"next", "/executions?jobname=my+job%26page%3D7"
      ++ "&jobname=50%25%2B%C3%A9&page=2&size=10"⟩
    "/executions".toList.head? = some '/' ∧ '#' ∉ "/executions".toList
      ∧ '?' ∉ "/executions".toList
      ∧ link ∈ p.links "/executions" oddFilters
      ∧ (∃ number, hrefQuery? "/executions" link.href
          = some (pageFields oddFilters 10 number)
        ∧ ("next", number) ∈ [("self", 1), ("next", 2), ("prev", 0)])
      ∧ readTarget (pageHref "/executions" oddFilters 10 2)
        = ("/executions".toList, pageFields oddFilters 10 2) := by
  intro p link
  have hlink : link ∈ p.links "/executions" oddFilters := by
    decide +kernel
  obtain ⟨-, -, hqueries, hlinks, -⟩ := links_lossless "/executions"
  exact ⟨by decide, by decide, by decide, hlink,
    hlinks FileInfo p oddFilters link hlink,
    (hqueries oddFilters 10 2).2 (by decide) (by decide) (by decide)⟩

end Web

end BatchAdmin
