/-
Escaped texts are read back.

A written text uses few characters (`isWritten`), none of which separates
segments, fields or a query from its path. Reading undoes writing octet by
octet: what an octet is written as is read as that octet, whatever follows
(`unescape_segmentOctet`, `unescape_formOctet`), so a text of any characters
comes back from a path segment and from a form field, and a list of named
texts from a query string (`readForm_formQuery`).
-/
import BatchAdmin.Text.Percent
import Mathlib.Data.List.Basic

namespace BatchAdmin.Text

variable {b : Octet} {c : Char} {s : List Char}

-- =============================================================== the octets

/-- The UTF-8 form of a text is a text. -/
theorem chars?_octets (s : List Char) : chars? (octets s) = some s := by
  have hbytes : (⟨(octets s).toArray⟩ : ByteArray) = s.utf8Encode :=
    ByteArray.ext List.data_toByteArray.symm
  have hvalid : s.utf8Encode.IsValidUTF8 := ⟨s, rfl⟩
  unfold chars? String.fromUTF8?
  rw [hbytes, dif_pos hvalid, Option.map_some]
  exact congrArg some (String.toList_ofList (l := s))

theorem charsLossy_octets (s : List Char) : charsLossy (octets s) = s := by
  unfold charsLossy
  rw [chars?_octets]

theorem octets_append (s t : List Char) :
    octets (s ++ t) = octets s ++ octets t := List.flatMap_append

/-- An ASCII character is one octet. -/
theorem octets_of_lt {n : Nat} (hn : n < 128) :
    octets [Char.ofNat n] = [UInt8.ofNat n] := by
  have hall : ∀ n : Fin 128,
      octets [Char.ofNat n.val] = [UInt8.ofNat n.val] := by decide
  exact hall ⟨n, hn⟩

-- =============================================================== the digits

/-- Every digit is one octet, and tells its value. -/
theorem octetHex_hexDigit {n : Nat} (hn : n < 16) :
    ∃ d, octets [hexDigit n] = [d] ∧ octetHex d = some n ∧ d ≠ 0x2B := by
  have hall : ∀ n : Fin 16,
      octets [hexDigit n.val] = [UInt8.ofNat (hexDigit n.val).toNat]
        ∧ octetHex (UInt8.ofNat (hexDigit n.val).toNat) = some n.val
        ∧ UInt8.ofNat (hexDigit n.val).toNat ≠ 0x2B := by decide
  exact ⟨_, hall ⟨n, hn⟩⟩

/-- A kept octet is an ASCII character, and starts no escape. -/
theorem lt_of_isKept (h : isKept b = true) :
    b.toNat < 128 ∧ b ≠ 0x25 ∧ b ≠ 0x2B := by
  have hhigh : ∀ n : Fin 128, isKept (UInt8.ofNat (128 + n.val)) = false := by
    decide
  refine ⟨?_, ?_, ?_⟩
  · by_contra hlt
    have hb : b.toNat < 256 := b.toNat_lt
    have hnot := hhigh ⟨b.toNat - 128, by omega⟩
    rw [Nat.add_sub_cancel' (by omega), UInt8.ofNat_toNat, h] at hnot
    cases hnot
  · rintro rfl
    exact absurd h (by decide)
  · rintro rfl
    exact absurd h (by decide)

theorem octets_of_isKept (h : isKept b = true) :
    octets [Char.ofNat b.toNat] = [b] := by
  rw [octets_of_lt (lt_of_isKept h).1, UInt8.ofNat_toNat]

/-- An escape in octets. -/
theorem octets_escape (b : Octet) :
    ∃ h l, octets (escape b) = [0x25, h, l]
      ∧ octetHex h = some (b.toNat / 16) ∧ octetHex l = some (b.toNat % 16)
      ∧ h ≠ 0x2B ∧ l ≠ 0x2B := by
  have hb : b.toNat < 256 := b.toNat_lt
  obtain ⟨h, hh, hhex, hplus⟩ :=
    octetHex_hexDigit (show b.toNat / 16 < 16 by omega)
  obtain ⟨l, hl, hlex, hlplus⟩ :=
    octetHex_hexDigit (show b.toNat % 16 < 16 by omega)
  refine ⟨h, l, ?_, hhex, hlex, hplus, hlplus⟩
  have hsplit : escape b = ['%'] ++ [hexDigit (b.toNat / 16)]
      ++ [hexDigit (b.toNat % 16)] := rfl
  rw [hsplit, octets_append, octets_append, hh, hl]
  rfl

-- ================================================================== reading

/-- What starts no escape stands for itself. -/
theorem unescape_cons (h : b ≠ 0x25) (rest : List Octet) :
    unescape (b :: rest) = b :: unescape rest := by
  match rest with
  | [] => rfl
  | [c] => rfl
  | c :: d :: more => rw [unescape, if_neg (by simpa using h)]

/-- An escape is the octet that it was made from. -/
theorem unescape_escape {h l : Octet} {x y : Nat} (hx : octetHex h = some x)
    (hy : octetHex l = some y) (rest : List Octet) :
    unescape (0x25 :: h :: l :: rest)
      = UInt8.ofNat (16 * x + y) :: unescape rest := by
  rw [unescape, if_pos (by decide), hx, hy]

theorem unescape_segmentOctet (b : Octet) (rest : List Octet) :
    unescape (octets (segmentOctet b) ++ rest) = b :: unescape rest := by
  unfold segmentOctet
  split
  · rename_i hkept
    rw [octets_of_isKept hkept]
    exact unescape_cons (lt_of_isKept hkept).2.1 rest
  · obtain ⟨h, l, hoctets, hx, hy, -⟩ := octets_escape b
    rw [hoctets]
    refine (unescape_escape hx hy rest).trans ?_
    rw [Nat.div_add_mod, UInt8.ofNat_toNat]

/-- What is written into a segment is read from it, and then what follows. -/
theorem unescape_pathSegment (s : List Char) (rest : List Octet) :
    unescape (octets (pathSegment s) ++ rest) = octets s ++ unescape rest := by
  have hread (bs : List Octet) :
      unescape (octets (bs.flatMap segmentOctet) ++ rest)
        = bs ++ unescape rest := by
    induction bs with
    | nil => rfl
    | cons b more ih =>
        rw [List.flatMap_cons, octets_append, List.append_assoc,
          unescape_segmentOctet, ih, List.cons_append]
  exact hread (octets s)

/-- Texts come back from segments with slashes between them. -/
theorem readSegment_joined (parts : List (List Char)) :
    readSegment (joined ['/'] (parts.map pathSegment))
      = some (joined ['/'] parts) := by
  have hread : unescape (octets (joined ['/'] (parts.map pathSegment)))
      = octets (joined ['/'] parts) := by
    unfold joined
    induction parts with
    | nil => rfl
    | cons part rest ih =>
        have hpart := unescape_pathSegment part
        by_cases hrest : rest = []
        · subst hrest
          have halone := hpart []
          rw [List.append_nil] at halone
          rw [List.map_singleton, List.intercalate_singleton,
            List.intercalate_singleton, halone]
          exact List.append_nil _
        · have hslash : octets ['/'] = [0x2F] := by decide
          rw [List.map_cons, List.intercalate_cons_of_ne_nil (by simpa),
            List.intercalate_cons_of_ne_nil hrest, octets_append,
            octets_append, octets_append, octets_append, hslash,
            List.append_assoc, hpart, List.singleton_append,
            unescape_cons (by decide), ih, List.append_assoc,
            List.singleton_append]
  unfold readSegment
  rw [hread, chars?_octets]

/-- What can be read back is written for one thing only. -/
theorem injective_of_read {α β γ : Type} {write : α → β}
    {read : β → Option γ} {value : α → γ}
    (hread : ∀ x, read (write x) = some (value x))
    (hvalue : Function.Injective value) : Function.Injective write := by
  intro x y h
  have hboth := hread x
  rw [h, hread] at hboth
  exact hvalue (Option.some.inj hboth).symm

/-- A text comes back from a path segment. -/
theorem readSegment_pathSegment (s : List Char) :
    readSegment (pathSegment s) = some s := by
  have hread := readSegment_joined [s]
  unfold joined at hread
  rwa [List.map_singleton, List.intercalate_singleton,
    List.intercalate_singleton] at hread

/-- The octets of a form with a blank for every plus. -/
def blanked (bs : List Octet) : List Octet :=
  bs.map fun b => if b == 0x2B then 0x20 else b

theorem unescape_formOctet (b : Octet) (rest : List Octet) :
    unescape (blanked (octets (formOctet b)) ++ rest)
      = b :: unescape rest := by
  have hself {d : Octet} (hd : d ≠ 0x2B) :
      (if d == 0x2B then (0x20 : Octet) else d) = d :=
    if_neg (by simpa using hd)
  unfold formOctet
  split
  · rename_i hblank
    rw [eq_of_beq hblank]
    exact unescape_cons (by decide) rest
  · split
    · rename_i hkept
      obtain ⟨-, hescape, hplus⟩ := lt_of_isKept hkept
      rw [octets_of_isKept hkept]
      unfold blanked
      rw [List.map_singleton, hself hplus]
      exact unescape_cons hescape rest
    · obtain ⟨h, l, hoctets, hx, hy, hh, hl⟩ := octets_escape b
      rw [hoctets]
      unfold blanked
      rw [List.map_cons, List.map_cons, List.map_singleton, hself hh,
        hself hl, hself (by decide)]
      refine (unescape_escape hx hy rest).trans ?_
      rw [Nat.div_add_mod, UInt8.ofNat_toNat]

/-- A text comes back from a form field. -/
theorem readField_formField (s : List Char) :
    readField (formField s) = s := by
  have hread (bs : List Octet) :
      unescape (blanked (octets (bs.flatMap formOctet))) = bs := by
    induction bs with
    | nil => rfl
    | cons b rest ih =>
        have hsplit : blanked (octets (formOctet b)
            ++ octets (rest.flatMap formOctet))
              = blanked (octets (formOctet b))
                ++ blanked (octets (rest.flatMap formOctet)) :=
          List.map_append
        rw [List.flatMap_cons, octets_append, hsplit, unescape_formOctet, ih]
  unfold readField formField
  exact (congrArg charsLossy (hread (octets s))).trans (charsLossy_octets s)

-- =========================================================== the characters

/-- The characters that escaped texts are written with. -/
def isWritten (c : Char) : Bool :=
  c.isAlphanum || c == '*' || c == '-' || c == '.' || c == '_'
    || c == '%' || c == '+'

theorem isWritten_of_isKept (h : isKept b = true) :
    isWritten (Char.ofNat b.toNat) = true := by
  unfold isKept at h
  unfold isWritten
  rw [h]
  rfl

theorem isWritten_of_mem_escape (h : c ∈ escape b) : isWritten c = true := by
  have hb : b.toNat < 256 := b.toNat_lt
  have hall : ∀ n : Fin 16, isWritten (hexDigit n.val) = true := by decide
  unfold escape at h
  simp only [List.mem_cons, List.not_mem_nil, or_false] at h
  rcases h with rfl | rfl | rfl
  · rfl
  · exact hall ⟨b.toNat / 16, by omega⟩
  · exact hall ⟨b.toNat % 16, by omega⟩

theorem isWritten_of_mem_pathSegment (h : c ∈ pathSegment s) :
    isWritten c = true := by
  obtain ⟨b, -, hc⟩ := List.mem_flatMap.1 h
  unfold segmentOctet at hc
  split at hc
  · rename_i hkept
    rw [List.mem_singleton.1 hc]
    exact isWritten_of_isKept hkept
  · exact isWritten_of_mem_escape hc

theorem isWritten_of_mem_formField (h : c ∈ formField s) :
    isWritten c = true := by
  obtain ⟨b, -, hc⟩ := List.mem_flatMap.1 h
  unfold formOctet at hc
  split at hc
  · rw [List.mem_singleton.1 hc]
    rfl
  · split at hc
    · rename_i hkept
      rw [List.mem_singleton.1 hc]
      exact isWritten_of_isKept hkept
    · exact isWritten_of_mem_escape hc

/-- What has nothing to escape is written as it is. -/
theorem pathSegment_eq_self
    (h : ∀ c ∈ s, c.toNat < 128 ∧ isKept (UInt8.ofNat c.toNat) = true) :
    pathSegment s = s := by
  induction s with
  | nil => rfl
  | cons c rest ih =>
      obtain ⟨⟨hlt, hkept⟩, hrest⟩ := List.forall_mem_cons.1 h
      have hoctet := octets_of_lt hlt
      rw [Char.ofNat_toNat] at hoctet
      have hsplit : pathSegment (c :: rest)
          = pathSegment [c] ++ pathSegment rest := by
        unfold pathSegment
        rw [← List.flatMap_append, ← octets_append, List.singleton_append]
      rw [hsplit, ih hrest]
      unfold pathSegment segmentOctet
      rw [hoctet, List.flatMap_singleton, if_pos hkept,
        UInt8.toNat_ofNat_of_lt' (Nat.lt_trans hlt (by decide)),
        Char.ofNat_toNat, List.singleton_append]

-- ================================================================ the queries

/-- A cut finds the first separator. -/
theorem cut_append {sep : Char} {front : List Char}
    (h : sep ∉ front) (rest : List Char) :
    cut sep (front ++ sep :: rest) = some (front, rest) := by
  induction front with
  | nil => rw [List.nil_append, cut, if_pos rfl]
  | cons c more ih =>
      rw [List.mem_cons, not_or] at h
      rw [List.cons_append, cut, if_neg (Ne.symm h.1), ih h.2]
      rfl

/-- A text without a separator is not cut. -/
theorem cut_eq_none {sep : Char} (h : sep ∉ s) : cut sep s = none := by
  induction s with
  | nil => rfl
  | cons c rest ih =>
      rw [List.mem_cons, not_or] at h
      rw [cut, if_neg (Ne.symm h.1), ih h.2]
      rfl

/-- Joined texts are cut apart again where none of them has the
separator. -/
theorem pieces_joined {sep : Char} {parts : List (List Char)}
    (hsafe : ∀ part ∈ parts, sep ∉ part) (hne : parts ≠ []) :
    pieces (· == sep) (joined [sep] parts) = parts :=
  List.splitOn_intercalate sep hsafe hne

/-- Named texts come back from a query string. -/
theorem readForm_formQuery (fields : List (List Char × List Char)) :
    readForm (formQuery fields) = fields := by
  -- Neither separator is a character that a field is written with.
  have hsafe {sep : Char} (hsep : isWritten sep = false) (s : List Char) :
      sep ∉ formField s := by
    intro hmem
    rw [isWritten_of_mem_formField hmem] at hsep
    cases hsep
  have hcut (f : List Char × List Char) :
      cut '=' (formField f.1 ++ '=' :: formField f.2)
        = some (formField f.1, formField f.2) :=
    cut_append (hsafe (by decide) f.1) _
  unfold readForm formQuery
  by_cases hnil : fields = []
  · subst hnil
    rfl
  · rw [pieces_joined, List.filter_eq_self.2, List.map_map]
    · refine (List.map_congr_left fun f _ => ?_).trans fields.map_id
      dsimp only [Function.comp]
      rw [hcut]
      dsimp only
      rw [readField_formField, readField_formField]
      rfl
    · intro part hpart
      obtain ⟨f, -, rfl⟩ := List.mem_map.1 hpart
      simp
    · intro part hpart hmem
      obtain ⟨f, -, rfl⟩ := List.mem_map.1 hpart
      rcases List.mem_append.1 hmem with hmem | hmem
      · exact hsafe (by decide) f.1 hmem
      · rcases List.mem_cons.1 hmem with heq | hmem
        · cases heq
        · exact hsafe (by decide) f.2 hmem
    · simpa using hnil

theorem not_mem_joined {sep : List Char} {parts : List (List Char)}
    (hsep : c ∉ sep) (hparts : ∀ part ∈ parts, c ∉ part) :
    c ∉ joined sep parts := by
  unfold joined
  induction parts with
  | nil => simp
  | cons part rest ih =>
      obtain ⟨hpart, hrest⟩ := List.forall_mem_cons.1 hparts
      by_cases hnil : rest = []
      · subst hnil
        rwa [List.intercalate_singleton]
      · rw [List.intercalate_cons_of_ne_nil hnil, List.mem_append,
          List.mem_append]
        rintro ((hmem | hmem) | hmem)
        · exact hpart hmem
        · exact hsep hmem
        · exact ih hrest hmem

/-- A query string has no character but those of its fields and the two
separators. -/
theorem not_mem_formQuery (hwritten : isWritten c = false) (hamp : c ≠ '&')
    (heq : c ≠ '=') (fields : List (List Char × List Char)) :
    c ∉ formQuery fields := by
  have hfield (s : List Char) : c ∉ formField s := by
    intro hmem
    rw [isWritten_of_mem_formField hmem] at hwritten
    cases hwritten
  refine not_mem_joined (by simpa using hamp) fun part hpart hmem => ?_
  obtain ⟨f, -, rfl⟩ := List.mem_map.1 hpart
  rcases List.mem_append.1 hmem with hmem | hmem
  · exact hfield f.1 hmem
  · rcases List.mem_cons.1 hmem with hmem | hmem
    · exact heq hmem
    · exact hfield f.2 hmem

end BatchAdmin.Text
