import Mathlib
import Rulebook.Json.Parser
import Rulebook.Json.Printer
import Rulebook.Proofs.Number.Decimal

/-!
# Reading what was written

A value that is written over several lines is read back as it was, if it can be read at all: it
holds no doubles, its whole numbers have no more digits than a text may have, and no object has two
members of one name (`Readable`).

In a text, each value is followed by a comma or a line break. This is what the readings of values are
stated for (`ReadsAs`), and it makes a number end where it was written to end.
-/

namespace Rulebook.Json

open Rulebook.Number Rulebook.Text

/-- A value that is the same after it has been written and read. -/
inductive Readable : Json → Prop where
  | null : Readable .null
  | bool (b : Bool) : Readable (.bool b)
  | int {n : Int} (h : IsShort n) : Readable (.int n)
  | text (s : String) : Readable (.text s)
  | array {items : List Json} (h : ∀ item ∈ items, Readable item) : Readable (.array items)
  | object {members : List (String × Json)} (hnames : (members.map Prod.fst).Nodup)
      (h : ∀ m ∈ members, Readable m.2) : Readable (.object members)

/-- What may follow a value in a text over several lines. -/
def Closed (more : List Char) : Prop := ∃ c rest, more = c :: rest ∧ (c = ',' ∨ c = '\n')

/-- Characters are read as a certain thing where they stand in front of a text, with as much fuel as
there are characters. -/
def ReadsAs {α : Type} (read : Nat → Cursor → Except ReadError (α × Cursor)) (cs : List Char)
    (a : α) : Prop :=
  ∀ fuel c more, cs.length ≤ fuel → c.rest = cs ++ more → Closed more →
    ∃ c', read fuel c = .ok (a, c') ∧ c'.rest = more

/-! ## Gaps -/

section Gaps

variable {c : Cursor} {cs gap : List Char}

theorem rest_skip_append {more : List Char} (h : c.rest = cs ++ more) :
    (c.skip cs.length).rest = more := by
  simp [Cursor.skip, h]

theorem rest_skip_one {d : Char} {more : List Char} (h : c.rest = d :: more) :
    (c.skip 1).rest = more := by
  simp [Cursor.skip, h]

theorem isGap_eq_false_of_visible {d : Char} (h : 0x20 < d.toNat) : Cursor.isGap d = false := by
  simp only [Cursor.isGap, Bool.or_eq_false_iff, beq_eq_false_iff_ne]
  refine ⟨⟨⟨?_, ?_⟩, ?_⟩, ?_⟩ <;> (rintro rfl; revert h; decide)

/-- The text does not start with a blank. -/
def StartsPlain (cs : List Char) : Prop := ∃ d rest, cs = d :: rest ∧ Cursor.isGap d = false

theorem rest_skipGap (hgap : ∀ d ∈ gap, Cursor.isGap d = true) (hcs : StartsPlain cs)
    (h : c.rest = gap ++ cs) : c.skipGap.rest = cs := by
  obtain ⟨d, rest, rfl, hd⟩ := hcs
  have htake : c.rest.takeWhile Cursor.isGap = gap := by
    rw [h, List.takeWhile_append_of_pos hgap, List.takeWhile_cons_of_neg (by simp [hd]),
      List.append_nil]
  rw [Cursor.skipGap, htake]
  exact rest_skip_append h

theorem skipGap_of_startsPlain (hcs : StartsPlain cs) (h : c.rest = cs) : c.skipGap.rest = cs :=
  @rest_skipGap c cs [] nofun hcs h

end Gaps

/-! ## Texts -/

section Texts

variable {start fuel : Nat} {done : List Char} {c : Cursor}

/-- The characters that are written as they are. -/
def IsBare (d : Char) : Prop := d ≠ '"' ∧ d ≠ '\\' ∧ 0x20 ≤ d.toNat

theorem readText_bare {d : Char} {rest : List Char} (hd : IsBare d) (h : c.rest = d :: rest) :
    readText start (fuel + 1) done c = readText start fuel (d :: done) (c.skip 1) := by
  obtain ⟨hquote, hslash, hcode⟩ := hd
  rw [readText.eq_def]
  simp only [h]
  split <;> simp_all

theorem readText_short {d e : Char} {rest : List Char} (he : shortEscape? e = some d)
    (hu : e ≠ 'u') (h : c.rest = '\\' :: e :: rest) :
    readText start (fuel + 1) done c = readText start fuel (d :: done) (c.skip 2) := by
  rw [readText.eq_def]
  simp only [h]
  split <;> simp_all

theorem readText_unit {n : Nat} {rest : List Char} (hn : n < 0x20) (hrest : rest ≠ [])
    (h : c.rest = '\\' :: 'u' :: (hexDigits 4 n ++ rest)) :
    readText start (fuel + 1) done c = readText start fuel (Char.ofNat n :: done) (c.skip 6) := by
  have hnumber : ∀ n < 0x20, (hexDigits 4 n).length = 4 ∧ hexNumber? (hexDigits 4 n) = some n ∧
      isHighHalf n = false ∧ charOfUnit n = Char.ofNat n := by decide
  obtain ⟨hlength, hread, hhigh, hchar⟩ := hnumber n hn
  have hlong : ¬ (hexDigits 4 n ++ rest).length < 5 := by
    have := List.length_pos_iff.2 hrest
    simp [hlength]
    omega
  rw [readText.eq_def]
  simp only [h, if_neg hlong, List.take_append_of_le_length (Nat.le_of_eq hlength.symm)]
  rw [List.take_of_length_le (Nat.le_of_eq hlength), hread]
  simp [hhigh, hchar]

/-- How a character is written inside the quotes of a text. -/
inductive WrittenAs (d : Char) : List Char → Prop where
  | bare (h : IsBare d) : WrittenAs d [d]
  | short {e : Char} (h : shortEscape? e = some d) (hu : e ≠ 'u') : WrittenAs d ['\\', e]
  | unit (h : d.toNat < 0x20) : WrittenAs d ('\\' :: 'u' :: hexDigits 4 d.toNat)

theorem writtenAs_charText (d : Char) : WrittenAs d (charText false d) := by
  unfold charText
  split
  · next hd =>
    -- the quote and the backslash
    simp only [Bool.or_eq_true, beq_iff_eq] at hd
    rcases hd with rfl | rfl
    · exact .short rfl (by decide)
    · exact .short rfl (by decide)
  next hd =>
  iterate 5
    split
    · next heq =>
      obtain rfl := beq_iff_eq.1 heq
      exact .short rfl (by decide)
  split
  · next hcode =>
    -- the other controls
    have hcode : d.toNat < 0x20 := by simpa using hcode
    rw [unitEscapes, if_pos (by omega), unitEscape]
    exact .unit hcode
  · next hcode =>
    refine .bare ⟨?_, ?_, ?_⟩
    · rintro rfl
      simp at hd
    · rintro rfl
      simp at hd
    · simp at hcode
      omega

theorem WrittenAs.ne_nil {d : Char} {cs : List Char} (h : WrittenAs d cs) : cs ≠ [] := by
  cases h <;> exact List.cons_ne_nil _ _

/-- What a character is written as is read in one step. -/
theorem WrittenAs.readText {d : Char} {cs rest : List Char} (hd : WrittenAs d cs)
    (hrest : rest ≠ []) (h : c.rest = cs ++ rest) :
    readText start (fuel + 1) done c = Json.readText start fuel (d :: done) (c.skip cs.length) := by
  cases hd with
  | bare hd => exact readText_bare hd h
  | short he hu => exact readText_short he hu h
  | unit hcode =>
    have hlength : (hexDigits 4 d.toNat).length = 4 := by simp [hexDigits]
    rw [readText_unit hcode hrest h, Char.ofNat_toNat, List.length_cons, List.length_cons, hlength]

theorem readText_flatMap (start : Nat) {fuel : Nat} (done : List Char) {cs more : List Char}
    (hfuel : cs.length < fuel) (h : c.rest = cs.flatMap (charText false) ++ '"' :: more) :
    ∃ c', readText start fuel done c = .ok (String.ofList (done.reverse ++ cs), c') ∧
      c'.rest = more := by
  induction cs generalizing fuel done c with
  | nil =>
    -- the closing quote
    obtain ⟨fuel, rfl⟩ : ∃ n, fuel = n + 1 := ⟨fuel - 1, by omega⟩
    refine ⟨c.skip 1, ?_, rest_skip_one h⟩
    rw [readText.eq_def]
    simp only [h, List.flatMap_nil, List.nil_append, List.append_nil]
  | cons d rest ih =>
    obtain ⟨fuel, rfl⟩ : ∃ n, fuel = n + 1 := ⟨fuel - 1, by omega⟩
    rw [List.length_cons] at hfuel
    rw [List.flatMap_cons, List.append_assoc] at h
    rw [(writtenAs_charText d).readText (by simp) h]
    obtain ⟨c', hread, hrest⟩ := ih (d :: done) (Nat.lt_of_succ_lt_succ hfuel) (rest_skip_append h)
    exact ⟨c', by simpa using hread, hrest⟩

end Texts

/-- A text between its quotes. -/
def quotedChars (s : String) : List Char := '"' :: (s.toList.flatMap (charText false) ++ ['"'])

theorem toList_quotedText (s : String) : (quotedText false s).toList = quotedChars s := by
  rw [quotedText, String.toList_ofList]
  rfl

theorem length_le_flatMap_charText (cs : List Char) :
    cs.length ≤ (cs.flatMap (charText false)).length := by
  induction cs with
  | nil => simp
  | cons d rest ih =>
    have hpos := List.length_pos_iff.2 (writtenAs_charText d).ne_nil
    rw [List.flatMap_cons, List.length_append, List.length_cons]
    omega

theorem textAfterQuote_of_quotedChars {c : Cursor} {s : String} {more : List Char}
    (h : c.rest = quotedChars s ++ more) :
    ∃ c', textAfterQuote (c.skip 1) = .ok (s, c') ∧ c'.rest = more := by
  have hrest : (c.skip 1).rest = s.toList.flatMap (charText false) ++ '"' :: more := by
    apply rest_skip_one
    simpa [quotedChars] using h
  have hlength := length_le_flatMap_charText s.toList
  obtain ⟨c', hread, hmore⟩ := readText_flatMap ((c.skip 1).position - 1) [] (by
    rw [hrest, List.length_append]
    exact Nat.lt_succ_of_le (by omega) : s.toList.length < (c.skip 1).rest.length + 1) hrest
  exact ⟨c', by simpa [textAfterQuote] using hread, hmore⟩

/-! ## Names and numbers -/

section Plain

variable {c : Cursor} {more : List Char}

theorem find?_names_of_digit {d : Char} (hd : 0x30 ≤ d.toNat ∧ d.toNat ≤ 0x39)
    (cs : List Char) (hcs : cs = d :: more ∨ cs = '-' :: d :: more) :
    (names.find? fun n => n.1.toList.isPrefixOf cs) = none := by
  have hne : ∀ e : Char, 0x39 < e.toNat → (e == d) = false := by
    rintro e he
    refine beq_eq_false_iff_ne.2 ?_
    rintro rfl
    omega
  have hminus : ('-' == d) = false := by
    refine beq_eq_false_iff_ne.2 ?_
    rintro rfl
    exact absurd hd.1 (by decide)
  have hn := hne 'n' (by decide)
  have ht := hne 't' (by decide)
  have hf := hne 'f' (by decide)
  have hN := hne 'N' (by decide)
  have hI := hne 'I' (by decide)
  rcases hcs with rfl | rfl
  · simp [names, List.isPrefixOf, hn, ht, hf, hN, hI, hminus]
  · simp [names, List.isPrefixOf, hI]

theorem isDigit_of_mem_digitsOf {n : Nat} {d : Char} (h : d ∈ digitsOf n) : isDigit d = true := by
  obtain ⟨hlow, hhigh⟩ := isAscii_of_mem_digitsOf h
  rw [isDigit, Bool.and_eq_true, decide_eq_true_eq, decide_eq_true_eq]
  exact ⟨UInt32.le_iff_toNat_le.2 hlow, UInt32.le_iff_toNat_le.2 hhigh⟩

theorem wholeDigits_digitsOf (n : Nat) (hmore : Closed more) :
    wholeDigits (digitsOf n ++ more) = digitsOf n := by
  have htake : (digitsOf n ++ more).takeWhile isDigit = digitsOf n := by
    obtain ⟨e, rest, rfl, he⟩ := hmore
    rw [List.takeWhile_append_of_pos fun d hd => isDigit_of_mem_digitsOf hd,
      List.takeWhile_cons_of_neg (by rcases he with rfl | rfl <;> decide), List.append_nil]
  by_cases hn : n = 0
  · subst hn
    rfl
  · cases hdigits : digitsOf n with
    | nil => exact absurd hdigits (digitsOf_ne_nil n)
    | cons d rest =>
      -- a zero in front would stand alone
      have hd := head_digitsOf_ne_zero hn hdigits
      rw [hdigits] at htake
      rw [List.cons_append] at htake ⊢
      unfold wholeDigits
      split
      · next heq => exact absurd (List.cons.inj heq).1 hd
      · exact htake

theorem fractionDigits_of_closed (hmore : Closed more) : fractionDigits more = [] := by
  obtain ⟨e, rest, rfl, rfl | rfl⟩ := hmore <;> rfl

theorem exponent?_of_closed (hmore : Closed more) : exponent? more = none := by
  obtain ⟨e, rest, rfl, rfl | rfl⟩ := hmore <;> rfl

theorem readNumber_toString {n : Int} (hn : IsShort n)
    (hmore : Closed more) (h : c.rest = (toString n).toList ++ more) :
    ∃ c', readNumber c = .ok (.int n, c') ∧ c'.rest = more := by
  have hne : (digitsOf n.natAbs).isEmpty = false := by
    simpa using digitsOf_ne_nil n.natAbs
  have hsign : (c.rest.head? == some '-') = decide (n < 0) ∧
      (if n < 0 then c.rest.drop 1 else c.rest) = digitsOf n.natAbs ++ more := by
    rw [h, toList_toString_int]
    by_cases hneg : n < 0
    · simp [hneg]
    · cases hdigits : digitsOf n.natAbs with
      | nil => exact absurd hdigits (digitsOf_ne_nil _)
      | cons d rest =>
        have hascii : 0x30 ≤ d.toNat :=
          (isAscii_of_mem_digitsOf (n := n.natAbs) (by rw [hdigits]; exact List.mem_cons_self)).1
        have hd : d ≠ '-' := by
          rintro rfl
          exact absurd hascii (by decide)
        simp [hneg, hd]
  have hvalue : numberOf (digitsOf n.natAbs) = n.natAbs := ofDigits_digitsOf n.natAbs
  refine ⟨c.skip (toString n).toList.length, ?_, rest_skip_append h⟩
  unfold readNumber
  simp only [hsign.1, decide_eq_true_eq, hsign.2, wholeDigits_digitsOf _ hmore, hne,
    List.drop_left, fractionDigits_of_closed hmore, List.isEmpty_nil, Bool.true_and, if_true,
    Nat.add_zero, Bool.false_eq_true, if_false,
    exponent?_of_closed hmore, Option.isNone_none, Option.map_none, Option.getD_none]
  have hsize : (if n < 0 then -(n.natAbs : Int) else n.natAbs) = n := by split <;> omega
  have hlength : (toString n).toList.length =
      (if n < 0 then 1 else 0) + (digitsOf n.natAbs).length := by
    rw [toList_toString_int]
    split
    · rw [List.length_cons, Nat.add_comm]
    · rw [Nat.zero_add]
  rw [if_neg (Nat.not_lt.2 hn), hvalue, hsize, hlength]

theorem readValue_of_plain {fuel : Nat} {d : Char} {rest : List Char} (h : c.rest = d :: rest)
    (hd : d ≠ '"' ∧ d ≠ '[' ∧ d ≠ '\x7b') : readValue (fuel + 1) c = readPlain c := by
  rw [readValue.eq_def]
  simp only [h]
  split <;> simp_all

/-- A name is read as the value it stands for. -/
theorem readsAs_name {name : String} {value : Json}
    (hname : ∀ more, (names.find? fun n => n.1.toList.isPrefixOf (name.toList ++ more)) =
      some (name, value))
    (hstart : ∃ d rest, name.toList = d :: rest ∧ d ≠ '"' ∧ d ≠ '[' ∧ d ≠ '\x7b') :
    ReadsAs readValue name.toList value := by
  intro fuel c more hfuel h _
  obtain ⟨d, rest, hcons, hd⟩ := hstart
  obtain ⟨fuel, rfl⟩ : ∃ n, fuel = n + 1 := ⟨fuel - 1, by rw [hcons, List.length_cons] at hfuel; omega⟩
  have hfirst : c.rest = d :: (rest ++ more) := by rw [h, hcons, List.cons_append]
  refine ⟨c.skip name.length, ?_, ?_⟩
  · rw [readValue_of_plain hfirst hd, readPlain, h, hname more]
  · rw [← String.length_toList]
    exact rest_skip_append h

theorem exists_cons_toString (n : Int) :
    ∃ e tail, (toString n).toList = e :: tail ∧ (e = '-' ∨ 0x30 ≤ e.toNat ∧ e.toNat ≤ 0x39) ∧
      ∃ d rest, (0x30 ≤ d.toNat ∧ d.toNat ≤ 0x39) ∧
        (e :: tail = d :: rest ∨ e :: tail = '-' :: d :: rest) := by
  obtain ⟨d, rest, hdigits⟩ := List.exists_cons_of_ne_nil (digitsOf_ne_nil n.natAbs)
  have hd : 0x30 ≤ d.toNat ∧ d.toNat ≤ 0x39 :=
    isAscii_of_mem_digitsOf (n := n.natAbs) (by rw [hdigits]; exact List.mem_cons_self)
  rw [toList_toString_int, hdigits]
  split
  · exact ⟨'-', d :: rest, rfl, .inl rfl, d, rest, hd, .inr rfl⟩
  · exact ⟨d, rest, rfl, .inr hd, d, rest, hd, .inl rfl⟩

theorem readsAs_int {n : Int} (hn : IsShort n) :
    ReadsAs readValue (toString n).toList (.int n) := by
  intro fuel c more hfuel h hmore
  obtain ⟨e, tail, hcons, he, d, rest, hd, hdigit⟩ := exists_cons_toString n
  have hfirst : e ≠ '"' ∧ e ≠ '[' ∧ e ≠ '\x7b' := by
    refine ⟨?_, ?_, ?_⟩ <;> (rintro rfl; revert he; decide)
  have hstart : c.rest = d :: (rest ++ more) ∨ c.rest = '-' :: d :: (rest ++ more) := by
    rw [h, hcons]
    rcases hdigit with hsame | hsame
    · exact .inl (by rw [hsame, List.cons_append])
    · exact .inr (by rw [hsame, List.cons_append, List.cons_append])
  obtain ⟨fuel, rfl⟩ : ∃ n, fuel = n + 1 := ⟨fuel - 1, by rw [hcons, List.length_cons] at hfuel; omega⟩
  have hrest : c.rest = e :: (tail ++ more) := by rw [h, hcons, List.cons_append]
  rw [readValue_of_plain hrest hfirst, readPlain, find?_names_of_digit hd _ hstart]
  exact readNumber_toString hn hmore h

end Plain

theorem readsAs_text (s : String) : ReadsAs readValue (quotedChars s) (.text s) := by
  intro fuel c more hfuel h _
  obtain ⟨fuel, rfl⟩ : ∃ n, fuel = n + 1 := ⟨fuel - 1, by simp [quotedChars] at hfuel; omega⟩
  obtain ⟨c', hread, hrest⟩ := textAfterQuote_of_quotedChars h
  refine ⟨c', ?_, hrest⟩
  have hquote : c.rest = '"' :: (s.toList.flatMap (charText false) ++ ['"'] ++ more) := h
  rw [readValue.eq_def]
  simp only [hquote, hread]
  rfl

/-! ## Rows between brackets -/

/-- A line break and the blanks of a level. -/
def gapChars (level : Nat) : List Char := '\n' :: List.replicate (2 * level) ' '

/-- Rows one after the other, and what closes them. -/
def rowsText (gap closing : List Char) : List (List Char) → List Char
  | [] => closing
  | [row] => row ++ closing
  | row :: next :: rest => row ++ ',' :: (gap ++ rowsText gap closing (next :: rest))

theorem intercalate_append_closing (gap closing : List Char) {rows : List (List Char)}
    (hne : rows ≠ []) : (',' :: gap).intercalate rows ++ closing = rowsText gap closing rows := by
  induction rows with
  | nil => exact absurd rfl hne
  | cons row rest ih =>
    cases rest with
    | nil => simp [rowsText]
    | cons next rest =>
      rw [List.intercalate_cons_cons, rowsText, ← ih (List.cons_ne_nil _ _)]
      simp

theorem toList_bracketed (level : Nat) (opening closing : String) {parts : List String}
    (hne : parts ≠ []) :
    (bracketed .lines level opening closing parts).toList =
      opening.toList ++ (gapChars (level + 1) ++
        rowsText (gapChars (level + 1)) (gapChars level ++ closing.toList)
          (parts.map String.toList)) := by
  have hgap (n : Nat) : ("\n" ++ String.ofList (List.replicate (2 * n) ' ')).toList = gapChars n := by
    simp [gapChars]
  rw [← intercalate_append_closing _ _ (by simpa using hne)]
  simp only [bracketed, Layout.lines, List.isEmpty_iff, hne, if_false, if_true,
    String.toList_append, String.toList_intercalate, hgap, List.append_assoc]
  rfl

theorem closed_gapChars (level : Nat) (cs : List Char) : Closed (gapChars level ++ cs) :=
  ⟨'\n', _, rfl, .inr rfl⟩

theorem isGap_of_mem_gapChars {level : Nat} {d : Char} (h : d ∈ gapChars level) :
    Cursor.isGap d = true := by
  rcases List.mem_cons.1 h with rfl | h
  · rfl
  · rw [List.eq_of_mem_replicate h]
    rfl

/-- The characters of a value at a level. -/
def chars (level : Nat) (j : Json) : List Char := (j.write .lines level).toList

/-- The characters of a member at a level. -/
def memberChars (level : Nat) (m : String × Json) : List Char :=
  quotedChars m.1 ++ ':' :: ' ' :: chars level m.2

theorem writeItems_eq_map (layout : Layout) (level : Nat) (items : List Json) :
    writeItems layout level items = items.map (write layout level) := by
  induction items with
  | nil => rfl
  | cons item rest ih => rw [writeItems, ih, List.map_cons]

theorem toList_writeMembers (level : Nat) (members : List (String × Json)) :
    (writeMembers .lines level members).map String.toList = members.map (memberChars level) := by
  induction members with
  | nil => rfl
  | cons m rest ih =>
    obtain ⟨name, value⟩ := m
    have hname : (quotedText Layout.lines.asciiOnly name).toList = quotedChars name :=
      toList_quotedText name
    rw [writeMembers, List.map_cons, ih, List.map_cons, String.toList_append, String.toList_append,
      hname]
    simp [memberChars, chars]

theorem chars_array_nil (level : Nat) : chars level (.array []) = ['[', ']'] := by
  simp [chars, write, writeItems, bracketed]

theorem chars_object_nil (level : Nat) : chars level (.object []) = ['\x7b', '\x7d'] := by
  simp [chars, write, writeMembers, bracketed]

theorem chars_array {items : List Json} (level : Nat) (hne : items ≠ []) :
    chars level (.array items) = '[' :: (gapChars (level + 1) ++
      rowsText (gapChars (level + 1)) (gapChars level ++ [']']) (items.map (chars (level + 1)))) := by
  rw [chars, write, writeItems_eq_map, toList_bracketed _ _ _ (by simpa using hne), List.map_map]
  rfl

theorem chars_object {members : List (String × Json)} (level : Nat) (hne : members ≠ []) :
    chars level (.object members) = '\x7b' :: (gapChars (level + 1) ++
      rowsText (gapChars (level + 1)) (gapChars level ++ ['\x7d'])
        (members.map (memberChars (level + 1)))) := by
  have hparts : writeMembers .lines (level + 1) members ≠ [] := by
    obtain ⟨m, rest, rfl⟩ := List.exists_cons_of_ne_nil hne
    exact List.cons_ne_nil _ _
  rw [chars, write, toList_bracketed _ _ _ hparts, toList_writeMembers]
  rfl

/-- The first character of a value. -/
def StartsValue (cs : List Char) : Prop :=
  ∃ d rest, cs = d :: rest ∧ Cursor.isGap d = false ∧ d ≠ ']' ∧ d ≠ '\x7d'

theorem StartsValue.startsPlain {cs : List Char} (h : StartsValue cs) (more : List Char) :
    StartsPlain (cs ++ more) := by
  obtain ⟨d, rest, rfl, hd, -⟩ := h
  exact ⟨d, rest ++ more, rfl, hd⟩

theorem startsValue_chars {j : Json} (h : j.Readable) (level : Nat) : StartsValue (chars level j) := by
  cases h with
  | null => exact ⟨'n', ['u', 'l', 'l'], by simp [chars, write], by decide⟩
  | bool b =>
    cases b with
    | true => exact ⟨'t', ['r', 'u', 'e'], by simp [chars, write], by decide⟩
    | false => exact ⟨'f', ['a', 'l', 's', 'e'], by simp [chars, write], by decide⟩
  | @int n hn =>
    obtain ⟨e, tail, hcons, he, -⟩ := exists_cons_toString n
    refine ⟨e, tail, hcons, ?_, ?_, ?_⟩
    · rcases he with rfl | he
      · rfl
      · exact isGap_eq_false_of_visible (by omega)
    · rintro rfl
      revert he
      decide
    · rintro rfl
      revert he
      decide
  | text s => exact ⟨'"', _, toList_quotedText s, by decide⟩
  | @array items hitems =>
    by_cases hne : items = []
    · subst hne
      exact ⟨'[', [']'], chars_array_nil level, by decide⟩
    · exact ⟨'[', _, chars_array level hne, by decide⟩
  | @object members hnames hmembers =>
    by_cases hne : members = []
    · subst hne
      exact ⟨'\x7b', ['\x7d'], chars_object_nil level, by decide⟩
    · exact ⟨'\x7b', _, chars_object level hne, by decide⟩

theorem startsValue_rowsText {gap closing row : List Char} (h : StartsValue row)
    (rest : List (List Char)) : StartsValue (rowsText gap closing (row :: rest)) := by
  obtain ⟨d, tail, rfl, hd⟩ := h
  cases rest with
  | nil => exact ⟨d, _, rfl, hd⟩
  | cons next rest => exact ⟨d, _, rfl, hd⟩

section Rows

variable {fuel level : Nat} {c c₁ c₂ : Cursor} {more : List Char}

theorem skipGap_before_closing {d : Char} (hd : Cursor.isGap d = false)
    (h : c.rest = gapChars level ++ d :: more) : c.skipGap.rest = d :: more :=
  rest_skipGap (fun _ he => isGap_of_mem_gapChars he) ⟨d, more, rfl, hd⟩ h

theorem skipGap_after_comma {cs : List Char} (hcs : StartsPlain cs)
    (h : c.rest = ',' :: (gapChars level ++ cs)) :
    c.skipGap.rest = ',' :: (gapChars level ++ cs) ∧ (c.skipGap.skip 1).skipGap.rest = cs := by
  have hcomma : c.skipGap.rest = ',' :: (gapChars level ++ cs) :=
    skipGap_of_startsPlain ⟨',', _, rfl, by decide⟩ h
  exact ⟨hcomma, rest_skipGap (fun _ he => isGap_of_mem_gapChars he) hcs (rest_skip_one hcomma)⟩

/-- What is done after a row: the bracket ends the rows, and after a comma there is one more. -/
def afterRow {α : Type} (read : Nat → Cursor → Except ReadError (List α × Cursor)) (bracket : Char)
    (fuel : Nat) (a : α) (c : Cursor) : Except ReadError (List α × Cursor) :=
  if c.rest.head? = some bracket then .ok ([a], c.skip 1)
  else if c.rest.head? = some ',' then do
    let (as, c) ← read fuel (c.skip 1).skipGap
    return (a :: as, c)
  else c.refuse

theorem readItems_eq {item : Json} (hread : readValue fuel c = .ok (item, c₁)) :
    readItems (fuel + 1) c = afterRow readItems ']' fuel item c₁.skipGap := by
  rw [readItems.eq_def, afterRow]
  simp only [hread, bind, Except.bind]
  split <;> simp_all [pure, Except.pure]

/-- The name of a member is read, and the cursor stands at its value. -/
theorem exists_value_of_member {m : String × Json} (hm : StartsValue (chars level m.2))
    (h : c.rest = memberChars level m ++ more) :
    ∃ c', c.rest.head? = some '"' ∧ textAfterQuote (c.skip 1) = .ok (m.1, c') ∧
      c'.skipGap.rest.head? = some ':' ∧
      (c'.skipGap.skip 1).skipGap.rest = chars level m.2 ++ more := by
  have hname : c.rest = quotedChars m.1 ++ (':' :: ' ' :: (chars level m.2 ++ more)) := by
    simpa [memberChars] using h
  obtain ⟨c', hread, hrest⟩ := textAfterQuote_of_quotedChars hname
  have hcolon : c'.skipGap.rest = ':' :: ([' '] ++ (chars level m.2 ++ more)) :=
    skipGap_of_startsPlain ⟨':', _, rfl, by decide⟩ hrest
  refine ⟨c', by rw [hname]; rfl, hread, by rw [hcolon]; rfl, ?_⟩
  refine rest_skipGap (fun d hd => ?_) (hm.startsPlain more) (rest_skip_one hcolon)
  rw [List.mem_singleton.1 hd]
  rfl

theorem readMembers_eq {name : String} {value : Json} (hquote : c.rest.head? = some '"')
    (hname : textAfterQuote (c.skip 1) = .ok (name, c₁)) (hcolon : c₁.skipGap.rest.head? = some ':')
    (hread : readValue fuel (c₁.skipGap.skip 1).skipGap = .ok (value, c₂)) :
    readMembers (fuel + 1) c = afterRow readMembers '\x7d' fuel (name, value) c₂.skipGap := by
  rw [readMembers.eq_def, afterRow]
  simp only [hquote, hname, hcolon, hread, bne_self_eq_false, Bool.false_eq_true, if_false, bind,
    Except.bind]
  split <;> simp_all [pure, Except.pure]

theorem length_row_lt (gap row : List Char) {closing : List Char} (hclosing : closing ≠ [])
    (rest : List (List Char)) : row.length < (rowsText gap closing (row :: rest)).length := by
  have hpos := List.length_pos_iff.2 hclosing
  cases rest with
  | nil => simp only [rowsText, List.length_append]; omega
  | cons next rest => simp only [rowsText, List.length_append, List.length_cons]; omega

theorem length_rowsText_lt (gap closing row next : List Char) (rest : List (List Char)) :
    (rowsText gap closing (next :: rest)).length <
      (rowsText gap closing (row :: next :: rest)).length := by
  simp only [rowsText, List.length_append, List.length_cons]
  omega

/-- Rows are read if each of them is. -/
theorem readsAs_rows {α : Type} {read : Nat → Cursor → Except ReadError (List α × Cursor)}
    {bracket : Char} (hbracket : Cursor.isGap bracket = false ∧ bracket ≠ ',') {row : α → List Char}
    {as : List α} (hne : as ≠ []) (hstarts : ∀ a ∈ as, StartsValue (row a))
    (hrow : ∀ a ∈ as, ∀ fuel c more, (row a).length ≤ fuel → c.rest = row a ++ more → Closed more →
      ∃ c' : Cursor, c'.rest = more ∧ read (fuel + 1) c = afterRow read bracket fuel a c'.skipGap) :
    ReadsAs read (rowsText (gapChars (level + 1)) (gapChars level ++ [bracket]) (as.map row)) as := by
  induction as with
  | nil => exact absurd rfl hne
  | cons a rest ih =>
    intro fuel c more hfuel h hmore
    have hclosing : gapChars level ++ [bracket] ≠ [] := by simp
    have hlength := length_row_lt (gapChars (level + 1)) (row a) hclosing (rest.map row)
    rw [List.map_cons] at hfuel h
    obtain ⟨fuel, rfl⟩ : ∃ n, fuel = n + 1 := ⟨fuel - 1, by omega⟩
    cases rest with
    | nil =>
      have hcs : c.rest = row a ++ (gapChars level ++ bracket :: more) := by
        simpa [rowsText] using h
      obtain ⟨c', hrest, hread⟩ := hrow a List.mem_cons_self fuel c _ (by omega) hcs
        (closed_gapChars _ _)
      have hskipped := skipGap_before_closing hbracket.1 hrest
      refine ⟨c'.skipGap.skip 1, ?_, rest_skip_one hskipped⟩
      rw [hread, afterRow, if_pos (by rw [hskipped]; rfl)]
    | cons b rest =>
      have hcs : c.rest = row a ++ (',' :: (gapChars (level + 1) ++
          (rowsText (gapChars (level + 1)) (gapChars level ++ [bracket]) ((b :: rest).map row) ++
            more))) := by
        simpa [rowsText] using h
      obtain ⟨c', hrest, hread⟩ := hrow a List.mem_cons_self fuel c _ (by omega) hcs
        ⟨',', _, rfl, .inl rfl⟩
      obtain ⟨hcomma, hskipped⟩ := skipGap_after_comma
        ((startsValue_rowsText (hstarts b (by simp)) (rest.map row)).startsPlain more) hrest
      -- the rest of the rows is shorter
      have hshorter := length_rowsText_lt (gapChars (level + 1)) (gapChars level ++ [bracket])
        (row a) (row b) (rest.map row)
      obtain ⟨c'', hothers, hdone⟩ := ih (List.cons_ne_nil _ _)
        (fun x hx => hstarts x (List.mem_cons_of_mem _ hx))
        (fun x hx => hrow x (List.mem_cons_of_mem _ hx)) fuel _ more
        (by rw [List.map_cons] at hfuel ⊢; omega) hskipped hmore
      refine ⟨c'', ?_, hdone⟩
      have hnot : c'.skipGap.rest.head? ≠ some bracket := by
        rw [hcomma]
        exact fun heq => hbracket.2 (Option.some.inj heq).symm
      rw [hread, afterRow, if_neg hnot, if_pos (by rw [hcomma]; rfl), hothers]
      rfl

end Rows

/-! ## Whole values -/

theorem putMember_of_not_mem {name : String} {value : Json} {members : List (String × Json)}
    (h : name ∉ members.map Prod.fst) : putMember name value members = members ++ [(name, value)] := by
  induction members with
  | nil => rfl
  | cons m rest ih =>
    obtain ⟨n, v⟩ := m
    rw [List.map_cons, List.mem_cons, not_or] at h
    rw [putMember, if_neg (fun heq => h.1 heq.symm), ih h.2, List.cons_append]

theorem foldl_putMember {members before : List (String × Json)}
    (h : ((before ++ members).map Prod.fst).Nodup) :
    members.foldl (fun ms m => putMember m.1 m.2 ms) before = before ++ members := by
  induction members generalizing before with
  | nil => rw [List.foldl_nil, List.append_nil]
  | cons m rest ih =>
    have hsame : before ++ m :: rest = (before ++ [m]) ++ rest := by simp
    have hnew : m.1 ∉ before.map Prod.fst := by
      rw [List.map_append, List.map_cons, List.nodup_append] at h
      exact fun hmem => h.2.2 _ hmem _ List.mem_cons_self rfl
    rw [List.foldl_cons, putMember_of_not_mem hnew, hsame]
    exact ih (hsame ▸ h)

/-- Members of different names make the object that has them. -/
theorem ofMembers_of_nodup {members : List (String × Json)} (h : (members.map Prod.fst).Nodup) :
    ofMembers members = .object members := by
  rw [ofMembers, @foldl_putMember members [] h, List.nil_append]

section Values

variable {fuel level : Nat} {c inner : Cursor} {more : List Char}

theorem readValue_array_nil (h : c.rest = '[' :: ']' :: more) :
    ∃ c', readValue (fuel + 1) c = .ok (.array [], c') ∧ c'.rest = more := by
  have hinner : (c.skip 1).skipGap.rest = ']' :: more :=
    skipGap_of_startsPlain ⟨']', more, rfl, by decide⟩ (rest_skip_one h)
  refine ⟨(c.skip 1).skipGap.skip 1, ?_, rest_skip_one hinner⟩
  rw [readValue.eq_def]
  simp only [h, hinner]
  rfl

theorem readValue_object_nil (h : c.rest = '\x7b' :: '\x7d' :: more) :
    ∃ c', readValue (fuel + 1) c = .ok (.object [], c') ∧ c'.rest = more := by
  have hinner : (c.skip 1).skipGap.rest = '\x7d' :: more :=
    skipGap_of_startsPlain ⟨'\x7d', more, rfl, by decide⟩ (rest_skip_one h)
  refine ⟨(c.skip 1).skipGap.skip 1, ?_, rest_skip_one hinner⟩
  rw [readValue.eq_def]
  simp only [h, hinner]
  rfl

theorem readValue_array_of_items {rows : List Char} {items : List Json} (hrows : StartsValue rows)
    (hread : ReadsAs readItems rows items) (hfuel : rows.length ≤ fuel) (hmore : Closed more)
    (h : c.rest = '[' :: (gapChars level ++ (rows ++ more))) :
    ∃ c', readValue (fuel + 1) c = .ok (.array items, c') ∧ c'.rest = more := by
  have hinner : (c.skip 1).skipGap.rest = rows ++ more :=
    rest_skipGap (fun _ hd => isGap_of_mem_gapChars hd) (hrows.startsPlain more) (rest_skip_one h)
  obtain ⟨c', hitems, hrest⟩ := hread fuel _ more hfuel hinner hmore
  obtain ⟨d, tail, rfl, -, hd, -⟩ := hrows
  have hnot : ((c.skip 1).skipGap.rest.head? == some ']') = false := by
    rw [hinner, List.cons_append, List.head?_cons]
    simpa using hd
  refine ⟨c', ?_, hrest⟩
  rw [readValue.eq_def]
  simp only [h, hnot, hitems]
  rfl

theorem readValue_object_of_members {rows : List Char} {members : List (String × Json)}
    (hrows : StartsValue rows) (hnames : (members.map Prod.fst).Nodup)
    (hread : ReadsAs readMembers rows members) (hfuel : rows.length ≤ fuel) (hmore : Closed more)
    (h : c.rest = '\x7b' :: (gapChars level ++ (rows ++ more))) :
    ∃ c', readValue (fuel + 1) c = .ok (.object members, c') ∧ c'.rest = more := by
  have hinner : (c.skip 1).skipGap.rest = rows ++ more :=
    rest_skipGap (fun _ hd => isGap_of_mem_gapChars hd) (hrows.startsPlain more) (rest_skip_one h)
  obtain ⟨c', hitems, hrest⟩ := hread fuel _ more hfuel hinner hmore
  obtain ⟨d, tail, rfl, -, -, hd⟩ := hrows
  have hnot : ((c.skip 1).skipGap.rest.head? == some '\x7d') = false := by
    rw [hinner, List.cons_append, List.head?_cons]
    simpa using hd
  refine ⟨c', ?_, hrest⟩
  rw [readValue.eq_def]
  simp only [h, hnot, hitems, ← ofMembers_of_nodup hnames]
  rfl

end Values

theorem startsValue_memberChars (level : Nat) (m : String × Json) :
    StartsValue (memberChars level m) :=
  ⟨'"', _, rfl, by decide⟩

theorem readsAs_array {items : List Json} (hitems : ∀ item ∈ items, item.Readable)
    (hread : ∀ item ∈ items, ∀ level, ReadsAs readValue (chars level item) item) (level : Nat) :
    ReadsAs readValue (chars level (.array items)) (.array items) := by
  intro fuel c more hfuel h hmore
  cases items with
  | nil =>
    rw [chars_array_nil] at hfuel h
    obtain ⟨fuel, rfl⟩ : ∃ n, fuel = n + 1 := ⟨fuel - 1, by simp at hfuel; omega⟩
    exact readValue_array_nil h
  | cons item rest =>
    have hne : item :: rest ≠ [] := List.cons_ne_nil _ _
    have hrows := @readsAs_rows level _ readItems ']' (by decide) (chars (level + 1)) _ hne
      (fun a ha => startsValue_chars (hitems a ha) _) (fun a ha fuel c more hfuel h hmore => by
        obtain ⟨c', hvalue, hrest⟩ := hread a ha _ fuel c more hfuel h hmore
        exact ⟨c', hrest, readItems_eq hvalue⟩)
    have hstarts := startsValue_chars (hitems item List.mem_cons_self) (level + 1)
    rw [chars_array level hne] at hfuel h
    rw [List.length_cons, List.length_append, List.map_cons] at hfuel
    obtain ⟨fuel, rfl⟩ : ∃ n, fuel = n + 1 := ⟨fuel - 1, by omega⟩
    exact readValue_array_of_items (startsValue_rowsText hstarts _) hrows (by omega) hmore
      (by simpa using h)

theorem readsAs_object {members : List (String × Json)} (hnames : (members.map Prod.fst).Nodup)
    (hmembers : ∀ m ∈ members, m.2.Readable)
    (hread : ∀ m ∈ members, ∀ level, ReadsAs readValue (chars level m.2) m.2) (level : Nat) :
    ReadsAs readValue (chars level (.object members)) (.object members) := by
  intro fuel c more hfuel h hmore
  cases members with
  | nil =>
    rw [chars_object_nil] at hfuel h
    obtain ⟨fuel, rfl⟩ : ∃ n, fuel = n + 1 := ⟨fuel - 1, by simp at hfuel; omega⟩
    exact readValue_object_nil h
  | cons m rest =>
    have hne : m :: rest ≠ [] := List.cons_ne_nil _ _
    have hrows := @readsAs_rows level _ readMembers '\x7d' (by decide) (memberChars (level + 1)) _ hne
      (fun a _ => startsValue_memberChars _ a) (fun a ha fuel c more hfuel h hmore => by
        have hstarts := startsValue_chars (hmembers a ha) (level + 1)
        obtain ⟨c', hquote, hname, hcolon, hrest⟩ := exists_value_of_member hstarts h
        have hshorter : (chars (level + 1) a.2).length ≤ fuel := by
          simp only [memberChars, List.length_append, List.length_cons] at hfuel
          omega
        obtain ⟨c'', hvalue, hdone⟩ := hread a ha _ fuel _ more hshorter hrest hmore
        exact ⟨c'', hdone, readMembers_eq hquote hname hcolon hvalue⟩)
    have hstarts := startsValue_memberChars (level + 1) m
    rw [chars_object level hne] at hfuel h
    rw [List.length_cons, List.length_append, List.map_cons] at hfuel
    obtain ⟨fuel, rfl⟩ : ∃ n, fuel = n + 1 := ⟨fuel - 1, by omega⟩
    exact readValue_object_of_members (startsValue_rowsText hstarts _) hnames hrows (by omega) hmore
      (by simpa using h)

/-- A readable value is read where it was written, at every level. -/
theorem readsAs_chars {j : Json} (h : j.Readable) (level : Nat) :
    ReadsAs readValue (chars level j) j := by
  induction h generalizing level with
  | null =>
    have := @readsAs_name "null" .null (fun more => by rfl) ⟨'n', ['u', 'l', 'l'], rfl, by decide⟩
    simpa [chars, write] using this
  | bool b =>
    cases b with
    | true =>
      have := @readsAs_name "true" (.bool true) (fun more => by rfl)
        ⟨'t', ['r', 'u', 'e'], rfl, by decide⟩
      simpa [chars, write] using this
    | false =>
      have := @readsAs_name "false" (.bool false) (fun more => by rfl)
        ⟨'f', ['a', 'l', 's', 'e'], rfl, by decide⟩
      simpa [chars, write] using this
  | int hn => exact readsAs_int hn
  | text s =>
    rw [chars, write]
    exact toList_quotedText s ▸ readsAs_text s
  | array hitems ih => exact readsAs_array hitems (fun item hitem => ih item hitem) level
  | object hnames hmembers ih => exact readsAs_object hnames hmembers (fun m hm => ih m hm) level

/-- What is written over several lines, and ends with a line break, is read as it was. -/
theorem parse_renderLines {j : Json} (h : j.Readable) : parse (j.renderLines ++ "\n") = .ok j := by
  have hcs : (j.renderLines ++ "\n").toList = chars 0 j ++ ['\n'] := by
    rw [String.toList_append]
    rfl
  have hstart : ((Cursor.mk 0 (j.renderLines ++ "\n").toList).skipGap).rest = chars 0 j ++ ['\n'] :=
    skipGap_of_startsPlain ((startsValue_chars h 0).startsPlain _) hcs
  have hfuel : (chars 0 j).length ≤ 2 * (j.renderLines ++ "\n").length + 2 := by
    rw [← String.length_toList, hcs, List.length_append]
    omega
  obtain ⟨c', hread, hrest⟩ := readsAs_chars h 0 _ _ _ hfuel hstart ⟨'\n', [], rfl, .inr rfl⟩
  have hend : c'.skipGap.rest = [] := by
    rw [Cursor.skipGap, hrest]
    exact @rest_skip_append c' ['\n'] [] (by rw [hrest]; rfl)
  rw [parse]
  simp only [hread, bind, Except.bind, hend]
  rfl

end Rulebook.Json
