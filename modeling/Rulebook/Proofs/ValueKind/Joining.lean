import Mathlib
import Rulebook.Proofs.Number.Decimal
import Rulebook.ValueKind

/-!
# Joining stored lists

A stored list is read part by part: what two texts with a comma between them list is what the first
lists and then what the second lists, and nothing is read if one of the two cannot be read. So
whole numbers and texts that are joined by commas are read back as they were, with whatever blanks
around them and blank items among them (`Loosened`).
-/

namespace Rulebook

open Rulebook.Number Rulebook.Text

namespace ValueKind

/-! ## Parts -/

section Parts

variable {cs ds : List Char} {r s : String}

theorem commaParts_eq_splitOn (cs : List Char) : commaParts cs = cs.splitOn ',' := by
  induction cs with
  | nil => rfl
  | cons c rest ih =>
    rw [commaParts, List.splitOn_cons_eq_if_modifyHead, ih]
    simp only [beq_iff_eq]
    split
    · rfl
    · cases hparts : rest.splitOn ',' with
      | nil => exact absurd hparts (List.splitOnP_ne_nil _ _)
      | cons part parts => rfl

theorem listItems_append : listItems (r ++ "," ++ s) = listItems r ++ listItems s := by
  have hchars : (r ++ "," ++ s).toList = r.toList ++ ',' :: s.toList := by simp
  have hparts : commaParts (r.toList ++ ',' :: s.toList) =
      commaParts r.toList ++ commaParts s.toList := by
    simp only [commaParts_eq_splitOn]
    exact List.splitOnP_append_cons _ _ (beq_self_eq_true ',')
  rw [listItems, hchars, hparts, List.map_append, List.filter_append]
  rfl

/-- A joined list falls apart into what was joined. -/
theorem listItems_join {texts : List String} (h : ∀ t ∈ texts, ',' ∉ t.toList) :
    listItems (",".intercalate texts) = (texts.map strip).filter (· ≠ "") := by
  by_cases hne : texts = []
  · subst hne
    rfl
  · have hparts : commaParts (",".intercalate texts).toList = texts.map String.toList := by
      rw [commaParts_eq_splitOn, String.toList_intercalate]
      exact List.splitOn_intercalate ',' (by simpa using h) (by simpa using hne)
    rw [listItems, hparts, List.map_map]
    rfl

theorem listItems_of_not_mem (h : ',' ∉ r.toList) : listItems r = [strip r].filter (· ≠ "") := by
  have hjoined : listItems (",".intercalate [r]) = ([r].map strip).filter (· ≠ "") := by
    refine listItems_join ?_
    simpa using h
  exact hjoined

end Parts

/-! ## Loosening -/

/-- The items of a list with blanks around them, and blank items among them. -/
inductive Loosened : List String → List String → Prop where
  | nil : Loosened [] []
  | padded {item before after : String} {items texts : List String}
      (hbefore : isBlankText before = true) (hafter : isBlankText after = true)
      (h : Loosened items texts) : Loosened (item :: items) ((before ++ item ++ after) :: texts)
  | blank {text : String} {items texts : List String} (hblank : isBlankText text = true)
      (h : Loosened items texts) : Loosened items (text :: texts)

theorem not_comma_of_blank {text : String} (h : isBlankText text = true) : ',' ∉ text.toList := by
  intro hcomma
  have := List.all_eq_true.1 h ',' hcomma
  revert this
  decide

theorem strip_padded {item before after : String} (hbefore : isBlankText before = true)
    (hafter : isBlankText after = true) : strip (before ++ item ++ after) = strip item := by
  rw [strip, String.toList_append, String.toList_append,
    trimList_padded (List.all_eq_true.1 hbefore) (List.all_eq_true.1 hafter), strip]

theorem strip_eq_empty_iff {text : String} : strip text = "" ↔ isBlankText text = true := by
  rw [strip, isBlankText, List.all_eq_true, ← trimList_eq_nil]
  exact String.ofList_eq_empty_iff

theorem Loosened.not_comma {items texts : List String} (h : Loosened items texts)
    (hitems : ∀ i ∈ items, ',' ∉ i.toList) : ∀ t ∈ texts, ',' ∉ t.toList := by
  induction h with
  | nil => exact nofun
  | padded hbefore hafter _ ih =>
    rw [List.forall_mem_cons] at hitems
    refine List.forall_mem_cons.2 ⟨?_, ih hitems.2⟩
    simp [not_comma_of_blank hbefore, not_comma_of_blank hafter, hitems.1]
  | blank hblank _ ih => exact List.forall_mem_cons.2 ⟨not_comma_of_blank hblank, ih hitems⟩

theorem Loosened.stripped {items texts : List String} (h : Loosened items texts) :
    (texts.map strip).filter (· ≠ "") = (items.map strip).filter (· ≠ "") := by
  induction h with
  | nil => rfl
  | padded hbefore hafter _ ih =>
    rw [List.map_cons, List.map_cons, strip_padded hbefore hafter, List.filter_cons,
      List.filter_cons, ih]
  | blank hblank _ ih =>
    rw [List.map_cons, strip_eq_empty_iff.2 hblank, List.filter_cons_of_neg (by simp), ih]

/-- Blanks around items and blank items make no difference. -/
theorem listItems_loosened {items texts : List String} (hitems : ∀ i ∈ items, ',' ∉ i.toList)
    (h : Loosened items texts) :
    listItems (",".intercalate texts) = (items.map strip).filter (· ≠ "") := by
  rw [listItems_join (h.not_comma hitems), h.stripped]

/-! ## Reading -/

/-- A stored text lists some values. -/
def Lists (k : ValueKind) (raw : String) (values : List Value) : Prop :=
  k.convert (some raw) = .ok (.list values)

/-- A stored text cannot be read. -/
def Refuses (k : ValueKind) (raw : String) : Prop := k.convert (some raw) = .error .unreadable

section Reading

variable {k item : ValueKind} {r s : String} {values : List Value}

/-- Reads the items of a stored list one by one. -/
def readItems (item : ValueKind) (raw : String) : Except ReadingFault (List Value) :=
  (listItems raw).mapM item.readSingle

theorem convert_of_itemKind? (h : k.itemKind? = some item) :
    k.convert (some r) = (item.readItems r).map .list := by
  rw [convert, h]
  show item.readItems r >>= _ = _
  cases item.readItems r <;> rfl

theorem lists_iff (h : k.itemKind? = some item) :
    k.Lists r values ↔ item.readItems r = .ok values := by
  rw [Lists, convert_of_itemKind? h]
  cases item.readItems r <;> simp [Except.map]

theorem refuses_iff (h : k.itemKind? = some item) :
    k.Refuses r ↔ item.readItems r = .error .unreadable := by
  rw [Refuses, convert_of_itemKind? h]
  cases item.readItems r <;> simp [Except.map]

/-- The reading of an item says nothing about why it fails. -/
theorem readSingle_eq_error (h : k.itemKind? = some item) {fault : ReadingFault}
    (hread : item.readSingle r = .error fault) : fault = .unreadable := by
  cases k <;> cases h <;> simp only [readSingle] at hread
  case stringArray => cases hread
  all_goals
    split at hread
    · cases hread
    · exact (Except.error.inj hread).symm

/-- Where reading one after the other fails, one of the readings does. -/
theorem exists_of_mapM_error {α β ε : Type} {f : α → Except ε β} {xs : List α} {e : ε}
    (h : xs.mapM f = .error e) : ∃ x ∈ xs, f x = .error e := by
  induction xs with
  | nil => cases h
  | cons x rest ih =>
    rw [List.mapM_cons] at h
    cases hfirst : f x with
    | error e' =>
      rw [hfirst] at h
      cases h
      exact ⟨x, List.mem_cons_self, hfirst⟩
    | ok y =>
      rw [hfirst] at h
      cases hrest : rest.mapM f with
      | error e' =>
        rw [hrest] at h
        cases h
        obtain ⟨x', hx', hfails⟩ := ih hrest
        exact ⟨x', List.mem_cons_of_mem _ hx', hfails⟩
      | ok ys =>
        rw [hrest] at h
        cases h

theorem readItems_eq_error (h : k.itemKind? = some item) {fault : ReadingFault}
    (hread : item.readItems r = .error fault) : fault = .unreadable := by
  obtain ⟨text, -, hfails⟩ := exists_of_mapM_error hread
  exact readSingle_eq_error h hfails

theorem lists_or_refuses (h : k.itemKind? = some item) (r : String) :
    (∃ values, k.Lists r values) ∨ k.Refuses r := by
  cases hread : item.readItems r with
  | ok values => exact .inl ⟨values, (lists_iff h).2 hread⟩
  | error fault =>
    obtain rfl := readItems_eq_error h hread
    exact .inr ((refuses_iff h).2 hread)

theorem readItems_append : item.readItems (r ++ "," ++ s) =
    (do return (← item.readItems r) ++ (← item.readItems s)) := by
  rw [readItems, listItems_append, List.mapM_append]
  rfl

theorem lists_append_iff (h : k.itemKind? = some item) : k.Lists (r ++ "," ++ s) values ↔
    ∃ us ws, k.Lists r us ∧ k.Lists s ws ∧ values = us ++ ws := by
  simp only [lists_iff h, readItems_append]
  cases item.readItems r <;> cases item.readItems s <;>
    simp [bind, Except.bind, pure, Except.pure, eq_comm]

theorem refuses_append_iff (h : k.itemKind? = some item) :
    k.Refuses (r ++ "," ++ s) ↔ k.Refuses r ∨ k.Refuses s := by
  simp only [refuses_iff h, readItems_append]
  cases hr : item.readItems r with
  | error fault =>
    obtain rfl := readItems_eq_error h hr
    exact iff_of_true rfl (.inl rfl)
  | ok us =>
    -- the second part is read only where the first one can be
    cases hs : item.readItems s with
    | error fault =>
      obtain rfl := readItems_eq_error h hs
      exact iff_of_true rfl (.inr rfl)
    | ok ws => simp [bind, Except.bind, pure, Except.pure]

theorem convert_loosened (h : k.itemKind? = some item) {items texts : List String}
    (hitems : ∀ i ∈ items, ',' ∉ i.toList) (hloosened : Loosened items texts) :
    k.convert (some (",".intercalate texts)) = k.convert (some (",".intercalate items)) := by
  rw [convert_of_itemKind? h, convert_of_itemKind? h, readItems, readItems,
    listItems_loosened hitems hloosened, listItems_join hitems]

/-! ### A single item -/

theorem readSingle_strip (h : k.itemKind? = some item) (hitem : item ≠ .string) :
    item.readSingle (strip r) = item.readSingle r := by
  have hstrip : strip (strip r) = strip r := by
    rw [strip, strip, String.toList_ofList, trimList_trimList]
  cases k <;> cases h
  case stringArray => exact absurd rfl hitem
  all_goals simp only [readSingle, hstrip]

theorem readItems_alone (h : k.itemKind? = some item) (hitem : item ≠ .string)
    (hblank : isBlankText r = false) (hcomma : ',' ∉ r.toList) :
    item.readItems r = (item.convert (some r)).map ([·]) := by
  have hne : strip r ≠ "" := by simp [strip_eq_empty_iff, hblank]
  have hitems : listItems r = [strip r] := by
    rw [listItems_of_not_mem hcomma, List.filter_cons_of_pos (by simpa using hne), List.filter_nil]
  have hconvert : item.convert (some r) = item.readSingle r := by
    have hnone : item.itemKind? = none := by cases k <;> cases h <;> rfl
    rw [convert, hnone]
    simp [hblank]
  rw [readItems, hitems, hconvert, List.mapM_cons, readSingle_strip h hitem]
  cases item.readSingle r <;> rfl

theorem lists_alone_iff (h : k.itemKind? = some item) (hitem : item ≠ .string)
    (hblank : isBlankText r = false) (hcomma : ',' ∉ r.toList) {v : Value} :
    k.Lists r [v] ↔ item.convert (some r) = .ok v := by
  rw [lists_iff h, readItems_alone h hitem hblank hcomma]
  cases item.convert (some r) <;> simp [Except.map]

theorem refuses_alone_iff (h : k.itemKind? = some item) (hitem : item ≠ .string)
    (hblank : isBlankText r = false) (hcomma : ',' ∉ r.toList) :
    k.Refuses r ↔ item.Refuses r := by
  rw [refuses_iff h, readItems_alone h hitem hblank hcomma, Refuses]
  cases item.convert (some r) <;> simp [Except.map]

/-! ### Written items -/

theorem mapM_eq_ok {α β ε : Type} {f : α → Except ε β} {g : α → β} {xs : List α}
    (h : ∀ x ∈ xs, f x = .ok (g x)) : xs.mapM f = .ok (xs.map g) := by
  induction xs with
  | nil => rfl
  | cons x rest ih =>
    rw [List.forall_mem_cons] at h
    rw [List.mapM_cons, h.1, ih h.2]
    rfl

/-- What is written item by item is read back where the items are joined, if each item is read by
itself and stays whole among commas and blanks. -/
theorem lists_of_written {α : Type} (h : k.itemKind? = some item) {xs : List α}
    {write : α → String} {value : α → Value} {texts : List String}
    (hread : ∀ x ∈ xs, item.readSingle (write x) = .ok (value x))
    (hwhole : ∀ x ∈ xs, write x ≠ "" ∧ ',' ∉ (write x).toList ∧ strip (write x) = write x)
    (hloosened : Loosened (xs.map write) texts) :
    k.Lists (",".intercalate texts) (xs.map value) := by
  have hcomma : ∀ i ∈ xs.map write, ',' ∉ i.toList := by
    simpa using fun x hx => (hwhole x hx).2.1
  have hitems : listItems (",".intercalate texts) = xs.map write := by
    rw [listItems_loosened hcomma hloosened, List.map_map]
    have hstrip : xs.map (strip ∘ write) = xs.map write :=
      List.map_congr_left fun x hx => (hwhole x hx).2.2
    rw [hstrip, List.filter_eq_self]
    simpa using fun x hx => (hwhole x hx).1
  -- what is left is to read the items as they were written
  rw [lists_iff h, readItems, hitems, List.mapM_map]
  exact mapM_eq_ok hread

theorem readSingle_toString {n : Int} (hn : IsShort n) :
    int.readSingle (toString n) = .ok (.int n) := by
  have hread : readInt? (toString n) = some n := by
    rw [readInt?_toString, if_neg (Nat.not_lt.2 hn)]
  simp only [readSingle, strip_toString, hread]

theorem whole_toString (n : Int) :
    toString n ≠ "" ∧ ',' ∉ (toString n).toList ∧ strip (toString n) = toString n := by
  refine ⟨?_, fun hcomma => ?_, strip_toString n⟩
  · intro hempty
    have hchars := toList_toString_int n
    rw [hempty] at hchars
    split at hchars
    · cases hchars
    · exact digitsOf_ne_nil _ hchars.symm
  · rcases minus_or_digit_of_mem_toString hcomma with h | h
    · cases h
    · exact absurd h.1 (by decide)

end Reading

/-- The reading of a list kind, against the reading of its items and the joining of texts. -/
structure UndoesJoining (k item : ValueKind) : Prop where
  /-- There is no other ending. -/
  answered : ∀ r, (∃ values, k.Lists r values) ∨ k.Refuses r
  joined : ∀ r s values, k.Lists (r ++ "," ++ s) values ↔
    ∃ us ws, k.Lists r us ∧ k.Lists s ws ∧ values = us ++ ws
  refused : ∀ r s, k.Refuses (r ++ "," ++ s) ↔ k.Refuses r ∨ k.Refuses s
  /-- Neither blanks around items nor blank items make a difference. -/
  loosened : ∀ items texts, (∀ i ∈ items, ',' ∉ i.toList) → Loosened items texts →
    k.convert (some (",".intercalate texts)) = k.convert (some (",".intercalate items))
  /-- A number alone is read as it is by itself. -/
  alone : item ≠ .string → ∀ r, isBlankText r = false → ',' ∉ r.toList →
    (∀ v, k.Lists r [v] ↔ item.convert (some r) = .ok v) ∧
      ((∀ v, ¬ k.Lists r [v]) → k.Refuses r ∧ item.Refuses r)
  numbers : item = .int → ∀ (ns : List Int) (texts : List String), (∀ n ∈ ns, IsShort n) →
    Loosened (ns.map toString) texts → k.Lists (",".intercalate texts) (ns.map .int)
  words : item = .string → ∀ ss texts : List String,
    (∀ s ∈ ss, s ≠ "" ∧ ',' ∉ s.toList ∧ strip s = s) →
      Loosened ss texts → k.Lists (",".intercalate texts) (ss.map .text)

/-- Reading a stored list undoes joining: part by part, whatever blanks and blank items are
there. -/
theorem list_reading_undoes_joining (k item : ValueKind) (h : k.itemKind? = some item) :
    UndoesJoining k item where
  answered := lists_or_refuses h
  joined _ _ _ := lists_append_iff h
  refused _ _ := refuses_append_iff h
  loosened _ _ := convert_loosened h
  alone hitem r hblank hcomma := by
    refine ⟨fun v => lists_alone_iff h hitem hblank hcomma, fun hnone => ?_⟩
    have hrefuses : k.Refuses r := by
      cases hconvert : item.convert (some r) with
      | ok v => exact absurd ((lists_alone_iff h hitem hblank hcomma).2 hconvert) (hnone v)
      | error fault =>
        have hread := readItems_alone h hitem hblank hcomma
        rw [hconvert] at hread
        obtain rfl := readItems_eq_error h hread
        exact (refuses_iff h).2 hread
    exact ⟨hrefuses, (refuses_alone_iff h hitem hblank hcomma).1 hrefuses⟩
  numbers hitem ns texts hshort hloosened := by
    subst hitem
    exact lists_of_written h (fun n hn => readSingle_toString (hshort n hn))
      (fun n _ => whole_toString n) hloosened
  words hitem ss texts hwhole hloosened := by
    subst hitem
    have hread : ∀ s ∈ ss, ValueKind.string.readSingle (id s) = .ok (.text s) := fun _ _ => rfl
    exact lists_of_written h hread hwhole (by simpa using hloosened)

/-- Numbers with blanks around them and a blank item among them are read; a word after them makes
the whole list unreadable. -/
theorem spaced_numbers_listed : intArray.itemKind? = some .int ∧
    intArray.Lists "\t7 , ,-12" [.int 7, .int (-12)] ∧ intArray.Refuses "\t7 , ,-12,red" := by
  have hlaws := list_reading_undoes_joining intArray .int rfl
  have hshort : ∀ n ∈ ([7, -12] : List Int), IsShort n := by
    simp only [List.forall_mem_cons]
    exact ⟨isShort_of_fitsWord rfl, isShort_of_fitsWord rfl, nofun⟩
  have hloosened : Loosened (([7, -12] : List Int).map toString)
      ["\t" ++ toString (7 : Int) ++ " ", " ", "" ++ toString (-12 : Int) ++ ""] :=
    .padded (by decide) (by decide) (.blank (by decide) (.padded (by decide) (by decide) .nil))
  have hlists := hlaws.numbers rfl _ _ hshort hloosened
  have hword : intArray.Refuses "red" := by cbv
  exact ⟨rfl, hlists, (hlaws.refused "\t7 , ,-12" "red").2 (.inr hword)⟩

end ValueKind

end Rulebook
