import Mathlib
import Rulebook.CommandLine.Run
import Rulebook.Http.Api
import Rulebook.Proofs.Number.Decimal

/-!
# Asking for a rule set

The same wish, to see the rule set of a number, with or without what is not active and perhaps in a
language, can be put as a request over HTTP and as the words of a command line. Both are understood
as they are meant, whatever the number and the text of the language are.
-/

namespace Rulebook

open Rulebook.Number Rulebook.Text

/-! ## Numbers in requests -/

namespace Checked

theorem dropLeadingZeros?_toString (n : Int) :
    dropLeadingZeros? (toString n).toList = some (toString n).toList := by
  rw [toList_toString_int]
  by_cases hneg : n < 0
  · rw [if_pos hneg]
    rfl
  rw [if_neg hneg]
  by_cases hzero : n = 0
  · rw [hzero]
    rfl
  · obtain ⟨c, rest, hdigits⟩ := List.exists_cons_of_ne_nil (digitsOf_ne_nil n.natAbs)
    -- the first digit is not zero, so nothing is dropped
    have hne : c ≠ '0' := head_digitsOf_ne_zero (Int.natAbs_ne_zero.2 hzero) hdigits
    have hascii : 0x30 ≤ c.toNat ∧ c.toNat ≤ 0x39 :=
      isAscii_of_mem_digitsOf (n := n.natAbs) (by rw [hdigits]; exact List.mem_cons_self)
    have hcode : c.toNat ≠ 0x30 := fun heq => hne (Char.toNat_inj.1 heq)
    have hleading : isLeadingDigit c = true := by
      rw [isLeadingDigit, Bool.and_eq_true, decide_eq_true_eq, decide_eq_true_eq]
      refine ⟨UInt32.le_iff_toNat_le.2 ?_, UInt32.le_iff_toNat_le.2 hascii.2⟩
      show 0x31 ≤ c.toNat
      omega
    rw [hdigits]
    unfold dropLeadingZeros?
    split
    · next heq => exact absurd (List.cons.inj heq).1 hne
    · next heq =>
      cases heq
      simp [hleading]
    · next heq => cases heq

theorem dropZeroFraction_of_not_mem {cs : List Char} (h : '.' ∉ cs) : dropZeroFraction cs = cs := by
  have hdrop : cs.dropWhile (· ≠ '.') = [] := by
    rw [List.dropWhile_eq_nil_iff]
    rintro c hc
    simp only [ne_eq, decide_not, Bool.not_eq_true', decide_eq_false_iff_not]
    rintro rfl
    exact h hc
  rw [dropZeroFraction, hdrop]

theorem dropUnderscores_of_not_mem {cs : List Char} (h : '_' ∉ cs) : dropUnderscores cs = cs := by
  rw [dropUnderscores]
  split
  · rfl
  · apply List.filter_eq_self.2
    intro c hc
    simp only [ne_eq, decide_not, Bool.not_eq_true', decide_eq_false_iff_not]
    rintro rfl
    exact h hc

theorem signedDigits?_toString (n : Int) : signedDigits? (toString n).toList = some n := by
  have hall : (digitsOf n.natAbs).all isAsciiDigit = true := by
    rw [List.all_eq_true]
    intro c hc
    obtain ⟨hlow, hhigh⟩ := isAscii_of_mem_digitsOf hc
    rw [isAsciiDigit, Bool.and_eq_true, decide_eq_true_eq, decide_eq_true_eq]
    exact ⟨UInt32.le_iff_toNat_le.2 hlow, UInt32.le_iff_toNat_le.2 hhigh⟩
  have hne : (digitsOf n.natAbs).isEmpty = false := by simpa using digitsOf_ne_nil n.natAbs
  have hvalue : ofDigits ((digitsOf n.natAbs).map fun c => c.toNat - 0x30) = n.natAbs :=
    ofDigits_digitsOf n.natAbs
  rw [toList_toString_int]
  by_cases hneg : n < 0
  · simp only [signedDigits?, if_pos hneg, List.head?_cons, beq_self_eq_true, if_true,
      List.drop_succ_cons, List.drop_zero, hne, hall, hvalue, Bool.not_true, Bool.or_self,
      Bool.false_eq_true, if_false]
    exact congrArg some (by omega)
  · have hsign : ((digitsOf n.natAbs).head? == some '-') = false := by
      rw [beq_eq_false_iff_ne]
      intro heq
      exact absurd (isAscii_of_mem_digitsOf (List.mem_of_head? heq)).1 (by decide)
    simp only [signedDigits?, if_neg hneg, hsign, Bool.false_eq_true, if_false, hne, hall, hvalue,
      Bool.not_true, Bool.or_self]
    exact congrArg some (by omega)

/-- A number that fits the store is read from its text. -/
theorem intOfText_toString {n : Int} (h : fitsWord n = true) : intOfText (toString n) = ok n := by
  have hplain (c : Char) (hc : c ≠ '-') (hcode : c.toNat < 0x30 ∨ 0x39 < c.toNat) :
      c ∉ (toString n).toList := by
    intro hmem
    rcases minus_or_digit_of_mem_toString hmem with hminus | hdigit
    · exact hc hminus
    · omega
  have hplus : ((toString n).toList.head? == some '+') = false := by
    rw [beq_eq_false_iff_ne]
    exact fun heq => hplain '+' (by decide) (by decide) (List.mem_of_head? heq)
  have hlength : ¬digitLimit < (toString n).toList.length := by
    have hdigits := length_digitsOf_of_fitsWord h
    rw [toList_toString_int, digitLimit]
    split
    · rw [List.length_cons]
      omega
    · omega
  simp only [intOfText, trimList_toString, hplus, Bool.false_eq_true, if_false,
    dropLeadingZeros?_toString, dropZeroFraction_of_not_mem (hplain '.' (by decide) (by decide)),
    dropUnderscores_of_not_mem (hplain '_' (by decide) (by decide)), if_neg hlength,
    signedDigits?_toString]

end Checked

/-! ## As a request -/

namespace Http

/-- The request for the rule set of a number. -/
def showRequest (id : Int) (includeHidden : Bool) (language : Option String) : Request where
  method := "GET"
  target := {
    path := "/api/rules/rule-sets/" ++ toString id ++ "/expression"
    query := (if includeHidden then [("include_hidden", "true")] else []) ++
      (language.map fun l => ("language", l)).toList }
  body := ""

theorem splitAt_of_not_mem {mark : Char} {part : List Char} (h : mark ∉ part) :
    splitAt mark part = [part] := by
  induction part with
  | nil => rfl
  | cons c rest ih =>
    rw [List.mem_cons, not_or] at h
    rw [splitAt, if_neg (Ne.symm h.1), ih h.2]

theorem splitAt_append {mark : Char} {part : List Char} (h : mark ∉ part) (rest : List Char) :
    splitAt mark (part ++ mark :: rest) = part :: splitAt mark rest := by
  induction part with
  | nil => rw [List.nil_append, splitAt, if_pos rfl]
  | cons c more ih =>
    rw [List.mem_cons, not_or] at h
    rw [List.cons_append, splitAt, if_neg (Ne.symm h.1), ih h.2]

theorem segments_showRequest (id : Int) (hidden : Bool) (language : Option String) :
    (showRequest id hidden language).target.segments =
      ["", "api", "rules", "rule-sets", toString id, "expression"] := by
  have hslash : '/' ∉ (toString id).toList := by
    intro hmem
    rcases minus_or_digit_of_mem_toString hmem with h | h
    · exact absurd h (by decide)
    · exact absurd h (by decide)
  have hpath : (showRequest id hidden language).target.path.toList =
      [] ++ '/' :: ("api".toList ++ '/' :: ("rules".toList ++ '/' :: ("rule-sets".toList ++ '/' ::
        ((toString id).toList ++ '/' :: "expression".toList)))) := by
    simp [showRequest]
  rw [Target.segments, hpath, splitAt_append (by simp), splitAt_append (by simp),
    splitAt_append (by simp), splitAt_append (by simp), splitAt_append hslash,
    splitAt_of_not_mem (by simp)]
  simp

theorem includeHiddenOf_showRequest (id : Int) (hidden : Bool) (language : Option String) :
    includeHiddenOf (showRequest id hidden language).target = .ok hidden := by
  cases hidden <;> cases language <;> rfl

theorem languageOf_showRequest (id : Int) (hidden : Bool) (language : Option String) :
    languageOf (showRequest id hidden language).target = .ok language := by
  cases hidden <;> cases language <;> rfl

/-- The answer that shows a rule set. -/
def shownResponse : Shown → Response
  | .notFound => .problem 404 "Rule set not found"
  | .inactive => .problem 404 "Rule set is inactive"
  | .group g => .ok g.toExpr.toJson

theorem routeOf?_showRequest (debug : Bool) (id : Int) (hidden : Bool) (language : Option String) :
    routeOf? debug (showRequest id hidden language).target.segments =
      some (.ruleSet (toString id)) := by
  have hne : (toString id).isEmpty = false := by
    rw [← Bool.not_eq_true, String.isEmpty_iff, ← String.toList_eq_nil_iff, toList_toString_int]
    split
    · exact List.cons_ne_nil _ _
    · exact digitsOf_ne_nil _
  rw [segments_showRequest]
  generalize toString id = number at hne ⊢
  simp [routeOf?, hne]

/-- The request is answered with the rule set as the engine shows it. -/
theorem answer_showRequest (api : Api) (s : Store) {id : Int} (hid : Checked.fitsWord id = true)
    (hidden : Bool) (language : Option String) :
    (api.answer s (showRequest id hidden language)).2 =
      Api.respond (api.engine.showRuleSet s id hidden language).2 shownResponse := by
  have hread : pathPart "rule_set_id" Checked.int (toString id) = .ok id := by
    rw [pathPart, Checked.int, Checked.intOfText_toString hid]
    rfl
  have hanswer : api.answer s (showRequest id hidden language) =
      api.ruleSet s (showRequest id hidden language).target (toString id) := by
    unfold Api.answer
    simp only [routeOf?_showRequest]
    rfl
  rw [hanswer, Api.ruleSet, hread, includeHiddenOf_showRequest, languageOf_showRequest]
  show Api.respond (api.engine.showRuleSet s id hidden language).2 _ = _
  congr 1

end Http

/-! ## As words -/

namespace CommandLine

/-- The words that ask for the rule set of a number. -/
def showWords (id : Int) (includeHidden : Bool) (language : Option String) : List String :=
  "show" :: (if includeHidden then ["--include-hidden"] else []) ++
    (language.map ("--language=" ++ ·)).toList ++ [toString id]

theorem wordOf_long {switches : List Switch} {s : String} {c : Char} {rest : List Char}
    (h : s.toList = '-' :: '-' :: c :: rest) : wordOf switches s = longWord switches s := by
  simp only [wordOf, h]

/-- The name of the switch ends at the first equals sign, and all that follows is the language. -/
theorem wordOf_language {switches found : List Switch} (l : String)
    (hfound : (switches.filter fun o => "--language".toList.isPrefixOf o.name.toList) = found) :
    (found = [] → wordOf switches ("--language=" ++ l) = otherWord ("--language=" ++ l)) ∧
      ∀ o, found = [o] → wordOf switches ("--language=" ++ l) = .switch o (some l) := by
  have hstart : ("--language=" ++ l).toList = '-' :: '-' :: 'l' :: ("anguage=" ++ l).toList := by
    simp
  have hlist : ("--language=" ++ l).toList = "--language".toList ++ '=' :: l.toList := by simp
  have htake : ("--language=" ++ l).toList.takeWhile (· ≠ '=') = "--language".toList := by
    rw [hlist, List.takeWhile_append_of_pos (by simp), List.takeWhile_cons_of_neg (by simp)]
    simp
  have hdrop : ("--language=" ++ l).toList.dropWhile (· ≠ '=') = '=' :: l.toList := by
    rw [hlist, List.dropWhile_append_of_pos (by simp), List.dropWhile_cons_of_neg (by simp)]
  rw [wordOf_long hstart]
  constructor
  · rintro rfl
    simp only [longWord, htake, hfound]
  · rintro o rfl
    simp only [longWord, htake, hdrop, hfound, String.ofList_toList]

theorem isNegativeNumber_toString {n : Int} (h : n < 0) :
    isNegativeNumber (toString n).toList = true := by
  have hlast : (toString n).toList.getLast? ≠ some '\n' := by
    intro heq
    rcases minus_or_digit_of_mem_toString (List.mem_of_getLast? heq) with h | h
    · exact absurd h (by decide)
    · exact absurd h (by decide)
  have hdrop : (digitsOf n.natAbs).dropWhile (fun c => (digitValue? c).isSome) = [] := by
    rw [List.dropWhile_eq_nil_iff]
    intro c hc
    rw [digitValue?_of_ascii (isAscii_of_mem_digitsOf hc)]
    rfl
  have hlist : (toString n).toList = '-' :: digitsOf n.natAbs := by rw [toList_toString_int, if_pos h]
  rw [hlist] at hlast
  simp only [isNegativeNumber, hlist, if_neg hlast, hdrop]
  simpa using digitsOf_ne_nil n.natAbs

/-- A number is an operand, also one with a minus sign in front. -/
theorem wordOf_toString (switches : List Switch) (n : Int) :
    wordOf switches (toString n) = .operand (toString n) := by
  obtain ⟨d, rest, hdigits⟩ := List.exists_cons_of_ne_nil (digitsOf_ne_nil n.natAbs)
  have hd : 0x30 ≤ d.toNat ∧ d.toNat ≤ 0x39 :=
    isAscii_of_mem_digitsOf (n := n.natAbs) (by rw [hdigits]; exact List.mem_cons_self)
  have hminus : d ≠ '-' := by rintro rfl; exact absurd hd (by decide)
  have hh : d ≠ 'h' := by rintro rfl; exact absurd hd (by decide)
  have hlist := toList_toString_int n
  rw [hdigits] at hlist
  by_cases hneg : n < 0
  · have hother : otherWord (toString n) = .operand (toString n) := by
      rw [otherWord, isNegativeNumber_toString hneg]
      rfl
    rw [if_pos hneg] at hlist
    unfold wordOf
    split <;> simp_all
  · rw [if_neg hneg] at hlist
    unfold wordOf
    split <;> simp_all

/-- The program itself knows no switch of this name. -/
theorem wordOf_language_before (l : String) :
    wordOf programSwitches ("--language=" ++ l) = otherWord ("--language=" ++ l) :=
  (wordOf_language l rfl).1 (by decide)

theorem wordOf_language_after (l : String) :
    wordOf [helpSwitch, hiddenSwitch, languageSwitch] ("--language=" ++ l) =
      .switch languageSwitch (some l) :=
  (wordOf_language l rfl).2 _ (by decide)

theorem otherWord_ne (s : String) : otherWord s ≠ .ambiguous ∧ otherWord s ≠ .mark := by
  unfold otherWord
  split <;> exact ⟨nofun, nofun⟩

theorem wordsOf_eq_map {switches : List Switch} {args : List String}
    (h : ∀ s ∈ args, wordOf switches s ≠ .mark) :
    wordsOf switches args = args.map (wordOf switches) := by
  induction args with
  | nil => rfl
  | cons s rest ih =>
    rw [List.forall_mem_cons] at h
    rw [wordsOf, ih h.2]
    split
    · next hmark => exact absurd hmark h.1
    · rfl

section Words

variable {id : Int} {hidden : Bool} {language : Option String}

theorem mem_showWords {s : String} (h : s ∈ showWords id hidden language) :
    s = "show" ∨ s = "--include-hidden" ∨ (∃ l, s = "--language=" ++ l) ∨ s = toString id := by
  simp only [showWords, List.cons_append, List.mem_cons, List.mem_append, List.mem_ite_nil_right,
    Option.mem_toList, Option.map_eq_some_iff, List.not_mem_nil, or_false] at h
  rcases h with h | (⟨-, h⟩ | ⟨l, -, h⟩) | h
  · exact .inl h
  · exact .inr (.inl h)
  · exact .inr (.inr (.inl ⟨l, h.symm⟩))
  · exact .inr (.inr (.inr h))

/-- Before the name of the command is known, none of its words could be several switches. -/
theorem not_ambiguous_showWords :
    (wordsOf programSwitches (showWords id hidden language)).contains .ambiguous = false := by
  have hwords : ∀ s ∈ showWords id hidden language,
      wordOf programSwitches s ≠ .ambiguous ∧ wordOf programSwitches s ≠ .mark := by
    intro s hs
    rcases mem_showWords hs with rfl | rfl | ⟨l, rfl⟩ | rfl
    · decide
    · decide
    · rw [wordOf_language_before]
      exact otherWord_ne _
    · rw [wordOf_toString]
      exact ⟨Word.noConfusion, Word.noConfusion⟩
  rw [wordsOf_eq_map fun s hs => (hwords s hs).2, List.contains_eq_mem, decide_eq_false_iff_not]
  intro hmem
  obtain ⟨s, hs, hambiguous⟩ := List.mem_map.1 hmem
  exact (hwords s hs).1 hambiguous

theorem wordsOf_showWords :
    wordsOf [helpSwitch, hiddenSwitch, languageSwitch] (showWords id hidden language).tail =
      (if hidden then [.switch hiddenSwitch none] else []) ++
        (language.map fun l => .switch languageSwitch (some l)).toList ++ [.operand (toString id)] := by
  have hhidden : wordOf [helpSwitch, hiddenSwitch, languageSwitch] "--include-hidden" =
      .switch hiddenSwitch none := by decide
  rw [wordsOf_eq_map]
  · cases hidden <;> cases language <;>
      simp only [showWords, List.cons_append, List.tail_cons, List.map_cons, Option.map_none,
        Option.map_some, Option.toList_none, Option.toList_some, List.map_nil, if_true,
        Bool.false_eq_true, if_false, List.nil_append, hhidden, wordOf_language_after,
        wordOf_toString]
  · intro s hs
    rcases mem_showWords (List.mem_of_mem_tail hs) with rfl | rfl | ⟨l, rfl⟩ | rfl
    · decide
    · decide
    · rw [wordOf_language_after]
      exact Word.noConfusion
    · rw [wordOf_toString]
      exact Word.noConfusion

/-- The words are read as the wish that they stand for. -/
theorem read_showWords (hid : Checked.fitsWord id = true) :
    Command.read (showWords id hidden language) = .ok (some (.showRuleSet id hidden language)) := by
  have hnumber : readInt? (toString id) = some id := by
    rw [readInt?_toString, if_neg (Nat.not_lt.2 (isShort_of_fitsWord hid))]
  have hshow : wordOf programSwitches "show" = .operand "show" := by decide
  have hwish : readWords [hiddenSwitch, languageSwitch] takeShowItem ⟨none, false, false, none⟩
      (showWords id hidden language).tail = .ok ⟨some id, true, hidden, language⟩ := by
    rw [readWords, wordsOf_showWords]
    generalize toString id = number at hnumber
    cases hidden <;> cases language <;>
      simp [itemsOf, readItems, takeShowItem, hnumber, hiddenSwitch, languageSwitch, helpSwitch]
  have hcommand : readShowing (showWords id hidden language).tail =
      .ok (.showRuleSet id hidden language) := by
    rw [readShowing, hwish]
  rw [Command.read, not_ambiguous_showWords]
  show readProgram false ("show" :: (showWords id hidden language).tail) = _
  simp only [readProgram, hshow, readNamed, hcommand]
  rfl

end Words

end CommandLine

end Rulebook
