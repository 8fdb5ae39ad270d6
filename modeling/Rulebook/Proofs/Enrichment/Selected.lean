import Mathlib
import Rulebook.Proofs.Attribute.Monotonicity
import Rulebook.Proofs.Compile.Unfolding
import Rulebook.Proofs.Enrichment.Completion

/-!
# What compiled conditions show

A condition that is compiled from rules of the attribute scope is of a kind that some catalog
contributes, and lists numbers, or its kind is not known. Enriched, the one shows the stored values
among the numbers that it lists, in display order, under their names in the wanted language. The
other shows that it is no longer supported, and no values.

The kinds may have been cached when the catalog was another one, and a value may be without a mapped
attribute or a catalog attribute.
-/

namespace Rulebook

open Annotator VariantOptions
open Rulebook.Attribute (descriptorOf)
open Rulebook.Checked (fitsWord)

/-! ## Names -/

/-- The text that something is shown as in a language: its name in that language if there is one
that is not blank, and its plain name otherwise. -/
inductive Named.ShownAs (named : Named) (language : String) : String → Prop where
  | translated {s : String} (hs : named.localizedNames.member? language = some (.text s))
      (hblank : Text.isBlankText s = false) : ShownAs named language s
  | plain (hnone : ∀ s, named.localizedNames.member? language = some (.text s) →
      Text.isBlankText s = true) : ShownAs named language (named.name.getD "")

theorem shownAs_localizedName (l : Localizer) (named : Named) {language : String}
    (hlanguage : language ≠ "") : named.ShownAs language (l.localizedName named (some language)) := by
  have hwanted : l.languageOr (some language) = language := by
    simp [Localizer.languageOr, Localizer.given, Option.filter, hlanguage]
  unfold Localizer.localizedName
  rw [hwanted]
  split
  · next s hs =>
    split
    · next hblank =>
      refine .plain fun s' hs' => ?_
      rw [hs] at hs'
      cases hs'
      exact hblank
    · next hblank => exact .translated hs (by simpa using hblank)
  · next hnone => exact .plain fun s hs => absurd hs (hnone s)

/-- The entry that shows a stored value. The hint is the name of its catalog attribute, unless that
or the attribute mapped onto it is missing. -/
structure VariantValue.ShownBy (s : Store) (language : String) (v : VariantValue)
    (entry : String × Display) : Prop where
  key : entry.1 = toString v.id
  text : v.names.ShownAs language entry.2.text
  hint : Option.Rel (fun a text => a.names.ShownAs language text) (s.catalogOfValue v) entry.2.hint

theorem shownBy_entryOf (s : Store) (l : Localizer) {language : String} (hlanguage : language ≠ "")
    (v : VariantValue) : v.ShownBy s language (entryOf s l language v) := by
  refine ⟨rfl, shownAs_localizedName l v.names hlanguage, ?_⟩
  show Option.Rel _ (s.catalogOfValue v) ((s.catalogOfValue v).map _)
  cases s.catalogOfValue v with
  | none => exact .none
  | some a => exact .some (shownAs_localizedName l a.names hlanguage)

/-! ## Entries -/

namespace VariantOptions

/-- Entries with keys of their own are put one after another. -/
theorem putOptions_eq_append {options : List SelectOption} {entries : List (String × Display)}
    (h : (entries.map Prod.fst ++ options.map (·.value)).Nodup) :
    putOptions options entries = entries ++ options.map fun o => (o.value, ⟨o.text, o.hint⟩) := by
  induction options generalizing entries with
  | nil => exact (List.append_nil entries).symm
  | cons o rest ih =>
    have hnew : o.value ∉ entries.map Prod.fst := fun hmem =>
      (List.disjoint_of_nodup_append h) hmem List.mem_cons_self
    show putOptions rest (putKeyed o.value ⟨o.text, o.hint⟩ entries) = _
    rw [putKeyed_of_notMem hnew, ih, List.append_assoc]
    · rfl
    · rw [List.map_append, List.append_assoc]
      exact h

theorem nodup_keys_selectedValues {s : Store} (hids : (s.values.map (·.id)).Nodup) (c : Leaf) :
    ((selectedValues s c).map fun v => toString v.id).Nodup := by
  have hselected : ((selectedValues s c).map (·.id)).Nodup := by
    have hperm := (List.mergeSort_perm (s.values.filter fun v => c.value.listed.any fun item =>
      item.toInt.toOption = some v.id) fun a b => inOrder a.place b.place).map (·.id)
    exact hperm.nodup_iff.2 (hids.sublist (List.filter_sublist.map _))
  have hkeys := hselected.map (f := fun n : Int => toString n) fun m n h => Int.repr_injective h
  rwa [List.map_map] at hkeys

/-- The names of selected values are put one after another, as all their numbers are different. -/
theorem putOptions_selectedValues {s : Store} (hids : (s.values.map (·.id)).Nodup) (l : Localizer)
    (language : String) (c : Leaf) :
    putOptions ((selectedValues s c).map (optionOf s l (some language))) [] =
      (selectedValues s c).map (entryOf s l language) := by
  rw [putOptions_eq_append, List.nil_append, List.map_map]
  · rfl
  · rw [List.map_nil, List.nil_append, List.map_map]
    exact nodup_keys_selectedValues hids c

theorem selectedValues_perm {s : Store} {c : Leaf} {ids : List Int}
    (h : c.value = .list (ids.map .int)) :
    (selectedValues s c).Perm (s.values.filter fun v => v.id ∈ ids) := by
  have hlisted (v : VariantValue) :
      (c.value.listed.any fun item => item.toInt.toOption = some v.id) = decide (v.id ∈ ids) := by
    rw [h, Value.listed, List.any_map, Bool.eq_iff_iff]
    simp [Value.toInt, Except.toOption]
  rw [selectedValues]
  simp only [hlisted]
  exact List.mergeSort_perm _ _

end VariantOptions

/-! ## Compiled conditions -/

/-- A condition of the attribute scope as it is compiled: one that lists numbers, of a kind that some
catalog contributes, or one of the stand-in for unknown kinds. It bears no notes. -/
inductive Leaf.IsCompiled (c : Leaf) : Prop where
  | known {l : Localizer} {language : String} {a : CatalogAttribute} {ids : List Int}
      (hd : c.descriptor = some (descriptorOf l language a))
      (hvalue : c.value = .list (ids.map .int)) (hnotes : c.notes = [])
  | unknown {scope : Scope} {name : Option String} (hd : c.descriptor = some (.unknown scope name))
      (hnotes : c.notes = [])

theorem isCompiled_of_condition {v : Visitor}
    (hkinds : ∀ kinds, v.kinds = .ok kinds → kinds.FromCatalog) {r : DraftRule} {c : Leaf}
    (h : v.condition r = .ok (some (.leaf c))) : c.IsCompiled := by
  obtain ⟨kinds, id, o, value, hv, hreads, hleaf⟩ := Visitor.exists_reads_of_part h
  cases hleaf
  rcases (hkinds kinds hv).kindOf v r with ⟨l, language, a, hkind⟩ | hkind
  · -- such a kind reads the stored text as a list of numbers
    obtain ⟨-, -, hvalue⟩ := Visitor.reads?_eq_some_iff.1 hreads
    rw [hkind] at hvalue
    have hids := Attribute.toOption_convert_intArray r.value
    rw [show ValueKind.intArray.convert r.value = .ok value from hvalue] at hids
    obtain ⟨ids, -, hlist⟩ := Option.map_eq_some_iff.1 hids.symm
    exact .known (congrArg some hkind) hlist.symm rfl
  · exact .unknown (congrArg some hkind) rfl

namespace Compiler

variable {c : Compiler}

/-- Every condition of a compiled group is that of some rule. -/
theorem exists_condition_of_compileRoot {hidden : Bool} {root : Root} {g : Group}
    (h : (c.compileRoot hidden root).result = .ok (some g)) {l : Leaf} (hl : l ∈ g.toExpr.leaves) :
    ∃ r, c.visitor.condition r = .ok (some (.leaf l)) := by
  obtain ⟨s, path, -, -, hparts⟩ := exists_opening_of_compileRoot h
  rw [Group.toExpr, Expr.leaves_group] at hl
  obtain ⟨e, he, hle⟩ := List.mem_flatMap.1 hl
  rcases exists_source_of_mem_parts hparts he with
    ⟨r, -, -, hcondition⟩ | ⟨r, -, id, g', -, -, hg, rfl⟩
  · obtain ⟨l', rfl⟩ := Visitor.exists_leaf_of_condition hcondition
    obtain rfl : l = l' := by simpa [Expr.leaves_leaf] using hle
    exact ⟨r, hcondition⟩
  · -- below the root all rule sets are stored ones
    obtain ⟨s', hentry, hbelow⟩ := resultBelow_eq_some_iff.1 hg
    rw [Expr.leaves_group] at hle
    cases entry_eq_iff.1 hentry with
    | entered _ _ hfound _ _ =>
      obtain ⟨-, -, -, row, -, -, hrow⟩ := exists_row_of_mem_leaves (.start hfound) hbelow hle
      exact ⟨row.toDraft, hrow⟩

end Compiler

/-! ## Enriched conditions -/

/-- A compiled condition, and the same with the notes that enrichment gives it: if its kind is valid,
an entry for each stored value whose number it lists, once and in display order, and otherwise just
the text that it is no longer supported. -/
inductive Leaf.Enriched (s : Store) (l : Localizer) (language : String) : Leaf → Leaf → Prop where
  | selected {c : Leaf} {d : Descriptor} {ids : List Int} {rows : List VariantValue}
      {entries : List (String × Display)} (hd : c.descriptor = some d) (hvalid : d.isValid = true)
      (hvalue : c.value = .list (ids.map .int))
      (hrows : rows.Perm (s.values.filter fun v => v.id ∈ ids))
      (hordered : rows.Pairwise fun v w => inOrder v.place w.place)
      (hentries : List.Forall₂ (VariantValue.ShownBy s language) rows entries) :
      Enriched s l language c { c with notes := [("selected_items", .selected entries)] }
  | invalid {c : Leaf} {d : Descriptor} (hd : c.descriptor = some d) (hinvalid : d.isValid = false) :
      Enriched s l language c { c with
        notes := [("error", .value (.text (l.localize invalidDescriptorKey (some language))))] }

theorem putNote_of_notes_eq_nil {key : String} {note : Note} {c : Leaf} (h : c.notes = []) :
    putNote key note c = { c with notes := [(key, note)] } := by
  rw [putNote, h, putKeyed]

theorem enriched_annotateLeaf {a : Annotator} {s : Store}
    (hproviders : a.providers = [provider s a.localizer]) (hids : (s.values.map (·.id)).Nodup)
    {language : String} (hlanguage : language ≠ "") {c : Leaf} (hc : c.IsCompiled)
    (hfits : ∀ n, .int n ∈ c.value.listed → fitsWord n = true) :
    (a.annotateLeaf language c).failure = none ∧
      c.Enriched s a.localizer language (a.annotateLeaf language c).after := by
  cases hc with
  | known hd hvalue hnotes =>
    have hvariants : c.IsOnVariants := by simp [Leaf.IsOnVariants, Leaf.dataSource?, hd, descriptorOf]
    have hsupported : ¬ isUnsupported c = true := by simp [isUnsupported, hd, descriptorOf]
    have hwithin : ∀ v ∈ c.value.listed, ¬ BeyondStore v := by
      rw [hvalue] at hfits ⊢
      intro v hv hbeyond
      obtain ⟨n, -, rfl⟩ := List.mem_map.1 hv
      cases hbeyond with
      | number hread hlarge =>
        cases hread
        simp [hfits n hv] at hlarge
    rw [annotateLeaf_of_within hproviders hvariants hwithin, putOptions_selectedValues hids,
      markUnsupported_of_supported hsupported, putNote_of_notes_eq_nil hnotes]
    refine ⟨rfl, .selected hd rfl hvalue (selectedValues_perm hvalue) (sortByPlace_sorted _ _) ?_⟩
    rw [List.forall₂_map_right_iff, List.forall₂_same]
    exact fun v _ => shownBy_entryOf s a.localizer hlanguage v
  | unknown hd hnotes =>
    have hvariants : ¬ c.IsOnVariants := by
      simp [Leaf.IsOnVariants, Leaf.dataSource?, hd, Descriptor.unknown]
    have hunsupported : isUnsupported c = true := by simp [isUnsupported, hd]
    rw [annotateLeaf_of_not_isOnVariants hproviders hvariants,
      markUnsupported_of_unsupported hunsupported, putNote_of_notes_eq_nil hnotes]
    exact ⟨rfl, .invalid hd rfl⟩

/-- An engine of the attribute scope, at any time: its kinds come from some catalog, it offers the
values of attributes under the names that its localizer finds, and it has a language of its own. -/
structure Engine.OfAttributes (e : Engine) : Prop where
  reads : e.ReadsAttributes
  cache : e.CachesCatalog
  offers : ∀ s, e.optionsProviders s = [VariantOptions.provider s e.localizer]
  language : e.defaultLanguage ≠ ""

theorem Engine.ofAttributes_attributes (l : Localizer) {language : String} (hlanguage : language ≠ "")
    (pageSize : Int) (maxDepth : Nat) : (attributes l language pageSize maxDepth).OfAttributes :=
  ⟨⟨_, _, _, rfl⟩, cachesCatalog_attributes l language pageSize maxDepth, fun _ => rfl, hlanguage⟩

/-- The engine stays one of the attribute scope while it works, whatever stores it works on. -/
theorem Engine.OfAttributes.settle {e : Engine} (h : e.OfAttributes) (s : Store) (asked : Bool) :
    (e.settle s asked).OfAttributes := by
  have hcache := h.cache.settle h.reads s asked
  cases asked with
  | false => exact h
  | true => exact ⟨h.reads, hcache, h.offers, h.language⟩

/-- Enriching a group that is compiled from a store comes to its end where every listed number fits
into the store, and each condition at every depth then shows what its kind asks for: a condition of a
valid kind the stored values that it lists, and no others, and any other condition that it is no
longer supported. The language is the wanted one, or that of the engine where none is wanted. -/
theorem compiled_conditions_show_stored_values {e : Engine} (he : e.OfAttributes) (s : Store)
    (hids : (s.values.map (·.id)).Nodup) {hidden : Bool} {root : Root} {g : Group}
    (hcompiled : ((e.compiler s).compileRoot hidden root).result = .ok (some g))
    (hfits : ∀ c ∈ g.toExpr.leaves, ∀ n, .int n ∈ c.value.listed → fitsWord n = true)
    (language : Option String) :
    ((e.annotator s).annotate language g).failure = none ∧
      List.Forall₂ (Leaf.Enriched s e.localizer ((Localizer.given language).getD e.defaultLanguage))
        g.toExpr.leaves ((e.annotator s).annotate language g).after.toExpr.leaves := by
  have hlanguage : (Localizer.given language).getD e.defaultLanguage ≠ "" := by
    cases hgiven : Localizer.given language with
    | none => exact he.language
    | some wanted =>
      obtain ⟨-, hwanted⟩ := Option.filter_eq_some_iff.1 hgiven
      simpa using hwanted
  have hleaf : ∀ c ∈ g.toExpr.leaves, c.IsCompiled := by
    intro c hc
    obtain ⟨r, hcondition⟩ := Compiler.exists_condition_of_compileRoot hcompiled hc
    exact isCompiled_of_condition (fun kinds => he.cache.fromCatalog he.reads) hcondition
  have henriched := fun c hc => enriched_annotateLeaf (a := e.annotator s) (he.offers s) hids
    hlanguage (hleaf c hc) (hfits c hc)
  have hcompletes : ((e.annotator s).annotate language g).failure = none := by
    rw [failure_annotate, List.findSome?_eq_none_iff]
    exact fun c hc => (henriched c hc).1
  refine ⟨hcompletes, ?_⟩
  rw [leaves_annotate hcompletes, List.forall₂_map_right_iff, List.forall₂_same]
  exact fun c hc => (henriched c hc).2

/-- A shop with a colour and with values whose catalog attribute or mapped attribute is missing, and
rules that list them, one of a kind that is not known. -/
def tornPalette : Store where
  catalog := [⟨3, 0, ⟨some "Colour", .object [("de", .text "Farbe")]⟩⟩]
  ruleSets := [
    ⟨1, none, "product_attribute", "and", true, false,
      [⟨10, "group", "eq", some "2", 0⟩, ⟨11, "variant4", "in", some "5", 1⟩]⟩,
    ⟨2, none, "product_attribute", "or", true, true,
      [⟨12, "variant3", "in", some "7, 5, 99, 6, 5", 0⟩]⟩]
  attributes := [⟨20, 1, 3, none, 0⟩, ⟨21, 1, 4, none, 0⟩]
  values := [⟨5, 20, 1, ⟨some "red", .object [("de", .text "rot")]⟩⟩,
    ⟨6, 21, 0, ⟨some "oak", .null⟩⟩, ⟨7, 22, 0, ⟨some "lost", .object [("de", .text " ")]⟩⟩]

/-- An engine that has worked on another shop before. -/
def germanEngine : Engine := (Engine.attributes (.builtIn "en") "de" 10 5).settle palette true

theorem compiled_tornPalette : ∃ g,
    ((germanEngine.compiler tornPalette).compileRoot false (.number 1)).result = .ok (some g) ∧
      g.toExpr.leaves.map (·.value) =
        [.list ([7, 5, 99, 6, 5].map .int), .text "5"] := by
  have hread : ((germanEngine.compiler tornPalette).compileRoot false (.number 1)).result.map
      (Option.map fun g => g.toExpr.leaves.map (·.value)) =
        .ok (some [.list ([7, 5, 99, 6, 5].map .int), .text "5"]) := by cbv
  cases hcompiled : ((germanEngine.compiler tornPalette).compileRoot false (.number 1)).result with
  | error f => simp [hcompiled, Except.map] at hread
  | ok found =>
    rw [hcompiled] at hread
    obtain ⟨g, rfl, hvalues⟩ := Option.map_eq_some_iff.1 (Except.ok.inj hread)
    exact ⟨g, rfl, hvalues⟩

theorem tornPalette_shows_stored_values : ∃ g,
    ((germanEngine.compiler tornPalette).compileRoot false (.number 1)).result = .ok (some g) ∧
      germanEngine.OfAttributes ∧ (tornPalette.values.map (·.id)).Nodup ∧
      (∀ c ∈ g.toExpr.leaves, ∀ n, .int n ∈ c.value.listed → fitsWord n = true) ∧
      ((germanEngine.annotator tornPalette).annotate none g).failure = none ∧
      List.Forall₂ (Leaf.Enriched tornPalette (.builtIn "en") "de") g.toExpr.leaves
        ((germanEngine.annotator tornPalette).annotate none g).after.toExpr.leaves := by
  obtain ⟨g, hcompiled, hvalues⟩ := compiled_tornPalette
  have hengine : germanEngine.OfAttributes :=
    (Engine.ofAttributes_attributes (.builtIn "en") (by decide) 10 5).settle palette true
  have hids : (tornPalette.values.map (·.id)).Nodup := by decide
  have hfits : ∀ c ∈ g.toExpr.leaves, ∀ n, .int n ∈ c.value.listed → fitsWord n = true := by
    intro c hc n hn
    have hvalue := List.mem_map_of_mem (f := (·.value)) hc
    rw [hvalues, List.mem_cons, List.mem_singleton] at hvalue
    rcases hvalue with hvalue | hvalue
    · have hall : ∀ n ∈ [7, 5, 99, 6, 5], fitsWord n = true := by decide
      rw [hvalue, Value.listed] at hn
      obtain ⟨m, hm, hsame⟩ := List.mem_map.1 hn
      cases hsame
      exact hall _ hm
    · rw [hvalue] at hn
      simp [Value.listed] at hn
  obtain ⟨hcompletes, hshown⟩ :=
    compiled_conditions_show_stored_values hengine tornPalette hids hcompiled hfits none
  exact ⟨g, hcompiled, hengine, hids, hfits, hcompletes, hshown⟩

end Rulebook
