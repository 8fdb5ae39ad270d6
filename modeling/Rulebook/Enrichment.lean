import Rulebook.Options

/-!
# Enrichment

Adding notes for display to the conditions of a group. A condition without a descriptor, or with the
stand-in for unknown kinds, gets an `error` note. A condition whose values come from a data source
gets the names of its values, if a provider serves that source. Notes that are there stay unless a
new one takes their key.

Where a provider fails the work ends, and the notes made before that stay.
-/

namespace Rulebook

/-- What notes are made with. -/
structure Annotator where
  localizer : Localizer
  providers : List OptionsProvider
  /-- The language of notes where none is wanted. -/
  defaultLanguage : String

/-- What notes were put on, and the failure that ended the work, if any. -/
structure Annotated (α : Type) where
  after : α
  failure : Option Failure

namespace Annotated

variable {α β : Type}

/-- The same work, seen as a part of another thing. -/
def map (f : α → β) (x : Annotated α) : Annotated β := ⟨f x.after, x.failure⟩

/-- The work as a result, which keeps nothing of work that failed. -/
def toResult (x : Annotated α) : Result α :=
  match x.failure with
  | none => .ok x.after
  | some f => .error f

end Annotated

namespace Annotator

/-- The key of the note on a condition that is no longer supported. -/
def errorKey : String := "error"

/-- The key of the note with the names of selected values. -/
def selectedKey : String := "selected_items"

/-- The condition has no descriptor, or one that is no longer valid. -/
def isUnsupported (c : Leaf) : Bool := c.descriptor.all fun d => !d.isValid

/-- Puts a note on a condition. -/
def putNote (key : String) (note : Note) (c : Leaf) : Leaf :=
  { c with notes := putKeyed key note c.notes }

/-- The provider of the values of a condition. -/
def providerOf (a : Annotator) (c : Leaf) : Option OptionsProvider :=
  c.dataSource?.bind fun source => a.providers.find? fun p => p.serves source

/-- The note with the names of selected values. -/
def selectedNote (options : List SelectOption) : Note :=
  .selected (options.foldl (fun items o => putKeyed o.value ⟨o.text, o.hint⟩ items) [])

/-- The request for the names of the values that a condition holds. -/
def selectedRequest (language : String) (c : Leaf) : OptionsRequest :=
  ⟨.selected, c, 0, unboundedPageSize, none, some language⟩

/-- Puts the error note on a condition that is no longer supported. -/
def markUnsupported (a : Annotator) (language : String) (c : Leaf) : Leaf :=
  if isUnsupported c then
    putNote errorKey (.value (.text (a.localizer.localize invalidDescriptorKey (some language)))) c
  else c

/-- Puts the notes on a condition. -/
def annotateLeaf (a : Annotator) (language : String) (c : Leaf) : Annotated Leaf :=
  let c := a.markUnsupported language c
  match a.providerOf c with
  | none => ⟨c, none⟩
  | some p =>
    match p.options (selectedRequest language c) with
    | .error f => ⟨c, some f⟩
    | .ok page => ⟨putNote selectedKey (selectedNote page.options) c, none⟩

mutual

/-- Puts the notes on the conditions of an expression. -/
def annotateExpr (a : Annotator) (language : String) : Expr → Annotated Expr
  | .leaf c => (a.annotateLeaf language c).map .leaf
  | .group head parts => (annotateParts a language parts).map (.group head)

/-- Puts the notes on the conditions of the parts of a group. -/
def annotateParts (a : Annotator) (language : String) : List Expr → Annotated (List Expr)
  | [] => ⟨[], none⟩
  | e :: rest =>
    let first := annotateExpr a language e
    match first.failure with
    -- the parts after a failure stay as they were
    | some f => ⟨first.after :: rest, some f⟩
    | none => (annotateParts a language rest).map (first.after :: ·)

end

/-- Puts the notes on the conditions of a group. -/
def annotate (a : Annotator) (language : Option String) (g : Group) : Annotated Group :=
  (annotateParts a ((Localizer.given language).getD a.defaultLanguage) g.parts).map
    fun parts => { g with parts := parts }

end Annotator

end Rulebook
