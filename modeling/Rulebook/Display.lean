import Rulebook.Engine

/-!
# Showing rule sets

A rule set for display: found in the store, compiled by the provider of its scope, and with notes.
The HTTP interface and the command line both show rule sets this way.
-/

namespace Rulebook

/-- What comes of the wish to see a rule set. -/
inductive Shown where
  | notFound
  | inactive
  | group (g : Group)

/-- The rule set of a number for display, together with the engine after that. -/
def Engine.showRuleSet (e : Engine) (s : Store) (id : Int) (includeHidden : Bool)
    (language : Option String) : Engine × Result Shown :=
  match s.findRuleSet id with
  | .error f => (e, .error f)
  | .ok none => (e, .ok .notFound)
  | .ok (some r) =>
    match e.findProvider r.scope with
    | .error f => (e, .error (.rule f))
    | .ok _ =>
      let o := (e.compiler s).compileDraft includeHidden r.toDraft
      (e.settle s o.asked, do
        match ← o.result with
        | none => return .inactive
        | some g => return .group (← ((e.annotator s).annotate language g).toResult))

/-- The descriptors of a scope, together with the engine after that. -/
def Engine.listDescriptors (e : Engine) (s : Store) (scope : String) :
    Engine × Result (List Descriptor) :=
  match e.findProvider scope with
  | .error f => (e, .error (.rule f))
  | .ok _ => (e.settle s true, (e.kinds s).map (·.descriptors))

end Rulebook
