import Rulebook.Json.Basic
import Rulebook.Text.Blank

/-!
# Localization

Texts in several languages. A text is looked up in the wanted language, then in the default
language, and is its own key if neither has it. A name is looked up in the wanted language, or the
default language if none is wanted, and falls back to the plain name.
-/

namespace Rulebook

/-- Texts by language and key. -/
abbrev Resources := List (String × List (String × String))

/-- The key of the note on a condition that is no longer supported. -/
def invalidDescriptorKey : String := "rules.invalid_descriptor"

/-- The built-in texts. -/
def builtInResources : Resources :=
  [("en",
    [(invalidDescriptorKey,
      "Invalid rule. This rule is no longer supported and should be deleted."),
     ("catalog.product_attributes", "Product attributes")]),
   ("de",
    [(invalidDescriptorKey,
      "Ungültige Regel. Diese Regel wird nicht mehr unterstützt und sollte gelöscht werden."),
     ("catalog.product_attributes", "Produktmerkmale")])]

/-- Something that has a name, perhaps in several languages. -/
structure Named where
  name : Option String
  /-- An object of names by language, if well formed. -/
  localizedNames : Json
  deriving Repr, Inhabited

/-- Finds texts and names. -/
structure Localizer where
  resources : Resources
  defaultLanguage : String
  deriving Repr, Inhabited

namespace Localizer

/-- The localizer of the built-in texts. -/
def builtIn (defaultLanguage : String) : Localizer := ⟨builtInResources, defaultLanguage⟩

/-- The language itself, unless it is missing or empty. -/
def given (language : Option String) : Option String := language.filter fun s => !s.isEmpty

/-- The language to use where none is wanted. -/
def languageOr (l : Localizer) (language : Option String) : String :=
  (given language).getD l.defaultLanguage

/-- The text of a key in a language. -/
def lookup? (l : Localizer) (key : String) (language : Option String) : Option String := do
  (← l.resources.lookup (← given language)).lookup key

/-- The text of a key. -/
def localize (l : Localizer) (key : String) (language : Option String) : String :=
  ((l.lookup? key language).or (l.lookup? key (some l.defaultLanguage))).getD key

/-- The name of something. -/
def localizedName (l : Localizer) (named : Named) (language : Option String) : String :=
  match named.localizedNames.member? (l.languageOr language) with
  | some (.text s) => if Text.isBlankText s then named.name.getD "" else s
  | _ => named.name.getD ""

end Localizer

end Rulebook
