import Rulebook.Attribute
import Rulebook.Descriptor.Cache
import Rulebook.ProviderRegistry
import Rulebook.Settings

/-!
# The engine

What lives as long as the program: the provider of a scope with the cache of its descriptors, the
localizer, and the limits. The store is read anew for each piece of work.

The descriptors are loaded when a piece of work first asks for them, and stay cached from then on,
also if the work then fails.
-/

namespace Rulebook

/-- Provides the kinds of conditions of a scope. -/
structure Provider where
  scope : Scope
  load : Store → Result (List Descriptor)

/-- The provider of the product attribute scope. -/
def Provider.attributes (l : Localizer) (language : String) (pageSize : Int) : Provider where
  scope := .productAttribute
  load := fun s => Attribute.loadDescriptors s l language pageSize

/-- What lives as long as the program. -/
structure Engine where
  provider : Provider
  cache : Cache
  localizer : Localizer
  defaultLanguage : String
  maxDepth : Nat
  optionsProviders : Store → List OptionsProvider

namespace Engine

/-- The engine of the product attribute scope, with nothing cached. -/
def attributes (l : Localizer) (defaultLanguage : String) (pageSize : Int) (maxDepth : Nat) :
    Engine where
  provider := .attributes l defaultLanguage pageSize
  cache := .empty
  localizer := l
  defaultLanguage := defaultLanguage
  maxDepth := maxDepth
  optionsProviders := fun s => [VariantOptions.provider s l]

/-- The engine of the settings, with the built-in texts. -/
def ofSettings (s : Settings) : Engine :=
  attributes (.builtIn s.defaultLanguage) s.defaultLanguage s.descriptorPageSize s.maxDepth

/-- The cache and the descriptors after they have been asked for. -/
def load (e : Engine) (s : Store) : Cache × Result Collection :=
  e.cache.getOrLoad e.provider.scope fun _ => e.provider.load s

/-- The descriptors of the scope: the cached ones, or else those in the store. -/
def kinds (e : Engine) (s : Store) : Result Collection := (e.load s).2

/-- The engine after a piece of work that may have asked for the descriptors. -/
def settle (e : Engine) (s : Store) (asked : Bool) : Engine :=
  if asked then { e with cache := (e.load s).1 } else e

/-- Drops the cached descriptors of one scope, or of every scope. -/
def invalidate (e : Engine) (scope : Option Scope) : Engine := { e with cache := e.cache.drop scope }

/-- What rules are read with. -/
def visitor (e : Engine) (s : Store) : Visitor := ⟨e.provider.scope, e.kinds s⟩

/-- What rule sets are compiled with. -/
def compiler (e : Engine) (s : Store) : Compiler := ⟨e.visitor s, s, e.maxDepth⟩

/-- What notes are made with. -/
def annotator (e : Engine) (s : Store) : Annotator :=
  ⟨e.localizer, e.optionsProviders s, e.defaultLanguage⟩

/-- The providers of the engine, of which there is one. -/
def providers (e : Engine) : ProviderRegistry Provider :=
  .ofProviders [(e.provider.scope, e.provider)]

/-- The provider of a scope. -/
def findProvider (e : Engine) (scope : String) : Except RuleError Provider := e.providers.get scope

end Engine

end Rulebook
