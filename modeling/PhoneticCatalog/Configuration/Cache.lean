import PhoneticCatalog.Configuration.Basic

/-!
# The configuration of a process

A process reads its configuration once and keeps it until it is told to forget it. A configuration
is kept as soon as it is read, before it is validated.
-/

namespace PhoneticCatalog

/-- The configuration that a process keeps, if it has one. -/
abbrev ConfigurationCache := Option Configuration

/-- What may be asked of a cache. -/
inductive ConfigurationCall where
  /-- Asks for the configuration, with settings to read it from if there is none. -/
  | obtain (settings? : Option Settings)
  /-- Forgets the configuration. -/
  | forget

namespace ConfigurationCache

/-- The configuration that is kept, or else the one that the settings describe, and the cache
afterwards. -/
def obtain (cache : ConfigurationCache) (settings? : Option Settings) :
    Except ConfigurationError Configuration × ConfigurationCache :=
  match cache, settings? with
  | some c, _ => (.ok c, some c)
  | none, none => (.error .noSettings, none)
  | none, some settings =>
    match Configuration.ofSettings settings with
    | .error e => (.error e, none)
    | .ok c => (c.validate.map fun _ => c, some c)

/-- The cache after a call. -/
def after (cache : ConfigurationCache) : ConfigurationCall → ConfigurationCache
  | .obtain settings? => (cache.obtain settings?).2
  | .forget => none

end ConfigurationCache

end PhoneticCatalog
