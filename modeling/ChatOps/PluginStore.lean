import ChatOps.Plugin

/-!
# The store of plugins

The plugins that are held, at most one for each identifier in lower case.  A
registration that is refused and a removal of what is not held change nothing and
cause no event.
-/

set_option autoImplicit false

namespace ChatOps

/-- A change in the life of plugins. -/
inductive LifecycleEvent where
  | registered (id : String)
  | unregistered (id : String)
  | initialized
  deriving DecidableEq

/-- The plugins held, by their identifiers in lower case. -/
structure PluginStore where
  plugins : SortedMap String Plugin

namespace PluginStore

def empty : PluginStore := ⟨.empty⟩

/-- What is said when an identifier is taken. -/
def duplicateMessage (id : String) : String := "duplicate plugin identifier: " ++ id

/-- Take in a plugin unless its identifier is taken. -/
def register? (store : PluginStore) (plugin : Plugin) :
    Option (PluginStore × LifecycleEvent) :=
  if store.plugins.contains plugin.key then none
  else some (⟨store.plugins.insert plugin.key plugin⟩, .registered plugin.id)

/-- Remove the plugin with this identifier, if it is held. -/
def unregister? (store : PluginStore) (id : String) :
    Option (PluginStore × LifecycleEvent) :=
  if store.plugins.contains (Text.asciiLower id) then
    some (⟨store.plugins.erase (Text.asciiLower id)⟩, .unregistered id)
  else none

/-- The plugin with this identifier, whatever the case of its letters. -/
def get? (store : PluginStore) (id : String) : Option Plugin :=
  store.plugins.get? (Text.asciiLower id)

/-- Every plugin, in the order of identifiers in lower case. -/
def all (store : PluginStore) : List Plugin := store.plugins.values

/-- The first plugin of a domain. -/
def ofDomain? (store : PluginStore) (domain : Domain) : Option Plugin :=
  store.all.find? fun plugin => plugin.domain == some domain

/-- The plugins that are switched on. -/
def enabled (store : PluginStore) : List Plugin := store.all.filter Plugin.enabled

/-- Change the plugin held with exactly this identifier. -/
def modify (store : PluginStore) (id : String) (change : Plugin → Plugin) :
    PluginStore :=
  ⟨store.plugins.modify (Text.asciiLower id) fun plugin =>
    if plugin.id = id then change plugin else plugin⟩

end PluginStore

end ChatOps
