import ChatOps.Json.Value

/-!
# Preferences

The argument lists last used with each command of each plugin, the latest first
and no list twice.
-/

set_option autoImplicit false

namespace ChatOps

/-- A list of positional arguments. -/
abbrev ArgumentList := List Json

/-- A plugin's identifier and a command's name. -/
abbrev PreferenceKey := String × String

instance : Ord PreferenceKey := lexOrd

instance : Std.TransOrd PreferenceKey :=
  inferInstanceAs (@Std.TransOrd (String × String) lexOrd)

instance : Std.LawfulEqOrd PreferenceKey :=
  inferInstanceAs (@Std.LawfulEqOrd (String × String) lexOrd)

/-- What is remembered, and how many lists for each command. -/
structure Preferences where
  capacity : Nat
  lists : SortedMap PreferenceKey (List ArgumentList)

namespace Preferences

def empty (capacity : Nat) : Preferences := ⟨capacity, .empty⟩

/-- The lists used with a command, the latest first. -/
def recent (preferences : Preferences) (plugin command : String) :
    List ArgumentList :=
  (preferences.lists.get? (plugin, command)).getD []

/-- A list in front, no other list equal to it, and not too many lists. -/
def remember (capacity : Nat) (args : ArgumentList) (lists : List ArgumentList) :
    List ArgumentList :=
  (args :: lists.filter fun older => !Json.sameItems older args).take capacity

/-- Whether lists are remembered at all, and this one is not empty. -/
def accepts (preferences : Preferences) (args : ArgumentList) : Bool :=
  !args.isEmpty && decide (0 < preferences.capacity)

/-- Remember a list as the latest of a command. -/
def record (preferences : Preferences) (plugin command : String)
    (args : ArgumentList) : Preferences :=
  if preferences.accepts args then
    { preferences with
      lists := preferences.lists.insert (plugin, command)
        (remember preferences.capacity args (preferences.recent plugin command)) }
  else preferences

end Preferences

end ChatOps
