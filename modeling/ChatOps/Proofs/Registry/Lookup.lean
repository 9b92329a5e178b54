import ChatOps.Registry.Tables

/-!
# Finding handlers

A handler that is found stands in the namespace where it was sought
(`find?_of_handler?`).  Outside of the core it stands under the very name, and there a
name is found with and without its slash, the given spelling first.
-/

set_option autoImplicit false

namespace ChatOps

theorem Address.eq_core_of_isCore {address : Address} (core : address.isCore = true) :
    address = .core := by
  cases address with
  | agent id => exact congrArg Address.agent (beq_iff_eq.1 core)
  | domain domain => cases core

namespace Tables

variable {tables : Tables} {address : Address} {name : String} {handler : Handler}

theorem handler?_of_find? (found : Namespaces.find? tables.handlers address name = some handler) :
    tables.handler? address name = some handler := by
  rw [handler?, found]

theorem handler?_of_ordinary (ordinary : address.isCore = false) (name : String) :
    tables.handler? address name = Namespaces.find? tables.handlers address name := by
  rw [handler?]
  cases Namespaces.find? tables.handlers address name with
  | some handler => rfl
  | none => rw [ordinary, if_neg Bool.false_ne_true]

theorem handler?_core_of_free (free : Namespaces.find? tables.handlers .core name = none) :
    tables.handler? .core name = Namespaces.find? tables.handlers .core (respelled name) := by
  rw [handler?, free]
  rfl

theorem find?_of_handler? (found : tables.handler? address name = some handler) :
    ∃ spelled, Namespaces.find? tables.handlers address spelled = some handler := by
  cases exactly : Namespaces.find? tables.handlers address name with
  | some other =>
      rw [handler?_of_find? exactly] at found
      exact ⟨name, by rw [exactly, found]⟩
  | none =>
      cases core : address.isCore with
      | false =>
          rw [handler?_of_ordinary core] at found
          exact ⟨name, found⟩
      | true =>
          rw [handler?, exactly, core] at found
          exact ⟨respelled name, found⟩

end Tables

end ChatOps
