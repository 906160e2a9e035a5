import RowConduit.Error

/-!
# Identifiers

A name that may be written into a query: not empty, without the NUL character, and not too long.
Names cannot be bound as parameters, so every name in a query is an identifier first.
-/

namespace RowConduit

namespace Identifier

def fault? (name : String) : Option IdentifierFault :=
  let cs := name.toList
  if cs.isEmpty then some .empty
  else if '\x00' ∈ cs then some (.holdsNul name)
  else if maxIdentifierLength < cs.length then some (.tooLong name)
  else none

end Identifier

structure Identifier where
  name : String
  faultless : Identifier.fault? name = none

namespace Identifier

def of (name : String) : Except IdentifierFault Identifier :=
  match h : fault? name with
  | none => .ok ⟨name, h⟩
  | some fault => .error fault

theorem of_name (id : Identifier) : of id.name = .ok id := by
  unfold of
  split
  · rfl
  · next fault found =>
      have clean := id.faultless
      simp [found] at clean

theorem fault?_eq_none_iff {name : String} :
    fault? name = none ↔
      name.toList ≠ [] ∧ '\x00' ∉ name.toList ∧ name.toList.length ≤ maxIdentifierLength := by
  unfold fault?
  grind

end Identifier

end RowConduit
