import KkmModule.Foundation.PageWalk
import Mathlib.Data.Finset.BooleanAlgebra

/-!
# What a walk allows

Every entry on the way of a walk takes part in what may be done with the page
at its end: user code gets in if all of them have their user bit, writes need
all their write bits, and instructions are fetched only if none of them has the
no-execute bit.

`mapping m l t va` is the walk of `va` together with the rights that all entries
on its way grant.  Forgetting the rights gives back the walk.
-/

namespace KkmModule
namespace Foundation

inductive PageRight where
  | user
  | write
  | exec
deriving DecidableEq, Repr

instance : Fintype PageRight where
  elems := {.user, .write, .exec}
  complete := by
    intro right
    cases right <;> decide

/-- The entry grants the right. -/
def PageRight.grantedBy : PageRight → BitVec 64 → Bool
  | .user, e => e.getLsbD 2
  | .write, e => e.getLsbD 1
  | .exec, e => !e.getLsbD 63

def entryRights (e : BitVec 64) : Finset PageRight :=
  {right | right.grantedBy e = true}

@[simp] theorem mem_entryRights {e : BitVec 64} {right : PageRight} :
    right ∈ entryRights e ↔ right.grantedBy e = true := by
  simp [entryRights]

/-- A leaf with what all entries on the way to it grant. -/
structure Mapping where
  leaf : Leaf
  rights : Finset PageRight
deriving DecidableEq

/-- The same leaf below an entry `e`. -/
def Mapping.under (e : BitVec 64) (g : Mapping) : Mapping :=
  { g with rights := entryRights e ∩ g.rights }

/-- Physical address of `va`, given what it is mapped to. -/
def Mapping.pa (g : Mapping) (va : Nat) : Nat :=
  g.leaf.base + va % span g.leaf.level

/-- The walk below an entry `e` of the given level, with the rights. -/
def mapEntry (m : Memory) : Nat → BitVec 64 → Nat → Option Mapping
  | 0, e, _ => if present e then some ⟨⟨e, 0⟩, entryRights e⟩ else none
  | l + 1, e, va =>
      if present e then
        if isLarge (l + 1) e then some ⟨⟨e, l + 1⟩, entryRights e⟩
        else
          (mapEntry m l (m.entry (entryPa e) (tableIndex l va)) va).map
            (Mapping.under e)
      else none

/-- The walk from a table of the given level, with the rights. -/
def mapping (m : Memory) (level table va : Nat) : Option Mapping :=
  mapEntry m level (m.entry table (tableIndex level va)) va

section Rights

variable {m m' : Memory} {l table va va' : Nat} {e : BitVec 64} {g : Mapping}

theorem mapEntry_of_not_present (h : present e = false) :
    mapEntry m l e va = none := by
  cases l <;> simp [mapEntry, h]

theorem mapping_of_not_present
    (h : present (m.entry table (tableIndex l va)) = false) :
    mapping m l table va = none :=
  mapEntry_of_not_present h

/-- The way through an entry that names a table. -/
theorem mapEntry_succ (hp : present e = true) (hlarge : isLarge (l + 1) e = false) :
    mapEntry m (l + 1) e va =
      (mapping m l (entryPa e) va).map (Mapping.under e) := by
  simp [mapEntry, mapping, hp, hlarge]

/-- Below an entry that grants everything the rights are those of the rest. -/
theorem under_of_all (h : entryRights e = Finset.univ) (g : Mapping) :
    g.under e = g := by
  rw [Mapping.under, h, Finset.univ_inter]

theorem mapEntry_of_all
    (hp : present e = true) (hlarge : isLarge (l + 1) e = false)
    (hall : entryRights e = Finset.univ) :
    mapEntry m (l + 1) e va = mapping m l (entryPa e) va := by
  rw [mapEntry_succ hp hlarge, show Mapping.under e = id from
    funext (under_of_all hall), Option.map_id]
  rfl

end Rights

end Foundation
end KkmModule
