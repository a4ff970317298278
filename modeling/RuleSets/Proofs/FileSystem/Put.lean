import RuleSets.FileSystem

/-!
# One entry at a time

`put` gives one location an entry, or none, and leaves everything else alone.  Every operation on a
file is a `put` (`Proofs/FileSystem/Operation`), so that what a program has done to a file system is
read off location by location (`get?_put`) and two file systems are compared by `OrderedMap.ext`.
-/

namespace RuleSets.FileSystem

variable {fs fs' fs'' : FileSystem} {loc l : Location} {e e' : Option Entry}

/-- The file system with an entry, or none, at one location. -/
def put (fs : FileSystem) (loc : Location) : Option Entry → FileSystem
  | some e => fs.insert loc e
  | none => fs.erase loc

theorem get?_put (fs : FileSystem) (loc l : Location) (e : Option Entry) :
    (fs.put loc e).get? l = if loc = l then e else fs.get? l := by
  cases e with
  | none => exact OrderedMap.get?_erase fs loc l
  | some e => exact OrderedMap.get?_insert fs loc l e

@[simp] theorem get?_put_self : (fs.put loc e).get? loc = e := by
  rw [get?_put, if_pos rfl]

theorem get?_put_of_ne (h : l ≠ loc) : (fs.put loc e).get? l = fs.get? l := by
  rw [get?_put, if_neg (Ne.symm h)]

@[simp] theorem put_put : (fs.put loc e).put loc e' = fs.put loc e' := by
  refine OrderedMap.ext fun l => ?_
  simp only [get?_put]
  split <;> rfl

theorem put_eq_self (h : fs.get? loc = e) : fs.put loc e = fs := by
  refine OrderedMap.ext fun l => ?_
  rw [get?_put]
  split
  · rename_i hl; rw [← hl, h]
  · rfl

theorem at?_eq_get? (fs : FileSystem) (h : loc ≠ []) : fs.at? loc = fs.get? loc := by
  cases loc with
  | nil => exact absurd rfl h
  | cons name rest => rfl

theorem at?_put_of_ne (h : l ≠ loc) : (fs.put loc e).at? l = fs.at? l := by
  cases l with
  | nil => rfl
  | cons name rest => exact get?_put_of_ne h

theorem at?_put_self (h : loc ≠ []) : (fs.put loc e).at? loc = e := by
  rw [at?_eq_get? _ h, get?_put_self]

/-! ### The same directories -/

/-- Whether every directory of one file system is one of another. -/
def KeepsDirectories (fs fs' : FileSystem) : Prop :=
  ∀ loc, fs.at? loc = some .directory → fs'.at? loc = some .directory

/-- Whether two file systems have their directories at the same locations. -/
def SameDirectories (fs fs' : FileSystem) : Prop :=
  ∀ loc, fs.at? loc = some .directory ↔ fs'.at? loc = some .directory

namespace SameDirectories

theorem keeps (h : SameDirectories fs fs') : KeepsDirectories fs fs' := fun loc => (h loc).1

theorem trans (h : SameDirectories fs fs') (h' : SameDirectories fs' fs'') :
    SameDirectories fs fs'' := fun loc => (h loc).trans (h' loc)

theorem put (h : fs.at? loc ≠ some .directory) (he : e ≠ some .directory) :
    SameDirectories fs (fs.put loc e) := by
  intro l
  by_cases hl : l = loc
  · subst hl
    have hne : l ≠ [] := fun h' => h (by rw [h']; rfl)
    rw [at?_put_self hne]
    exact ⟨fun h' => absurd h' h, fun h' => absurd h' he⟩
  · rw [at?_put_of_ne hl]

end SameDirectories
end RuleSets.FileSystem
