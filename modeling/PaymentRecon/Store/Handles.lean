import Mathlib.Tactic

/-!
# Handles that are made and closed

A process makes handles one after the other, and a closed handle stays closed. `Handles` is a table of
them, whatever they are handles of; a fresh handle is open, and no handle is used before it is made.
-/

namespace Store

/-- The handles of a process, numbered in the order in which they are made. -/
structure Handles where
  /-- How many were made. -/
  made : ℕ
  /-- Those that were closed. -/
  closed : List ℕ
  /-- A handle is made before it is closed. -/
  closed_lt : ∀ handle ∈ closed, handle < made

namespace Handles

variable {h : Handles} {handle handle' : ℕ}

/-- No handle was made. -/
def empty : Handles := ⟨0, [], fun _ h => absurd h List.not_mem_nil⟩

/-- Make the handle `h.made`. -/
def make (h : Handles) : Handles :=
  ⟨h.made + 1, h.closed, fun handle hc => (h.closed_lt handle hc).trans (Nat.lt_succ_self _)⟩

/-- Close a handle. To close it twice is to close it once. -/
def close (h : Handles) (handle : ℕ) : Handles :=
  if hmade : handle < h.made then
    ⟨h.made, handle :: h.closed, List.forall_mem_cons.2 ⟨hmade, h.closed_lt⟩⟩
  else h

/-- A handle that was made and not closed. -/
def IsOpen (h : Handles) (handle : ℕ) : Prop := handle < h.made ∧ handle ∉ h.closed

instance : Decidable (h.IsOpen handle) := inferInstanceAs (Decidable (_ ∧ _))

/-- What has been made stays made when it is closed. -/
@[simp] theorem made_close : (h.close handle).made = h.made := by
  unfold close
  split <;> rfl

/-- A fresh handle is open, and the others are what they were. -/
theorem isOpen_make : h.make.IsOpen handle ↔ handle = h.made ∨ h.IsOpen handle := by
  have hfresh : h.made ∉ h.closed := fun hc => lt_irrefl _ (h.closed_lt _ hc)
  constructor
  · rintro ⟨hlt, hc⟩
    rcases Nat.lt_succ_iff_lt_or_eq.1 hlt with hlt | heq
    · exact .inr ⟨hlt, hc⟩
    · exact .inl heq
  · rintro (rfl | ⟨hlt, hc⟩)
    · exact ⟨Nat.lt_succ_self _, hfresh⟩
    · exact ⟨Nat.lt_succ_of_lt hlt, hc⟩

/-- A closed handle is not open, and the others are what they were. -/
theorem isOpen_close : (h.close handle').IsOpen handle ↔ handle ≠ handle' ∧ h.IsOpen handle := by
  unfold close
  split
  case isTrue hmade =>
    simp only [IsOpen, List.mem_cons, not_or]
    tauto
  case isFalse hmade =>
    refine ⟨fun hopen => ⟨?_, hopen⟩, fun hboth => hboth.2⟩
    rintro rfl
    exact hmade hopen.1

end Handles

end Store
