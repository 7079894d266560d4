import Mathlib.Data.List.Basic

/-!
A journal of work that can be undone back to a named mark. Names may be used again; the newest
mark of a name is meant.
-/

structure Journal (α κ : Type) where
  entries : List α := []
  marks : List (κ × List α) := []

namespace Journal

section Entries

variable {α κ : Type} {j : Journal α κ} {name : κ} {saved : List α}

def write (entry : α) (j : Journal α κ) : Journal α κ := { j with entries := entry :: j.entries }

def mark (name : κ) (j : Journal α κ) : Journal α κ :=
  { j with marks := (name, j.entries) :: j.marks }

/-- The newest mark, and what had been written when it was made. -/
def Marked (j : Journal α κ) (name : κ) (saved : List α) : Prop :=
  ∃ older, j.marks = (name, saved) :: older

theorem marked_mark (name : κ) (j : Journal α κ) : (j.mark name).Marked name j.entries :=
  ⟨j.marks, rfl⟩

theorem Marked.write (h : j.Marked name saved) (entry : α) : (j.write entry).Marked name saved := h

end Entries

section Marks

variable {α κ : Type} [DecidableEq κ] {j : Journal α κ} {name : κ} {saved : List α}

/-- The newest mark of a name, and the marks before it. -/
def since (name : κ) (j : Journal α κ) : List (κ × List α) :=
  j.marks.dropWhile fun mark => mark.1 ≠ name

/-- The mark goes, and so do those that are newer. -/
def release (name : κ) (j : Journal α κ) : Journal α κ := { j with marks := (j.since name).tail }

/-- The mark stays, and what has been written since is undone. -/
def rollbackTo (name : κ) (j : Journal α κ) : Journal α κ :=
  match j.since name with
  | [] => j
  | mark :: older => { entries := mark.2, marks := mark :: older }

theorem Marked.since (h : j.Marked name saved) : j.since name = j.marks := by
  obtain ⟨older, hMarks⟩ := h
  rw [Journal.since, hMarks]
  exact List.dropWhile_cons_of_neg (by simp)

theorem Marked.rollbackTo (h : j.Marked name saved) : (j.rollbackTo name).entries = saved := by
  rw [Journal.rollbackTo, h.since]
  obtain ⟨older, hMarks⟩ := h
  rw [hMarks]

end Marks

end Journal
