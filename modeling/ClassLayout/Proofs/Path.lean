import ClassLayout.Identifier
import ClassLayout.Path
import Mathlib.Data.List.Basic

namespace ClassLayout

namespace Text

variable {α : Type} [DecidableEq α] {sep : α} {u : List α}

/-- What stands before the first piece behind a text: the text, and a separator if it is not empty
and ends in none. -/
def lead (sep : α) (t : List α) : List α :=
  if t = [] ∨ t.getLast? = some sep then t else t ++ [sep]

theorem lead_append (hne : u ≠ []) (hsep : sep ∉ u) (t : List α) :
    lead sep (t ++ u) = t ++ u ++ [sep] := by
  refine if_neg (not_or.2 ⟨List.append_ne_nil_of_right_ne_nil t hne, fun hlast => hsep ?_⟩)
  rw [List.getLast?_append_of_ne_nil t hne] at hlast
  exact List.mem_of_getLast? hlast

theorem head?_lead_append (h : (u.head? == some sep) = false) (t : List α) :
    ((lead sep t ++ u).head? == some sep) = (t.head? == some sep) := by
  cases t with
  | nil => exact h
  | cons c rest =>
      unfold lead
      split
      · rfl
      · rfl

end Text

namespace Path

variable {path name : Text}

theorem isAbsolute_of_isSegment (h : IsSegment name) : isAbsolute name = false := by
  obtain ⟨hne, hsep⟩ := h
  cases name with
  | nil => exact absurd rfl hne
  | cons c rest =>
      have hc : c ≠ '/' := fun he => hsep (by simp [he])
      simpa [isAbsolute] using hc

theorem join_eq (path : Text) (h : IsSegment name) :
    join path name = Text.lead '/' path ++ name := by
  simp only [join, isAbsolute_of_isSegment h, Text.lead, Bool.or_eq_true, List.isEmpty_iff,
    beq_iff_eq, if_neg Bool.false_ne_true]
  split
  · rfl
  · rw [List.append_assoc, List.singleton_append]

theorem isAbsolute_join (path : Text) (h : IsSegment name) :
    isAbsolute (join path name) = isAbsolute path := by
  rw [join_eq path h]
  exact Text.head?_lead_append (isAbsolute_of_isSegment h) path

theorem pieces_join (hpath : path ≠ []) (h : IsSegment name) :
    ∃ before, Text.pieces '/' (join path name) = before ++ [name] ∧
      (Text.pieces '/' path = before ∨ Text.pieces '/' path = before ++ [[]]) := by
  rw [join_eq path h, Text.lead]
  split
  · rename_i hends
    obtain ⟨before, rfl⟩ := List.getLast?_eq_some_iff.1 (hends.resolve_left hpath)
    refine ⟨Text.pieces '/' before, ?_, .inr ?_⟩
    · rw [List.append_assoc, List.singleton_append, Text.pieces_append_sep,
        Text.pieces_of_not_mem h.2]
    · rw [Text.pieces_append_sep]
      rfl
  · refine ⟨Text.pieces '/' path, ?_, .inl rfl⟩
    rw [List.append_assoc, List.singleton_append, Text.pieces_append_sep,
      Text.pieces_of_not_mem h.2]

def IsDots (name : Text) : Prop := name = ['.'] ∨ name = ['.', '.']

instance (name : Text) : Decidable (IsDots name) := inferInstanceAs (Decidable (_ ∨ _))

end Path

end ClassLayout
