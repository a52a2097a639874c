/-!
# Fields

A text as the fields between the occurrences of a separator. There is always one more field than
there are separators, so that writing the fields with separators between them gives the text back.
-/

namespace Lr35902.Text

variable {α : Type} [DecidableEq α]

/-- The fields of a text, be it of characters or of bytes. -/
def fields (sep : α) : List α → List (List α)
  | [] => [[]]
  | c :: cs =>
    if c = sep then [] :: fields sep cs
    else
      match fields sep cs with
      | [] => [[c]]
      | f :: fs => (c :: f) :: fs

theorem fields_ne_nil (sep : α) (cs : List α) : fields sep cs ≠ [] := by
  cases cs with
  | nil => simp [fields]
  | cons c cs =>
    unfold fields
    split
    · simp
    · split <;> simp

/-- Fields with separators between them. -/
def joinFields (sep : α) : List (List α) → List α
  | [] => []
  | [f] => f
  | f :: fs => f ++ sep :: joinFields sep fs

theorem joinFields_fields (sep : α) (cs : List α) : joinFields sep (fields sep cs) = cs := by
  induction cs with
  | nil => rfl
  | cons c cs ih =>
    cases h : fields sep cs with
    | nil => exact absurd h (fields_ne_nil sep cs)
    | cons f fs =>
      rw [h] at ih
      by_cases hc : c = sep
      · simp [fields, hc, h, joinFields, ih]
      · simp only [fields, hc, h, ↓reduceIte]
        cases fs with
        | nil => rw [← ih]; rfl
        | cons g gs => rw [← ih]; rfl

end Lr35902.Text
