import Lr35902.Text.Fields

/-!
# Fields read back

A text made of parts falls apart into these parts, as long as none of them holds the separator:
parts with separators between them (`fields_append`) and parts with one behind each, the last one
included (`terminated?_flatMap`).
-/

namespace Lr35902.Text

variable {α : Type} [DecidableEq α] {sep : α} {cs : List α}

theorem fields_of_not_mem (h : sep ∉ cs) : fields sep cs = [cs] := by
  induction cs with
  | nil => rfl
  | cons c cs ih =>
    rw [List.mem_cons, not_or] at h
    rw [fields, if_neg (Ne.symm h.1), ih h.2]

theorem fields_append (h : sep ∉ cs) (ds : List α) :
    fields sep (cs ++ sep :: ds) = cs :: fields sep ds := by
  induction cs with
  | nil => exact if_pos rfl
  | cons c cs ih =>
    rw [List.mem_cons, not_or] at h
    rw [List.cons_append, fields, if_neg (Ne.symm h.1), ih h.2]

/-- A text is determined by what it is with a first separator and more behind it. -/
theorem append_cons_inj {ds es fs : List α} (hcs : sep ∉ cs) (hds : sep ∉ ds)
    (h : cs ++ sep :: es = ds ++ sep :: fs) : cs = ds ∧ es = fs := by
  have hfields := congrArg (fields sep) h
  rw [fields_append hcs, fields_append hds, List.cons.injEq] at hfields
  have hrest := congrArg (joinFields sep) hfields.2
  rw [joinFields_fields, joinFields_fields] at hrest
  exact ⟨hfields.1, hrest⟩

/-- The parts of a text in which every part has a separator behind it. -/
def terminated? (sep : α) (cs : List α) : Option (List (List α)) :=
  if (fields sep cs).getLast? = some [] then some (fields sep cs).dropLast else none

theorem terminated?_flatMap {β : Type} {part : β → List α} {xs : List β}
    (h : ∀ x ∈ xs, sep ∉ part x) :
    terminated? sep (xs.flatMap fun x => part x ++ [sep]) = some (xs.map part) := by
  have hfields : fields sep (xs.flatMap fun x => part x ++ [sep]) = xs.map part ++ [[]] := by
    induction xs with
    | nil => rfl
    | cons x xs ih =>
      rw [List.forall_mem_cons] at h
      rw [List.flatMap_cons, List.append_assoc, List.singleton_append, fields_append h.1, ih h.2]
      rfl
  unfold terminated?
  rw [hfields, List.getLast?_concat, if_pos rfl, List.dropLast_concat]

end Lr35902.Text
