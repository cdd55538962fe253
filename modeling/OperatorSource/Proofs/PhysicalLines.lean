import OperatorSource.Proofs.LineRun
import Mathlib.Data.List.Basic

/-!
# Lines as a reader sees them

A reader takes a text apart at its line feeds.  A text that is written as some lines gives them back
if they stay on one line each; where one of them holds line feeds itself, the reader sees its parts.
Behind the last line feed there is always one more line, which is empty.
-/

namespace OperatorSource.LineRun

/-- What stands before, between and behind the line feeds of a text. -/
def physicalLines (text : String) : List String := (text.toList.splitOn '\n').map String.ofList

theorem splitOn_append_of_notMem {stop : Char} {before : List Char} (absent : stop ∉ before)
    (rest : List Char) :
    (before ++ rest).splitOn stop = (rest.splitOn stop).modifyHead (before ++ ·) := by
  induction before with
  | nil => exact (congrFun List.modifyHead_id _).symm
  | cons character before ih =>
      have different : character ≠ stop := fun same => absent (same ▸ List.mem_cons_self)
      have later := ih fun member => absent (List.mem_cons_of_mem character member)
      rw [List.cons_append, List.splitOn_cons_eq_if_modifyHead, if_neg (by simpa using different),
        later, List.modifyHead_modifyHead]
      rfl

/-- What stands before the first line feed of a text shows in the first line alone. -/
theorem physicalLines_append {before : String} (unbroken : IsUnbroken before) (text : String) :
    physicalLines (before ++ text) = (physicalLines text).modifyHead (before ++ ·) := by
  rw [physicalLines, String.toList_append, splitOn_append_of_notMem unbroken, physicalLines]
  cases text.toList.splitOn '\n' with
  | nil => rfl
  | cons first rest => simp [String.ofList_append]

theorem physicalLines_append_lineFeed (first second : String) :
    physicalLines (first ++ "\n" ++ second) = physicalLines first ++ physicalLines second := by
  have spelled : (first ++ "\n" ++ second).toList = first.toList ++ '\n' :: second.toList := by
    simp
  rw [physicalLines, spelled, List.splitOn_append_cons_self, List.map_append]
  rfl

theorem physicalLines_of_isUnbroken {line : String} (unbroken : IsUnbroken line) :
    physicalLines line = [line] := by
  rw [physicalLines, List.splitOn_eq_singleton unbroken, List.map_singleton, String.ofList_toList]

theorem physicalLines_unlines (lines : List String) :
    physicalLines (unlines lines) = lines.flatMap physicalLines ++ [""] := by
  induction lines with
  | nil => rfl
  | cons line rest ih =>
      rw [unlines_cons, physicalLines_append_lineFeed, ih, List.flatMap_cons, List.append_assoc]

theorem flatMap_physicalLines {lines : List String} (unbroken : ∀ line ∈ lines, IsUnbroken line) :
    lines.flatMap physicalLines = lines := by
  induction lines with
  | nil => rfl
  | cons line rest ih =>
      rw [List.forall_mem_cons] at unbroken
      rw [List.flatMap_cons, physicalLines_of_isUnbroken unbroken.1, ih unbroken.2,
        List.singleton_append]

/-- Lines that hold no line feed are read as they are written. -/
theorem physicalLines_unlines_of_isUnbroken {lines : List String}
    (unbroken : ∀ line ∈ lines, IsUnbroken line) :
    physicalLines (unlines lines) = lines ++ [""] := by
  rw [physicalLines_unlines, flatMap_physicalLines unbroken]

end OperatorSource.LineRun
