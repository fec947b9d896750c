-- SUMMARY: The lines of a report, and the objects that are read from them.
import TwoOfThree.Proofs.Json.Reader
import TwoOfThree.Report

/-!
# Reading reports

A report is cut into its lines at the line feeds, where no line holds one. The
objects of a batch are such lines, and a reader finds the members in them; the
object of a deposit is read from the whole of its lines.
-/

namespace TwoOfThree

namespace JsonObject

theorem read_compact (object : JsonObject) : read object.compact.toList = some object := by
  rw [compact, String.toList_ofList, ← List.append_nil object.compactChars]
  exact object.read_compactChars rfl

theorem read_pretty (object : JsonObject) : read object.pretty.toList = some object := by
  rw [pretty, String.toList_ofList, ← List.append_nil object.prettyChars]
  exact object.read_prettyChars rfl

theorem compact_no_lineFeed (object : JsonObject) : '\n' ∉ object.compact.toList := by
  rw [compact, String.toList_ofList]
  intro hmem
  exact absurd (isRaw_compactChars object '\n' hmem) (by decide)

end JsonObject

namespace Report

theorem toList_text_cons (line : String) (lines : List String) :
    (text (line :: lines)).toList = line.toList ++ '\n' :: (text lines).toList := by
  simp [text]

theorem text_singleton_inj {line line' : String} (h : text [line] = text [line']) :
    line = line' := by
  have hchars := congrArg String.toList h
  rw [toList_text_cons, toList_text_cons] at hchars
  exact String.toList_inj.1 (List.append_cancel_right hchars)

/-- An object is read from a report that consists of its lines. -/
theorem read_text_pretty (object : JsonObject) :
    JsonObject.read (text [object.pretty]).toList = some object := by
  rw [toList_text_cons, JsonObject.pretty, String.toList_ofList]
  exact object.read_prettyChars (by decide)

/-- A report ends in a line feed, so nothing stands behind the last one. -/
theorem splitOn_text {lines : List String} (h : ∀ line ∈ lines, '\n' ∉ line.toList) :
    (text lines).toList.splitOn '\n' = lines.map String.toList ++ [[]] := by
  induction lines with
  | nil => rfl
  | cons line rest ih =>
    rw [toList_text_cons, List.splitOn_append_cons_self_of_not_mem (h line List.mem_cons_self),
      ih fun other hother => h other (List.mem_cons_of_mem _ hother)]
    rfl

/-- A report of objects has one line for each. -/
theorem splitOn_text_compact (objects : List JsonObject) :
    (text (objects.map JsonObject.compact)).toList.splitOn '\n'
      = objects.map (fun object => object.compact.toList) ++ [[]] := by
  have hlines : ∀ line ∈ objects.map JsonObject.compact, '\n' ∉ line.toList := by
    intro line hline
    obtain ⟨other, _, rfl⟩ := List.mem_map.1 hline
    exact other.compact_no_lineFeed
  rw [splitOn_text hlines, List.map_map]
  rfl

/-- The line of a report of objects, and what is read from it. -/
theorem read_line {objects : List JsonObject} {i : Nat} {object : JsonObject}
    (h : objects[i]? = some object) :
    ∃ line, ((text (objects.map JsonObject.compact)).toList.splitOn '\n')[i]? = some line ∧
      JsonObject.read line = some object := by
  have hi : i < objects.length := (List.getElem?_eq_some_iff.1 h).1
  refine ⟨object.compact.toList, ?_, object.read_compact⟩
  rw [splitOn_text_compact, List.getElem?_append_left (by simpa using hi), List.getElem?_map, h]
  rfl

end Report

end TwoOfThree
