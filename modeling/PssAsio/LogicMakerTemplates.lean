import PssAsio.LogicMakerCore

/-!
`replace_all_distinct` replaces the occurrences of the text it was called with and no others.
-/

namespace PssAsio.LogicMaker

open TextOccurrences

variable {oldValue newValue : Text}

variable (finished : Text)

theorem findFrom_append (rest : Text) :
    findFrom (finished ++ rest) oldValue finished.length =
      (find oldValue rest).map fun distance => finished.length + distance := by
  rw [findFrom, if_pos (by simp), List.drop_left]

theorem replaceAt_append (before after : Text) :
    replaceAt (finished ++ (before ++ (oldValue ++ after))) (finished.length + before.length)
      oldValue.length newValue = (finished ++ (before ++ newValue)) ++ after := by
  have front : finished.length + before.length = (finished ++ before).length := by simp
  rw [replaceAt, ← List.append_assoc finished, front, List.take_left, List.drop_append,
    Nat.add_sub_cancel_left, List.drop_left, List.drop_of_length_le (by omega)]
  simp

theorem position_after (before : Text) :
    (if newValue.length > 0 then finished.length + before.length + newValue.length
      else finished.length + before.length) = (finished ++ (before ++ newValue)).length := by
  simp only [List.length_append]
  split
  · omega
  · omega

/-- The induction is on the cuts of the text behind the position. -/
theorem replaceLoop_cuts {rest : Text} {pieces : List Text} (cuts : Cuts oldValue rest pieces)
    (finished : Text) (fuel : Nat) (enough : pieces.length ≤ fuel) :
    replaceLoop oldValue newValue fuel (finished ++ rest) finished.length =
      some (finished ++ newValue.intercalate pieces) := by
  induction cuts generalizing finished fuel with
  | last rest absent =>
    obtain ⟨spare, rfl⟩ : ∃ spare, fuel = spare + 1 := Nat.exists_eq_add_one.mpr enough
    simp [replaceLoop, findFrom_append, find_of_absent absent, List.intercalate]
  | cut before after pieces first later ih =>
    simp only [List.length_cons] at enough
    obtain ⟨spare, rfl⟩ : ∃ spare, fuel = spare + 1 := Nat.exists_eq_add_one.mpr (by omega)
    simp only [replaceLoop, findFrom_append, find_of_first first, Option.map_some,
      replaceAt_append, position_after]
    rw [ih (finished ++ (before ++ newValue)) spare (by omega),
      intercalate_cons_of_ne_nil newValue before later.ne_nil]
    simp

theorem replaceAllDistinct_cuts {str : Text} {pieces : List Text} (nonempty : oldValue ≠ [])
    (cuts : Cuts oldValue str pieces) {fuel : Nat} (enough : str.length < fuel) :
    replaceAllDistinct fuel str oldValue newValue = some (newValue.intercalate pieces) := by
  have bound := cuts.length_le nonempty
  exact replaceLoop_cuts cuts [] fuel (by omega)

/-- The result is the original text with the new value between its cuts. -/
theorem replaceAllDistinct_replaces (str oldValue newValue : Text) (nonempty : oldValue ≠ []) :
    ∃ pieces, Cuts oldValue str pieces ∧ (∀ others, Cuts oldValue str others → others = pieces) ∧
      oldValue.intercalate pieces = str ∧
      ∀ fuel > str.length,
        replaceAllDistinct fuel str oldValue newValue = some (newValue.intercalate pieces) := by
  obtain ⟨pieces, cuts⟩ := exists_cuts nonempty str
  exact ⟨pieces, cuts, fun others otherCuts => otherCuts.unique cuts, cuts.intercalate,
    fun fuel enough => replaceAllDistinct_cuts nonempty cuts enough⟩

/-- The new value holds the old one twice and neither copy is touched. -/
theorem doubled_placeholder_replaced :
    text "[x]" ≠ [] ∧
      replaceAllDistinct 20 (text "a[x]b[[x]]") (text "[x]") (text "[x][x]") =
        some (text "a[x][x]b[[x][x]]") := by
  refine ⟨by decide, ?_⟩
  obtain ⟨pieces, cuts, -, -, ends⟩ :=
    replaceAllDistinct_replaces (text "a[x]b[[x]]") (text "[x]") (text "[x][x]") (by decide)
  have known : replaceAllDistinct 11 (text "a[x]b[[x]]") (text "[x]") (text "[x][x]") =
      some (text "a[x][x]b[[x][x]]") := by decide
  rw [ends 20 (by decide), ← ends 11 (by decide), known]

example : replaceAllDistinct 20 (text "[[x]x]") (text "[x]") [] = some (text "[x]") := by decide

/-! The files that are made from a template. -/

inductive Filled : Text → List Replacement → Text → Prop where
  | complete (content : Text) : Filled content [] content
  | replaced (content : Text) (replacement : Replacement) (rest : List Replacement)
      (pieces : List Text) (result : Text) (cuts : Cuts replacement.oldValue content pieces)
      (later : Filled (replacement.newValue.intercalate pieces) rest result) :
      Filled content (replacement :: rest) result

theorem fillTemplate_ends (content : Text) {replacements : List Replacement}
    (nonempty : ∀ replacement ∈ replacements, replacement.oldValue ≠ []) :
    ∃ result bound, Filled content replacements result ∧
      ∀ fuel ≥ bound, fillTemplate fuel content replacements = some result := by
  induction replacements generalizing content with
  | nil => exact ⟨content, 0, .complete content, fun _ _ => rfl⟩
  | cons replacement rest ih =>
    obtain ⟨here, inRest⟩ := List.forall_mem_cons.mp nonempty
    obtain ⟨pieces, cuts⟩ := exists_cuts here content
    obtain ⟨result, bound, later, ends⟩ := ih (replacement.newValue.intercalate pieces) inRest
    refine ⟨result, max bound (content.length + 1),
      .replaced content replacement rest pieces result cuts later, fun fuel large => ?_⟩
    have first : replaceAllDistinct fuel content replacement.oldValue replacement.newValue =
        some (replacement.newValue.intercalate pieces) :=
      replaceAllDistinct_cuts here cuts (by omega)
    simp only [fillTemplate, List.foldlM_cons, first, Option.bind_eq_bind, Option.bind_some]
    exact ends fuel (by omega)

/-- With enough searches: no file if it cannot be opened, and else the template filled. -/
def Made (source : TemplateSource) (replacements : List Replacement)
    (make : Nat → Option (Option Text)) : Prop :=
  ∃ file bound, (∀ fuel ≥ bound, make fuel = some file) ∧
    (source.created = false → file = none) ∧
    (source.created = true → ∃ content, file = some content ∧
      Filled (readTemplateFile source) replacements content)

theorem makeFile_made (source : TemplateSource) {replacements : List Replacement}
    (nonempty : ∀ replacement ∈ replacements, replacement.oldValue ≠ []) :
    Made source replacements fun fuel => makeFile fuel source replacements := by
  cases opened : source.created with
  | false => exact ⟨none, 0, fun _ _ => if_pos opened, fun _ => rfl, by simp [opened]⟩
  | true =>
    obtain ⟨content, bound, filled, ends⟩ :=
      fillTemplate_ends (readTemplateFile source) nonempty
    refine ⟨some content, bound, fun fuel large => ?_, by simp [opened],
      fun _ => ⟨content, rfl, filled⟩⟩
    simp [makeFile, opened, ends fuel large]

/-- Whatever the project and its commands are called and whatever the template holds, the makers of
the four files end. -/
theorem template_files_end (project : PluginProjectInfo) (commandList : List CommandInfo)
    (source : TemplateSource) :
    Made source (commandHReplacements project commandList)
        (fun fuel => makeCommandHFile fuel project commandList source) ∧
      Made source (commandCppReplacements project commandList)
        (fun fuel => makeCommandCppFile fuel project commandList source) ∧
      Made source (logicPluginReplacements project commandList)
        (fun fuel => makeLogicPluginCpp fuel project commandList source) ∧
      Made source (cmakeReplacements project) (fun fuel => makeCmakeFile fuel project source) := by
  refine ⟨makeFile_made source ?_, makeFile_made source ?_, makeFile_made source ?_,
    makeFile_made source ?_⟩
  · simp [commandHReplacements, text]
  · simp [commandCppReplacements, text]
  · simp [logicPluginReplacements, text]
  · simp [cmakeReplacements, text]

end PssAsio.LogicMaker
