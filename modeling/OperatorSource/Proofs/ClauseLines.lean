import OperatorSource.Proofs.LineRun
import OperatorSource.Proofs.ShapeProgramReading

/-!
# What the lines of a source file show

Every line that is written for a request is filled, as long as the names, tags and headers in it are
made of the characters that belong there.  The kind of a clause shows in its second character, its
name ends at the first colon, and a header shows in its include directive.
-/

namespace OperatorSource

open LineRun

/-- A name of letters, digits and underscores. -/
def IsPlainName (text : String) : Prop :=
  ∀ character ∈ text.toList, ShapeProgram.isNameCharacter character = true

instance (text : String) : Decidable (IsPlainName text) :=
  decidable_of_iff (text.toList.all ShapeProgram.isNameCharacter = true) List.all_eq_true

/-- A character of a header path.  All letters outside ASCII are allowed. -/
def isPathCharacter (character : Char) : Bool :=
  ShapeProgram.isNameCharacter character || character ∈ ['-', '.', '/'] || 128 ≤ character.toNat

/-- A path, or a whole path between angle brackets. -/
def IsPlainHeader (header : String) : Prop :=
  ∃ path : String, (∀ character ∈ path.toList, isPathCharacter character = true) ∧
    (header = path ∨ header = "<" ++ path ++ ">")

theorem IsPlainName.isUnbroken {text : String} (plain : IsPlainName text) : IsUnbroken text :=
  isUnbroken_of_forall (by decide) plain

theorem IsPlainName.no_colon {text : String} (plain : IsPlainName text) : ':' ∉ text.toList :=
  fun member => absurd (plain ':' member) (by decide)

theorem IsPlainHeader.isUnbroken {header : String} (plain : IsPlainHeader header) :
    IsUnbroken header := by
  obtain ⟨path, allowed, rfl | rfl⟩ := plain
  · exact isUnbroken_of_forall (by decide) allowed
  · have unbroken : IsUnbroken path := isUnbroken_of_forall (by decide) allowed
    have opening : IsUnbroken "<" := by decide
    exact (opening.append unbroken).append (by decide)

namespace FlatSource

theorem isFilled_includeLine {header : String} (unbroken : IsUnbroken header) :
    IsFilled (includeLine header) := by
  unfold includeLine
  split
  · have directive : IsFilled "#include " := by decide
    exact directive.append unbroken
  · have directive : IsFilled "#include \"" := by decide
    exact (directive.append unbroken).append (by decide)

theorem isFilled_declarationLine {clause name tag : String} (clauseUnbroken : IsUnbroken clause)
    (nameUnbroken : IsUnbroken name) (tagUnbroken : IsUnbroken tag) :
    IsFilled (declarationLine clause name tag) := by
  have dot : IsFilled "." := by decide
  unfold declarationLine
  exact (((((dot.append clauseUnbroken).append (by decide)).append nameUnbroken).append
    (by decide)).append tagUnbroken).append (by decide)

theorem isUnbroken_dimensions (dimensions : List Nat) :
    IsUnbroken (", ".intercalate (dimensions.map toString)) := by
  have separator : IsUnbroken ", " := by decide
  apply separator.intercalate
  rw [List.forall_mem_map]
  exact fun dimension _ => isUnbroken_toString dimension

theorem isUnbroken_bindingText (output : Nat) (dimensions : List Nat) :
    IsUnbroken (bindingText output dimensions) := by
  have binder : IsUnbroken "auto s" := by decide
  unfold bindingText
  exact (((binder.append (isUnbroken_toString output)).append (by decide)).append
    (isUnbroken_dimensions dimensions)).append (by decide)

theorem isUnbroken_localAssignmentText (output : Nat) :
    IsUnbroken (localAssignmentText output) := by
  have callee : IsUnbroken "c->set_output(" := by decide
  unfold localAssignmentText
  exact (((callee.append (isUnbroken_toString output)).append (by decide)).append
    (isUnbroken_toString output)).append (by decide)

/-- The line is indented and stays on one line. -/
def IsIndented (line : String) : Prop := ∃ text, IsUnbroken text ∧ line = "  " ++ text

theorem isIndented_of_twice {text : String} (unbroken : IsUnbroken text) :
    IsIndented ("    " ++ text) := by
  have indentation : IsUnbroken "  " := by decide
  refine ⟨"  " ++ text, indentation.append unbroken, ?_⟩
  rw [← String.append_assoc]
  rfl

theorem isIndented_of_mem_ruleLines {repeated : Bool} {rule : ShapeRule} {line : String}
    (member : line ∈ ruleLines repeated rule) : IsIndented line := by
  obtain ⟨output, shape⟩ := rule
  cases shape with
  | likeInput input =>
      have callee : IsUnbroken "c->set_output(" := by decide
      rw [ruleLines, List.mem_singleton] at member
      refine ⟨"c->set_output(" ++ toString output ++ ", c->input(" ++ toString input ++ "));",
        (((callee.append (isUnbroken_toString output)).append (by decide)).append
          (isUnbroken_toString input)).append (by decide), ?_⟩
      rw [member]
      apply String.toList_injective
      simp
  | fixed dimensions =>
      cases repeated with
      | false =>
          rw [ruleLines, if_neg (by decide), List.mem_cons, List.mem_singleton] at member
          rcases member with rfl | rfl
          · exact ⟨_, isUnbroken_bindingText output dimensions, rfl⟩
          · exact ⟨_, isUnbroken_localAssignmentText output, rfl⟩
      | true =>
          rw [ruleLines, if_pos rfl, List.mem_cons, List.mem_cons, List.mem_cons,
            List.mem_singleton] at member
          rcases member with rfl | rfl | rfl | rfl
          · exact ⟨"\x7b", by decide, rfl⟩
          · exact isIndented_of_twice (isUnbroken_bindingText output dimensions)
          · exact isIndented_of_twice (isUnbroken_localAssignmentText output)
          · exact ⟨"\x7d", by decide, rfl⟩

/-- The lines of some rules are the lines of each of them. -/
theorem exists_mem_ruleLines {earlier rules : List ShapeRule} {line : String}
    (member : line ∈ rulesLines earlier rules) :
    ∃ repeated, ∃ rule ∈ rules, line ∈ ruleLines repeated rule := by
  induction rules generalizing earlier with
  | nil => exact nomatch member
  | cons rule rest ih =>
      rw [rulesLines, List.mem_append] at member
      rcases member with here | later
      · exact ⟨_, rule, List.mem_cons_self, here⟩
      · obtain ⟨repeated, other, inRest, inLines⟩ := ih later
        exact ⟨repeated, other, List.mem_cons_of_mem rule inRest, inLines⟩

theorem isIndented_of_mem_rulesLines {earlier rules : List ShapeRule} {line : String}
    (member : line ∈ rulesLines earlier rules) : IsIndented line := by
  obtain ⟨repeated, rule, _, inLines⟩ := exists_mem_ruleLines member
  exact isIndented_of_mem_ruleLines inLines

/-- The second character of a line.  It differs between the kinds of clauses. -/
def mark (line : String) : Option Char := line.toList[1]?

theorem mark_declarationLine {clause : String} {letter : Char} {letters : List Char}
    (spelled : clause.toList = letter :: letters) (name tag : String) :
    mark (declarationLine clause name tag) = some letter := by
  unfold declarationLine mark
  simp [spelled]

theorem IsIndented.isFilled {line : String} (indented : IsIndented line) : IsFilled line := by
  obtain ⟨text, unbroken, rfl⟩ := indented
  have indentation : IsFilled "  " := by decide
  exact indentation.append unbroken

theorem IsIndented.mark_eq {line : String} (indented : IsIndented line) :
    mark line = some ' ' := by
  obtain ⟨text, _, rfl⟩ := indented
  simp [mark]

/-- The lines of a shape function are filled, and none is taken for another clause. -/
theorem filled_and_mark_of_mem_shapeFunctionLines {rules : List ShapeRule} {line : String}
    (member : line ∈ shapeFunctionLines rules) :
    IsFilled line ∧ mark line ∉ [some 'A', some 'I', some 'O'] := by
  rw [shapeFunctionLines] at member
  split at member
  · exact nomatch member
  · simp only [List.mem_append, List.mem_cons, List.not_mem_nil, or_false] at member
    rcases member with ((rfl | rfl) | inRules) | rfl | rfl
    · decide
    · decide
    · have indented := isIndented_of_mem_rulesLines inRules
      rw [indented.mark_eq]
      exact ⟨indented.isFilled, by decide⟩
    · decide
    · decide

/-- Lines with one mark can be told from the lines after them, which have other marks. -/
theorem marked_append_inj {letter : Char} {first second rest other : List String}
    (firstMarked : ∀ line ∈ first, mark line = some letter)
    (secondMarked : ∀ line ∈ second, mark line = some letter)
    (restUnmarked : ∀ line ∈ rest, mark line ≠ some letter)
    (otherUnmarked : ∀ line ∈ other, mark line ≠ some letter)
    (sameLines : first ++ rest = second ++ other) : first = second ∧ rest = other := by
  have marked (lines after : List String) (inLines : ∀ line ∈ lines, mark line = some letter)
      (inAfter : ∀ line ∈ after, mark line ≠ some letter) :
      (lines ++ after).filter (mark · = some letter) = lines := by
    rw [List.filter_append, List.filter_eq_self.mpr (by simpa using inLines),
      List.filter_eq_nil_iff.mpr (by simpa using inAfter), List.append_nil]
  -- Filtering by the mark leaves exactly the first part on both sides.
  have sameFirst : first = second := by
    rw [← marked first rest firstMarked restUnmarked, sameLines,
      marked second other secondMarked otherUnmarked]
  subst sameFirst
  exact ⟨rfl, List.append_cancel_left sameLines⟩

/-! ## Lines that determine what they are about -/

theorem includeLine_inj {first second : String}
    (sameLine : includeLine first = includeLine second) : first = second := by
  have quoted (path header : String) : "#include " ++ ("<" ++ path ++ ">") ≠
      "#include \"" ++ header ++ "\"" := by
    intro same
    have characters := congrArg String.toList same
    simp at characters
  unfold includeLine at sameLine
  split at sameLine <;> split at sameLine
  · exact (String.append_right_inj _).mp sameLine
  · next bracketed _ =>
      obtain ⟨path, rfl⟩ := bracketed
      exact absurd sameLine (quoted path second)
  · next bracketed =>
      obtain ⟨path, rfl⟩ := bracketed
      exact absurd sameLine.symm (quoted path first)
  · exact (String.append_right_inj _).mp ((String.append_left_inj _).mp sameLine)

/-- A name without a colon ends at the first one, and the tag is the rest. -/
theorem declarationLine_inj {clause firstName secondName firstTag secondTag : String}
    (firstPlain : IsPlainName firstName) (secondPlain : IsPlainName secondName)
    (sameLine : declarationLine clause firstName firstTag =
      declarationLine clause secondName secondTag) :
    firstName = secondName ∧ firstTag = secondTag := by
  have spelled (name tag : String) : (declarationLine clause name tag).toList =
      ("." ++ clause ++ "(\"").toList ++
        (name.toList ++ ':' :: (' ' :: (tag.toList ++ "\")".toList))) := by
    unfold declarationLine
    simp
  have sameText := congrArg String.toList sameLine
  rw [spelled, spelled] at sameText
  obtain ⟨sameName, sameLater⟩ := before_inj firstPlain.no_colon secondPlain.no_colon
    (List.append_cancel_left sameText)
  exact ⟨String.toList_inj.mp sameName,
    String.toList_inj.mp (List.append_cancel_right (List.cons.inj sameLater).2)⟩

/-- Clauses of one kind determine what they declare, as far as its name and its tag do. -/
theorem map_declarationLine_inj {α : Type} {clause : String} {name tag : α → String}
    {first second : List α} (firstPlain : ∀ one ∈ first, IsPlainName (name one))
    (secondPlain : ∀ one ∈ second, IsPlainName (name one))
    (determined : ∀ one ∈ first, ∀ other ∈ second, name one = name other → tag one = tag other →
      one = other)
    (sameLines : first.map (fun one => declarationLine clause (name one) (tag one)) =
      second.map fun one => declarationLine clause (name one) (tag one)) :
    first = second := by
  induction first generalizing second with
  | nil => exact (List.map_eq_nil_iff.mp sameLines.symm).symm
  | cons one first ih =>
      obtain ⟨other, later, rfl, sameLine, sameLater⟩ := List.map_eq_cons_iff.mp sameLines.symm
      rw [List.forall_mem_cons] at firstPlain secondPlain
      obtain ⟨sameName, sameTag⟩ := declarationLine_inj firstPlain.1 secondPlain.1 sameLine.symm
      have sameHead : one = other :=
        determined one List.mem_cons_self other List.mem_cons_self sameName sameTag
      have sameTail : first = later :=
        ih firstPlain.2 secondPlain.2 (fun one inFirst other inLater =>
          determined one (List.mem_cons_of_mem _ inFirst) other (List.mem_cons_of_mem _ inLater))
          sameLater.symm
      rw [sameHead, sameTail]

/-- Composite kinds are ruled out, since their keywords could be read as tags. -/
theorem attribute_determined {first second : AttributeDeclaration} (firstKnown : first.InVocabulary)
    (secondKnown : second.InVocabulary) (sameName : first.name = second.name)
    (sameTag : declaredTag first.kind = declaredTag second.kind) : first = second := by
  obtain ⟨firstTag, _, firstKind⟩ := firstKnown
  obtain ⟨secondTag, _, secondKind⟩ := secondKnown
  cases first
  cases second
  subst firstKind secondKind sameName
  exact congrArg (fun tag => AttributeDeclaration.mk _ (.scalar tag)) sameTag

theorem argument_determined {first second : Argument} (sameName : first.name = second.name)
    (sameTag : first.typeTag = second.typeTag) : first = second := by
  cases first
  cases second
  subst sameName sameTag
  rfl

theorem endLast_concat (lines : List String) (last : String) :
    endLast (lines ++ [last]) = lines ++ [last ++ ";"] := by
  induction lines with
  | nil => rfl
  | cons line rest ih =>
      cases rest with
      | nil => rfl
      | cons next rest =>
          rw [List.cons_append, List.cons_append, endLast, ← List.cons_append, ih]
          rfl

theorem endLast_inj {first second : List String} (firstSome : first ≠ []) (secondSome : second ≠ [])
    (sameLines : endLast first = endLast second) : first = second := by
  rw [← List.dropLast_concat_getLast firstSome, ← List.dropLast_concat_getLast secondSome] at *
  rw [endLast_concat, endLast_concat] at sameLines
  obtain ⟨sameInit, sameLast⟩ := List.append_inj' sameLines rfl
  rw [sameInit, (String.append_left_inj ";").mp (List.cons.inj sameLast).1]

/-- Ending the last of some lines leaves all of them what they are, if it leaves each. -/
theorem forall_mem_endLast {property : String → Prop} {lines : List String}
    (ended : ∀ line, property line → property (line ++ ";"))
    (each : ∀ line ∈ lines, property line) : ∀ line ∈ endLast lines, property line := by
  intro line member
  rcases List.eq_nil_or_concat lines with rfl | ⟨init, last, rfl⟩
  · exact nomatch member
  · rw [List.concat_eq_append] at each member
    rw [endLast_concat, List.mem_append, List.mem_singleton] at member
    rcases member with inInit | rfl
    · exact each line (List.mem_append_left [last] inInit)
    · exact ended last (each last (by simp))

end FlatSource

end OperatorSource
