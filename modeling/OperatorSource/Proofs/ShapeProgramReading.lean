import OperatorSource.Proofs.FlatSourceText
import OperatorSource.Proofs.NumberReading
import OperatorSource.Proofs.ShapeProgram
import Mathlib.Data.List.Basic

/-!
# Reading shape functions

A function literal is read back from its lines, one statement a line, with indentation ignored.
Braces alone on a line open and close blocks, so nesting comes from the braces and from nothing
else.  The literal that is generated for some rules reads as the program of those rules.
-/

namespace OperatorSource.ShapeProgram

open NumberReading

def isNameCharacter (character : Char) : Bool := character.isAlphanum || character == '_'

/-- What stands between a beginning and an ending of a text. -/
def between? (opening closing : String) (text : List Char) : Option (List Char) := do
  let rest ← text.dropPrefix? opening.toList
  rest.dropSuffix? closing.toList

def readName (text : List Char) : Option String :=
  if text ≠ [] ∧ text.all isNameCharacter then some (String.ofList text) else none

def readBinding (text : List Char) : Option Statement := do
  let rest ← text.dropPrefix? "auto ".toList
  let name ← readName (rest.takeWhile isNameCharacter)
  let inside ← between? " = c->MakeShape(\x7b" "\x7d);" (rest.dropWhile isNameCharacter)
  return .bind name (← readNumbers inside)

/-- The shape of an input, or else a name. -/
def readValue (text : List Char) : Option Value :=
  match between? "c->input(" ")" text with
  | some index => (readNumber index).map .input
  | none => (readName text).map .named

def readAssignment (text : List Char) : Option Statement := do
  let inside ← between? "c->set_output(" ");" text
  let output ← readNumber (inside.takeWhile Char.isDigit)
  let value ← (inside.dropWhile Char.isDigit).dropPrefix? ", ".toList
  return .assign output (← readValue value)

def readReturn (text : List Char) : Option Statement :=
  if text = "return Status::OK();".toList then some .succeed else none

def readStatement (text : List Char) : Option Statement :=
  readReturn text <|> readBinding text <|> readAssignment text

/-- Reads one more line.  The statements read so far are kept for every open block, the innermost
first. -/
def readLine (opened : List (List Statement)) (line : String) : Option (List (List Statement)) :=
  match line.toList.dropWhile (· = ' '), opened with
  | ['\x7b'], _ => some ([] :: opened)
  | ['\x7d'], body :: outer :: rest => some ((outer ++ [.block body]) :: rest)
  | text, body :: rest => (readStatement text).map fun statement => (body ++ [statement]) :: rest
  | _, [] => none

/-- The program in the body of a function literal. -/
def ofLines? : List String → Option (List Statement)
  | [] => none
  | header :: body =>
      if header = "[](::tensorflow::shape_inference::InferenceContext* c)" then
        match body.foldlM readLine [[]] with
        | some [[.block program]] => some program
        | _ => none
      else none

theorem between?_append (opening closing : String) (inside : List Char) :
    between? opening closing (opening.toList ++ (inside ++ closing.toList)) = some inside := by
  have begun : (opening.toList ++ (inside ++ closing.toList)).dropPrefix? opening.toList =
      some (inside ++ closing.toList) := List.dropPrefix?_append_of_beq _ (by simp)
  rw [between?, begun]
  exact List.dropSuffix?_eq_some_iff.mpr ⟨closing.toList, rfl, by simp⟩

theorem takeWhile_stop {test : Char → Bool} {word : List Char} {stop : Char}
    (inside : ∀ character ∈ word, test character = true) (outside : test stop = false)
    (rest : List Char) : (word ++ stop :: rest).takeWhile test = word := by
  rw [List.takeWhile_append_of_pos inside, List.takeWhile_cons_of_neg (by simp [outside]),
    List.append_nil]

theorem dropWhile_stop {test : Char → Bool} {word : List Char} {stop : Char}
    (inside : ∀ character ∈ word, test character = true) (outside : test stop = false)
    (rest : List Char) : (word ++ stop :: rest).dropWhile test = stop :: rest := by
  rw [List.dropWhile_append_of_pos inside, List.dropWhile_cons_of_neg (by simp [outside])]

theorem isNameCharacter_of_mem_shapeVariable {output : Nat} {character : Char}
    (member : character ∈ (Registration.shapeVariable output).toList) :
    isNameCharacter character = true := by
  rw [Registration.shapeVariable, String.toList_append, List.mem_append] at member
  rcases member with first | digit
  · have isLetter : character = 's' := by simpa using first
    rw [isLetter]
    decide
  · simp [isNameCharacter, Char.isAlphanum, isDigit_of_mem_toString digit]

theorem readName_shapeVariable (output : Nat) :
    readName (Registration.shapeVariable output).toList =
      some (Registration.shapeVariable output) := by
  have nonempty : (Registration.shapeVariable output).toList ≠ [] := by
    simp [Registration.shapeVariable]
  have allowed : (Registration.shapeVariable output).toList.all isNameCharacter = true :=
    List.all_eq_true.mpr fun _ member => isNameCharacter_of_mem_shapeVariable member
  rw [readName, if_pos ⟨nonempty, allowed⟩, String.ofList_toList]

theorem readReturn_cons {character : Char} (other : character ≠ 'r') (rest : List Char) :
    readReturn (character :: rest) = none := by
  rw [readReturn, if_neg]
  intro same
  exact other (List.cons.inj same).1

theorem readBinding_cons {character : Char} (other : character ≠ 'a') (rest : List Char) :
    readBinding (character :: rest) = none := by
  have noPrefix : (character :: rest).dropPrefix? "auto ".toList = none := by
    change (character :: rest).dropPrefix? ('a' :: "uto ".toList) = none
    simp [List.dropPrefix?, other]
  rw [readBinding, noPrefix]
  rfl

theorem readStatement_bindingText (output : Nat) (dimensions : List Nat) :
    readStatement (FlatSource.bindingText output dimensions).toList =
      some (.bind (Registration.shapeVariable output) dimensions) := by
  have spelled : (FlatSource.bindingText output dimensions).toList = "auto ".toList ++
      ((Registration.shapeVariable output).toList ++ ' ' :: ("= c->MakeShape(\x7b".toList ++
        ((", ".intercalate (dimensions.map toString)).toList ++ "\x7d);".toList))) := by
    unfold FlatSource.bindingText Registration.shapeVariable
    simp
  have isName (character : Char) (member : character ∈ (Registration.shapeVariable output).toList) :
      isNameCharacter character = true := isNameCharacter_of_mem_shapeVariable member
  have noReturn (rest : List Char) : readReturn ("auto ".toList ++ rest) = none :=
    readReturn_cons (by decide) _
  have dropped (rest : List Char) : ("auto ".toList ++ rest).dropPrefix? "auto ".toList =
      some rest := List.dropPrefix?_append_of_beq _ (by simp)
  have inside := between?_append " = c->MakeShape(\x7b" "\x7d);"
    (", ".intercalate (dimensions.map toString)).toList
  have blank : isNameCharacter ' ' = false := by decide
  have leading : " = c->MakeShape(\x7b".toList = ' ' :: "= c->MakeShape(\x7b".toList := by simp
  rw [leading, List.cons_append] at inside
  rw [spelled, readStatement, noReturn, readBinding, dropped]
  simp only [Option.bind_eq_bind, Option.bind_some, takeWhile_stop isName blank,
    dropWhile_stop isName blank, readName_shapeVariable, inside, readNumbers_intercalate_toString]
  rfl

/-- An assignment reads back once its value does. -/
theorem readStatement_assignment {output : Nat} {text : List Char} {value : Value}
    (valueRead : readValue text = some value) :
    readStatement ("c->set_output(".toList ++ ((toString output).toList ++
      ", ".toList ++ text ++ ");".toList)) = some (.assign output value) := by
  have isDigit (character : Char) (member : character ∈ (toString output).toList) :
      character.isDigit = true := isDigit_of_mem_toString member
  have noReturn (rest : List Char) : readReturn ("c->set_output(".toList ++ rest) = none :=
    readReturn_cons (by decide) _
  have noBinding (rest : List Char) : readBinding ("c->set_output(".toList ++ rest) = none :=
    readBinding_cons (by decide) _
  have inside := between?_append "c->set_output(" ");"
    ((toString output).toList ++ ", ".toList ++ text)
  have separated : (toString output).toList ++ ", ".toList ++ text =
      (toString output).toList ++ ',' :: ' ' :: text := by
    simp
  have separator : ([',', ' '] == ", ".toList) = true := by decide
  have dropped : (',' :: ' ' :: text).dropPrefix? ", ".toList = some text :=
    List.dropPrefix?_append_of_beq text separator
  have comma : Char.isDigit ',' = false := by decide
  rw [readStatement, noReturn, noBinding, readAssignment, inside, separated]
  simp only [Option.bind_eq_bind, Option.bind_some, takeWhile_stop isDigit comma,
    dropWhile_stop isDigit comma, readNumber_toString, dropped, valueRead]
  rfl

theorem between?_input_cons {character : Char} (other : character ≠ 'c') (rest : List Char) :
    between? "c->input(" ")" (character :: rest) = none := by
  have noPrefix : (character :: rest).dropPrefix? "c->input(".toList = none := by
    change (character :: rest).dropPrefix? ('c' :: "->input(".toList) = none
    simp [List.dropPrefix?, other]
  rw [between?, noPrefix]
  rfl

theorem readValue_shapeVariable (output : Nat) :
    readValue (Registration.shapeVariable output).toList =
      some (.named (Registration.shapeVariable output)) := by
  have spelled : (Registration.shapeVariable output).toList = 's' :: (toString output).toList := by
    simp [Registration.shapeVariable]
  have notInput : between? "c->input(" ")" (Registration.shapeVariable output).toList = none := by
    rw [spelled]
    exact between?_input_cons (by decide) _
  rw [readValue, notInput, readName_shapeVariable]
  rfl

theorem readValue_input (index : Nat) :
    readValue ("c->input(".toList ++ ((toString index).toList ++ ")".toList)) =
      some (.input index) := by
  rw [readValue, between?_append]
  change (readNumber (toString index).toList).map Value.input = _
  rw [readNumber_toString]
  rfl

theorem readStatement_localAssignmentText (output : Nat) :
    readStatement (FlatSource.localAssignmentText output).toList =
      some (.assign output (.named (Registration.shapeVariable output))) := by
  have spelled : (FlatSource.localAssignmentText output).toList = "c->set_output(".toList ++
      ((toString output).toList ++ ", ".toList ++ (Registration.shapeVariable output).toList ++
        ");".toList) := by
    unfold FlatSource.localAssignmentText Registration.shapeVariable
    simp
  rw [spelled]
  exact readStatement_assignment (readValue_shapeVariable output)

theorem readStatement_inputAssignment (output index : Nat) :
    readStatement ("c->set_output(" ++ toString output ++ ", c->input(" ++ toString index ++
      "));").toList = some (.assign output (.input index)) := by
  have spelled : ("c->set_output(" ++ toString output ++ ", c->input(" ++ toString index ++
      "));").toList = "c->set_output(".toList ++ ((toString output).toList ++ ", ".toList ++
        ("c->input(".toList ++ ((toString index).toList ++ ")".toList)) ++ ");".toList) := by
    simp
  rw [spelled]
  exact readStatement_assignment (readValue_input index)

/-- A line that holds a statement adds it to the innermost open block, however it is indented. -/
theorem readLine_statement {line : String} {text : List Char} {statement : Statement}
    (stripped : line.toList.dropWhile (· = ' ') = text)
    (statementRead : readStatement text = some statement) (body : List Statement)
    (outer : List (List Statement)) :
    readLine (body :: outer) line = some ((body ++ [statement]) :: outer) := by
  have notOpening : text ≠ ['\x7b'] := by
    rintro rfl
    exact nomatch statementRead
  have notClosing : text ≠ ['\x7d'] := by
    rintro rfl
    exact nomatch statementRead
  unfold readLine
  rw [stripped]
  split
  · exact absurd rfl notOpening
  · exact absurd rfl notClosing
  · next found =>
      obtain ⟨rfl, rfl⟩ := List.cons.inj found
      rw [statementRead]
      rfl
  · next found => exact nomatch found

/-- The same at both depths of indentation that are written. -/
theorem readLine_indented {line text : String} {character : Char} {rest : List Char}
    {statement : Statement} (indented : line = "  " ++ text ∨ line = "    " ++ text)
    (spelled : text.toList = character :: rest) (notBlank : character ≠ ' ')
    (statementRead : readStatement text.toList = some statement) (body : List Statement)
    (outer : List (List Statement)) :
    readLine (body :: outer) line = some ((body ++ [statement]) :: outer) := by
  have stripped : line.toList.dropWhile (· = ' ') = text.toList := by
    rcases indented with rfl | rfl
    · rw [String.toList_append, spelled]
      simp [notBlank]
    · rw [String.toList_append, spelled]
      simp [notBlank]
  exact readLine_statement stripped statementRead body outer

theorem readLine_bindingText (output : Nat) (dimensions : List Nat) (body : List Statement)
    (outer : List (List Statement)) {line : String}
    (indented : line = "  " ++ FlatSource.bindingText output dimensions ∨
      line = "    " ++ FlatSource.bindingText output dimensions) :
    readLine (body :: outer) line =
      some ((body ++ [.bind (Registration.shapeVariable output) dimensions]) :: outer) := by
  obtain ⟨rest, spelled⟩ :
      ∃ rest, (FlatSource.bindingText output dimensions).toList = 'a' :: rest := by
    unfold FlatSource.bindingText
    simp
  exact readLine_indented indented spelled (by decide) (readStatement_bindingText output dimensions)
    body outer

theorem readLine_localAssignmentText (output : Nat) (body : List Statement)
    (outer : List (List Statement)) {line : String}
    (indented : line = "  " ++ FlatSource.localAssignmentText output ∨
      line = "    " ++ FlatSource.localAssignmentText output) :
    readLine (body :: outer) line =
      some ((body ++ [.assign output (.named (Registration.shapeVariable output))]) :: outer) := by
  obtain ⟨rest, spelled⟩ :
      ∃ rest, (FlatSource.localAssignmentText output).toList = 'c' :: rest := by
    unfold FlatSource.localAssignmentText
    simp
  exact readLine_indented indented spelled (by decide) (readStatement_localAssignmentText output)
    body outer

theorem readLine_inputAssignment (output index : Nat) (body : List Statement)
    (outer : List (List Statement)) :
    readLine (body :: outer) ("  c->set_output(" ++ toString output ++ ", c->input(" ++
        toString index ++ "));") =
      some ((body ++ [.assign output (.input index)]) :: outer) := by
  refine readLine_statement ?_ (readStatement_inputAssignment output index) body outer
  simp

/-- The statements of a fixed rule: its own binding, used at once. -/
def fixedStatements (output : Nat) (dimensions : List Nat) : List Statement :=
  [.bind (Registration.shapeVariable output) dimensions,
    .assign output (.named (Registration.shapeVariable output))]

/-- The program of one rule; a repeated fixed rule is a block. -/
def ruleProgram (repeated : Bool) : ShapeRule → List Statement
  | ⟨output, .likeInput input⟩ => [.assign output (.input input)]
  | ⟨output, .fixed dimensions⟩ =>
      if repeated then [.block (fixedStatements output dimensions)]
      else fixedStatements output dimensions

/-- The program of some rules that come after the rules `earlier`. -/
def rulesProgram (earlier : List ShapeRule) : List ShapeRule → List Statement
  | [] => []
  | rule :: rest =>
      ruleProgram (FlatSource.assignsFixed earlier rule.output) rule ++
        rulesProgram (earlier ++ [rule]) rest

theorem readLines_cons {opened next : List (List Statement)} {line : String}
    (lineRead : readLine opened line = some next) (rest : List String) :
    (line :: rest).foldlM readLine opened = rest.foldlM readLine next := by
  rw [List.foldlM_cons, lineRead]
  rfl

theorem readLines_append {opened next : List (List Statement)} {lines : List String}
    (linesRead : lines.foldlM readLine opened = some next) (rest : List String) :
    (lines ++ rest).foldlM readLine opened = rest.foldlM readLine next := by
  rw [List.foldlM_append, linesRead]
  rfl

theorem readLines_ruleLines (repeated : Bool) (rule : ShapeRule) (body : List Statement)
    (outer : List (List Statement)) :
    (FlatSource.ruleLines repeated rule).foldlM readLine (body :: outer) =
      some ((body ++ ruleProgram repeated rule) :: outer) := by
  obtain ⟨output, shape⟩ := rule
  cases shape with
  | likeInput input => exact readLines_cons (readLine_inputAssignment output input body outer) []
  | fixed dimensions =>
      cases repeated with
      | false =>
          have bound := readLine_bindingText output dimensions body outer (.inl rfl)
          have assigned := readLine_localAssignmentText output
            (body ++ [.bind (Registration.shapeVariable output) dimensions]) outer (.inl rfl)
          rw [FlatSource.ruleLines, if_neg (by decide), readLines_cons bound,
            readLines_cons assigned, List.append_assoc]
          rfl
      | true =>
          have opened : readLine (body :: outer) "  \x7b" = some ([] :: body :: outer) := rfl
          have bound := readLine_bindingText output dimensions [] (body :: outer) (.inr rfl)
          have assigned := readLine_localAssignmentText output
            [.bind (Registration.shapeVariable output) dimensions] (body :: outer) (.inr rfl)
          have closed : readLine (fixedStatements output dimensions :: body :: outer) "  \x7d" =
              some ((body ++ [.block (fixedStatements output dimensions)]) :: outer) := rfl
          rw [FlatSource.ruleLines, if_pos rfl, readLines_cons opened, readLines_cons bound,
            List.nil_append, readLines_cons assigned]
          exact readLines_cons closed []

theorem readLines_rulesLines (earlier rules : List ShapeRule) (body : List Statement)
    (outer : List (List Statement)) :
    (FlatSource.rulesLines earlier rules).foldlM readLine (body :: outer) =
      some ((body ++ rulesProgram earlier rules) :: outer) := by
  induction rules generalizing earlier body with
  | nil => simp [FlatSource.rulesLines, rulesProgram]
  | cons rule rest ih =>
      rw [FlatSource.rulesLines, readLines_append (readLines_ruleLines _ rule body outer), ih,
        rulesProgram, List.append_assoc]

/-- The literal for some rules reads as their program, followed by the return. -/
theorem ofLines?_shapeFunction (rules : List ShapeRule) :
    ofLines? (Registration.shapeFunction rules).lines =
      some (rulesProgram [] rules ++ [.succeed]) := by
  have opened : readLine [[]] "\x7b" = some [[], []] := rfl
  have returned : readLine [rulesProgram [] rules, []] "  return Status::OK();" =
      some [rulesProgram [] rules ++ [.succeed], []] := by
    have stripped : "  return Status::OK();".toList.dropWhile (· = ' ') =
        "return Status::OK();".toList := by decide
    exact readLine_statement stripped rfl _ _
  have closed : readLine [rulesProgram [] rules ++ [.succeed], []] "\x7d" =
      some [[.block (rulesProgram [] rules ++ [.succeed])]] := rfl
  have bodyRead : ("\x7b" :: (FlatSource.rulesLines [] rules ++
      ["  return Status::OK();", "\x7d"])).foldlM readLine [[]] =
        some [[.block (rulesProgram [] rules ++ [.succeed])]] := by
    rw [readLines_cons opened, readLines_append (readLines_rulesLines [] rules [] [[]]),
      List.nil_append, readLines_cons returned]
    exact readLines_cons closed []
  rw [FlatSource.lines_shapeFunction]
  simp only [List.cons_append, List.nil_append, ofLines?, if_true, bodyRead]

theorem shapeVariable_inj {first second : Nat} :
    Registration.shapeVariable first = Registration.shapeVariable second ↔ first = second := by
  rw [Registration.shapeVariable, Registration.shapeVariable, ← toString_inj]
  constructor
  · intro sameName
    exact (String.append_right_inj "s").mp sameName
  · intro sameText
    rw [sameText]

theorem ruleProgram_ne_nil (repeated : Bool) (rule : ShapeRule) :
    ruleProgram repeated rule ≠ [] := by
  obtain ⟨output, shape⟩ := rule
  cases shape with
  | likeInput input => simp [ruleProgram]
  | fixed dimensions => cases repeated <;> simp [ruleProgram,
      fixedStatements]

/-- A rule shows in its first statement: an assignment from an input, a binding, or a block. -/
theorem ruleProgram_append_inj {firstRepeated secondRepeated : Bool} {first second : ShapeRule}
    {rest other : List Statement}
    (samePrograms : ruleProgram firstRepeated first ++ rest =
      ruleProgram secondRepeated second ++ other) :
    first = second ∧ rest = other := by
  obtain ⟨firstOutput, firstShape⟩ := first
  obtain ⟨secondOutput, secondShape⟩ := second
  cases firstShape with
  | likeInput firstInput =>
      cases secondShape with
      | likeInput secondInput => simpa [ruleProgram, and_assoc] using samePrograms
      | fixed secondDimensions =>
          cases secondRepeated <;>
            simp [ruleProgram, fixedStatements] at samePrograms
  | fixed firstDimensions =>
      cases secondShape with
      | likeInput secondInput =>
          cases firstRepeated <;>
            simp [ruleProgram, fixedStatements] at samePrograms
      | fixed secondDimensions =>
          have sameRule : firstOutput = secondOutput ∧ firstDimensions = secondDimensions ∧
              rest = other := by
            cases firstRepeated <;> cases secondRepeated <;>
              simp [ruleProgram, fixedStatements,
                shapeVariable_inj] at samePrograms <;>
              simp_all
          obtain ⟨rfl, rfl, rfl⟩ := sameRule
          exact ⟨rfl, rfl⟩

theorem rulesProgram_inj {earlier first second : List ShapeRule}
    (samePrograms : rulesProgram earlier first =
      rulesProgram earlier second) : first = second := by
  induction first generalizing earlier second with
  | nil =>
      cases second with
      | nil => rfl
      | cons rule second =>
          have empty := (List.append_eq_nil_iff.mp samePrograms.symm).1
          exact absurd empty (ruleProgram_ne_nil _ rule)
  | cons rule first ih =>
      cases second with
      | nil =>
          have empty := (List.append_eq_nil_iff.mp samePrograms).1
          exact absurd empty (ruleProgram_ne_nil _ rule)
      | cons other second =>
          obtain ⟨rfl, sameLater⟩ := ruleProgram_append_inj samePrograms
          rw [ih sameLater]

end OperatorSource.ShapeProgram
