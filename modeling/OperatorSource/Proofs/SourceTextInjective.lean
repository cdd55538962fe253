import OperatorSource.Proofs.ClauseLines

/-!
# The text of a source file determines its request

As long as names, tags and headers are made of the characters that belong in them, two requests with
the same text are the same request.  The header lines end at the first empty line, and so do the
clauses of the registration, whatever strings the settings put in between.  The clauses fall into
their kinds, and the rules are read back from the program that their lines hold.
-/

namespace OperatorSource

open LineRun

/-- The texts of the request are made of the characters that belong in names and headers. -/
structure Request.Plain (request : Request) : Prop where
  operator_plain : IsPlainName request.signature.name
  attributes_plain : ∀ declared ∈ request.signature.attributes, IsPlainName declared.name
  inputs_plain : ∀ input ∈ request.signature.inputs,
    IsPlainName input.name ∧ IsPlainName input.typeTag
  outputs_plain : ∀ output ∈ request.signature.outputs,
    IsPlainName output.name ∧ IsPlainName output.typeTag
  class_plain : ∀ kernel ∈ request.kernel, IsPlainName kernel.className
  headers_plain : ∀ kernel ∈ request.kernel, ∀ header ∈ kernel.headers, IsPlainHeader header

namespace FlatSource

/-- The lines of some rules are read back as their program, and the program shows the rules. -/
theorem rulesLines_inj {first second : List ShapeRule}
    (sameLines : rulesLines [] first = rulesLines [] second) : first = second := by
  have readFirst := ShapeProgram.readLines_rulesLines [] first [] []
  have readSecond := ShapeProgram.readLines_rulesLines [] second [] []
  rw [sameLines, readSecond] at readFirst
  have samePrograms := (List.cons.inj (Option.some.inj readFirst)).1
  exact (ShapeProgram.rulesProgram_inj samePrograms).symm

theorem shapeFunctionLines_inj {first second : List ShapeRule}
    (sameLines : shapeFunctionLines first = shapeFunctionLines second) : first = second := by
  unfold shapeFunctionLines at sameLines
  split at sameLines <;> split at sameLines
  · next firstEmpty secondEmpty => rw [firstEmpty, secondEmpty]
  · exact nomatch sameLines
  · exact nomatch sameLines
  · exact rulesLines_inj (List.append_cancel_left (List.append_cancel_right sameLines))

def attributeLines (signature : Signature) : List String :=
  signature.attributes.map fun declared =>
    declarationLine "Attr" declared.name (declaredTag declared.kind)

def inputLines (signature : Signature) : List String :=
  signature.inputs.map fun input => declarationLine "Input" input.name input.typeTag

def outputLines (signature : Signature) : List String :=
  signature.outputs.map fun output => declarationLine "Output" output.name output.typeTag

theorem registrationLines_eq (signature : Signature) (rules : List ShapeRule) :
    registrationLines signature rules =
      endLast (("REGISTER_OP(\"" ++ signature.name ++ "\")") :: (attributeLines signature ++
        (inputLines signature ++ (outputLines signature ++ shapeFunctionLines rules)))) := by
  rw [registrationLines, List.append_assoc, List.append_assoc, List.append_assoc]
  rfl

theorem mark_of_mem_attributeLines {signature : Signature} {line : String}
    (member : line ∈ attributeLines signature) : mark line = some 'A' := by
  obtain ⟨declared, _, rfl⟩ := List.mem_map.mp member
  have spelled : "Attr".toList = 'A' :: ['t', 't', 'r'] := by decide
  exact mark_declarationLine spelled _ _

theorem mark_of_mem_inputLines {signature : Signature} {line : String}
    (member : line ∈ inputLines signature) : mark line = some 'I' := by
  obtain ⟨input, _, rfl⟩ := List.mem_map.mp member
  have spelled : "Input".toList = 'I' :: ['n', 'p', 'u', 't'] := by decide
  exact mark_declarationLine spelled _ _

theorem mark_of_mem_outputLines {signature : Signature} {line : String}
    (member : line ∈ outputLines signature) : mark line = some 'O' := by
  obtain ⟨output, _, rfl⟩ := List.mem_map.mp member
  have spelled : "Output".toList = 'O' :: ['u', 't', 'p', 'u', 't'] := by decide
  exact mark_declarationLine spelled _ _

/-- The clauses after the name fall into their kinds. -/
theorem clauses_inj {first second : Signature} {firstRules secondRules : List ShapeRule}
    (sameLines : attributeLines first ++
        (inputLines first ++ (outputLines first ++ shapeFunctionLines firstRules)) =
      attributeLines second ++
        (inputLines second ++ (outputLines second ++ shapeFunctionLines secondRules))) :
    attributeLines first = attributeLines second ∧ inputLines first = inputLines second ∧
      outputLines first = outputLines second ∧ firstRules = secondRules := by
  have afterOutputs (rules : List ShapeRule) (letter : Char) (isClause : letter ∈ ['A', 'I', 'O'])
      (line : String) (member : line ∈ shapeFunctionLines rules) : mark line ≠ some letter := by
    have unmarked := (filled_and_mark_of_mem_shapeFunctionLines member).2
    intro marked
    rw [marked] at unmarked
    exact unmarked (List.mem_map_of_mem (f := some) isClause)
  have afterInputs (signature : Signature) (rules : List ShapeRule) (line : String)
      (member : line ∈ outputLines signature ++ shapeFunctionLines rules) :
      mark line ≠ some 'I' := by
    rcases List.mem_append.mp member with output | shape
    · simp [mark_of_mem_outputLines output]
    · exact afterOutputs rules 'I' (by simp) line shape
  have afterAttributes (signature : Signature) (rules : List ShapeRule) (line : String)
      (member : line ∈ inputLines signature ++
        (outputLines signature ++ shapeFunctionLines rules)) :
      mark line ≠ some 'A' := by
    rcases List.mem_append.mp member with input | later
    · simp [mark_of_mem_inputLines input]
    rcases List.mem_append.mp later with output | shape
    · simp [mark_of_mem_outputLines output]
    · exact afterOutputs rules 'A' (by simp) line shape
  -- The kinds are split off one after the other, in the order in which they are written.
  obtain ⟨attributes, sameLines⟩ := marked_append_inj
    (fun line member => mark_of_mem_attributeLines member)
    (fun line member => mark_of_mem_attributeLines member)
    (afterAttributes first firstRules) (afterAttributes second secondRules) sameLines
  obtain ⟨inputs, sameLines⟩ := marked_append_inj
    (fun line member => mark_of_mem_inputLines member)
    (fun line member => mark_of_mem_inputLines member)
    (afterInputs first firstRules) (afterInputs second secondRules) sameLines
  obtain ⟨outputs, sameLines⟩ := marked_append_inj
    (fun line member => mark_of_mem_outputLines member)
    (fun line member => mark_of_mem_outputLines member)
    (afterOutputs firstRules 'O' (by simp)) (afterOutputs secondRules 'O' (by simp)) sameLines
  exact ⟨attributes, inputs, outputs, shapeFunctionLines_inj sameLines⟩

theorem registrationLines_inj {first second : Request} {policy : ShapePolicy}
    (firstWellFormed : first.WellFormed policy) (secondWellFormed : second.WellFormed policy)
    (firstPlain : first.Plain) (secondPlain : second.Plain)
    (sameLines : registrationLines first.signature first.shapeRules =
      registrationLines second.signature second.shapeRules) :
    first.signature = second.signature ∧ first.shapeRules = second.shapeRules := by
  rw [registrationLines_eq, registrationLines_eq] at sameLines
  obtain ⟨sameHead, sameClauses⟩ := List.cons.inj
    (endLast_inj (List.cons_ne_nil _ _) (List.cons_ne_nil _ _) sameLines)
  obtain ⟨attributeClauses, inputClauses, outputClauses, rules⟩ := clauses_inj sameClauses
  have name : first.signature.name = second.signature.name :=
    (String.append_right_inj _).mp ((String.append_left_inj _).mp sameHead)
  have attributes := map_declarationLine_inj firstPlain.attributes_plain
    secondPlain.attributes_plain (fun one inFirst other inSecond => attribute_determined
      (firstWellFormed.attributes_known one inFirst)
      (secondWellFormed.attributes_known other inSecond)) attributeClauses
  have inputs := map_declarationLine_inj
    (fun input member => (firstPlain.inputs_plain input member).1)
    (fun input member => (secondPlain.inputs_plain input member).1)
    (fun _ _ _ _ => argument_determined) inputClauses
  have outputs := map_declarationLine_inj
    (fun output member => (firstPlain.outputs_plain output member).1)
    (fun output member => (secondPlain.outputs_plain output member).1)
    (fun _ _ _ _ => argument_determined) outputClauses
  refine ⟨?_, rules⟩
  calc first.signature
      = ⟨first.signature.name, first.signature.attributes, first.signature.inputs,
          first.signature.outputs⟩ := rfl
    _ = second.signature := by rw [name, attributes, inputs, outputs]

/-- The names of a signature, each with the type it is declared with. -/
def signatureTexts (signature : Signature) : List String :=
  signature.name ::
    (signature.attributes.flatMap (fun declared => [declared.name, declaredTag declared.kind]) ++
      (signature.inputs ++ signature.outputs).flatMap fun argument =>
        [argument.name, argument.typeTag])

theorem attribute_mem_signatureTexts {signature : Signature} {declared : AttributeDeclaration}
    (member : declared ∈ signature.attributes) :
    declared.name ∈ signatureTexts signature ∧
      declaredTag declared.kind ∈ signatureTexts signature := by
  have texts : ∀ text ∈ [declared.name, declaredTag declared.kind],
      text ∈ signatureTexts signature := fun text isText =>
    List.mem_cons_of_mem _ (List.mem_append_left _ (List.mem_flatMap_of_mem member isText))
  exact ⟨texts _ (by simp), texts _ (by simp)⟩

theorem argument_mem_signatureTexts {signature : Signature} {argument : Argument}
    (member : argument ∈ signature.inputs ++ signature.outputs) :
    argument.name ∈ signatureTexts signature ∧ argument.typeTag ∈ signatureTexts signature := by
  have texts : ∀ text ∈ [argument.name, argument.typeTag], text ∈ signatureTexts signature :=
    fun text isText =>
      List.mem_cons_of_mem _ (List.mem_append_right _ (List.mem_flatMap_of_mem member isText))
  exact ⟨texts _ (by simp), texts _ (by simp)⟩

/-- The lines of a registration are the name of the operator, what it declares, and the shape
function. -/
theorem forall_mem_registrationLines {property : String → Prop} {signature : Signature}
    {rules : List ShapeRule} (ended : ∀ line, property line → property (line ++ ";"))
    (named : property ("REGISTER_OP(\"" ++ signature.name ++ "\")"))
    (declared : ∀ clause ∈ ["Attr", "Input", "Output"], ∀ name ∈ signatureTexts signature,
      ∀ tag ∈ signatureTexts signature, property (declarationLine clause name tag))
    (shaped : ∀ line ∈ shapeFunctionLines rules, property line) :
    ∀ line ∈ registrationLines signature rules, property line := by
  rw [registrationLines_eq]
  refine forall_mem_endLast ended fun line member => ?_
  simp only [List.mem_cons, List.mem_append, attributeLines, inputLines, outputLines,
    List.mem_map] at member
  rcases member with rfl | ⟨one, inAttributes, rfl⟩ | ⟨one, inInputs, rfl⟩ |
    ⟨one, inOutputs, rfl⟩ | inShape
  · exact named
  · obtain ⟨isName, isTag⟩ := attribute_mem_signatureTexts inAttributes
    exact declared "Attr" (by simp) _ isName _ isTag
  · obtain ⟨isName, isTag⟩ := argument_mem_signatureTexts (List.mem_append_left _ inInputs)
    exact declared "Input" (by simp) _ isName _ isTag
  · obtain ⟨isName, isTag⟩ := argument_mem_signatureTexts (List.mem_append_right _ inOutputs)
    exact declared "Output" (by simp) _ isName _ isTag
  · exact shaped line inShape

theorem isFilled_of_mem_registrationLines {signature : Signature} {rules : List ShapeRule}
    (unbroken : ∀ text ∈ signatureTexts signature, IsUnbroken text) :
    ∀ line ∈ registrationLines signature rules, IsFilled line := by
  have macroName : IsFilled "REGISTER_OP(\"" := by decide
  have clauses : ∀ clause ∈ ["Attr", "Input", "Output"], IsUnbroken clause := by decide
  refine forall_mem_registrationLines (fun line filled => filled.append (by decide)) ?_ ?_
    fun line inShape => (filled_and_mark_of_mem_shapeFunctionLines inShape).1
  · exact (macroName.append (unbroken _ List.mem_cons_self)).append (by decide)
  · intro clause isClause name isName tag isTag
    exact isFilled_declarationLine (clauses clause isClause) (unbroken name isName)
      (unbroken tag isTag)

theorem isUnbroken_declaredTag {declared : AttributeDeclaration} (known : declared.InVocabulary) :
    IsUnbroken (declaredTag declared.kind) := by
  obtain ⟨tag, member, kind⟩ := known
  have unbroken : ∀ tag ∈ TypeTag.vocabulary, IsUnbroken tag := by decide
  rw [kind]
  exact unbroken tag member

theorem isUnbroken_of_mem_signatureTexts {request : Request} {policy : ShapePolicy}
    (wellFormed : request.WellFormed policy) (plain : request.Plain) :
    ∀ text ∈ signatureTexts request.signature, IsUnbroken text := by
  intro text member
  simp only [signatureTexts, List.mem_cons, List.mem_append, List.mem_flatMap, List.not_mem_nil,
    or_false] at member
  rcases member with rfl | ⟨declared, inAttributes, rfl | rfl⟩ |
    ⟨argument, inInputs | inOutputs, isText⟩
  · exact plain.operator_plain.isUnbroken
  · exact (plain.attributes_plain declared inAttributes).isUnbroken
  · exact isUnbroken_declaredTag (wellFormed.attributes_known declared inAttributes)
  · obtain ⟨namePlain, tagPlain⟩ := plain.inputs_plain argument inInputs
    rcases isText with rfl | rfl
    exacts [namePlain.isUnbroken, tagPlain.isUnbroken]
  · obtain ⟨namePlain, tagPlain⟩ := plain.outputs_plain argument inOutputs
    rcases isText with rfl | rfl
    exacts [namePlain.isUnbroken, tagPlain.isUnbroken]

/-- The part of the text after the registration. -/
def kernelSection (operator placeholder : String) (kernel : Option KernelBinding) : List Char :=
  written (kernel.elim [] (kernelLines operator placeholder))

theorem exists_kernelSection_some (operator placeholder : String) (kernel : KernelBinding) :
    ∃ rest, kernelSection operator placeholder (some kernel) =
      '\n' :: ("class ".toList ++ (kernel.className.toList ++ ':' :: rest)) := by
  obtain ⟨later, lines⟩ : ∃ later, kernelLines operator placeholder kernel =
      "" :: ("class " ++ kernel.className ++ ": public OpKernel") :: later := ⟨_, rfl⟩
  refine ⟨" public OpKernel".toList ++ '\n' :: written later, ?_⟩
  rw [kernelSection, Option.elim_some, lines, written_cons, written_cons]
  simp

theorem ends_kernelSection (operator placeholder : String) (kernel : Option KernelBinding) :
    Ends (kernelSection operator placeholder kernel) := by
  cases kernel with
  | none => exact ends_nil
  | some kernel =>
      obtain ⟨rest, spelled⟩ := exists_kernelSection_some operator placeholder kernel
      rw [spelled]
      exact ends_lineFeed _

/-- The section shows whether there is a kernel, and the name of its class. -/
theorem kernelSection_inj {firstOperator secondOperator placeholder : String}
    {first second : Option KernelBinding}
    (firstPlain : ∀ kernel ∈ first, IsPlainName kernel.className)
    (secondPlain : ∀ kernel ∈ second, IsPlainName kernel.className)
    (sameText : kernelSection firstOperator placeholder first =
      kernelSection secondOperator placeholder second) :
    first.map KernelBinding.className = second.map KernelBinding.className := by
  cases first with
  | none =>
      cases second with
      | none => rfl
      | some kernel =>
          obtain ⟨rest, spelled⟩ := exists_kernelSection_some secondOperator placeholder kernel
          rw [spelled] at sameText
          exact nomatch sameText
  | some kernel =>
      obtain ⟨rest, spelled⟩ := exists_kernelSection_some firstOperator placeholder kernel
      rw [spelled] at sameText
      cases second with
      | none => exact nomatch sameText
      | some other =>
          obtain ⟨otherRest, otherSpelled⟩ :=
            exists_kernelSection_some secondOperator placeholder other
          rw [otherSpelled] at sameText
          obtain ⟨sameName, _⟩ := before_inj (firstPlain kernel rfl).no_colon
            (secondPlain other rfl).no_colon (List.append_cancel_left (List.cons.inj sameText).2)
          rw [Option.map_some, Option.map_some, String.toList_inj.mp sameName]

theorem kernel_determined {first second : Option KernelBinding}
    (sameHeaders : first.elim [] KernelBinding.headers = second.elim [] KernelBinding.headers)
    (sameNames : first.map KernelBinding.className = second.map KernelBinding.className) :
    first = second := by
  cases first with
  | none =>
      cases second with
      | none => rfl
      | some other => exact nomatch sameNames
  | some kernel =>
      cases second with
      | none => exact nomatch sameNames
      | some other =>
          obtain ⟨className, device, headers⟩ := kernel
          obtain ⟨otherName, otherDevice, otherHeaders⟩ := other
          cases device
          cases otherDevice
          have sameName : className = otherName := Option.some.inj sameNames
          have sameList : headers = otherHeaders := sameHeaders
          rw [sameName, sameList]

/-- The text is the framework headers, the run of kernel headers, the namespace, the run of the
registration, and the kernel. -/
theorem toList_sourceText_sections (settings : Settings) (request : Request) :
    (sourceText settings request).toList =
      written (settings.frameworkHeaders.map includeLine) ++
        (written ((kernelHeaders request).map includeLine) ++
          ('\n' :: (written ["using namespace " ++ settings.namespaceName ++ ";", ""] ++
            (written (registrationLines request.signature request.shapeRules) ++
              kernelSection request.signature.name settings.placeholder request.kernel)))) := by
  have separated : written ["", "using namespace " ++ settings.namespaceName ++ ";", ""] =
      '\n' :: written ["using namespace " ++ settings.namespaceName ++ ";", ""] := by
    rw [written_cons, String.toList_empty, List.nil_append]
  rw [toList_sourceText, sourceLines, written_append, written_append, written_append,
    written_append, separated, kernelSection]
  simp only [List.append_assoc, List.cons_append]

theorem isFilled_of_mem_kernelIncludes {request : Request} (plain : request.Plain) {line : String}
    (member : line ∈ (kernelHeaders request).map includeLine) : IsFilled line := by
  obtain ⟨header, inHeaders, rfl⟩ := List.mem_map.mp member
  rw [kernelHeaders] at inHeaders
  cases bound : request.kernel with
  | none =>
      rw [bound] at inHeaders
      exact absurd inHeaders List.not_mem_nil
  | some kernel =>
      rw [bound] at inHeaders
      exact isFilled_includeLine (plain.headers_plain kernel bound header inHeaders).isUnbroken

theorem sourceText_inj {settings : Settings} {first second : Request} {policy : ShapePolicy}
    (firstWellFormed : first.WellFormed policy) (secondWellFormed : second.WellFormed policy)
    (firstPlain : first.Plain) (secondPlain : second.Plain)
    (sameText : sourceText settings first = sourceText settings second) : first = second := by
  have sameCharacters := congrArg String.toList sameText
  rw [toList_sourceText_sections, toList_sourceText_sections] at sameCharacters
  obtain ⟨sameIncludes, afterIncludes⟩ := written_append_inj
    (fun line member => isFilled_of_mem_kernelIncludes firstPlain member)
    (fun line member => isFilled_of_mem_kernelIncludes secondPlain member)
    (ends_lineFeed _) (ends_lineFeed _) (List.append_cancel_left sameCharacters)
  obtain ⟨sameRegistration, sameKernels⟩ := written_append_inj
    (isFilled_of_mem_registrationLines
      (isUnbroken_of_mem_signatureTexts firstWellFormed firstPlain))
    (isFilled_of_mem_registrationLines
      (isUnbroken_of_mem_signatureTexts secondWellFormed secondPlain))
    (ends_kernelSection _ _ _) (ends_kernelSection _ _ _)
    (List.append_cancel_left (List.cons.inj afterIncludes).2)
  obtain ⟨signature, rules⟩ := registrationLines_inj firstWellFormed secondWellFormed firstPlain
    secondPlain sameRegistration
  have headers : kernelHeaders first = kernelHeaders second :=
    (List.map_inj_right fun _ _ => includeLine_inj).mp sameIncludes
  have kernel := kernel_determined headers
    (kernelSection_inj firstPlain.class_plain secondPlain.class_plain sameKernels)
  calc first
      = ⟨first.signature, first.shapeRules, first.kernel⟩ := rfl
    _ = second := by rw [signature, rules, kernel]

end FlatSource

/-- Plain requests that give the same text are the same request, whatever the settings. -/
theorem Settings.generate_injective {settings : Settings} {first second : Request} {text : String}
    (firstPlain : first.Plain) (secondPlain : second.Plain)
    (firstGiven : (settings.generate first).result = .ok text)
    (secondGiven : (settings.generate second).result = .ok text) : first = second := by
  obtain ⟨firstWellFormed, firstText⟩ := wellFormed_and_text_of_generate firstGiven
  obtain ⟨secondWellFormed, secondText⟩ := wellFormed_and_text_of_generate secondGiven
  exact FlatSource.sourceText_inj firstWellFormed secondWellFormed firstPlain secondPlain
    (firstText.symm.trans secondText)

/-- A request with every section, in which one output is given a fixed shape twice. -/
def sectionedRequest (headers : List String) : Request where
  signature := {
    name := "Zip_2"
    attributes := [⟨"T", .scalar "float"⟩, ⟨"fast", .scalar "bool"⟩]
    inputs := [⟨"left", "T"⟩, ⟨"right", "float"⟩]
    outputs := [⟨"pairs", "T"⟩, ⟨"count", "int32"⟩] }
  shapeRules := [⟨0, .fixed [2, 12]⟩, ⟨1, .likeInput 1⟩, ⟨0, .fixed []⟩]
  kernel := some { className := "Zip2Op", headers }

theorem generate_injective_sectionedRequest :
    ∃ text,
      (Settings.generate {} (sectionedRequest ["<vector>", "zip/pairs-2.h"])).result = .ok text ∧
      (Settings.generate {} (sectionedRequest (["<vector>"] ++ ["zip/" ++ "pairs-2.h"]))).result =
        .ok text ∧
      sectionedRequest ["<vector>", "zip/pairs-2.h"] =
        sectionedRequest (["<vector>"] ++ ["zip/" ++ "pairs-2.h"]) := by
  have vector : IsPlainHeader "<vector>" :=
    ⟨"vector", List.all_eq_true.mp (by decide), .inr (by decide)⟩
  have pairs : IsPlainHeader "zip/pairs-2.h" :=
    ⟨"zip/pairs-2.h", List.all_eq_true.mp (by decide), .inl rfl⟩
  have plain : (sectionedRequest ["<vector>", "zip/pairs-2.h"]).Plain := {
    operator_plain := by decide
    attributes_plain := by decide
    inputs_plain := by decide
    outputs_plain := by decide
    class_plain := by
      rintro _ ⟨rfl⟩
      decide
    headers_plain := by
      rintro _ ⟨rfl⟩
      exact List.forall_mem_cons.mpr ⟨vector, List.forall_mem_singleton.mpr pairs⟩ }
  have given : (Settings.generate {} (sectionedRequest ["<vector>", "zip/pairs-2.h"])).result =
      .ok (FlatSource.sourceText {} (sectionedRequest ["<vector>", "zip/pairs-2.h"])) := by
    rfl
  exact ⟨_, given, given, Settings.generate_injective plain plain given given⟩

end OperatorSource
