import OperatorSource.Generation
import OperatorSource.Proofs.FragmentLines
import OperatorSource.Proofs.RequestAcceptance

/-!
# The text of a source file, line by line

A source file is built as a nested tree of fragments, whose lines are spliced, dotted, ended and
indented on the way up.  This file writes the same text down flat: a plain list of lines for every
section, with indentation and punctuation spelled out, and no fragment anywhere.  Generating gives
exactly this text for every request that is accepted, and no text for any other.
-/

namespace OperatorSource

namespace FlatSource

/-- The header is written in angle brackets. -/
def IsBracketed (header : String) : Prop := ∃ path, header = "<" ++ path ++ ">"

/-- The brackets of a header in terms of its first and last characters. -/
theorem isBracketed_iff {header : String} :
    IsBracketed header ↔
      2 ≤ header.length ∧ header.toList.head? = some '<' ∧ header.toList.getLast? = some '>' := by
  constructor
  · rintro ⟨path, rfl⟩
    have spelled : ("<" ++ path ++ ">").toList = '<' :: path.toList ++ ['>'] := by simp
    rw [← String.length_toList, spelled]
    exact ⟨by simp, rfl, List.getLast?_concat⟩
  · rintro ⟨long, opens, closes⟩
    obtain ⟨rest, spelled⟩ := List.head?_eq_some_iff.mp opens
    rw [← String.length_toList, spelled, List.length_cons] at long
    have notEmpty : rest ≠ [] := List.ne_nil_of_length_pos (by omega)
    rw [spelled, List.getLast?_cons_of_ne_nil notEmpty] at closes
    refine ⟨String.ofList rest.dropLast, ?_⟩
    rw [← String.toList_inj, spelled]
    simp [List.dropLast_append_getLast? '>' closes]

instance (header : String) : Decidable (IsBracketed header) :=
  decidable_of_iff _ isBracketed_iff.symm

/-- The include directive of a header.  A header in angle brackets keeps them; any other is put
between double quotes. -/
def includeLine (header : String) : String :=
  if IsBracketed header then "#include " ++ header else "#include \"" ++ header ++ "\""

def declarationLine (clause name tag : String) : String :=
  "." ++ clause ++ "(\"" ++ name ++ ": " ++ tag ++ "\")"

/-- The type an attribute is declared with. -/
def declaredTag : AttributeKind → String
  | .scalar tag => tag
  | .composite kind => kind.keyword

def bindingText (output : Nat) (dimensions : List Nat) : String :=
  "auto s" ++ toString output ++ " = c->MakeShape(\x7b" ++
    ", ".intercalate (dimensions.map toString) ++ "\x7d);"

def localAssignmentText (output : Nat) : String :=
  "c->set_output(" ++ toString output ++ ", s" ++ toString output ++ ");"

/-- The lines of one rule.  A repeated fixed rule stands in a block of its own. -/
def ruleLines (repeated : Bool) : ShapeRule → List String
  | ⟨output, .likeInput input⟩ =>
      ["  c->set_output(" ++ toString output ++ ", c->input(" ++ toString input ++ "));"]
  | ⟨output, .fixed dimensions⟩ =>
      if repeated then
        ["  \x7b", "    " ++ bindingText output dimensions, "    " ++ localAssignmentText output,
          "  \x7d"]
      else ["  " ++ bindingText output dimensions, "  " ++ localAssignmentText output]

/-- Some rule gives the output a fixed shape. -/
def assignsFixed (rules : List ShapeRule) (output : Nat) : Bool :=
  rules.any fun
    | ⟨other, .fixed _⟩ => other == output
    | ⟨_, .likeInput _⟩ => false

/-- The lines of some rules that come after the rules `earlier`. -/
def rulesLines (earlier : List ShapeRule) : List ShapeRule → List String
  | [] => []
  | rule :: rest =>
      ruleLines (assignsFixed earlier rule.output) rule ++ rulesLines (earlier ++ [rule]) rest

def shapeFunctionLines (rules : List ShapeRule) : List String :=
  if rules = [] then []
  else
    [".SetShapeFn([](::tensorflow::shape_inference::InferenceContext* c)", "\x7b"] ++
      rulesLines [] rules ++ ["  return Status::OK();", "\x7d)"]

/-- Puts a semicolon behind the last of some lines. -/
def endLast : List String → List String
  | [] => []
  | [last] => [last ++ ";"]
  | line :: next :: rest => line :: endLast (next :: rest)

def registrationLines (signature : Signature) (rules : List ShapeRule) : List String :=
  endLast (["REGISTER_OP(\"" ++ signature.name ++ "\")"] ++
    signature.attributes.map (fun declared =>
      declarationLine "Attr" declared.name (declaredTag declared.kind)) ++
    signature.inputs.map (fun input => declarationLine "Input" input.name input.typeTag) ++
    signature.outputs.map (fun output => declarationLine "Output" output.name output.typeTag) ++
    shapeFunctionLines rules)

def kernelLines (operator placeholder : String) (kernel : KernelBinding) : List String :=
  ["",
    "class " ++ kernel.className ++ ": public OpKernel",
    "\x7b",
    "  public:",
    "  explicit " ++ kernel.className ++ "(OpKernelConstruction* context) : OpKernel(context)",
    "  \x7b",
    "  \x7d",
    "",
    "  void Compute(OpKernelContext* context) override",
    "  \x7b",
    "    // " ++ placeholder,
    "  \x7d",
    "\x7d;",
    "",
    "REGISTER_KERNEL_BUILDER(Name(\"" ++ operator ++ "\").Device(DEVICE_CPU), " ++
      kernel.className ++ ");"]

def kernelHeaders (request : Request) : List String :=
  request.kernel.elim [] KernelBinding.headers

/-- All lines of the source file of a request. -/
def sourceLines (settings : Settings) (request : Request) : List String :=
  settings.frameworkHeaders.map includeLine ++ (kernelHeaders request).map includeLine ++
    ["", "using namespace " ++ settings.namespaceName ++ ";", ""] ++
    registrationLines request.signature request.shapeRules ++
    request.kernel.elim [] (kernelLines request.signature.name settings.placeholder)

/-- The whole text: every line followed by a line feed. -/
def sourceText (settings : Settings) (request : Request) : String :=
  String.join ((sourceLines settings request).map fun line => line ++ "\n")

theorem bracketed?_eq_some_iff {header path : String} :
    bracketed? header = some path ↔ header = "<" ++ path ++ ">" := by
  constructor
  · intro found
    unfold bracketed? at found
    split at found
    · next rest spelled =>
        obtain ⟨closes, path_eq⟩ := Option.ite_none_right_eq_some.mp found
        rw [← Option.some.inj path_eq, ← String.toList_inj, spelled]
        simp [List.dropLast_append_getLast? '>' closes]
    · cases found
  · rintro rfl
    have spelled : ("<" ++ path ++ ">").toList = '<' :: (path.toList ++ ['>']) := by simp
    simp [bracketed?, spelled]

theorem lines_headerInclude (header : String) :
    (headerInclude header).lines = [includeLine header] := by
  rw [headerInclude, includeLine]
  cases found : bracketed? header with
  | some path =>
      have header_eq := bracketed?_eq_some_iff.mp found
      have directive : "#include <" ++ path ++ ">" = "#include " ++ header := by
        rw [header_eq, ← String.toList_inj]
        simp
      rw [if_pos ⟨path, header_eq⟩, ← directive]
      rfl
  | none =>
      have unbracketed : ¬ IsBracketed header := by
        rintro ⟨path, header_eq⟩
        rw [bracketed?_eq_some_iff.mpr header_eq] at found
        cases found
      rw [if_neg unbracketed]
      rfl

theorem lines_fixedShapeStatements (output : Nat) (dimensions : List Nat) :
    (Registration.fixedShapeStatements output dimensions).flatMap Fragment.lines =
      [bindingText output dimensions, localAssignmentText output] := by
  have binding : "auto " ++ Registration.shapeVariable output ++ " = " ++
      ("c->MakeShape(" ++ Registration.dimensionList dimensions ++ ")") ++ ";" =
        bindingText output dimensions := by
    unfold bindingText
    apply String.toList_injective
    simp [Registration.shapeVariable, Registration.dimensionList]
  have assigned : "c->set_output(" ++ toString output ++ ", " ++
      Registration.shapeVariable output ++ ")" ++ ";" = localAssignmentText output := by
    unfold localAssignmentText
    apply String.toList_injective
    simp [Registration.shapeVariable]
  simp only [Registration.fixedShapeStatements, List.flatMap_cons, List.flatMap_nil,
    Fragment.lines_lineStatement, Fragment.lines, List.singleton_append, List.append_nil]
  exact congrArg₂ (fun first second => [first, second]) binding assigned

theorem lines_inputShapeStatement (output input : Nat) :
    (Registration.inputShapeStatement output input).lines =
      ["c->set_output(" ++ toString output ++ ", c->input(" ++ toString input ++ "));"] := by
  simp [Registration.inputShapeStatement, Fragment.lines_lineStatement, ← String.toList_inj]

theorem map_indent_fixedShapeStatements (output : Nat) (dimensions : List Nat) :
    ((Registration.fixedShapeStatements output dimensions).flatMap Fragment.lines).map
        Fragment.indent =
      ["  " ++ bindingText output dimensions, "  " ++ localAssignmentText output] := by
  have binding : bindingText output dimensions ≠ "" := by
    unfold bindingText
    simp
  have assigned : localAssignmentText output ≠ "" := by
    unfold localAssignmentText
    simp
  rw [lines_fixedShapeStatements, List.map_cons, List.map_singleton,
    Fragment.indent_of_ne_empty binding, Fragment.indent_of_ne_empty assigned]

theorem map_indent_block (output : Nat) (dimensions : List Nat) :
    (Fragment.block none (Registration.fixedShapeStatements output dimensions)).lines.map
        Fragment.indent =
      ruleLines true ⟨output, .fixed dimensions⟩ := by
  have twice (line : String) : Fragment.indent ("  " ++ line) = "    " ++ line := by
    rw [Fragment.indent_of_ne_empty (by simp), ← String.append_assoc]
    rfl
  rw [Fragment.lines_block, map_indent_fixedShapeStatements]
  simp only [Option.toList_none, List.nil_append, List.cons_append, List.map_cons, List.map_nil,
    twice]
  rfl

theorem map_indent_inputShapeStatement (output input : Nat) :
    (Registration.inputShapeStatement output input).lines.map Fragment.indent =
      ruleLines false ⟨output, .likeInput input⟩ := by
  rw [lines_inputShapeStatement, List.map_singleton, Fragment.indent_of_ne_empty (by simp),
    ruleLines, ← String.append_assoc, ← String.append_assoc, ← String.append_assoc,
    ← String.append_assoc]
  rfl

theorem assignsFixed_concat_fixed (earlier : List ShapeRule) (output : Nat)
    (dimensions : List Nat) (other : Nat) :
    assignsFixed (earlier ++ [⟨output, .fixed dimensions⟩]) other = true ↔
      other = output ∨ assignsFixed earlier other = true := by
  simp only [assignsFixed, List.any_append, List.any_cons, List.any_nil, Bool.or_false,
    Bool.or_eq_true, beq_iff_eq]
  rw [or_comm, eq_comm]

theorem assignsFixed_concat_likeInput (earlier : List ShapeRule) (output input other : Nat) :
    assignsFixed (earlier ++ [⟨output, .likeInput input⟩]) other =
      assignsFixed earlier other := by
  simp only [assignsFixed, List.any_append, List.any_cons, List.any_nil, Bool.or_false]

theorem assignsFixed_concat_repeated {earlier : List ShapeRule} {output : Nat}
    (repeated : assignsFixed earlier output = true) (dimensions : List Nat) (other : Nat) :
    assignsFixed (earlier ++ [⟨output, .fixed dimensions⟩]) other = assignsFixed earlier other := by
  rw [Bool.eq_iff_iff, assignsFixed_concat_fixed]
  constructor
  · rintro (rfl | known)
    · exact repeated
    · exact known
  · exact Or.inr

/-- The outputs that are declared while the statements are built are those that the earlier rules
gave a fixed shape. -/
theorem map_indent_ruleStatements {declared : List Nat} {earlier : List ShapeRule}
    (tracked : ∀ output, output ∈ declared ↔ assignsFixed earlier output = true)
    (rules : List ShapeRule) :
    ((Registration.ruleStatements declared rules).flatMap Fragment.lines).map Fragment.indent =
      rulesLines earlier rules := by
  induction rules generalizing declared earlier with
  | nil => rfl
  | cons rule rest ih =>
      obtain ⟨output, shape⟩ := rule
      rw [rulesLines]
      cases shape with
      | likeInput input =>
          have unchanged : ∀ other, other ∈ declared ↔
              assignsFixed (earlier ++ [⟨output, .likeInput input⟩]) other = true := by
            intro other
            rw [tracked other, assignsFixed_concat_likeInput]
          rw [Registration.ruleStatements, List.flatMap_cons, List.map_append,
            map_indent_inputShapeStatement, ih unchanged]
          rfl
      | fixed dimensions =>
          by_cases repeated : output ∈ declared
          · have unchanged : ∀ other, other ∈ declared ↔
                assignsFixed (earlier ++ [⟨output, .fixed dimensions⟩]) other = true := by
              intro other
              rw [assignsFixed_concat_repeated ((tracked output).mp repeated), tracked other]
            rw [Registration.ruleStatements, if_pos repeated, List.flatMap_cons, List.map_append,
              map_indent_block, ih unchanged, (tracked output).mp repeated]
          · have added : ∀ other, other ∈ output :: declared ↔
                assignsFixed (earlier ++ [⟨output, .fixed dimensions⟩]) other = true := by
              intro other
              rw [assignsFixed_concat_fixed, ← tracked other, List.mem_cons]
            have fresh : assignsFixed earlier output = false := by
              rw [← Bool.not_eq_true, ← tracked output]
              exact repeated
            rw [Registration.ruleStatements, if_neg repeated, List.flatMap_append,
              List.map_append, map_indent_fixedShapeStatements, ih added, fresh]
            rfl

theorem lines_shapeFunction (rules : List ShapeRule) :
    (Registration.shapeFunction rules).lines =
      ["[](::tensorflow::shape_inference::InferenceContext* c)", "\x7b"] ++ rulesLines [] rules ++
        ["  return Status::OK();", "\x7d"] := by
  have none_tracked : ∀ output : Nat, output ∈ [] ↔ assignsFixed [] output = true := by
    intro output
    simp [assignsFixed]
  rw [Registration.shapeFunction, Fragment.lines_block, List.flatMap_append, List.map_append,
    map_indent_ruleStatements none_tracked, List.flatMap_singleton, Fragment.lines_lineStatement]
  simp only [Option.toList_some, List.append_assoc, List.cons_append, List.nil_append]
  rfl

/-- The dotted lines of the clause that sets the shape function, where there is one. -/
theorem flatMap_dotted_shapeFunction (validated : ValidatedRequest) :
    ((validated.shapeFunction?.map Registration.shapeFunctionClause).toList.map
        Fragment.lines).flatMap Fragment.dotted =
      shapeFunctionLines validated.shapeRules := by
  unfold ValidatedRequest.shapeFunction? shapeFunctionLines
  by_cases noRules : validated.shapeRules = []
  · simp [noRules]
  · have several : (Registration.shapeFunction validated.shapeRules).lines =
        "[](::tensorflow::shape_inference::InferenceContext* c)" ::
          ("\x7b" :: rulesLines [] validated.shapeRules ++ ["  return Status::OK();"]) ++
            ["\x7d"] := by
      rw [lines_shapeFunction]
      simp
    rw [if_neg noRules, if_neg noRules, Option.map_some, Option.toList_some, List.map_singleton,
      List.flatMap_singleton, Registration.shapeFunctionClause,
      Fragment.lines_call_of_lines several]
    simp only [List.append_assoc, List.cons_append, List.nil_append]
    rfl

theorem lines_declarationClause (clause name tag : String) :
    (Registration.declarationClause clause name tag).lines =
      [clause ++ "(\"" ++ name ++ ": " ++ tag ++ "\")"] := by
  rw [Registration.declarationClause, Fragment.lines_call_of_line (Fragment.lines_quoted _)]
  congr 1
  apply String.toList_injective
  simp

theorem flatMap_dotted_declarationClauses {α : Type} (declared : List α) (clause : String)
    (name tag : α → String) :
    ((declared.map fun one => Registration.declarationClause clause (name one) (tag one)).map
        Fragment.lines).flatMap Fragment.dotted =
      declared.map fun one => declarationLine clause (name one) (tag one) := by
  induction declared with
  | nil => rfl
  | cons one rest ih =>
      rw [List.map_cons, List.map_cons, List.flatMap_cons, ih, lines_declarationClause,
        Fragment.dotted_singleton]
      simp only [List.map_cons, List.singleton_append, declarationLine, String.append_assoc]

theorem lines_nameClause (operator : String) :
    (Registration.nameClause operator).lines = ["REGISTER_OP(\"" ++ operator ++ "\")"] := by
  rw [Registration.nameClause, Fragment.lines_call_of_line (Fragment.lines_quoted _)]
  congr 1
  apply String.toList_injective
  simp

theorem terminate_cons (line : String) (rest : List String) :
    Fragment.terminate (line :: rest) = endLast (line :: rest) := by
  induction rest generalizing line with
  | nil => rfl
  | cons next rest ih =>
      rw [endLast, ← ih next]
      rfl

/-- The attributes of an accepted request are declared with the tags that they are read as. -/
theorem map_attributeLine {request : Request} {validated : ValidatedRequest}
    (carries : request.Carries validated) :
    (validated.attributes.map fun declared =>
        declarationLine "Attr" declared.name declared.tag.text) =
      request.signature.attributes.map fun declared =>
        declarationLine "Attr" declared.name (declaredTag declared.kind) := by
  rw [← carries.attributes_eq, List.map_map]
  rfl

theorem lines_registration {request : Request} {validated : ValidatedRequest}
    (carries : request.Carries validated) :
    validated.registration.lines = registrationLines request.signature request.shapeRules := by
  have links : (Registration.nameClause validated.name ::
        validated.attributes.map Registration.attributeClause ++
        validated.inputs.map Registration.inputClause ++
        validated.outputs.map Registration.outputClause ++
        (validated.shapeFunction?.map Registration.shapeFunctionClause).toList).map
          Fragment.lines =
      ["REGISTER_OP(\"" ++ validated.name ++ "\")"] ::
        ((validated.attributes.map Registration.attributeClause).map Fragment.lines ++
        (validated.inputs.map Registration.inputClause).map Fragment.lines ++
        (validated.outputs.map Registration.outputClause).map Fragment.lines ++
        (validated.shapeFunction?.map Registration.shapeFunctionClause).toList.map
          Fragment.lines) := by
    simp only [List.map_append, List.map_cons, List.cons_append, lines_nameClause]
  rw [ValidatedRequest.registration, Registration.assemble, Fragment.lines, Fragment.lines,
    Fragment.linesOfEach_eq_map, links, Fragment.chainLines_cons, List.flatMap_append,
    List.flatMap_append, List.flatMap_append, flatMap_dotted_shapeFunction]
  unfold Registration.attributeClause Registration.inputClause Registration.outputClause
  rw [flatMap_dotted_declarationClauses, flatMap_dotted_declarationClauses,
    flatMap_dotted_declarationClauses, map_attributeLine carries, carries.name_eq,
    carries.inputs_eq, carries.outputs_eq, carries.shapeRules_eq, List.singleton_append,
    terminate_cons]
  simp only [registrationLines, List.cons_append, List.nil_append, List.append_assoc]

theorem lines_kernelClass (className placeholder : String) :
    (Registration.kernelClass className placeholder).lines =
      ["class " ++ className ++ ": public OpKernel",
        "\x7b",
        "  public:",
        "  explicit " ++ className ++ "(OpKernelConstruction* context) : OpKernel(context)",
        "  \x7b",
        "  \x7d",
        "",
        "  void Compute(OpKernelContext* context) override",
        "  \x7b",
        "    // " ++ placeholder,
        "  \x7d",
        "\x7d;"] := by
  have constructorLine : Fragment.indent ("explicit " ++ className ++
      "(OpKernelConstruction* context) : OpKernel(context)") =
        "  explicit " ++ className ++ "(OpKernelConstruction* context) : OpKernel(context)" := by
    rw [Fragment.indent_of_ne_empty (by simp), ← String.append_assoc, ← String.append_assoc]
    rfl
  have commentLine : Fragment.indent (Fragment.indent ("// " ++ placeholder)) =
      "    // " ++ placeholder := by
    have once : Fragment.indent ("// " ++ placeholder) = "  " ++ ("// " ++ placeholder) :=
      Fragment.indent_of_ne_empty (by simp)
    rw [once, Fragment.indent_of_ne_empty (by simp), ← String.append_assoc, ← String.append_assoc]
    rfl
  rw [Registration.kernelClass, Fragment.lines, Fragment.lines_block]
  simp only [List.flatMap_cons, List.flatMap_nil, Fragment.lines_line, Fragment.lines_block,
    Fragment.lines_blank, Fragment.lines_comment, Option.toList_some, List.map_cons, List.map_nil,
    List.append_nil, List.cons_append, List.nil_append, constructorLine, commentLine]
  rfl

theorem lines_kernelRegistration (operator : String) (device : Device) (className : String) :
    (Registration.kernelRegistration operator device className).lines =
      ["REGISTER_KERNEL_BUILDER(Name(\"" ++ operator ++ "\").Device(DEVICE_CPU), " ++
        className ++ ");"] := by
  cases device
  rw [Registration.kernelRegistration, Fragment.lines]
  simp only [Fragment.lines, Fragment.linesOfEach, Fragment.separated, Fragment.spliceAll,
    Fragment.lines_quoted, List.intersperse, List.foldl_cons, List.foldl_nil, Fragment.splice,
    Fragment.terminate, Device.constant]
  congr 1
  apply String.toList_injective
  simp

theorem flatMap_lines_kernel {request : Request} {validated : ValidatedRequest}
    (carries : request.Carries validated) (placeholder : String) :
    (((validated.kernelClass? placeholder).toList ++ validated.kernelRegistration?.toList).flatMap
        fun part => [.blank, part]).flatMap Fragment.lines =
      request.kernel.elim [] (kernelLines request.signature.name placeholder) := by
  unfold ValidatedRequest.kernelClass? ValidatedRequest.kernelRegistration?
  rw [carries.kernel_eq, carries.name_eq]
  cases request.kernel with
  | none => rfl
  | some kernel =>
      simp only [Option.map_some, Option.toList_some, List.flatMap_cons, List.flatMap_nil,
        Fragment.lines_blank, lines_kernelClass, lines_kernelRegistration, List.cons_append,
        List.nil_append, Option.elim_some, kernelLines]

/-- The lines of the nested tree of a source file are the flat ones. -/
theorem lines_sourceFile {request : Request} {validated : ValidatedRequest}
    (carries : request.Carries validated) (settings : Settings) :
    ((validated.sourceFile settings).fragment settings).lines = sourceLines settings request := by
  have includes (headers : List String) :
      (headers.map headerInclude).flatMap Fragment.lines = headers.map includeLine := by
    induction headers with
    | nil => rfl
    | cons header rest ih =>
        rw [List.map_cons, List.flatMap_cons, ih, lines_headerInclude]
        rfl
  have headers : (validated.kernel.map KernelBinding.headers).getD [] = kernelHeaders request := by
    rw [carries.kernel_eq, kernelHeaders]
    cases request.kernel <;> rfl
  have kernel := flatMap_lines_kernel carries settings.placeholder
  simp only [List.flatMap_append] at kernel
  rw [SourceFile.fragment, Fragment.lines, Fragment.linesOfEach_eq_map, ← List.flatMap_def]
  simp only [ValidatedRequest.sourceFile, List.map_append, List.flatMap_append, includes, headers,
    kernel, List.flatMap_cons, Fragment.lines_blank, Fragment.lines_lineStatement,
    lines_registration carries, sourceLines, List.append_assoc, List.cons_append, List.nil_append]

end FlatSource

theorem Settings.generate_result_eq_ok_iff {settings : Settings} {request : Request}
    {text : String} :
    (settings.generate request).result = .ok text ↔
      ∃ validated, (request.validate settings.policy).result = .ok validated ∧
        ((validated.sourceFile settings).fragment settings).render = text := by
  simp only [generate, build, Traced.result_bind_eq_ok_iff, Traced.result_report,
    Traced.result_pure]
  grind

theorem FlatSource.render_sourceFile {request : Request} {validated : ValidatedRequest}
    (carries : request.Carries validated) (settings : Settings) :
    ((validated.sourceFile settings).fragment settings).render = sourceText settings request := by
  rw [Fragment.render, lines_sourceFile carries]
  rfl

theorem Settings.wellFormed_and_text_of_generate {settings : Settings} {request : Request}
    {text : String} (given : (settings.generate request).result = .ok text) :
    request.WellFormed settings.policy ∧ text = FlatSource.sourceText settings request := by
  obtain ⟨validated, accepted, rendered⟩ := generate_result_eq_ok_iff.mp given
  obtain ⟨wellFormed, carries⟩ := Request.validate_eq_ok_iff_carries.mp accepted
  exact ⟨wellFormed, rendered.symm.trans (FlatSource.render_sourceFile carries settings)⟩

theorem Settings.generate_result_of_validate {settings : Settings} {request : Request}
    {validated : ValidatedRequest}
    (accepted : (request.validate settings.policy).result = .ok validated) :
    (settings.generate request).result = .ok (FlatSource.sourceText settings request) := by
  have carries := (Request.validate_eq_ok_iff_carries.mp accepted).2
  exact generate_result_eq_ok_iff.mpr
    ⟨validated, accepted, FlatSource.render_sourceFile carries settings⟩

/-- Generating succeeds exactly for the requests that are accepted under the policy of the
settings, and then gives the flat text. -/
theorem Settings.generate_eq_flat_sourceText (settings : Settings) (request : Request)
    (text : String) :
    (settings.generate request).result = .ok text ↔
      (∃ validated, (request.validate settings.policy).result = .ok validated) ∧
        text = FlatSource.sourceText settings request := by
  rw [generate_result_eq_ok_iff, ← exists_and_right]
  refine exists_congr fun validated => and_congr_right fun accepted => ?_
  have carries := (Request.validate_eq_ok_iff_carries.mp accepted).2
  rw [FlatSource.render_sourceFile carries, eq_comm]

end OperatorSource
