import OperatorSource.Proofs.Outcomes
import OperatorSource.Proofs.PhysicalLines
import OperatorSource.Settings.Document
import Mathlib.Data.List.Basic

/-!
# The body that computes

The skeleton of a kernel class leaves the body that computes to whoever fills it in: it should hold
nothing but a comment.  The comment is the placeholder of the settings, which may be any text.  It
is begun by two slashes once, so at a line feed of the placeholder the comment ends, and what
follows is part of the body.

The body is nothing but comments exactly if every line of the placeholder after the first is blank
or begins with two slashes itself.
-/

namespace OperatorSource

open LineRun

/-- Apart from the spaces it begins with, the line is empty or begins with two slashes. -/
def IsCommentLine (line : String) : Prop :=
  line.toList.dropWhile (· == ' ') = [] ∨ ['/', '/'] <+: line.toList.dropWhile (· == ' ')

instance (line : String) : Decidable (IsCommentLine line) :=
  inferInstanceAs (Decidable (_ ∨ _))

namespace KernelClass

/-- The lines of a kernel class down to the brace that opens the body that computes. -/
def linesAbove (className : String) : List String :=
  ["class " ++ className ++ ": public OpKernel",
    "\x7b",
    "  public:",
    "  explicit " ++ className ++ "(OpKernelConstruction* context) : OpKernel(context)",
    "  \x7b",
    "  \x7d",
    "",
    "  void Compute(OpKernelContext* context) override",
    "  \x7b"]

/-- The lines from the brace that closes the body that computes. -/
def linesBelow : List String := ["  \x7d", "\x7d;"]

/-- The line that registers a kernel class. -/
def builderLine (operator className : String) : String :=
  "REGISTER_KERNEL_BUILDER(Name(\"" ++ operator ++ "\").Device(DEVICE_CPU), " ++ className ++ ");"

theorem kernelLines_eq (operator placeholder : String) (kernel : KernelBinding) :
    FlatSource.kernelLines operator placeholder kernel =
      [""] ++ (linesAbove kernel.className ++ ["    // " ++ placeholder] ++ linesBelow) ++
        ["", builderLine operator kernel.className] :=
  rfl

theorem render_kernelClass (className placeholder : String) :
    (Registration.kernelClass className placeholder).render =
      unlines (linesAbove className ++ ["    // " ++ placeholder] ++ linesBelow) := by
  rw [Fragment.render, FlatSource.lines_kernelClass]
  rfl

theorem isUnbroken_of_mem_linesAbove {className : String} (unbroken : IsUnbroken className) :
    ∀ line ∈ linesAbove className, IsUnbroken line := by
  have classHeader : IsUnbroken ("class " ++ className ++ ": public OpKernel") :=
    (IsUnbroken.append (by decide) unbroken).append (by decide)
  have constructorHeader : IsUnbroken ("  explicit " ++ className ++
      "(OpKernelConstruction* context) : OpKernel(context)") :=
    (IsUnbroken.append (by decide) unbroken).append (by decide)
  simp only [linesAbove, List.forall_mem_cons, classHeader, constructorHeader, true_and]
  decide

/-- The physical lines between the braces are those of the comment. -/
theorem physicalLines_render {className : String} (unbroken : IsUnbroken className)
    (placeholder : String) :
    physicalLines (Registration.kernelClass className placeholder).render =
      linesAbove className ++ physicalLines ("    // " ++ placeholder) ++ linesBelow ++ [""] := by
  have below : ∀ line ∈ linesBelow, IsUnbroken line := by decide
  rw [render_kernelClass, physicalLines_unlines, List.flatMap_append, List.flatMap_append,
    List.flatMap_singleton, flatMap_physicalLines (isUnbroken_of_mem_linesAbove unbroken),
    flatMap_physicalLines below]

theorem isCommentLine_begun (text : String) : IsCommentLine ("    // " ++ text) := by
  right
  rw [String.toList_append]
  exact ⟨' ' :: text.toList, rfl⟩

/-- Only the first line of the placeholder gets the two slashes. -/
theorem forall_isCommentLine_iff (placeholder : String) :
    (∀ line ∈ physicalLines ("    // " ++ placeholder), IsCommentLine line) ↔
      ∀ line ∈ (physicalLines placeholder).tail, IsCommentLine line := by
  have begun : IsUnbroken "    // " := by decide
  rw [physicalLines_append begun]
  cases physicalLines placeholder with
  | nil => simp
  | cons first later =>
      rw [List.modifyHead_cons, List.forall_mem_cons, List.tail_cons]
      exact and_iff_right (isCommentLine_begun first)

/-- Where a kernel is bound its class is part of the text. -/
theorem exists_sourceText_eq {request : Request} {kernel : KernelBinding}
    (bound : request.kernel = some kernel) (settings : Settings) :
    ∃ before after, FlatSource.sourceText settings request =
      before ++ (Registration.kernelClass kernel.className settings.placeholder).render ++
        after := by
  have sections : FlatSource.sourceLines settings request =
      (settings.frameworkHeaders.map FlatSource.includeLine ++
          (FlatSource.kernelHeaders request).map FlatSource.includeLine ++
          ["", "using namespace " ++ settings.namespaceName ++ ";", ""] ++
          FlatSource.registrationLines request.signature request.shapeRules ++ [""]) ++
        (linesAbove kernel.className ++ ["    // " ++ settings.placeholder] ++ linesBelow) ++
        ["", builderLine request.signature.name kernel.className] := by
    rw [FlatSource.sourceLines, bound, Option.elim_some, kernelLines_eq]
    simp only [List.append_assoc]
  have text : FlatSource.sourceText settings request =
      unlines (FlatSource.sourceLines settings request) := rfl
  rw [text, sections, unlines_append, unlines_append, ← render_kernelClass]
  exact ⟨_, _, rfl⟩

end KernelClass

/-- Every accepted request with a kernel gets a class whose lines between the braces of the body
that computes are comments or blank, exactly if the placeholder goes on with comments or blanks
behind its first line feed. -/
theorem Settings.computeBody_isComment_iff {settings : Settings} {request : Request}
    {validated : ValidatedRequest} {kernel : KernelBinding}
    (accepted : (request.validate settings.policy).result = .ok validated)
    (bound : request.kernel = some kernel) (unbroken : IsUnbroken kernel.className) :
    ∃ text before after body,
      (settings.generate request).result = .ok text ∧
      text = before ++
        (Registration.kernelClass kernel.className settings.placeholder).render ++ after ∧
      physicalLines (Registration.kernelClass kernel.className settings.placeholder).render =
        KernelClass.linesAbove kernel.className ++ body ++ KernelClass.linesBelow ++ [""] ∧
      ((∀ line ∈ body, IsCommentLine line) ↔
        ∀ line ∈ (physicalLines settings.placeholder).tail, IsCommentLine line) := by
  obtain ⟨before, after, text_eq⟩ := KernelClass.exists_sourceText_eq bound settings
  exact ⟨_, before, after, _, generate_result_of_validate accepted, text_eq,
    KernelClass.physicalLines_render unbroken _,
    KernelClass.forall_isCommentLine_iff settings.placeholder⟩

/-- A placeholder with a second comment and a blank line. -/
theorem computeBody_of_commented_placeholder :
    ∃ text before after body,
      (Settings.generate { placeholder := "fill zeros\n  // one by one\n" }
        Builtin.zero.request).result = .ok text ∧
      text = before ++
        (Registration.kernelClass "ZeroOp" "fill zeros\n  // one by one\n").render ++ after ∧
      physicalLines (Registration.kernelClass "ZeroOp" "fill zeros\n  // one by one\n").render =
        KernelClass.linesAbove "ZeroOp" ++ body ++ KernelClass.linesBelow ++ [""] ∧
      ∀ line ∈ body, IsCommentLine line := by
  obtain ⟨validated, accepted⟩ := Builtin.zero.exists_validate_eq_ok
    (Settings.policy { placeholder := "fill zeros\n  // one by one\n" })
  have unbroken : IsUnbroken "ZeroOp" := by decide
  obtain ⟨text, before, after, body, given, text_eq, lines, comments⟩ :=
    Settings.computeBody_isComment_iff accepted rfl unbroken
  exact ⟨text, before, after, body, given, text_eq, lines, comments.mpr (by decide)⟩

/-- A block scalar of two lines is a placeholder whose second line stands in the body as a
statement. -/
theorem computeBody_of_block_scalar :
    ∃ settings text before after,
      Settings.ofYaml "placeholder: |-\n  fill zeros\n  return;\n" = .ok settings ∧
      (settings.generate Builtin.zero.request).result = .ok text ∧
      text = before ++ (Registration.kernelClass "ZeroOp" settings.placeholder).render ++ after ∧
      physicalLines (Registration.kernelClass "ZeroOp" settings.placeholder).render =
        KernelClass.linesAbove "ZeroOp" ++ ["    // fill zeros", "return;"] ++
          KernelClass.linesBelow ++ [""] ∧
      ¬ IsCommentLine "return;" := by
  have loaded : Settings.ofYaml "placeholder: |-\n  fill zeros\n  return;\n" =
      .ok { placeholder := "fill zeros\nreturn;" } :=
    Outcome.eq_ok_of_toOption (by decide +kernel)
  have bound : Builtin.zero.request.kernel =
      some { className := "ZeroOp", headers := ["gen_halide_zero_op.h"] } :=
    rfl
  obtain ⟨before, after, text_eq⟩ :=
    KernelClass.exists_sourceText_eq bound { placeholder := "fill zeros\nreturn;" }
  have unbroken : IsUnbroken "ZeroOp" := by decide
  have comment : physicalLines ("    // " ++ "fill zeros\nreturn;") =
      ["    // fill zeros", "return;"] := by
    decide
  obtain ⟨validated, accepted⟩ := Builtin.zero.exists_validate_eq_ok .permissive
  refine ⟨_, _, before, after, loaded, Settings.generate_result_of_validate accepted, text_eq, ?_,
    by decide⟩
  rw [KernelClass.physicalLines_render unbroken, comment]

end OperatorSource
