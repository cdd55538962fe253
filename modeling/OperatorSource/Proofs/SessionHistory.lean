import OperatorSource.Session
import OperatorSource.Catalog.Builtin
import OperatorSource.Proofs.FileReplacement
import Mathlib.Data.List.Induction

/-!
# What the files are after a session

Only two kinds of steps have something to write, and they write one text to one path, if they write
at all.  So on a file system that writes whole files each file has, after every session, the text
that was put there last, or what it had at first if nothing was put there.
-/

namespace OperatorSource

namespace Session

variable {Files : Type} [FileSystem Files]

namespace Step

/-- The path that a step writes to, and what it has to write there. -/
def output? : Step → Option (String × Except RequestError String)
  | .write path text => some (path, .ok text)
  | .generate path settings request => some (path, (settings.generate request).result)
  | .loadRequest _ | .loadSettings _ | .read _ => none

section Proceeding

variable {step : Step} {path : String} (world : World Files)

theorem proceed_of_no_output (noOutput : step.output? = none) :
    (world.proceed step).2 = world := by
  cases step with
  | loadRequest path =>
      rw [World.proceed, effect, Effect.run_bind, Effect.run_look]
      cases Request.load (FileSystem.read world.files) path <;> rfl
  | loadSettings path =>
      rw [World.proceed, effect, Effect.run_bind, Effect.run_look]
      cases Settings.load (FileSystem.read world.files) path <;> rfl
  | read path => rfl
  | write path text => exact nomatch noOutput
  | generate path settings request => exact nomatch noOutput

theorem proceed_of_refused {error : RequestError}
    (output : step.output? = some (path, .error error)) :
    (world.proceed step).1.result = .error (.delivery (.refused error)) ∧
      (world.proceed step).2 = world := by
  cases step with
  | generate other settings request =>
      obtain ⟨rfl, refused⟩ := Prod.mk.inj (Option.some.inj output)
      rw [World.proceed, effect, Effect.run_bind, Effect.run_mapError,
        Settings.run_generateTo_of_refused refused]
      exact ⟨rfl, rfl⟩
  | write other text => cases output
  | loadRequest other => exact nomatch output
  | loadSettings other => exact nomatch output
  | read other => exact nomatch output

theorem proceed_of_made {text : String} (output : step.output? = some (path, .ok text)) :
    (world.proceed step).1.result =
        (match (FileSystem.write world.files path text).1 with
          | .error fault => .error (.delivery (.unwritable path fault))
          | .ok _ => .ok .written) ∧
      (world.proceed step).2 =
        { world with files := (FileSystem.write world.files path text).2 } := by
  cases step with
  | write other text =>
      cases output
      rw [World.proceed, effect, Effect.run_bind, Effect.run_mapError, Destination.deliver,
        Effect.run_writeFile]
      cases (FileSystem.write world.files path text).1 <;> exact ⟨rfl, rfl⟩
  | generate other settings request =>
      obtain ⟨rfl, made⟩ := Prod.mk.inj (Option.some.inj output)
      rw [World.proceed, effect, Effect.run_bind, Effect.run_mapError,
        Settings.run_generateTo_of_made made, Destination.deliver, Effect.run_writeFile]
      cases (FileSystem.write world.files other text).1 <;> exact ⟨rfl, rfl⟩
  | loadRequest other => exact nomatch output
  | loadSettings other => exact nomatch output
  | read other => exact nomatch output

end Proceeding

variable (view : FileView Files)

/-- How a step may end, and the world that it leaves: as it was, unless the step put its text into
the one file that it is for.  A step that has a text fails only if that cannot be written. -/
inductive Ends (step : Step) (world : World Files) :
    Except Failure Answer → World Files → Prop
  | looked {ending : Except Failure Answer} (noOutput : step.output? = none) :
      Ends step world ending world
  | refused {path : String} {error : RequestError}
      (output : step.output? = some (path, .error error)) :
      Ends step world (.error (.delivery (.refused error))) world
  | unwritable {path text : String} {fault : FileFault}
      (output : step.output? = some (path, .ok text))
      (unwritten : FileSystem.write world.files path text = (.error fault, world.files)) :
      Ends step world (.error (.delivery (.unwritable path fault))) world
  | put {path text : String} {after : Files} (output : step.output? = some (path, .ok text))
      (written : FileSystem.write world.files path text = (.ok (), after))
      (replaced : view.Replaced world.files after path text) :
      Ends step world (.ok .written) { world with files := after }

/-- A step succeeds in putting a text into a file. -/
structure Puts (step : Step) (world : World Files) (file : view.File) (text : String) : Prop where
  has_output : ∃ path, step.output? = some (path, .ok text) ∧
    view.file? world.files path = some file
  succeeds : ∃ answer, (world.proceed step).1.result = .ok answer

variable {view}

theorem ends_proceed (writes : view.WritesWhole) (step : Step) (world : World Files) :
    step.Ends view world (world.proceed step).1.result (world.proceed step).2 := by
  cases output : step.output? with
  | none =>
      rw [proceed_of_no_output world output]
      exact .looked output
  | some pair =>
      obtain ⟨path, error | text⟩ := pair
      · obtain ⟨ends, unchanged⟩ := proceed_of_refused world output
        rw [ends, unchanged]
        exact .refused output
      · obtain ⟨ends, leaves⟩ := proceed_of_made world output
        rw [ends, leaves]
        cases written : FileSystem.write world.files path text with
        | mk outcome after =>
            cases outcome with
            | ok done => exact .put output written (writes.replaced_of_ok _ _ _ _ written)
            | error fault =>
                obtain rfl := writes.eq_of_error _ _ _ _ _ written
                exact .unwritable output written

/-- A file holds what the step puts there, and otherwise what it held before. -/
theorem content?_proceed (writes : view.WritesWhole) (step : Step) (world : World Files)
    (file : view.File) :
    (∀ text, step.Puts view world file text →
        view.content? (world.proceed step).2.files file = some text.toUTF8) ∧
      ((∀ text, ¬ step.Puts view world file text) →
        view.content? (world.proceed step).2.files file = view.content? world.files file) := by
  have ends := ends_proceed writes step world
  generalize ran : (world.proceed step).1.result = ending at ends
  generalize (world.proceed step).2 = after at ends ⊢
  cases ends with
  | looked noOutput =>
      refine ⟨fun text puts => ?_, fun _ => rfl⟩
      obtain ⟨path, output, -⟩ := puts.has_output
      exact nomatch noOutput.symm.trans output
  | refused refusal =>
      refine ⟨fun text puts => ?_, fun _ => rfl⟩
      obtain ⟨answer, succeeds⟩ := puts.succeeds
      exact nomatch ran.symm.trans succeeds
  | unwritable made unwritten =>
      refine ⟨fun text puts => ?_, fun _ => rfl⟩
      obtain ⟨answer, succeeds⟩ := puts.succeeds
      exact nomatch ran.symm.trans succeeds
  | put made written replaced =>
      obtain ⟨target, leads, holds, elsewhere⟩ := replaced.exists_file
      refine ⟨fun text puts => ?_, fun unput => elsewhere file ?_⟩
      · obtain ⟨path, output, led⟩ := puts.has_output
        cases made.symm.trans output
        cases leads.symm.trans led
        exact holds
      · rintro rfl
        exact unput _ ⟨⟨_, made, leads⟩, _, ran⟩

theorem file?_proceed (writes : view.WritesWhole) (step : Step) (world : World Files) :
    view.file? (world.proceed step).2.files = view.file? world.files := by
  have ends := ends_proceed writes step world
  generalize (world.proceed step).1.result = ending at ends
  generalize (world.proceed step).2 = after at ends ⊢
  cases ends with
  | looked noOutput => rfl
  | refused refusal => rfl
  | unwritable made unwritten => rfl
  | put made written replaced => exact replaced.file?_eq

end Step

section History

variable (view : FileView Files)

/-- The last text that some steps of a session succeed in putting into a file. -/
def PutLast (world : World Files) (steps : List Step) (file : view.File) (text : String) : Prop :=
  ∃ earlier step later, steps = earlier ++ step :: later ∧
    step.Puts view (world.session earlier) file text ∧
    ∀ between next rest, later = between ++ next :: rest →
      ∀ other, ¬ next.Puts view (world.session (earlier ++ step :: between)) file other

variable {view} {world : World Files} {steps : List Step} {step : Step} {file : view.File}
  {text : String}

theorem session_concat (world : World Files) (steps : List Step) (step : Step) :
    world.session (steps ++ [step]) = ((world.session steps).proceed step).2 := by
  rw [World.session, List.foldl_append]
  rfl

theorem not_putLast_nil : ¬ PutLast view world [] file text := by
  rintro ⟨earlier, step, later, split, _⟩
  simp at split

theorem concat_eq_append_cons_iff {α : Type} {items before after : List α} {last item : α} :
    items ++ [last] = before ++ item :: after ↔
      (items = before ∧ last = item ∧ after = []) ∨
        ∃ others, items = before ++ item :: others ∧ after = others ++ [last] := by
  constructor
  · intro split
    obtain rfl | ⟨others, final, rfl⟩ := List.eq_nil_or_concat after
    · obtain ⟨rfl, same⟩ := List.append_inj' split rfl
      exact .inl ⟨rfl, List.head_eq_of_cons_eq same, rfl⟩
    · rw [List.concat_eq_append, ← List.cons_append, ← List.append_assoc] at split
      obtain ⟨rfl, same⟩ := List.append_inj' split rfl
      exact .inr ⟨others, rfl, by rw [List.concat_eq_append, same]⟩
  · rintro (⟨rfl, rfl, rfl⟩ | ⟨others, rfl, rfl⟩) <;> simp

theorem putLast_concat_iff :
    PutLast view world (steps ++ [step]) file text ↔
      step.Puts view (world.session steps) file text ∨
        (∀ other, ¬ step.Puts view (world.session steps) file other) ∧
          PutLast view world steps file text := by
  constructor
  · rintro ⟨earlier, putting, later, split, puts, untouched⟩
    obtain ⟨rfl, rfl, rfl⟩ | ⟨others, rfl, rfl⟩ := concat_eq_append_cons_iff.mp split
    · exact .inl puts
    · have unput := untouched others step [] rfl
      refine .inr ⟨unput, earlier, putting, others, rfl, puts, ?_⟩
      rintro between next rest rfl
      exact untouched between next (rest ++ [step]) (by simp)
  · rintro (puts | ⟨unput, earlier, putting, later, rfl, puts, untouched⟩)
    · exact ⟨steps, step, [], rfl, puts, by simp⟩
    · refine ⟨earlier, putting, later ++ [step], by simp, puts, fun between next rest split => ?_⟩
      obtain ⟨rfl, rfl, rfl⟩ | ⟨others, rfl, rfl⟩ := concat_eq_append_cons_iff.mp split
      · exact unput
      · exact untouched between next others rfl

theorem content?_session (writes : view.WritesWhole) (world : World Files) (steps : List Step)
    (file : view.File) :
    (∀ text, PutLast view world steps file text →
        view.content? (world.session steps).files file = some text.toUTF8) ∧
      ((∀ text, ¬ PutLast view world steps file text) →
        view.content? (world.session steps).files file = view.content? world.files file) := by
  induction steps using List.reverseRecOn with
  | nil => exact ⟨fun text last => absurd last not_putLast_nil, fun _ => rfl⟩
  | append_singleton steps step ih =>
      obtain ⟨held, kept⟩ := ih
      obtain ⟨puts, leaves⟩ := Step.content?_proceed writes step (world.session steps) file
      rw [session_concat]
      refine ⟨fun text last => ?_, fun unput => ?_⟩
      · obtain now | ⟨unput, before⟩ := putLast_concat_iff.mp last
        · exact puts text now
        · rw [leaves unput, held text before]
      · have unputNow (text : String) : ¬ step.Puts view (world.session steps) file text :=
          fun now => unput text (putLast_concat_iff.mpr (.inl now))
        have unputBefore (text : String) : ¬ PutLast view world steps file text :=
          fun before => unput text (putLast_concat_iff.mpr (.inr ⟨unputNow, before⟩))
        rw [leaves unputNow, kept unputBefore]

theorem file?_session (writes : view.WritesWhole) (world : World Files) (steps : List Step) :
    view.file? (world.session steps).files = view.file? world.files := by
  induction steps using List.reverseRecOn with
  | nil => rfl
  | append_singleton steps step ih => rw [session_concat, Step.file?_proceed writes, ih]

/-- Every path leads where it led at the beginning. -/
theorem exists_output_of_puts (writes : view.WritesWhole)
    (puts : step.Puts view (world.session steps) file text) :
    ∃ path, step.output? = some (path, .ok text) ∧ view.file? world.files path = some file := by
  obtain ⟨path, output, leads⟩ := puts.has_output
  rw [file?_session writes] at leads
  exact ⟨path, output, leads⟩

/-- After every session on a file system that writes whole files, each file has the text that was
put there last, or what it had at first if none was, and where whole files are read, that is what is
read at every path to it.  A further step may fail or only look, and then the world is as before, or
it puts its text into its file and changes nothing else.  It can fail with a text only if its file
cannot be written. -/
theorem keeps_last_texts (writes : view.WritesWhole) (world : World Files) (steps : List Step) :
    (∀ file,
      (∀ text, PutLast view world steps file text →
        view.content? (world.session steps).files file = some text.toUTF8) ∧
      ((∀ text, ¬ PutLast view world steps file text) →
        view.content? (world.session steps).files file = view.content? world.files file)) ∧
      (view.ReadsWhole → ∀ path text,
        FileSystem.read (world.session steps).files path = .ok text →
          ∃ file, view.file? world.files path = some file ∧
            (PutLast view world steps file text ∨
              (∀ other, ¬ PutLast view world steps file other) ∧
                view.content? world.files file = some text.toUTF8)) ∧
      ∀ step : Step, step.Ends view (world.session steps)
        ((world.session steps).proceed step).1.result (world.session (steps ++ [step])) := by
  have contents := content?_session writes world steps
  refine ⟨contents, fun reads path text held => ?_, fun step => ?_⟩
  · obtain ⟨file, leads, holds⟩ := reads _ path text held
    rw [file?_session writes] at leads
    refine ⟨file, leads, ?_⟩
    by_cases put : ∃ other, PutLast view world steps file other
    · obtain ⟨other, last⟩ := put
      have same : other.toUTF8 = text.toUTF8 :=
        Option.some.inj (((contents file).1 other last).symm.trans holds)
      obtain rfl : other = text := String.toByteArray_inj.mp same
      exact .inl last
    · have unput : ∀ other, ¬ PutLast view world steps file other :=
        fun other last => put ⟨other, last⟩
      exact .inr ⟨unput, ((contents file).2 unput).symm.trans holds⟩
  · rw [session_concat]
    exact Step.ends_proceed writes step _

end History

def zeroFolder : FileTree := .ofList [("zero.cc", some "old"), ("notes", some "kept")]

def unnamedRequest : Request := { signature := { name := "" } }

/-- Two texts for one file; then nothing more can be generated, written or loaded. -/
def zeroSteps : List Step := [
  .write "zero.cc" "draft",
  .generate "./zero.cc" {} Builtin.zero.request,
  .generate "zero.cc" {} unnamedRequest,
  .write "missing/zero.cc" "draft",
  .loadRequest "zero.cc"]

/-- The generated text stays, also for a reader, and so does the file that nobody has written. -/
theorem keeps_last_texts_zeroFolder :
    ∃ text, (Settings.generate {} Builtin.zero.request).result = .ok text ∧
      FileTree.view.content? (World.session { files := zeroFolder } zeroSteps).files ["zero.cc"] =
        some text.toUTF8 ∧
      FileTree.view.content? (World.session { files := zeroFolder } zeroSteps).files ["notes"] =
        some "kept".toUTF8 ∧
      ∀ other, FileSystem.read (World.session { files := zeroFolder } zeroSteps).files "zero.cc" =
        .ok other → PutLast FileTree.view { files := zeroFolder } zeroSteps ["zero.cc"] other := by
  obtain ⟨text, made⟩ : ∃ text, (Settings.generate {} Builtin.zero.request).result = .ok text :=
    ⟨_, rfl⟩
  have refused : (Settings.generate {} unnamedRequest).result =
      .error (.malformedEntry .operatorNameEmpty) := rfl
  have nowhere : zeroFolder.place? "missing/zero.cc" = none := by decide +kernel
  have direct : zeroFolder.place? "zero.cc" = some ["zero.cc"] := by decide +kernel
  have dotted : zeroFolder.place? "./zero.cc" = some ["zero.cc"] := by decide +kernel
  have output : (Step.generate "./zero.cc" {} Builtin.zero.request).output? =
      some ("./zero.cc", .ok text) :=
    congrArg (fun given => some ("./zero.cc", given)) made
  have writes := FileTree.view_writesWhole
  have samePlaces (steps : List Step) :
      (World.session { files := zeroFolder } steps).files.place? = zeroFolder.place? :=
    file?_session writes { files := zeroFolder } steps
  have last : PutLast FileTree.view { files := zeroFolder } zeroSteps ["zero.cc"] text := by
    have leads : (World.session { files := zeroFolder } [.write "zero.cc" "draft"]).files.place?
        "./zero.cc" = some ["zero.cc"] :=
      (congrFun (samePlaces _) "./zero.cc").trans dotted
    refine ⟨[.write "zero.cc" "draft"], _, _, rfl,
      ⟨⟨"./zero.cc", output, leads⟩, .written, ?_⟩, fun between next rest split other puts => ?_⟩
    · rw [(Step.proceed_of_made _ output).1, FileTree.write_of_place leads]
    · obtain ⟨path, output, led⟩ := exists_output_of_puts writes puts
      have member : next ∈ between ++ next :: rest := by simp
      rw [← split] at member
      simp only [List.mem_cons, List.not_mem_nil, or_false] at member
      obtain rfl | rfl | rfl := member
      · rw [Step.output?, refused] at output
        cases output
      · cases output
        exact nomatch nowhere.symm.trans led
      · exact nomatch output
  have untouched (other : String) :
      ¬ PutLast FileTree.view { files := zeroFolder } zeroSteps ["notes"] other := by
    rintro ⟨earlier, step, later, split, puts, -⟩
    obtain ⟨path, output, led⟩ := exists_output_of_puts writes puts
    change zeroFolder.place? path = some ["notes"] at led
    have member : step ∈ earlier ++ step :: later := by simp
    rw [← split, zeroSteps] at member
    simp only [List.mem_cons, List.not_mem_nil, or_false] at member
    have elsewhere : ∀ other ∈ ["zero.cc", "./zero.cc", "missing/zero.cc"],
        zeroFolder.place? other ≠ some ["notes"] := by
      decide +kernel
    obtain rfl | rfl | rfl | rfl | rfl := member <;> cases output <;>
      exact elsewhere _ (by decide) led
  have kept : zeroFolder.content? ["notes"] = some "kept" := by decide +kernel
  obtain ⟨contents, readsBack, -⟩ := keeps_last_texts writes { files := zeroFolder } zeroSteps
  refine ⟨text, made, (contents ["zero.cc"]).1 text last, ((contents ["notes"]).2 untouched).trans
    (congrArg (Option.map String.toUTF8) kept), fun other held => ?_⟩
  obtain ⟨file, leads, lastHere⟩ := readsBack FileTree.view_readsWhole "zero.cc" other held
  cases leads.symm.trans direct
  exact lastHere.resolve_right fun both => both.1 text last

end Session

end OperatorSource
