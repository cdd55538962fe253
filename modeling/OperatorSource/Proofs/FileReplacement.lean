import OperatorSource.Files.Tree
import OperatorSource.Proofs.Outcomes
import Mathlib.Tactic.SplitIfs

/-!
# What writing a file changes

A file system is only known by what reading and writing give.  What the files are is the subject of
a view: which file a path leads to, and the bytes that a file holds.  Files are told apart by what
they are, since several paths may lead to one file.  The operating system is taken to replace one
whole file in a write that succeeds, and to change nothing in one that fails.  File trees keep to
that.
-/

namespace OperatorSource

/-- Which files there are, which of them a path leads to, and what they hold.  A path may lead to a
file that does not hold anything yet. -/
structure FileView (Files : Type) where
  File : Type
  file? : Files → String → Option File
  content? : Files → File → Option ByteArray

namespace FileView

variable {Files : Type}

/-- The file that a path leads to holds a text, and nothing else has changed: neither what other
files hold nor where any path leads. -/
structure Replaced (view : FileView Files) (before after : Files) (path text : String) :
    Prop where
  file?_eq : view.file? after = view.file? before
  exists_file : ∃ file, view.file? before path = some file ∧
    view.content? after file = some text.toUTF8 ∧
    ∀ other, other ≠ file → view.content? after other = view.content? before other

/-- A write replaces the whole content of its file, or fails without touching anything. -/
structure WritesWhole [FileSystem Files] (view : FileView Files) : Prop where
  replaced_of_ok : ∀ (before : Files) path text after,
    FileSystem.write before path text = (.ok (), after) → view.Replaced before after path text
  eq_of_error : ∀ (before : Files) path text fault after,
    FileSystem.write before path text = (.error fault, after) → after = before

/-- What is read at a path is the whole content of the file that it leads to. -/
def ReadsWhole [FileSystem Files] (view : FileView Files) : Prop :=
  ∀ (files : Files) path text, FileSystem.read files path = .ok text →
    ∃ file, view.file? files path = some file ∧ view.content? files file = some text.toUTF8

end FileView

namespace FileTree

open Outcome

private theorem lookup_cons_eq (file : List String × String) (files : List (List String × String))
    (place : List String) :
    (file :: files).lookup place = if place = file.1 then some file.2 else files.lookup place := by
  obtain ⟨name, content⟩ := file
  by_cases same : place = name
  · simp [same]
  · simp [List.lookup_cons, beq_false_of_ne same, same]

theorem lookup_put (place other : List String) (content : String)
    (files : List (List String × String)) :
    (put place content files).lookup other =
      if other = place then some content else files.lookup other := by
  induction files with
  | nil => exact lookup_cons_eq (place, content) [] other
  | cons file rest ih =>
      rw [put]
      by_cases taken : file.1 = place
      · rw [if_pos taken, lookup_cons_eq, lookup_cons_eq, taken]
        by_cases same : other = place
        · rw [if_pos same, if_pos same]
        · rw [if_neg same, if_neg same, if_neg same]
      · rw [if_neg taken, lookup_cons_eq, lookup_cons_eq, ih]
        by_cases found : other = file.1
        · rw [if_pos found, if_neg (found ▸ taken), if_pos found]
        · rw [if_neg found, if_neg found]

section SameDirectories

variable {before after : FileTree}

theorem isDirectory_eq (sameDirectories : after.directories = before.directories)
    (place : List String) : after.isDirectory place = before.isDirectory place := by
  rw [isDirectory, isDirectory, sameDirectories]

theorem toOption_step_eq (sameDirectories : after.directories = before.directories)
    (place : List String) (name : String) :
    (after.step place name).toOption = (before.step place name).toOption := by
  simp only [step, isDirectory_eq sameDirectories]
  -- The two trees may hold different files, and then only the reasons for a failure differ.
  split_ifs <;> rfl

theorem toOption_walk_eq (sameDirectories : after.directories = before.directories)
    (place : List String) (names : List String) :
    (after.walk place names).toOption = (before.walk place names).toOption := by
  induction names generalizing place with
  | nil => rfl
  | cons name rest ih =>
      rw [walk, walk, toOption_bind, toOption_bind, toOption_step_eq sameDirectories]
      congr 1
      funext next
      exact ih next

theorem toOption_target_eq (sameDirectories : after.directories = before.directories)
    (path : String) : (after.target path).toOption = (before.target path).toOption := by
  unfold target
  dsimp only
  split
  · rfl
  split
  · rfl
  split
  · rfl
  split
  · rfl
  split
  · rfl
  rw [toOption_bind, toOption_bind, toOption_walk_eq sameDirectories]
  congr 1
  funext parent
  split
  · rw [toOption_bind, toOption_bind, toOption_step_eq sameDirectories]
  · rfl

end SameDirectories

/-- The place that a path leads to, if a file is there or can be put there. -/
def place? (tree : FileTree) (path : String) : Option (List String) :=
  (tree.target path).toOption.bind fun
    | .directory => none
    | .entry place slash => if slash || tree.isDirectory place then none else some place

/-- The files of a tree, each told by its place. -/
def view : FileView FileTree where
  File := List String
  file? := place?
  content? tree place := (tree.content? place).map String.toUTF8

variable {tree : FileTree} {path text : String}

theorem place?_eq {before after : FileTree}
    (sameDirectories : after.directories = before.directories) : after.place? = before.place? := by
  funext path
  rw [place?, place?, toOption_target_eq sameDirectories]
  congr 1
  funext target
  cases target with
  | directory => rfl
  | entry place slash => simp only [isDirectory_eq sameDirectories]

theorem read_eq_ok (held : tree.read path = .ok text) :
    ∃ place, tree.place? path = some place ∧ tree.content? place = some text := by
  obtain ⟨target, led, gives⟩ := bind_eq_ok_iff.mp held
  cases target with
  | directory => exact nomatch gives
  | entry place slash =>
      refine ⟨place, ?_⟩
      rw [place?, led]
      cases directory : tree.isDirectory place <;> cases content : tree.content? place <;>
        cases slash <;> simp_all [Except.toOption]

theorem write_of_place {place : List String} (leads : tree.place? path = some place)
    (text : String) : FileSystem.write tree path text =
      (.ok (), { tree with files := put place text tree.files }) := by
  obtain ⟨target, led, gives⟩ := Option.bind_eq_some_iff.mp leads
  have written : tree.write path text = .ok { tree with files := put place text tree.files } := by
    refine bind_eq_ok_iff.mpr ⟨target, toOption_eq_some_iff.mp led, ?_⟩
    cases target with
    | directory => exact nomatch gives
    | entry other slash =>
        cases directory : tree.isDirectory other <;> cases slash <;>
          simp_all [pure, Except.pure]
  simp only [FileSystem.write, written]

theorem write_of_no_place (nowhere : tree.place? path = none) (text : String) :
    ∃ fault, FileSystem.write tree path text = (.error fault, tree) := by
  cases outcome : tree.write path text with
  | error fault => exact ⟨fault, by simp only [FileSystem.write, outcome]⟩
  | ok after =>
      obtain ⟨target, led, gives⟩ := bind_eq_ok_iff.mp outcome
      rw [place?, led] at nowhere
      cases target with
      | directory => exact nomatch gives
      | entry place slash =>
          cases directory : tree.isDirectory place <;> cases slash <;>
            simp_all [Except.toOption]

theorem view_writesWhole : view.WritesWhole where
  replaced_of_ok before path text after written := by
    cases leads : before.place? path with
    | none =>
        obtain ⟨fault, unwritten⟩ := write_of_no_place leads text
        exact nomatch (Prod.mk.inj (unwritten.symm.trans written)).1
    | some place =>
        obtain ⟨-, rfl⟩ := Prod.mk.inj ((write_of_place leads text).symm.trans written)
        have holds (other : List String) := lookup_put place other text before.files
        refine ⟨place?_eq rfl, place, leads, ?_, fun other elsewhere => ?_⟩
        · exact congrArg (Option.map String.toUTF8) ((holds place).trans (if_pos rfl))
        · exact congrArg (Option.map String.toUTF8) ((holds other).trans (if_neg elsewhere))
  eq_of_error before path text fault after unwritten := by
    cases leads : before.place? path with
    | none =>
        obtain ⟨other, fails⟩ := write_of_no_place leads text
        exact (Prod.mk.inj (unwritten.symm.trans fails)).2
    | some place =>
        exact nomatch (Prod.mk.inj (unwritten.symm.trans (write_of_place leads text))).1

theorem view_readsWhole : view.ReadsWhole := by
  intro tree path text held
  obtain ⟨place, led, content⟩ := read_eq_ok held
  exact ⟨place, led, congrArg (Option.map String.toUTF8) content⟩

end FileTree

end OperatorSource
