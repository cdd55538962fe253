import OperatorSource.Files.System
import OperatorSource.Log.Traced

/-!
# Effects

An effect is something done with the world: it ends in a value or an error, reports events on the
way, and leaves a world behind. In a sequence each effect finds the world that the one before it has
left. A failure ends the sequence and undoes nothing: what was changed before it stays changed.
-/

namespace OperatorSource

/-- What the program can change: the files, and what it has printed. -/
structure World (Files : Type) where
  files : Files
  printed : String := ""

/-- Something done with the world: how it ends, and the world that it leaves in any case. -/
structure Effect (Files ε α : Type) where
  run : World Files → Traced ε α × World Files

namespace Effect

variable {Files ε φ α β : Type}

/-- A computation that looks at the files and changes nothing. -/
def look (view : Files → Traced ε α) : Effect Files ε α where
  run world := (view world.files, world)

/-- Does one thing and, when it succeeds, a second one with its value. -/
def andThen (first : Effect Files ε α) (next : α → Effect Files ε β) : Effect Files ε β where
  run world :=
    let (outcome, after) := first.run world
    match outcome.result with
    | .error error => (⟨outcome.events, .error error⟩, after)
    | .ok value =>
      let (later, final) := (next value).run after
      (⟨outcome.events ++ later.events, later.result⟩, final)

instance : Monad (Effect Files ε) where
  pure value := ⟨fun world => (pure value, world)⟩
  bind := andThen

/-- The same effect with its error reworded. -/
def mapError (reword : ε → φ) (effect : Effect Files ε α) : Effect Files φ α where
  run world :=
    let (outcome, after) := effect.run world
    (outcome.mapError reword, after)

def print (text : String) : Effect Files ε Unit where
  run world := (pure (), { world with printed := world.printed ++ text })

@[simp] theorem run_look (view : Files → Traced ε α) (world : World Files) :
    (look view).run world = (view world.files, world) := rfl

@[simp] theorem run_pure (value : α) (world : World Files) :
    (pure value : Effect Files ε α).run world = (pure value, world) := rfl

@[simp] theorem run_mapError (reword : ε → φ) (effect : Effect Files ε α)
    (world : World Files) :
    (effect.mapError reword).run world =
      ((effect.run world).1.mapError reword, (effect.run world).2) := rfl

@[simp] theorem run_print (text : String) (world : World Files) :
    (print text : Effect Files ε Unit).run world =
      (pure (), { world with printed := world.printed ++ text }) := rfl

theorem run_bind (first : Effect Files ε α) (next : α → Effect Files ε β) (world : World Files) :
    (first >>= next).run world = match (first.run world).1.result with
      | .error error => (⟨(first.run world).1.events, .error error⟩, (first.run world).2)
      | .ok value =>
        let later := (next value).run (first.run world).2
        (⟨(first.run world).1.events ++ later.1.events, later.1.result⟩, later.2) := rfl

theorem run_bind_of_error {first : Effect Files ε α} {world : World Files} {error : ε}
    (fails : (first.run world).1.result = .error error) (next : α → Effect Files ε β) :
    (first >>= next).run world =
      (⟨(first.run world).1.events, .error error⟩, (first.run world).2) := by
  rw [run_bind, fails]

theorem run_bind_of_ok {first : Effect Files ε α} {world : World Files} {value : α}
    (succeeds : (first.run world).1.result = .ok value) (next : α → Effect Files ε β) :
    (first >>= next).run world =
      let later := (next value).run (first.run world).2
      (⟨(first.run world).1.events ++ later.1.events, later.1.result⟩, later.2) := by
  rw [run_bind, succeeds]

end Effect

end OperatorSource
