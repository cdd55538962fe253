import OperatorSource.Request.Basic
import Mathlib.Data.List.Basic

/-!
# Shape functions as programs

The body of a shape function is a straight-line program with block scoping.  A binding makes a local
shape in the innermost scope, an assignment sets the shape of one output, a bare block opens a scope
in which names may be bound again, and a return ends the run.  This file gives the programs, what it
is for one to be well scoped, and their execution.  Execution stops with a fault where a compiler or
the inference context would refuse: a name bound twice in one scope, a name that is not bound, an
input or output that does not exist, or a missing return.
-/

namespace OperatorSource.ShapeProgram

/-- What an output may be set to. -/
inductive Value where
  | named (name : String)
  | input (index : Nat)

inductive Statement where
  | bind (name : String) (dimensions : List Nat)
  | assign (output : Nat) (value : Value)
  | block (body : List Statement)
  | succeed

mutual

/-- The statement lists of all blocks within a statement. -/
def Statement.innerScopes : Statement → List (List Statement)
  | .bind _ _ | .assign _ _ | .succeed => []
  | .block body => body :: innerScopesOf body

/-- The statement lists of all blocks within some statements. -/
def innerScopesOf : List Statement → List (List Statement)
  | [] => []
  | statement :: rest => statement.innerScopes ++ innerScopesOf rest

end

/-- Every scope of a program: its own statements and those of all blocks, at any depth. -/
def scopes (program : List Statement) : List (List Statement) := program :: innerScopesOf program

/-- The names that are bound directly in a scope. -/
def boundNames (scope : List Statement) : List String :=
  scope.filterMap fun
    | .bind name _ => some name
    | .assign _ _ | .block _ | .succeed => none

/-- Every local that an output is set to was bound by the statement right before. -/
def BoundJustBefore (scope : List Statement) : Prop :=
  ∀ before output name after, scope = before ++ .assign output (.named name) :: after →
    ∃ dimensions, before.getLast? = some (.bind name dimensions)

/-- The static rules that a program keeps for an operator with so many inputs and outputs. -/
structure WellScoped (inputCount outputCount : Nat) (program : List Statement) : Prop where
  bound_once : ∀ scope ∈ scopes program, (boundNames scope).Nodup
  bound_just_before : ∀ scope ∈ scopes program, BoundJustBefore scope
  outputs_declared : ∀ scope ∈ scopes program, ∀ output value,
    .assign output value ∈ scope → output < outputCount
  inputs_declared : ∀ scope ∈ scopes program, ∀ output index,
    .assign output (.input index) ∈ scope → index < inputCount
  returns_last : ∃ body, program = body ++ [.succeed] ∧ ∀ scope ∈ scopes body, .succeed ∉ scope

theorem innerScopesOf_append (first second : List Statement) :
    innerScopesOf (first ++ second) = innerScopesOf first ++ innerScopesOf second := by
  induction first with
  | nil => rfl
  | cons statement rest ih =>
      rw [List.cons_append, innerScopesOf, innerScopesOf, ih, List.append_assoc]

/-- What a program works on: how literal dimensions become a shape, and the inputs and outputs that
there are. -/
structure Context (Shape : Type) where
  literal : List Nat → Shape
  inputCount : Nat
  input : Nat → Shape
  outputCount : Nat

inductive Fault where
  | boundTwice (name : String)
  | unbound (name : String)
  | noInput (index : Nat)
  | noOutput (index : Nat)
  | noReturn

/-- The state of a run: the innermost scope, the scopes around it, the outputs, the assignments made
so far in order, and whether the run has ended. -/
structure Memory (Shape : Type) where
  scope : List (String × Shape)
  enclosing : List (List (String × Shape))
  outputs : List (Option Shape)
  assignments : List (Nat × Shape)
  returned : Bool

variable {Shape : Type}

def Memory.initial (outputCount : Nat) : Memory Shape where
  scope := []
  enclosing := []
  outputs := List.replicate outputCount none
  assignments := []
  returned := false

def Memory.assign (memory : Memory Shape) (output : Nat) (shape : Shape) : Memory Shape :=
  { memory with
    outputs := memory.outputs.set output (some shape)
    assignments := memory.assignments ++ [(output, shape)] }

namespace Context

/-- The shape that a value stands for; a name is looked up from the innermost scope outwards. -/
def evaluate (context : Context Shape) (memory : Memory Shape) : Value → Except Fault Shape
  | .named name =>
      match (memory.scope :: memory.enclosing).findSome? (·.lookup name) with
      | some shape => .ok shape
      | none => .error (.unbound name)
  | .input index =>
      if index < context.inputCount then .ok (context.input index) else .error (.noInput index)

/-- Sets one output. -/
def setOutput (context : Context Shape) (memory : Memory Shape) (output : Nat) (shape : Shape) :
    Except Fault (Memory Shape) :=
  if output < context.outputCount then .ok (memory.assign output shape)
  else .error (.noOutput output)

mutual

def execute (context : Context Shape) (memory : Memory Shape) :
    Statement → Except Fault (Memory Shape)
  | .bind name dimensions =>
      if (memory.scope.lookup name).isSome then .error (.boundTwice name)
      else .ok { memory with scope := (name, context.literal dimensions) :: memory.scope }
  | .assign output value => do
      let shape ← context.evaluate memory value
      context.setOutput memory output shape
  | .block body => do
      let inner ← executeAll context
        { memory with scope := [], enclosing := memory.scope :: memory.enclosing } body
      return { inner with scope := memory.scope, enclosing := memory.enclosing }
  | .succeed => .ok { memory with returned := true }

/-- Executes statements in order until one of them returns. -/
def executeAll (context : Context Shape) (memory : Memory Shape) :
    List Statement → Except Fault (Memory Shape)
  | [] => .ok memory
  | statement :: rest => do
      let next ← execute context memory statement
      if next.returned then return next else executeAll context next rest

end

/-- Runs a whole program, with every output unset at first. -/
def run (context : Context Shape) (program : List Statement) : Except Fault (Memory Shape) := do
  let memory ← context.executeAll (.initial context.outputCount) program
  if memory.returned then return memory else .error .noReturn

/-- The shape that an output is meant to get. -/
def shape (context : Context Shape) : OutputShape → Shape
  | .fixed dimensions => context.literal dimensions
  | .likeInput index => context.input index

theorem executeAll_cons {context : Context Shape} {memory next : Memory Shape}
    {statement : Statement} (step : context.execute memory statement = .ok next)
    (running : next.returned = false) (rest : List Statement) :
    context.executeAll memory (statement :: rest) = context.executeAll next rest := by
  rw [executeAll, step]
  change (if next.returned then _ else _) = _
  rw [running]
  rfl

theorem execute_bind {context : Context Shape} {memory : Memory Shape} {name : String}
    (fresh : memory.scope.lookup name = none) (dimensions : List Nat) :
    context.execute memory (.bind name dimensions) =
      .ok { memory with scope := (name, context.literal dimensions) :: memory.scope } := by
  rw [execute, fresh]
  rfl

/-- Executing an assignment whose value is known and whose output exists. -/
theorem execute_assign {context : Context Shape} {memory : Memory Shape} {output : Nat}
    {value : Value} {shape : Shape} (known : context.evaluate memory value = .ok shape)
    (declared : output < context.outputCount) :
    context.execute memory (.assign output value) = .ok (memory.assign output shape) := by
  rw [execute, known]
  exact if_pos declared

theorem execute_block {context : Context Shape} {memory inner : Memory Shape}
    {body : List Statement}
    (bodyRun : context.executeAll
      { memory with scope := [], enclosing := memory.scope :: memory.enclosing } body = .ok inner) :
    context.execute memory (.block body) =
      .ok { inner with scope := memory.scope, enclosing := memory.enclosing } := by
  rw [execute, bodyRun]
  rfl

end Context

end OperatorSource.ShapeProgram
