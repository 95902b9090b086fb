/-
**Names in scope.**

A scope is a chain of frames. Names are defined in the innermost frame and looked up from there
outwards; in a frame the latest definition of a name counts. Rules and variables have names of their
own and do not meet.

* `ruleParameter?_defineRule`, `variableValue?_defineVariable` — what a definition changes.
* `Scope.enter` opens a frame inside the innermost one, `Scope.exit` drops it again
  (`exit_enter`), and `Scope.outward` looks at the scope as it is some frames further out.
-/

import TurtleScene.Scene

namespace TurtleScene

/-- The definitions of one frame, the latest first. -/
structure Frame where
  rules : List (String × String)
  values : List (String × Operand)

/-- A frame without definitions. -/
def Frame.empty : Frame := ⟨[], []⟩

/-- The innermost frame and the frames around it, from the inside out. -/
structure Scope where
  innermost : Frame
  enclosing : List Frame

namespace Scope

/-- The scope of a single empty frame. -/
def root : Scope := ⟨.empty, []⟩

/-- All frames from the inside out. -/
def frames (scope : Scope) : List Frame := scope.innermost :: scope.enclosing

/-- The number of frames around the innermost one. -/
def depth (scope : Scope) : Nat := scope.enclosing.length

/-- Opens an empty frame inside the innermost one. -/
def enter (scope : Scope) : Scope := ⟨.empty, scope.frames⟩

/-- Drops the innermost frame; the outermost one stays. -/
def exit (scope : Scope) : Scope :=
  match scope.enclosing with
  | [] => scope
  | outer :: others => ⟨outer, others⟩

/-- The scope as it is a number of frames further out. -/
def outward (scope : Scope) : Nat → Scope
  | 0 => scope
  | distance + 1 => scope.exit.outward distance

/-- Defines a rule by its name and parameter. -/
def defineRule (scope : Scope) (name parameter : String) : Scope :=
  { scope with innermost.rules := (name, parameter) :: scope.innermost.rules }

/-- Defines a variable. -/
def defineVariable (scope : Scope) (name : String) (value : Operand) : Scope :=
  { scope with innermost.values := (name, value) :: scope.innermost.values }

/-- The parameter of a rule. -/
def ruleParameter? (scope : Scope) (name : String) : Option String :=
  scope.frames.findSome? fun frame => frame.rules.lookup name

/-- The value of a variable. -/
def variableValue? (scope : Scope) (name : String) : Option Operand :=
  scope.frames.findSome? fun frame => frame.values.lookup name

/-- Whether a rule is in scope. -/
def hasRule (scope : Scope) (name : String) : Bool := (scope.ruleParameter? name).isSome

/-- Whether a variable is in scope. -/
def hasVariable (scope : Scope) (name : String) : Bool := (scope.variableValue? name).isSome

@[simp] theorem exit_enter (scope : Scope) : scope.enter.exit = scope := rfl

/-! ### Looking up behind a definition -/

theorem ruleParameter?_defineRule (scope : Scope) (name parameter other : String) :
    (scope.defineRule name parameter).ruleParameter? other =
      if other = name then some parameter else scope.ruleParameter? other := by
  by_cases same : other = name
  · simp [ruleParameter?, frames, defineRule, same]
  · have different : (other == name) = false := by simpa using same
    simp only [ruleParameter?, frames, defineRule, List.findSome?_cons, List.lookup_cons,
      different, same, if_false]

theorem variableValue?_defineVariable (scope : Scope) (name other : String) (value : Operand) :
    (scope.defineVariable name value).variableValue? other =
      if other = name then some value else scope.variableValue? other := by
  by_cases same : other = name
  · simp [variableValue?, frames, defineVariable, same]
  · have different : (other == name) = false := by simpa using same
    simp only [variableValue?, frames, defineVariable, List.findSome?_cons, List.lookup_cons,
      different, same, if_false]

/-- The definition of a variable hides no rule. -/
@[simp] theorem ruleParameter?_defineVariable (scope : Scope) (name other : String)
    (value : Operand) :
    (scope.defineVariable name value).ruleParameter? other = scope.ruleParameter? other := rfl

/-- The definition of a rule hides no variable. -/
@[simp] theorem variableValue?_defineRule (scope : Scope) (name parameter other : String) :
    (scope.defineRule name parameter).variableValue? other = scope.variableValue? other := rfl

/-- An empty frame hides nothing. -/
@[simp] theorem ruleParameter?_enter (scope : Scope) (name : String) :
    scope.enter.ruleParameter? name = scope.ruleParameter? name := rfl

@[simp] theorem variableValue?_enter (scope : Scope) (name : String) :
    scope.enter.variableValue? name = scope.variableValue? name := rfl

end Scope

end TurtleScene
