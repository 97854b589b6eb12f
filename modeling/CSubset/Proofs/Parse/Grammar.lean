import CSubset.Token

/-!
# The language

Trees of programs, the lexemes they are written with, and what a statement may refer to. A name can be used once it
has been declared, in the same block or in an earlier one; any token can stand for a name or a value.
-/

namespace CSubset

/-- Declared names with their types, the latest declaration first. -/
abbrev Declared := List (String × DataType)

inductive Stmt where
  | declare (type : DataType) (name : String) (value : Option String)
  | print (argument : String)
  | returnZero
  | empty
  | assign (name first : String) (more : List String)
  deriving DecidableEq, Repr

abbrev Block := List Stmt

abbrev Program := List Block

namespace Stmt

def lexemes : Stmt → List String
  | declare type name none => [type.name, name, ";"]
  | declare type name (some value) => [type.name, name, "=", value, ";"]
  | print argument => ["print", "(", argument, ")", ";"]
  | returnZero => ["return", "0", ";"]
  | empty => [";"]
  | assign name first more => name :: "=" :: first :: (more ++ [";"])

def declares (d : Declared) : Stmt → Declared
  | declare type name _ => (name, type) :: d
  | print _ | returnZero | empty | assign .. => d

/-- What is printed is a string literal or declared; what is assigned to is a declared word, and starts no statement of
another kind. -/
def Allowed (d : Declared) : Stmt → Prop
  | declare .. | returnZero | empty => True
  | print argument => isQuotedText argument ∨ (d.lookup argument).isSome
  | assign name first more =>
    isWordText name ∧ (d.lookup name).isSome ∧ name ∉ ["int", "float", "bool", "string", "print"] ∧
      ";" ∉ first :: more

instance (d : Declared) : (st : Stmt) → Decidable (st.Allowed d)
  | declare .. | returnZero | empty => inferInstanceAs (Decidable True)
  | print _ => inferInstanceAs (Decidable (_ ∨ _))
  | assign .. => inferInstanceAs (Decidable (_ ∧ _ ∧ _ ∧ _))

theorem lexemes_eq_cons {d : Declared} {st : Stmt} (h : st.Allowed d) :
    ∃ w ws, st.lexemes = w :: ws ∧ w ≠ "\x7d" := by
  cases st with
  | declare type name value =>
    have hname : type.name ≠ "\x7d" := by cases type <;> decide
    cases value <;> exact ⟨_, _, rfl, hname⟩
  | print argument => exact ⟨_, _, rfl, by decide⟩
  | returnZero => exact ⟨_, _, rfl, by decide⟩
  | empty => exact ⟨_, _, rfl, by decide⟩
  | assign name first more =>
    refine ⟨_, _, rfl, ?_⟩
    rintro rfl
    exact absurd h.1 (by decide)

end Stmt

namespace Block

def lexemes (b : Block) : List String :=
  ["main", "(", ")", "\x7b"] ++ b.flatMap Stmt.lexemes ++ ["\x7d"]

def declares (d : Declared) (b : Block) : Declared := b.foldl Stmt.declares d

def Allowed (d : Declared) : Block → Prop
  | [] => True
  | st :: b => st.Allowed d ∧ Allowed (st.declares d) b

instance decidableAllowed (d : Declared) : (b : Block) → Decidable (Allowed d b)
  | [] => inferInstanceAs (Decidable True)
  | st :: b =>
    have := decidableAllowed (st.declares d) b
    inferInstanceAs (Decidable (_ ∧ _))

theorem allowed_append (d : Declared) (a b : Block) : Allowed d (a ++ b) ↔ Allowed d a ∧ Allowed (declares d a) b := by
  induction a generalizing d with
  | nil => simp [Allowed, declares]
  | cons st a ih => simp [Allowed, ih (st.declares d), declares, and_assoc]

end Block

namespace Program

def lexemes (p : Program) : List String := p.flatMap Block.lexemes

/-- All blocks share their declarations. -/
def Allowed (d : Declared) (p : Program) : Prop := Block.Allowed d p.flatten

instance (d : Declared) (p : Program) : Decidable (p.Allowed d) := inferInstanceAs (Decidable (Block.Allowed ..))

def declares (d : Declared) (p : Program) : Declared := Block.declares d p.flatten

theorem allowed_append (d : Declared) (p q : Program) :
    Allowed d (p ++ q) ↔ p.Allowed d ∧ q.Allowed (p.declares d) := by
  unfold Allowed
  rw [List.flatten_append, Block.allowed_append]
  rfl

theorem declares_append (d : Declared) (p q : Program) : declares d (p ++ q) = q.declares (p.declares d) := by
  unfold declares Block.declares
  rw [List.flatten_append, List.foldl_append]

theorem allowed_cons (d : Declared) (b : Block) (p : Program) :
    Allowed d (b :: p) ↔ b.Allowed d ∧ p.Allowed (b.declares d) := by
  unfold Allowed
  rw [List.flatten_cons, Block.allowed_append]

theorem declares_cons (d : Declared) (b : Block) (p : Program) : declares d (b :: p) = p.declares (b.declares d) := by
  unfold declares Block.declares
  rw [List.flatten_cons, List.foldl_append]

end Program

def IsProgram (lexemes : List String) : Prop := ∃ p : Program, p.Allowed [] ∧ p.lexemes = lexemes

end CSubset
