import UrlCalculus.Config
import UrlCalculus.Error

/-!
# Contexts and evaluators

An expression is evaluated against a subject, at a depth. Every nested evaluation happens one level
deeper, with the same subject or with another one. What an operation can do with an expression is
an `Evaluator`: evaluate it, and tell whether it is a call at all.
-/

namespace UrlCalculus

structure Context where
  /-- The value that expressions are about when they name no other. -/
  subject : Value
  depth : Nat

namespace Context

/-- The context of a whole expression. -/
def root (subject : Value) : Context := ⟨subject, 0⟩

/-- One level deeper, about the same subject. -/
def descend (c : Context) : Context := ⟨c.subject, c.depth + 1⟩

/-- One level deeper, about another subject. -/
def withSubject (c : Context) (subject : Value) : Context := ⟨subject, c.depth + 1⟩

@[simp]
theorem depth_descend (c : Context) : c.descend.depth = c.depth + 1 := rfl

@[simp]
theorem subject_descend (c : Context) : c.descend.subject = c.subject := rfl

@[simp]
theorem depth_withSubject (c : Context) (v : Value) : (c.withSubject v).depth = c.depth + 1 := rfl

@[simp]
theorem subject_withSubject (c : Context) (v : Value) : (c.withSubject v).subject = v := rfl

end Context

structure Evaluator where
  evaluate : Context → Value → Except Error Value
  /-- Whether evaluation does anything but return the expression. -/
  isExpression : Value → Bool
  defaultBase : String := standardBase

/-- The evaluator for which no value is a call. -/
def Evaluator.inert : Evaluator where
  evaluate _ expression := .ok expression
  isExpression _ := false

end UrlCalculus
