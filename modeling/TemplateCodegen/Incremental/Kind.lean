/-!
# Kinds of values

The values that flow through a graph are of many types, and a graph is asked for values of a type.
Types are named by kinds: the base kinds of an application, pairs and lists. Equality of kinds is
decided, and every kind brings a test of equality of its values, by which a graph tells that nothing
has changed.
-/

namespace TemplateCodegen.Incremental

/-- The base kinds of an application: the type of each and its test of equality. -/
class Payload (β : Type) where
  /-- The values of a base kind. -/
  Carrier : β → Type
  /-- The test by which two of them count as equal. -/
  beq : (b : β) → Carrier b → Carrier b → Bool

/-- A kind of values. -/
inductive Kind (β : Type) where
  /-- A base kind. -/
  | base (b : β)
  /-- Pairs. -/
  | pair (left right : Kind β)
  /-- Lists. -/
  | list (item : Kind β)
deriving DecidableEq, Repr

namespace Kind

variable {β : Type} [Payload β]

/-- The values of a kind. -/
def Val : Kind β → Type
  | .base b => Payload.Carrier b
  | .pair left right => left.Val × right.Val
  | .list item => List item.Val

/-- The test of equality of a kind: component by component and item by item. -/
def beq : (kind : Kind β) → kind.Val → kind.Val → Bool
  | .base b, one, other => Payload.beq b one other
  | .pair left right, one, other => left.beq one.1 other.1 && right.beq one.2 other.2
  | .list item, ones, others => beqItems item.beq ones others
where
  /-- Two lists are equal when they are equally long and their items are equal one by one. -/
  beqItems {α : Type} (eq : α → α → Bool) : List α → List α → Bool
    | [], [] => true
    | one :: ones, other :: others => eq one other && beqItems eq ones others
    | _, _ => false

instance (kind : Kind β) : BEq kind.Val := ⟨kind.beq⟩

end Kind

end TemplateCodegen.Incremental
