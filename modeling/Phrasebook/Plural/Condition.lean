import Phrasebook.Plural.Operands

/-! Conditions of cardinal plural rules.

A condition is a disjunction of conjunctions of relations. A relation compares
an operand, or its remainder, with a list of ranges.
-/

set_option autoImplicit false

namespace Phrasebook

inductive Operand where
  | n
  | i
  | v
  | w
  | f
  | t
  | e
  deriving DecidableEq, Repr

/-- The value of an operand. A number with a fraction has no whole value `n`, and
no number here has an exponent of its own. -/
def Operands.value? (operands : Operands) : Operand → Option Nat
  | .n => if operands.w = 0 then some operands.i else none
  | .i => some operands.i
  | .v => some operands.v
  | .w => some operands.w
  | .f => some operands.f
  | .t => some operands.t
  | .e => some 0

structure Term where
  operand : Operand
  modulus : Option Nat := none
  deriving DecidableEq, Repr

namespace Term

def n : Term := ⟨.n, none⟩

def i : Term := ⟨.i, none⟩

def v : Term := ⟨.v, none⟩

def f : Term := ⟨.f, none⟩

def t : Term := ⟨.t, none⟩

def e : Term := ⟨.e, none⟩

instance : HMod Term Nat Term := ⟨fun term modulus => ⟨term.operand, some modulus⟩⟩

def value? (term : Term) (operands : Operands) : Option Nat :=
  let value := operands.value? term.operand
  match term.modulus with
  | none => value
  | some modulus => value.map (· % modulus)

theorem value?_v (operands : Operands) : v.value? operands = some operands.v := rfl

theorem value?_i_mod (operands : Operands) (modulus : Nat) :
    (i % modulus).value? operands = some (operands.i % modulus) := rfl

end Term

/-- The whole numbers from `first` to `last`. A numeral is the range of itself. -/
structure Range where
  first : Nat
  last : Nat
  deriving DecidableEq, Repr

instance (number : Nat) : OfNat Range number := ⟨⟨number, number⟩⟩

def Range.contains (range : Range) (number : Nat) : Bool :=
  range.first ≤ number && number ≤ range.last

@[simp] theorem Range.contains_mk (first last number : Nat) :
    Range.contains ⟨first, last⟩ number = true ↔ first ≤ number ∧ number ≤ last := by
  simp [Range.contains]

@[simp] theorem Range.contains_ofNat (value number : Nat) :
    Range.contains (no_index (OfNat.ofNat value)) number = true ↔ number = value := by
  show Range.contains ⟨value, value⟩ number = true ↔ number = value
  rw [Range.contains_mk]
  omega

structure Relation where
  term : Term
  inside : Bool
  ranges : List Range
  deriving DecidableEq, Repr

namespace Relation

/-- A term without a value lies in no range. -/
def holds (relation : Relation) (operands : Operands) : Bool :=
  let found := match relation.term.value? operands with
    | none => false
    | some value => relation.ranges.any (·.contains value)
  found == relation.inside

end Relation

def Term.isIn (term : Term) (ranges : List Range) : Relation := ⟨term, true, ranges⟩

def Term.notIn (term : Term) (ranges : List Range) : Relation := ⟨term, false, ranges⟩

section

variable {term : Term} {operands : Operands} {value : Nat}

theorem Term.holds_isIn (known : term.value? operands = some value) (ranges : List Range) :
    (term.isIn ranges).holds operands = true ↔ ∃ range ∈ ranges, range.contains value = true := by
  simp [Term.isIn, Relation.holds, known]

theorem Term.holds_notIn (known : term.value? operands = some value) (ranges : List Range) :
    (term.notIn ranges).holds operands = true ↔ ∀ range ∈ ranges, ¬range.contains value = true := by
  simp [Term.notIn, Relation.holds, known]

end

/-- Alternatives, each of which is a list of relations that hold together. -/
abbrev Condition := List (List Relation)

def Condition.holds (condition : Condition) (operands : Operands) : Bool :=
  condition.any fun alternative => alternative.all (·.holds operands)

theorem Condition.holds_iff {condition : Condition} {operands : Operands} :
    condition.holds operands = true ↔
      ∃ alternative ∈ condition, ∀ relation ∈ alternative, relation.holds operands = true := by
  simp [Condition.holds]

end Phrasebook
