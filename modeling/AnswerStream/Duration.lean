import AnswerStream.Decimal.Binary

/-!
Spans of time in whole nanoseconds, with their measure in seconds as a double precision number.
`ofSeconds?` rounds the exact number of nanoseconds once.
-/

namespace AnswerStream

structure Duration where
  nanos : Nat
  deriving DecidableEq, Repr, Inhabited

namespace Duration

def perSecond : Nat := 1000000000

def perMilli : Nat := 1000000

/-- Durations stay below `2 ^ 64` seconds. -/
def limit : Nat := Nat.pow 2 64 * perSecond

def zero : Duration := ⟨0⟩

def ofSecs (n : Nat) : Duration := ⟨n * perSecond⟩

def ofMillis (n : Nat) : Duration := ⟨n * perMilli⟩

def isZero (d : Duration) : Bool := d.nanos == 0

def wholeMillis (d : Duration) : Nat := d.nanos / perMilli

instance : Add Duration := ⟨fun a b => ⟨a.nanos + b.nanos⟩⟩

/-- The time since an earlier instant; nothing where that instant is still to come. -/
instance : Sub Duration := ⟨fun a b => ⟨a.nanos - b.nanos⟩⟩

instance : Min Duration := ⟨fun a b => ⟨min a.nanos b.nanos⟩⟩

instance : Max Duration := ⟨fun a b => ⟨max a.nanos b.nanos⟩⟩

instance : LE Duration := ⟨fun a b => a.nanos ≤ b.nanos⟩

instance : LT Duration := ⟨fun a b => a.nanos < b.nanos⟩

instance (a b : Duration) : Decidable (a ≤ b) := inferInstanceAs (Decidable (a.nanos ≤ b.nanos))

instance (a b : Duration) : Decidable (a < b) := inferInstanceAs (Decidable (a.nanos < b.nanos))

@[simp] theorem nanos_add (a b : Duration) : (a + b).nanos = a.nanos + b.nanos := rfl

@[simp] theorem nanos_sub (a b : Duration) : (a - b).nanos = a.nanos - b.nanos := rfl

@[simp] theorem nanos_min (a b : Duration) : (min a b).nanos = min a.nanos b.nanos := rfl

@[simp] theorem nanos_max (a b : Duration) : (max a b).nanos = max a.nanos b.nanos := rfl

@[simp] theorem le_iff (a b : Duration) : a ≤ b ↔ a.nanos ≤ b.nanos := Iff.rfl

@[simp] theorem lt_iff (a b : Duration) : a < b ↔ a.nanos < b.nanos := Iff.rfl

/-- Whole seconds and the rest are converted apart and then added. -/
def seconds (d : Duration) : Float :=
  (d.nanos / perSecond).toUInt64.toFloat + (d.nanos % perSecond).toUInt64.toFloat / 1e9

/-- Refuses what is negative, undefined or too long; the sign of zero does not matter. -/
def ofSeconds? (x : Float) : Option Duration :=
  match Decimal.Magnitude.ofFloat x with
  | .finite b =>
    if b.negative ∧ b.significand ≠ 0 then none
    else
      let (num, den) := b.ratio
      let n := Decimal.roundDiv (num * perSecond) den
      if n < limit then some ⟨n⟩ else none
  | .infinite _ | .undefined => none

/-- Divides by a number, in seconds. -/
def divide (d : Duration) (x : Float) : Duration := (ofSeconds? (d.seconds / x)).getD zero

end Duration
end AnswerStream
