import AnswerStream.Calendar.Date

/-!
Instants of Coordinated Universal Time: a day, a second of it, and nanoseconds. A leap second is the
second 59 with a thousand million nanoseconds more.
-/

namespace AnswerStream.Calendar

/-- A time of day as it is written. -/
structure TimeOfDay where
  hour : Nat
  minute : Nat
  /-- Up to 60. -/
  second : Nat
  nano : Nat
  deriving DecidableEq, Repr

def TimeOfDay.valid (t : TimeOfDay) : Bool :=
  t.hour < 24 && t.minute < 60 && t.second ≤ 60 && t.nano < 1000000000

structure Timestamp where
  day : Int
  /-- Below 86400. -/
  second : Nat
  /-- Below two thousand million. -/
  nano : Nat
  deriving DecidableEq, Repr

namespace Timestamp

def secondsPerDay : Nat := 86400

/-- A local time, `offset` seconds east of Greenwich, as an instant; its date may leave the
calendar. -/
def ofLocal? (d : Date) (t : TimeOfDay) (offset : Int) : Option Timestamp :=
  let leap := t.second = 60
  let second := if leap then 59 else t.second
  let total : Int := (t.hour * 3600 + t.minute * 60 + second : Nat) - offset
  let day := d.toDays + total.fdiv secondsPerDay
  let date := Date.ofDays day
  if Date.firstYear ≤ date.year ∧ date.year ≤ Date.lastYear then
    some ⟨day, (total.fmod secondsPerDay).toNat, if leap then t.nano + 1000000000 else t.nano⟩
  else none

def date (t : Timestamp) : Date := .ofDays t.day

def hour (t : Timestamp) : Nat := t.second / 3600

def minute (t : Timestamp) : Nat := t.second / 60 % 60

/-- A fraction is written with three, six or nine digits, whichever is the first to be exact. -/
def renderFraction (nano : Nat) : List Char :=
  if nano = 0 then []
  else if nano % 1000000 = 0 then '.' :: Decimal.padded 3 (nano / 1000000)
  else if nano % 1000 = 0 then '.' :: Decimal.padded 6 (nano / 1000)
  else '.' :: Decimal.padded 9 nano

def render (t : Timestamp) : String :=
  let leap := 1000000000 ≤ t.nano
  let second := t.second % 60 + if leap then 1 else 0
  let nano := if leap then t.nano - 1000000000 else t.nano
  String.ofList (t.date.renderChars ++ 'T' :: Decimal.padded 2 t.hour ++ ':' ::
    Decimal.padded 2 t.minute ++ ':' :: Decimal.padded 2 second ++ renderFraction nano ++ ['Z'])

/-- Date, hour and minute. -/
def renderMinute (t : Timestamp) : String :=
  String.ofList (t.date.renderChars ++ ' ' :: Decimal.padded 2 t.hour ++ ':' ::
    Decimal.padded 2 t.minute)

end Timestamp
end AnswerStream.Calendar
