import ContractWrapper.Toml.Number
import ContractWrapper.Toml.Scan

/-! TOML dates and times. -/

set_option autoImplicit false

namespace ContractWrapper.Toml

/-- A number of a fixed width within bounds. -/
def fixedNumber (width low high : Nat) : Scan Nat := do
  let digits ← Scan.exactly width (Scan.satisfying Char.isDigit)
  let value := valueOf 10 digits
  Scan.ensure (low ≤ value && value ≤ high)
  return value

def isLeapYear (year : Nat) : Bool :=
  year % 4 == 0 && (year % 100 != 0 || year % 400 == 0)

def daysIn (year month : Nat) : Nat :=
  if month == 2 then (if isLeapYear year then 29 else 28)
  else if month == 4 || month == 6 || month == 9 || month == 11 then 30
  else 31

def calendarDate : Scan Unit := do
  let year ← fixedNumber 4 0 9999
  let _ ← Scan.char '-'
  let month ← fixedNumber 2 1 12
  let _ ← Scan.char '-'
  let day ← fixedNumber 2 1 31
  Scan.ensure (day ≤ daysIn year month)

/-- Seconds may be a leap second, and may have decimal places. -/
def timeOfDay : Scan Unit := do
  let _ ← fixedNumber 2 0 23
  let _ ← Scan.char ':'
  let _ ← fixedNumber 2 0 59
  let _ ← Scan.char ':'
  let _ ← fixedNumber 2 0 60
  let _ ← Scan.attempt do
    let _ ← Scan.char '.'
    let _ ← Scan.satisfying Char.isDigit
    Scan.many (Scan.satisfying Char.isDigit)

def utcOffset : Scan Unit := do
  let zero : Scan Unit := do
    let _ ← Scan.char 'Z' <|> Scan.char 'z'
  let shifted : Scan Unit := do
    let _ ← Scan.char '+' <|> Scan.char '-'
    let _ ← fixedNumber 2 0 23
    let _ ← Scan.char ':'
    let _ ← fixedNumber 2 0 59
  zero <|> shifted

/-- A time of day, or a date that a time and an offset may follow. -/
def dateTime : Scan Unit := do
  let full : Scan Unit := do
    calendarDate
    let _ ← Scan.attempt do
      let _ ← Scan.satisfying fun c => c == 'T' || c == 't' || c == ' '
      timeOfDay
      Scan.attempt utcOffset
  full <|> timeOfDay

end ContractWrapper.Toml
