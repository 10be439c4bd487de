import GuardedPlan.Number.Binary64
import GuardedPlan.Toml.Basic
import GuardedPlan.Toml.Text

/-!
# Bare words of TOML

Booleans, integers in four bases, floats and dates. Underscores may stand between digits, decimal integers have no leading zeros, and a float has to be finite unless it says that it is not. Dates and times have to exist.
-/

namespace GuardedPlan.Toml

namespace Scalar

def isDigit (c : Char) : Bool :=
  '0' ≤ c && c ≤ '9'

/-- The digits of a group in which underscores stand only between digits. -/
def digits? (isDigit : Char → Bool) (group : List Char) : Option (List Char) :=
  let runs := group.splitOn '_'
  if runs.all fun run => !run.isEmpty && run.all isDigit then some runs.flatten else none

def number? (base : Nat) (group : List Char) : Option Nat :=
  let isDigit (c : Char) : Bool := ((Text.hexValue? c).map fun d => decide (d < base)).getD false
  (digits? isDigit group).map fun digits => digits.foldl (fun n c => n * base + (Text.hexValue? c).getD 0) 0

def signed : List Char → Bool × List Char
  | '-' :: rest => (true, rest)
  | '+' :: rest => (false, rest)
  | rest => (false, rest)

def hasLeadingZero : List Char → Bool
  | '0' :: _ :: _ => true
  | _ => false

/-- Whether an integer lies in the range of some integer of 128 bits. -/
def isRepresentable (n : Int) : Bool :=
  -Int.pow 2 127 ≤ n && n < Int.pow 2 128

def integer? (word : List Char) : Option Int :=
  let magnitude? : Option Int := match word with
    | '0' :: 'x' :: rest => (number? 16 rest).map Int.ofNat
    | '0' :: 'o' :: rest => (number? 8 rest).map Int.ofNat
    | '0' :: 'b' :: rest => (number? 2 rest).map Int.ofNat
    | _ =>
      let (negative, rest) := signed word
      if hasLeadingZero rest then none
      else (number? 10 rest).map fun n => if negative then -(n : Int) else n
  magnitude?.filter isRepresentable

/-- The parts of a float: its whole digits, its fraction digits and its exponent, if the last two are there. -/
def floatParts (unsigned : List Char) : List Char × Option (List Char) × Option (List Char) :=
  let isMark (c : Char) : Bool := c = 'e' || c = 'E'
  let front := unsigned.takeWhile (!isMark ·)
  let exponent := match unsigned.dropWhile (!isMark ·) with
    | _ :: rest => some rest
    | [] => none
  let fraction := match front.dropWhile (· ≠ '.') with
    | _ :: rest => some rest
    | [] => none
  (front.takeWhile (· ≠ '.'), fraction, exponent)

def isFloat (word : List Char) : Bool :=
  let (negative, unsigned) := signed word
  if unsigned = "inf".toList ∨ unsigned = "nan".toList then true
  else
    let (whole, fraction, exponent) := floatParts unsigned
    if fraction.isNone && exponent.isNone || hasLeadingZero whole then false
    else
      let (down, power) := signed (exponent.getD ['0'])
      match digits? isDigit whole, digits? isDigit (fraction.getD ['0']), number? 10 power with
      | some whole, some tail, some power =>
        let significand := (whole ++ tail).foldl (fun n c => n * 10 + (Text.hexValue? c).getD 0) 0
        let exponent : Int := (if down then -(power : Int) else power) - tail.length
        (Binary64.ofDecimal? negative significand exponent).isSome
      | _, _, _ => false

/-- The number written by exactly as many digits. -/
def fixed? (count : Nat) (group : List Char) : Option Nat :=
  if group.length = count && group.all isDigit then
    some (group.foldl (fun n c => n * 10 + (c.toNat - 48)) 0)
  else none

def daysIn (year month : Nat) : Nat :=
  if month = 2 then
    if year % 4 = 0 ∧ (year % 100 ≠ 0 ∨ year % 400 = 0) then 29 else 28
  else if month = 4 ∨ month = 6 ∨ month = 9 ∨ month = 11 then 30
  else 31

def isDate (word : List Char) : Bool :=
  match word.splitOn '-' with
  | [year, month, day] =>
    match fixed? 4 year, fixed? 2 month, fixed? 2 day with
    | some year, some month, some day => 1 ≤ month && month ≤ 12 && 1 ≤ day && day ≤ daysIn year month
    | _, _, _ => false
  | _ => false

/-- Whether a group is the seconds of a time, with or without a fraction. -/
def isSecond (group : List Char) : Bool :=
  match group.splitOn '.' with
  | [second] => (fixed? 2 second).any (· ≤ 60)
  | [second, fraction] => (fixed? 2 second).any (· ≤ 60) && !fraction.isEmpty && fraction.all isDigit
  | _ => false

def isMinute (hour minute : List Char) : Bool :=
  (fixed? 2 hour).any (· ≤ 23) && (fixed? 2 minute).any (· ≤ 59)

/-- Whether a word is a time of day; seconds may be left out. -/
def isTime (word : List Char) : Bool :=
  match word.splitOn ':' with
  | [hour, minute] => isMinute hour minute
  | [hour, minute, second] => isMinute hour minute && isSecond second
  | _ => false

/-- Whether a word is a time of day with an offset. -/
def isOffsetTime (word : List Char) : Bool :=
  let body := word.takeWhile fun c => !(c = 'Z' || c = 'z' || c = '+' || c = '-')
  match word.dropWhile fun c => !(c = 'Z' || c = 'z' || c = '+' || c = '-') with
  | [] => isTime body
  | [mark] => (mark = 'Z' || mark = 'z') && isTime body
  | mark :: offset =>
    (mark = '+' || mark = '-') && isTime body &&
      match offset.splitOn ':' with
      | [hour, minute] => isMinute hour minute
      | _ => false

/-- Whether a word is a date, a time or both. -/
def isMoment (word : List Char) : Bool :=
  isDate word || isTime word ||
    (isDate (word.take 10) &&
      match word.drop 10 with
      | mark :: time => (mark = 'T' || mark = 't' || mark = ' ') && isOffsetTime time
      | [] => false)

def isWordChar (c : Char) : Bool :=
  c.isAlphanum || c = '_' || c = '-' || c = '+' || c = '.' || c = ':'

/-- Splits off the bare word at the front; a date and a time of day may have one space between them. -/
def word (input : List Char) : List Char × List Char :=
  let front := input.takeWhile isWordChar
  match input.dropWhile isWordChar with
  | ' ' :: c :: rest =>
    if isDate front && isDigit c then
      (front ++ ' ' :: (c :: rest).takeWhile isWordChar, (c :: rest).dropWhile isWordChar)
    else (front, ' ' :: c :: rest)
  | rest => (front, rest)

def value? (word : List Char) : Option Toml :=
  if word = "true".toList then some (boolean true)
  else if word = "false".toList then some (boolean false)
  else
    match integer? word with
    | some n => some (integer n)
    | none =>
      if isFloat word then some (float (String.ofList word))
      else if isMoment word then some (moment (String.ofList word))
      else none

end Scalar

end GuardedPlan.Toml
