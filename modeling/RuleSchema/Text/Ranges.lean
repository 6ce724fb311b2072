/-!
# Sets of characters as ranges

Unicode properties are long lists of code point ranges.  A set is written as
text, `41-5A 61-7A AA`, decoded once, and searched by bisection.
-/

namespace RuleSchema.Text

/-- Ascending disjoint inclusive ranges of code points. -/
structure Ranges where
  bounds : Array (Nat × Nat)

namespace Ranges

/-- The state of reading a range list: finished ranges, pending start, current number. -/
structure Reading where
  done : Array (Nat × Nat)
  start : Option Nat
  current : Option Nat

/-- The value of a hexadecimal digit. -/
def hexValue? (c : Char) : Option Nat :=
  if '0' ≤ c ∧ c ≤ '9' then some (c.toNat - 48)
  else if 'a' ≤ c ∧ c ≤ 'f' then some (c.toNat - 87)
  else if 'A' ≤ c ∧ c ≤ 'F' then some (c.toNat - 55)
  else none

/-- Close the pending range, a single code point being a range of its own. -/
def Reading.close (reading : Reading) : Reading :=
  match reading.current with
  | none => reading
  | some last => ⟨reading.done.push (reading.start.getD last, last), none, none⟩

/-- Read one character of a range list. -/
def Reading.step (reading : Reading) (c : Char) : Reading :=
  match hexValue? c with
  | some digit => { reading with current := some (reading.current.getD 0 * 16 + digit) }
  | none =>
      if c = '-' then { reading with start := reading.current, current := none }
      else reading.close

/-- The table that a text of ranges spells. -/
def ofText (text : String) : Ranges :=
  ⟨(text.toList.foldl Reading.step ⟨#[], none, none⟩).close.done⟩

/-- Bisect for a range that holds `code`, among the positions from `low` below `high`. -/
def search (bounds : Array (Nat × Nat)) (code : Nat) : Nat → Nat → Nat → Bool
  | 0, _, _ => false
  | fuel + 1, low, high =>
      if low < high then
        let middle := (low + high) / 2
        match bounds[middle]? with
        | none => false
        | some (first, last) =>
            if code < first then search bounds code fuel low middle
            else if last < code then search bounds code fuel (middle + 1) high
            else true
      else false

/-- Whether a character is in one of the ranges. -/
def has (ranges : Ranges) (c : Char) : Bool :=
  search ranges.bounds c.toNat (ranges.bounds.size.log2 + 2) 0 ranges.bounds.size

/--
A rule that moves every `stride`-th code point of a range by a fixed distance,
as case mappings do.
-/
structure Shift where
  first : Nat
  last : Nat
  stride : Nat
  distance : Int

/-- Whether a shift moves a code point. -/
def Shift.moves (shift : Shift) (code : Nat) : Bool :=
  shift.first ≤ code && code ≤ shift.last && (code - shift.first) % shift.stride == 0

/-- The image of a character under the first shift that moves it. -/
def shifted (shifts : List Shift) (c : Char) : Char :=
  match shifts.find? (fun shift => shift.moves c.toNat) with
  | some shift => Char.ofNat ((c.toNat : Int) + shift.distance).toNat
  | none => c

end Ranges

end RuleSchema.Text
