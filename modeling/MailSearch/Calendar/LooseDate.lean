import MailSearch.Calendar.Fields

/-!
# Loose dates

The most forgiving reader of dates.  It expects day, month, year, hour, minute,
second and zone in this order, takes the digits it finds for each of them, and
passes over everything else.  A month is told by its second and third letter, a
semicolon starts all over, and a sign goes straight to the zone.
-/

namespace MailSearch
namespace Calendar
namespace LooseDate

/-- A number that is being read, digit by digit from the left. -/
structure Slot where
  /-- The value so far, as if all further digits were zero. -/
  value : Nat
  /-- The number of digits that may still follow. -/
  free : Nat

/-- Take one digit; digits beyond the width are passed over. -/
def Slot.push (slot : Slot) (digit : Nat) : Slot :=
  match slot.free with
  | 0 => slot
  | free + 1 => ⟨slot.value + digit * Nat.pow 10 free, free⟩

/-- The value when no more digits follow. -/
def Slot.close (slot : Slot) : Slot :=
  ⟨slot.value / Nat.pow 10 slot.free, slot.free⟩

/-- How far the reader has come. -/
structure State where
  /-- Day, month, year, hour, minute, second and zone. -/
  slots : List Slot
  /-- The place of the part that is being read. -/
  position : Nat
  /-- Whether a digit was read yet; before that, no part ends. -/
  started : Bool
  /-- Whether a part has begun since the last separator. -/
  begun : Bool
  /-- The letters read in the place of the month. -/
  letters : List Char
  /-- Whether the zone lies east. -/
  east : Bool
  /-- The number of open parentheses. -/
  depth : Nat
  /-- Whether a backslash stands before the next character of a comment. -/
  escaped : Bool

/-- The state before the first character. -/
def start : State :=
  { slots := [⟨0, 2⟩, ⟨0, 2⟩, ⟨0, 4⟩, ⟨0, 2⟩, ⟨0, 2⟩, ⟨0, 2⟩, ⟨0, 4⟩]
    position := 0
    started := false
    begun := false
    letters := []
    east := true
    depth := 0
    escaped := false }

namespace State

/-- Go on to the next part, if this one has begun. -/
def advance (state : State) : State :=
  if state.started && state.begun then
    { state with
      slots := state.slots.modify state.position Slot.close
      position := state.position + 1
      begun := false }
  else state

/-- Take one digit into the part that is being read. -/
def pushDigit (state : State) (digit : Nat) : State :=
  match state.slots[state.position]? with
  | some slot =>
      if slot.free = 0 then { state with started := true }
      else
        { state with
          slots := state.slots.set state.position (slot.push digit)
          started := true
          begun := true }
  | none => { state with started := true }

/-- Take one letter; only those in the place of the month have a meaning. -/
def pushLetter (state : State) (c : Char) : State :=
  { state with
    letters := if state.position = 1 then state.letters ++ [c.toLower]
      else state.letters
    begun := true }

/-- Pass over one character of a comment; a backslash protects a closing
parenthesis. -/
def inComment (state : State) (c : Char) : State :=
  if c = ')' && state.escaped then { state with escaped := false }
  else if c = ')' then { state with depth := state.depth - 1 }
  else if c = '(' then { state with depth := state.depth + 1, escaped := false }
  else { state with escaped := c = '\\' }

/-- Read one character. -/
def step (state : State) (c : Char) : State :=
  if state.depth > 0 then state.inComment c
  else if c.isDigit then state.pushDigit (c.toNat - '0'.toNat)
  else if c = ':' then
    if state.position = 3 ∨ state.position = 4 then state.advance else state
  else if c = '+' then { state with position := 6 }
  else if c = '-' then { state with position := 6, east := false }
  else if c = ' ' ∨ c = '\t' ∨ c = '\n' then state.advance
  else if c = '(' then { state with depth := 1, begun := false }
  else if c = ';' then start
  else if c.isAlpha then state.pushLetter c
  else state

/-- The value of a part. -/
def value (state : State) (place : Nat) : Nat :=
  ((state.slots[place]?).map Slot.value).getD 0

end State

/-- The weight of a letter in the name of a month. -/
def weight (c : Char) : Nat :=
  match c with
  | 'a' | 't' | 'y' => 0
  | 'c' | 'l' => 4
  | 'r' | 'u' => 5
  | 'e' | 'n' => 10
  | 'b' | 'g' => 14
  | 'o' | 'p' | 'v' => 15
  | _ => 31

/-- The month whose second and third letter have a given total weight, zero if
there is none. -/
def monthOfWeight (total : Nat) : Nat :=
  match total with
  | 10 => 1
  | 24 => 2
  | 5 => 3
  | 20 => 4
  | 0 => 5
  | 15 => 6
  | 9 => 7
  | 19 => 8
  | 25 => 9
  | 4 => 10
  | 30 => 11
  | 14 => 12
  | _ => 0

/-- The month that was read as a name of three letters or as a number. -/
def State.month (state : State) : Nat :=
  match state.letters with
  | [_, second, third] =>
      if weight second + weight third ≤ 30 then
        monthOfWeight (weight second + weight third)
      else state.value 1
  | _ => state.value 1

/-- A year below 50 counts from 2000 and one below 100 from 1900. -/
def fullYear (year : Nat) : Nat :=
  if year < 50 then 2000 + year else if year < 100 then 1900 + year else year

/-- The zone that was read as hours and minutes, in seconds. -/
def State.zone (state : State) : Option Int :=
  let hours := state.value 6 / 100
  let minutes := state.value 6 % 100
  let seconds : Int := hours * 3600 + minutes * 60
  if minutes < 60 then some (if state.east then seconds else -seconds) else none

/-- The instant that was read, if the time of day was complete. -/
def State.instant? (state : State) : Option Instant :=
  if state.position < 6 then none
  else
    let fields : Except DateError Fields := do
      let fields ← Fields.none.setYear (fullYear (state.value 2))
      let fields ← fields.setMonth state.month
      let fields ← fields.setDay (state.value 0)
      let fields ← fields.setHour (state.value 3)
      let fields ← fields.setMinute (state.value 4)
      fields.setSecond (state.value 5)
    match fields, state.zone with
    | .ok fields, some zone =>
        ({ fields with offset := some zone }.instant).toOption
    | _, _ => none

/-- Read a date from a text. -/
def read? (text : List Char) : Option Instant :=
  (text.foldl State.step start).instant?

end LooseDate
end Calendar
end MailSearch
