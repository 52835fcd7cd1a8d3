import CampusBooking.Campus
import CampusBooking.Text.Digits

/-!
# Tallies of campus answers

A tally collects, for each campus that was asked, its count or the fact that it gave
none.  A later answer of a campus replaces an earlier one.  The tally is shown campus by
campus in campus order, and its total is the 32-bit sum of the counts that came.
-/

namespace CampusBooking

/-- The answers of the campuses that were asked: a count, or `none` for no answer. -/
structure Tally where
  answer : Campus → Option (Option UInt32)

namespace Tally

/-- No campus asked. -/
def empty : Tally := ⟨fun _ => none⟩

/-- Records the answer of a campus, replacing an earlier one. -/
def insert (t : Tally) (c : Campus) (count : Option UInt32) : Tally :=
  ⟨fun d => if d = c then some count else t.answer d⟩

/-- The count of a campus, if it was asked and answered. -/
def get (t : Tally) (c : Campus) : Option UInt32 := (t.answer c).join

/-- The sum of the counts that came, in 32-bit words. -/
def total (t : Tally) : UInt32 :=
  Campus.all.foldl (fun acc c => acc + (t.get c).getD 0) 0

/-- The campuses asked that gave no count, in campus order. -/
def unreachable (t : Tally) : List Campus :=
  Campus.all.filter fun c => t.answer c = some none

/-- One campus's part of the text. -/
def part (c : Campus) : Option UInt32 → String
  | some n => c.code ++ " " ++ Text.decimal n.toNat
  | none => c.code ++ " (no response from server)"

/-- The answers in campus order, separated by blanks. -/
def text (t : Tally) : String :=
  " ".intercalate (Campus.all.filterMap fun c => (t.answer c).map (part c))

example : ((empty.insert .wst (some 2)).insert .dvl (some 3) |>.insert .kkl none).text =
    "DVL 3 KKL (no response from server) WST 2" := by decide

end Tally

end CampusBooking
