/-!
What a reader leaves of its input. A rest is shorter than the input, a remainder is not longer. The
lemmas join such facts along a chain of readers, so that a loop over an input ends.
-/

set_option autoImplicit false

namespace ScanMerge

variable {α : Type}

/-- The first list has fewer elements than the second one. -/
abbrev Shorter (rest input : List α) : Prop :=
  rest.length < input.length

/-- The first list has at most as many elements as the second one. -/
abbrev NotLonger (rest input : List α) : Prop :=
  rest.length ≤ input.length

/-- What is left of an input when something of it is read. -/
abbrev Rest (input : List α) : Type :=
  { rest : List α // Shorter rest input }

/-- What is left of an input when something or nothing of it is read. -/
abbrev Remainder (input : List α) : Type :=
  { rest : List α // NotLonger rest input }

variable {last rest input : List α} {first : α}

theorem NotLonger.refl : NotLonger input input :=
  Nat.le_refl _

theorem NotLonger.nil : NotLonger [] input :=
  Nat.zero_le _

theorem NotLonger.trans (notLonger : NotLonger last rest) (after : NotLonger rest input) :
    NotLonger last input :=
  Nat.le_trans notLonger after

theorem NotLonger.cons (notLonger : NotLonger last rest) : NotLonger last (first :: rest) :=
  Nat.le_succ_of_le notLonger

theorem NotLonger.shorter_cons (notLonger : NotLonger last rest) : Shorter last (first :: rest) :=
  Nat.lt_succ_of_le notLonger

theorem NotLonger.trans_shorter (notLonger : NotLonger last rest) (after : Shorter rest input) :
    Shorter last input :=
  Nat.lt_of_le_of_lt notLonger after

theorem NotLonger.past (notLonger : NotLonger last rest) (after : Shorter rest input) :
    NotLonger last input :=
  Nat.le_of_lt (Nat.lt_of_le_of_lt notLonger after)

theorem notLonger_cons_self : NotLonger rest (first :: rest) :=
  Nat.le_succ _

theorem Shorter.notLonger (shorter : Shorter rest input) : NotLonger rest input :=
  Nat.le_of_lt shorter

theorem Shorter.trans (shorter : Shorter last rest) (after : Shorter rest input) :
    Shorter last input :=
  Nat.lt_trans shorter after

theorem Shorter.trans_notLonger (shorter : Shorter last rest) (after : NotLonger rest input) :
    Shorter last input :=
  Nat.lt_of_lt_of_le shorter after

theorem Shorter.cons (shorter : Shorter last rest) : Shorter last (first :: rest) :=
  Nat.lt_succ_of_lt shorter

theorem shorter_cons_self : Shorter rest (first :: rest) :=
  Nat.lt_succ_self _

theorem notLonger_dropWhile (keep : α → Bool) (input : List α) :
    NotLonger (input.dropWhile keep) input :=
  (List.dropWhile_sublist keep).length_le

theorem notLonger_drop (count : Nat) (input : List α) : NotLonger (input.drop count) input :=
  (List.drop_sublist count input).length_le

theorem shorter_drop {count : Nat} (positive : 0 < count) (bound : count ≤ input.length) :
    Shorter (input.drop count) input := by
  rw [Shorter, List.length_drop]
  exact Nat.sub_lt (Nat.lt_of_lt_of_le positive bound) positive

def Rest.tail : Rest (first :: rest) :=
  ⟨rest, shorter_cons_self⟩

/-- A rest of the input behind the first element. -/
def Rest.cons (after : Rest rest) : Rest (first :: rest) :=
  ⟨after.val, after.property.cons⟩

def Remainder.all : Remainder input :=
  ⟨input, .refl⟩

/-- A remainder of the input behind the first element. -/
def Remainder.cons (after : Remainder rest) : Remainder (first :: rest) :=
  ⟨after.val, after.property.cons⟩

/-- A remainder of the input behind the first element, which is read. -/
def Remainder.past (after : Remainder rest) : Rest (first :: rest) :=
  ⟨after.val, after.property.shorter_cons⟩

end ScanMerge
