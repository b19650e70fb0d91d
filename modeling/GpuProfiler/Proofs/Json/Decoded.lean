import GpuProfiler.Config.Reader

set_option autoImplicit false

namespace GpuProfiler

namespace Json

variable {α : Type}

def nat? : Json → Option Nat
  | .number value => value.toNat?
  | _ => none

def int? : Json → Option Int
  | .number value =>
    if value.negative then ({ value with negative := false }).toNat?.map fun n => - Int.ofNat n
    else value.toNat?.map Int.ofNat
  | _ => none

def halfWord? (value : Json) : Option UInt32 :=
  match value.nat? with
  | some n => if n < UInt32.size then some (UInt32.ofNat n) else none
  | none => none

def named? (name : α → String) (choices : List α) (value : Json) : Option α :=
  value.text?.bind fun text => choices.find? fun choice => name choice == text

def takeMember? (name : String) : List (Option String × Json) → Option (Json × List (Option String × Json))
  | [] => none
  | member :: rest =>
    if member.1 = some name then some (member.2, rest)
    else (takeMember? name rest).map fun (value, others) => (value, member :: others)

def justMembers? : List String → List (Option String × Json) → Option (List Json)
  | [], [] => some []
  | [], _ :: _ => none
  | name :: names, members =>
    match takeMember? name members with
    | some (value, others) => (justMembers? names others).map (value :: ·)
    | none => none

@[simp] theorem nat_read (n : Nat) : (nat n).nat? = some n := rfl

@[simp] theorem word_read (w : UInt64) : (nat w.toNat).word? = some w := by
  have fits : w.toNat < UInt64.size := w.toNat_lt
  simp [nat, word?, Numeral.toWord?, Numeral.toNat?, Numeral.ofNat, fits]

@[simp] theorem half_word_read (w : UInt32) : (nat w.toNat).halfWord? = some w := by
  have fits : w.toNat < UInt32.size := w.toNat_lt
  simp [halfWord?, fits]

@[simp] theorem int_read (n : Int) : (int n).int? = some n := by
  by_cases below : n < 0
  · have size : -Int.ofNat n.natAbs = n := by simp only [Int.ofNat_eq_natCast]; omega
    simp only [int, int?, Numeral.ofInt, Numeral.toNat?, below, decide_true, if_true, List.isEmpty_nil, Option.isSome_none,
      Bool.not_true, Bool.or_self, Bool.false_eq_true, if_false, Option.map_some, size]
  · have size : Int.ofNat n.natAbs = n := by simp only [Int.ofNat_eq_natCast]; omega
    simp only [int, int?, Numeral.ofInt, Numeral.toNat?, below, decide_false, List.isEmpty_nil, Option.isSome_none,
      Bool.not_true, Bool.or_self, Bool.false_eq_true, if_false, Option.map_some, size]

@[simp] theorem bool_read (value : Bool) : (bool value).bool? = some value := rfl

@[simp] theorem text_read (s : String) : (text s).text? = some s := rfl

theorem items_read {read : Json → Option α} {write : α → Json} {xs : List α}
    (each : ∀ x ∈ xs, read (write x) = some x) :
    (array (xs.map write)).list? read = some xs := by
  rw [list?]
  induction xs with
  | nil => rfl
  | cons x xs ih =>
    rw [List.map_cons, readItems, each x List.mem_cons_self, ih fun y member => each y (List.mem_cons_of_mem _ member)]
    rfl

theorem named_read {name : α → String} {choices : List α} {choice : α} (offered : choice ∈ choices)
    (distinct : ∀ other ∈ choices, name other = name choice → other = choice) :
    (text (name choice)).named? name choices = some choice := by
  rw [named?, text_read, Option.bind_some]
  cases found : choices.find? fun other => name other == name choice with
  | none => exact absurd (List.find?_eq_none.mp found choice offered) (by simp)
  | some other =>
    have same : name other = name choice := by simpa using List.find?_some found
    rw [distinct other (List.mem_of_find?_eq_some found) same]

end Json

end GpuProfiler
