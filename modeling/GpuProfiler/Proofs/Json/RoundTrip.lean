import GpuProfiler.Proofs.Json.Spelling

set_option autoImplicit false

namespace GpuProfiler

namespace Json

mutual

def Proper : Json → Prop
  | .number value => value.Proper
  | .array items => ProperItems items
  | .object members => ProperMembers members
  | _ => True
termination_by structural value => value

def ProperItems : List Json → Prop
  | [] => True
  | item :: rest => Proper item ∧ ProperItems rest
termination_by structural items => items

def ProperMembers : List (Option String × Json) → Prop
  | [] => True
  | member :: rest => ProperMember member ∧ ProperMembers rest
termination_by structural members => members

def ProperMember : Option String × Json → Prop
  | (_, value) => Proper value
termination_by structural member => member

end

@[simp] theorem proper_text (s : String) : (text s).Proper := trivial

@[simp] theorem proper_bool (value : Bool) : (bool value).Proper := trivial

@[simp] theorem proper_nat (n : Nat) : (nat n).Proper := Numeral.ofNat_proper n

@[simp] theorem proper_int (n : Int) : (int n).Proper := Numeral.ofInt_proper n

theorem proper_array {items : List Json} (each : ∀ item ∈ items, item.Proper) : (array items).Proper := by
  rw [Proper]
  induction items with
  | nil => exact trivial
  | cons item items ih =>
    exact ⟨each item List.mem_cons_self, ih fun other member => each other (List.mem_cons_of_mem _ member)⟩

theorem proper_object {members : List (String × Json)} (each : ∀ member ∈ members, member.2.Proper) :
    (ofMembers members).Proper := by
  rw [ofMembers, Proper]
  induction members with
  | nil => exact trivial
  | cons member members ih =>
    exact ⟨each member List.mem_cons_self, ih fun other inside => each other (List.mem_cons_of_mem _ inside)⟩

mutual

def tokens : Json → List Token
  | .array items => .openArray :: itemTokens items ++ [.closeArray]
  | .object members => .openObject :: memberListTokens members ++ [.closeObject]
  | value => [.scalar value]
termination_by structural value => value

def itemTokens : List Json → List Token
  | [] => []
  | item :: rest => tokens item ++ laterItemTokens rest
termination_by structural items => items

def laterItemTokens : List Json → List Token
  | [] => []
  | item :: rest => .comma :: tokens item ++ laterItemTokens rest
termination_by structural items => items

def memberListTokens : List (Option String × Json) → List Token
  | [] => []
  | member :: rest => memberTokens member ++ laterMemberTokens rest
termination_by structural members => members

def laterMemberTokens : List (Option String × Json) → List Token
  | [] => []
  | member :: rest => .comma :: memberTokens member ++ laterMemberTokens rest
termination_by structural members => members

def memberTokens : Option String × Json → List Token
  | (name, value) => .scalar (.string name) :: .colon :: tokens value
termination_by structural member => member

end

def Writes (value : Json) (text : String) : Prop := Spells value.tokens text.toList

end Json

namespace Awaiting

open Json

variable {parts : List OpenPart} {rest : List Token}

theorem run_step {awaiting : Awaiting} {token : Token} (next : Awaiting) (steps : awaiting.step token = some next) :
    awaiting.run (token :: rest) = next.run rest := by
  rw [run, steps]

-- A value may also be the first item of an array, as no value begins with a closing bracket.
theorem run_first_item (item : Json) :
    (needItem parts).run (item.tokens ++ rest) = (needValue (.array [] :: parts)).run (item.tokens ++ rest) := by
  cases item with
  | _ => rfl

mutual

-- The induction is on the value: whatever is open around it, its tokens complete it there.
theorem run_value (value : Json) (parts : List OpenPart) (rest : List Token) :
    (needValue parts).run (value.tokens ++ rest) = (complete value parts).run rest := by
  cases value with
  | array items =>
    simp only [tokens, List.cons_append, List.append_assoc, List.nil_append]
    rw [run_step (needItem parts) rfl]
    exact run_items items parts rest
  | object members =>
    simp only [tokens, List.cons_append, List.append_assoc, List.nil_append]
    rw [run_step (needFirstName parts) rfl]
    exact run_members members parts rest
  | _ => rfl
termination_by structural value

theorem run_items (items : List Json) (parts : List OpenPart) (rest : List Token) :
    (needItem parts).run (itemTokens items ++ .closeArray :: rest) = (complete (.array items) parts).run rest := by
  cases items with
  | nil => rfl
  | cons item items =>
    rw [itemTokens, List.append_assoc, run_first_item, run_value item]
    exact run_later_items items item [] parts rest
termination_by structural items

theorem run_later_items (items : List Json) (value : Json) (done : List Json) (parts : List OpenPart) (rest : List Token) :
    (complete value (.array done :: parts)).run (laterItemTokens items ++ .closeArray :: rest) =
      (complete (.array (done.reverse ++ value :: items)) parts).run rest := by
  cases items with
  | nil =>
    rw [laterItemTokens, List.nil_append,
      run_step (complete (.array (value :: done).reverse) parts) rfl, List.reverse_cons]
  | cons item items =>
    rw [laterItemTokens, List.cons_append, List.cons_append, List.append_assoc,
      run_step (needValue (.array (value :: done) :: parts)) rfl, run_value item,
      run_later_items items item, List.reverse_cons, List.append_assoc, List.singleton_append]
termination_by structural items

theorem run_members (members : List (Option String × Json)) (parts : List OpenPart) (rest : List Token) :
    (needFirstName parts).run (memberListTokens members ++ .closeObject :: rest) =
      (complete (.object members) parts).run rest := by
  cases members with
  | nil => rfl
  | cons member members =>
    rw [memberListTokens, List.append_assoc, run_member member fun _ => rfl]
    exact run_later_members members member.1 member.2 [] parts rest
termination_by structural members

theorem run_later_members (members : List (Option String × Json)) (name : Option String) (value : Json)
    (done : List (Option String × Json)) (parts : List OpenPart) (rest : List Token) :
    (complete value (.object done name :: parts)).run (laterMemberTokens members ++ .closeObject :: rest) =
      (complete (.object (done.reverse ++ (name, value) :: members)) parts).run rest := by
  cases members with
  | nil =>
    rw [laterMemberTokens, List.nil_append,
      run_step (complete (.object ((name, value) :: done).reverse) parts) rfl, List.reverse_cons]
  | cons member members =>
    rw [laterMemberTokens, List.cons_append, List.cons_append, List.append_assoc,
      run_step (needName ((name, value) :: done) parts) rfl, run_member member fun _ => rfl,
      run_later_members members, List.reverse_cons, List.append_assoc, List.singleton_append]
termination_by structural members

theorem run_member (member : Option String × Json) {awaiting : Awaiting} {done : List (Option String × Json)}
    {parts : List OpenPart} {rest : List Token}
    (named : ∀ name, awaiting.step (.scalar (.string name)) = some (needColon done name parts)) :
    awaiting.run (memberTokens member ++ rest) = (complete member.2 (.object done member.1 :: parts)).run rest := by
  obtain ⟨name, value⟩ := member
  rw [memberTokens, List.cons_append, List.cons_append, run_step _ (named name),
    run_step (needValue (.object done name :: parts)) rfl, run_value value]
termination_by structural member

end

end Awaiting

namespace Json

theorem parse_written {value : Json} {text : String} (written : value.Writes text) : parse text = some value := by
  have read := Awaiting.run_value value [] []
  rw [List.append_nil] at read
  rw [parse, parseChars, Scanning.tokens_spelled written]
  exact read

theorem hex_digit_char {n : Nat} (small : n < 16) : Hex.digit? (Nat.digitChar n) = some n := by
  have each : ∀ n : Fin 16, Hex.digit? (Nat.digitChar n) = some n.val := by decide
  exact each ⟨n, small⟩

theorem quoted_char_spells (c : Char) : SpellsChar c (quotedChar c) := by
  rw [quotedChar]
  repeat' split
  all_goals try subst c
  · exact .short _ _ rfl
  · exact .short _ _ rfl
  · exact .short _ _ rfl
  · exact .short _ _ rfl
  · exact .short _ _ rfl
  · exact .short _ _ rfl
  · exact .short _ _ rfl
  · next control =>
    exact .unit c '0' '0' _ _ ⟨0, 0, c.toNat / 16, c.toNat % 16, rfl, rfl, hex_digit_char (by omega),
      hex_digit_char (by omega), by omega⟩
  · next unquoted plain _ _ _ _ _ visible => exact .itself c unquoted plain (by omega)

theorem quoted_text_spells (text : List Char) : SpellsText text (text.flatMap quotedChar) := by
  induction text with
  | nil => exact .nil
  | cons c text ih => exact .cons c text _ _ (quoted_char_spells c) ih

theorem quoted_spells (text : Option String) : SpellsScalar (.string text) (quotedChars text) := by
  cases text with
  | none => exact .halved
  | some text => exact .text text _ (quoted_text_spells text.toList)

section Compact

variable {more : List Token} {rest : List Char}

theorem spells_mark {token : Token} {c : Char} (stands : token.mark? = some c) (onward : Spells more rest) :
    Spells (token :: more) (c :: rest) :=
  .mark [] token c more rest (by simp [Blank]) stands onward

theorem spells_scalar {value : Json} {cs : List Char} (here : SpellsScalar value cs) (apart : Apart rest)
    (onward : Spells more rest) : Spells (.scalar value :: more) (cs ++ rest) :=
  .scalar [] value cs more rest (by simp [Blank]) here apart onward

theorem apart_cons {c : Char} (stops : c.isAlpha = false ∧ Scanning.isNumeralChar c = false) : Apart (c :: rest) := by
  intro _ first
  cases first
  exact stops

theorem apart_items (items : List Json) : Apart (laterItemChars items ++ ']' :: rest) := by
  cases items with
  | nil => exact apart_cons (by decide)
  | cons item items => exact apart_cons (by decide)

theorem apart_members (members : List (Option String × Json)) : Apart (laterMemberChars members ++ '\x7d' :: rest) := by
  cases members with
  | nil => exact apart_cons (by decide)
  | cons member members => exact apart_cons (by decide)

end Compact

mutual

theorem chars_spell (value : Json) (proper : value.Proper) {more : List Token} {rest : List Char} (apart : Apart rest)
    (onward : Spells more rest) : Spells (value.tokens ++ more) (value.chars ++ rest) := by
  cases value with
  | null => exact spells_scalar .null apart onward
  | bool value => cases value with
    | true => exact spells_scalar .yes apart onward
    | false => exact spells_scalar .no apart onward
  | number value => exact spells_scalar (.number value proper) apart onward
  | string text => exact spells_scalar (quoted_spells text) apart onward
  | array items =>
    simp only [tokens, chars, List.cons_append, List.append_assoc, List.nil_append]
    exact spells_mark rfl (items_spell items proper onward)
  | object members =>
    simp only [tokens, chars, List.cons_append, List.append_assoc, List.nil_append]
    exact spells_mark rfl (members_spell members proper onward)
termination_by structural value

theorem items_spell (items : List Json) (proper : ProperItems items) {more : List Token} {rest : List Char}
    (onward : Spells more rest) : Spells (itemTokens items ++ .closeArray :: more) (itemChars items ++ ']' :: rest) := by
  cases items with
  | nil => exact spells_mark rfl onward
  | cons item items =>
    rw [itemTokens, itemChars, List.append_assoc, List.append_assoc]
    exact chars_spell item proper.1 (apart_items items) (later_items_spell items proper.2 onward)
termination_by structural items

theorem later_items_spell (items : List Json) (proper : ProperItems items) {more : List Token} {rest : List Char}
    (onward : Spells more rest) :
    Spells (laterItemTokens items ++ .closeArray :: more) (laterItemChars items ++ ']' :: rest) := by
  cases items with
  | nil => exact spells_mark rfl onward
  | cons item items =>
    simp only [laterItemTokens, laterItemChars, List.cons_append, List.append_assoc]
    exact spells_mark rfl (chars_spell item proper.1 (apart_items items) (later_items_spell items proper.2 onward))
termination_by structural items

theorem members_spell (members : List (Option String × Json)) (proper : ProperMembers members) {more : List Token}
    {rest : List Char} (onward : Spells more rest) :
    Spells (memberListTokens members ++ .closeObject :: more) (memberListChars members ++ '\x7d' :: rest) := by
  cases members with
  | nil => exact spells_mark rfl onward
  | cons member members =>
    rw [memberListTokens, memberListChars, List.append_assoc, List.append_assoc]
    exact member_spells member proper.1 (apart_members members) (later_members_spell members proper.2 onward)
termination_by structural members

theorem later_members_spell (members : List (Option String × Json)) (proper : ProperMembers members) {more : List Token}
    {rest : List Char} (onward : Spells more rest) :
    Spells (laterMemberTokens members ++ .closeObject :: more) (laterMemberChars members ++ '\x7d' :: rest) := by
  cases members with
  | nil => exact spells_mark rfl onward
  | cons member members =>
    simp only [laterMemberTokens, laterMemberChars, List.cons_append, List.append_assoc]
    exact spells_mark rfl (member_spells member proper.1 (apart_members members) (later_members_spell members proper.2 onward))
termination_by structural members

theorem member_spells (member : Option String × Json) (proper : ProperMember member) {more : List Token} {rest : List Char}
    (apart : Apart rest) (onward : Spells more rest) : Spells (memberTokens member ++ more) (memberChars member ++ rest) := by
  obtain ⟨name, value⟩ := member
  rw [memberTokens, memberChars, List.cons_append, List.cons_append, List.append_assoc, List.cons_append]
  exact spells_scalar (quoted_spells name) (apart_cons (by decide)) (spells_mark rfl (chars_spell value proper apart onward))
termination_by structural member

end

theorem render_writes {value : Json} (proper : value.Proper) : value.Writes value.render := by
  have spelled : Spells (value.tokens ++ []) (value.chars ++ []) :=
    chars_spell value proper (by simp [Apart]) (.nothing [] (by simp [Blank]))
  rw [List.append_nil, List.append_nil] at spelled
  rw [Writes, render, String.toList_ofList]
  exact spelled

theorem parse_render {value : Json} (proper : value.Proper) : parse value.render = some value :=
  parse_written (render_writes proper)

end Json

end GpuProfiler
