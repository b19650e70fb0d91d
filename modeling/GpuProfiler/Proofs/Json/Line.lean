import GpuProfiler.Proofs.Json.RoundTrip

set_option autoImplicit false

namespace GpuProfiler

namespace Bytes

theorem list_from (bytes : ByteArray) (i : Nat) (done : List UInt8) :
    ByteArray.toList.loop bytes i done = done.reverse ++ bytes.data.toList.drop i := by
  fun_induction ByteArray.toList.loop bytes i done with
  | case1 i done within ih =>
    have here : bytes.data.toList.drop i = bytes.get! i :: bytes.data.toList.drop (i + 1) := by
      have inside : i < bytes.data.size := within
      rw [List.drop_eq_getElem_cons (by simpa using within), ByteArray.get!, getElem!_pos bytes.data i inside,
        Array.getElem_toList]
    rw [ih, here, List.reverse_cons, List.append_assoc, List.singleton_append]
  | case2 i done past =>
    have passed : bytes.data.size ≤ i := Nat.le_of_not_lt past
    rw [List.drop_of_length_le (by simpa using passed), List.append_nil]

theorem list_data (bytes : ByteArray) : bytes.toList = bytes.data.toList := by
  rw [ByteArray.toList, list_from]
  rfl

theorem list_text (text : String) : text.toUTF8.toList = text.toList.flatMap String.utf8EncodeChar := by
  rw [list_data, String.toUTF8_eq_toByteArray, ← String.utf8Encode_toList, List.utf8Encode, List.data_toByteArray]

theorem text_list (text : String) : String.fromUTF8? ⟨text.toUTF8.toList.toArray⟩ = some text := by
  have same : (⟨text.toUTF8.toList.toArray⟩ : ByteArray) = text.toByteArray := by
    rw [list_data, Array.toArray_toList, String.toUTF8_eq_toByteArray]
  rw [same, String.fromUTF8?, dif_pos text.isValidUTF8]
  rfl

theorem high_byte {n : Nat} (marked : 128 ≤ n) (fits : n < 256) : 128 ≤ (UInt8.ofNat n).toNat := by
  rw [UInt8.toNat_ofNat_of_lt' fits]
  exact marked

-- In text, a byte of the lower half is the character with its number; all others are above.
theorem encoded_low {c : Char} {b : UInt8} (member : b ∈ String.utf8EncodeChar c) (low : b.toNat < 128) :
    b.toNat = c.toNat := by
  rw [String.utf8EncodeChar.eq_1] at member
  split at member
  · next single =>
    have fits : c.val.toNat < 256 := by omega
    rw [List.mem_singleton.mp member, UInt8.toNat_ofNat_of_lt' fits]
    rfl
  · refine absurd low (Nat.not_lt.mpr ?_)
    split at member
    · simp only [List.mem_cons, List.not_mem_nil, or_false] at member
      obtain rfl | rfl := member
      · exact high_byte (by omega) (by omega)
      · exact high_byte (by omega) (by omega)
    · split at member
      · simp only [List.mem_cons, List.not_mem_nil, or_false] at member
        obtain rfl | rfl | rfl := member
        · exact high_byte (by omega) (by omega)
        · exact high_byte (by omega) (by omega)
        · exact high_byte (by omega) (by omega)
      · simp only [List.mem_cons, List.not_mem_nil, or_false] at member
        obtain rfl | rfl | rfl | rfl := member
        · exact high_byte (by omega) (by omega)
        · exact high_byte (by omega) (by omega)
        · exact high_byte (by omega) (by omega)
        · exact high_byte (by omega) (by omega)

end Bytes
namespace Json

def visible (c : Char) : Bool := 32 ≤ c.toNat

theorem visible_numeral {c : Char} (part : Scanning.isNumeralChar c = true) : visible c = true := by
  simp only [Scanning.isNumeralChar, Bool.or_eq_true, decide_eq_true_eq] at part
  obtain ((((digit | rfl) | rfl) | rfl) | rfl) | rfl := part
  · rw [Char.isDigit, Bool.and_eq_true, decide_eq_true_eq] at digit
    exact decide_eq_true (Nat.le_trans (by decide) digit.1)
  all_goals decide

theorem visible_hex {n : Nat} (small : n < 16) : visible (Nat.digitChar n) = true := by
  have each : ∀ n : Fin 16, visible (Nat.digitChar n) = true := by decide
  exact each ⟨n, small⟩

theorem numeral_visible {value : Numeral} (proper : value.Proper) : value.chars.all visible = true := by
  obtain ⟨c, cs, written, first, each⟩ := Numeral.chars_run proper
  have begins : Scanning.isNumeralChar c = true := by
    rw [Scanning.isNumeralChar, first]
    rfl
  rw [written, List.all_cons, visible_numeral begins, Bool.true_and, List.all_eq_true]
  exact fun d member => visible_numeral (each d member)

theorem quoted_char_visible (c : Char) : (quotedChar c).all visible = true := by
  rw [quotedChar]
  repeat' split
  all_goals try decide
  · next control =>
    have high := visible_hex (by omega : c.toNat / 16 < 16)
    have low := visible_hex (by omega : c.toNat % 16 < 16)
    simp only [List.all_cons, high, low, List.all_nil]
    decide
  · next shown =>
    simp only [List.all_cons, List.all_nil, Bool.and_true, visible, decide_eq_true_eq]
    omega

theorem quoted_visible (text : Option String) : (quotedChars text).all visible = true := by
  cases text with
  | none => decide
  | some text =>
    have each : (text.toList.flatMap quotedChar).all visible = true := by
      simp only [List.all_flatMap, quoted_char_visible, List.all_eq_true, implies_true]
    simp only [quotedChars, List.cons_append, List.all_cons, List.all_append, each, List.all_nil]
    decide

mutual

theorem chars_visible (value : Json) (proper : value.Proper) : value.chars.all visible = true := by
  cases value with
  | null => decide
  | bool value => cases value with
    | true => decide
    | false => decide
  | number value => exact numeral_visible proper
  | string text => exact quoted_visible text
  | array items =>
    simp only [chars, List.cons_append, List.all_cons, List.all_append, items_visible items proper, List.all_nil]
    decide
  | object members =>
    simp only [chars, List.cons_append, List.all_cons, List.all_append, members_visible members proper, List.all_nil]
    decide
termination_by structural value

theorem items_visible (items : List Json) (proper : ProperItems items) : (itemChars items).all visible = true := by
  cases items with
  | nil => rfl
  | cons item items =>
    simp only [itemChars, List.all_append, chars_visible item proper.1, later_items_visible items proper.2, Bool.and_self]
termination_by structural items

theorem later_items_visible (items : List Json) (proper : ProperItems items) : (laterItemChars items).all visible = true := by
  cases items with
  | nil => rfl
  | cons item items =>
    simp only [laterItemChars, List.cons_append, List.all_cons, List.all_append, chars_visible item proper.1,
      later_items_visible items proper.2]
    decide
termination_by structural items

theorem members_visible (members : List (Option String × Json)) (proper : ProperMembers members) :
    (memberListChars members).all visible = true := by
  cases members with
  | nil => rfl
  | cons member members =>
    simp only [memberListChars, List.all_append, member_visible member proper.1, later_members_visible members proper.2,
      Bool.and_self]
termination_by structural members

theorem later_members_visible (members : List (Option String × Json)) (proper : ProperMembers members) :
    (laterMemberChars members).all visible = true := by
  cases members with
  | nil => rfl
  | cons member members =>
    simp only [laterMemberChars, List.cons_append, List.all_cons, List.all_append, member_visible member proper.1,
      later_members_visible members proper.2]
    decide
termination_by structural members

theorem member_visible (member : Option String × Json) (proper : ProperMember member) :
    (memberChars member).all visible = true := by
  obtain ⟨name, value⟩ := member
  simp only [memberChars, List.all_cons, List.all_append, quoted_visible name, chars_visible value proper]
  decide
termination_by structural member

end

theorem render_unbroken {value : Json} (proper : value.Proper) : 10 ∉ value.render.toUTF8.toList := by
  intro member
  rw [Bytes.list_text, render, String.toList_ofList, List.mem_flatMap] at member
  obtain ⟨c, inside, member⟩ := member
  have number : 10 = c.toNat := Bytes.encoded_low member (by decide)
  have shown := List.all_eq_true.mp (chars_visible value proper) c inside
  rw [visible, ← number] at shown
  exact absurd shown (by decide)

end Json

end GpuProfiler
