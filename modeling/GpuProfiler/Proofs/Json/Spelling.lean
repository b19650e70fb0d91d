import GpuProfiler.Proofs.Json.Numeral

set_option autoImplicit false

namespace GpuProfiler

namespace Json

-- Four digits in base sixteen, which name half a surrogate pair or a character outside of pairs.
def SpellsUnit (unit : Nat) (a b c d : Char) : Prop :=
  ∃ i j k l, Hex.digit? a = some i ∧ Hex.digit? b = some j ∧ Hex.digit? c = some k ∧ Hex.digit? d = some l ∧
    unit = 16 * (16 * (16 * i + j) + k) + l

-- A character stands for itself where it can, or is named by a letter, by its number, or, where that
-- does not fit, by a pair of numbers.
inductive SpellsChar : Char → List Char → Prop where
  | itself (c : Char) (open_end : c ≠ '"') (plain : c ≠ '\\') (visible : 32 ≤ c.toNat) : SpellsChar c [c]
  | short (shown mark : Char) (stands : Scanning.shortEscape mark = some shown) : SpellsChar shown ['\\', mark]
  | unit (shown : Char) (a b c d : Char) (digits : SpellsUnit shown.toNat a b c d) :
    SpellsChar shown ['\\', 'u', a, b, c, d]
  | pair (shown : Char) (high low : Nat) (a b c d e f g h : Char) (first : SpellsUnit high a b c d)
      (second : SpellsUnit low e f g h) (isHigh : 0xD800 ≤ high ∧ high < 0xDC00) (isLow : 0xDC00 ≤ low ∧ low < 0xE000)
      (stands : shown.toNat = 0x10000 + (high - 0xD800) * 0x400 + (low - 0xDC00)) :
    SpellsChar shown ['\\', 'u', a, b, c, d, '\\', 'u', e, f, g, h]

inductive SpellsText : List Char → List Char → Prop where
  | nil : SpellsText [] []
  | cons (c : Char) (text cs rest : List Char) (here : SpellsChar c cs) (onward : SpellsText text rest) :
    SpellsText (c :: text) (cs ++ rest)

inductive SpellsScalar : Json → List Char → Prop where
  | null : SpellsScalar .null ['n', 'u', 'l', 'l']
  | yes : SpellsScalar (.bool true) ['t', 'r', 'u', 'e']
  | no : SpellsScalar (.bool false) ['f', 'a', 'l', 's', 'e']
  | number (value : Numeral) (proper : value.Proper) : SpellsScalar (.number value) value.chars
  | text (text : String) (cs : List Char) (spelled : SpellsText text.toList cs) :
    SpellsScalar (.string (some text)) ('"' :: cs ++ ['"'])
  | halved : SpellsScalar (.string none) (quotedChars none)

def Blank (cs : List Char) : Prop := ∀ c ∈ cs, Scanning.isBlank c = true

-- Nothing that a word or a number would go on with.
def Apart (cs : List Char) : Prop := ∀ c ∈ cs.head?, c.isAlpha = false ∧ Scanning.isNumeralChar c = false

end Json

def Token.mark? : Token → Option Char
  | .openArray => some '['
  | .closeArray => some ']'
  | .openObject => some '\x7b'
  | .closeObject => some '\x7d'
  | .comma => some ','
  | .colon => some ':'
  | .scalar _ => none

namespace Json

-- Tokens that are written one after the other. Only a word or a number needs something else behind it.
inductive Spells : List Token → List Char → Prop where
  | nothing (blank : List Char) (blanks : Blank blank) : Spells [] blank
  | mark (blank : List Char) (token : Token) (c : Char) (tokens : List Token) (rest : List Char) (blanks : Blank blank)
      (stands : token.mark? = some c) (onward : Spells tokens rest) : Spells (token :: tokens) (blank ++ c :: rest)
  | scalar (blank : List Char) (value : Json) (cs : List Char) (tokens : List Token) (rest : List Char)
      (blanks : Blank blank) (here : SpellsScalar value cs) (apart : Apart rest) (onward : Spells tokens rest) :
    Spells (.scalar value :: tokens) (blank ++ (cs ++ rest))

end Json

namespace Scanning

open Json

variable {rest : List Char}

theorem tokens_silent {s : Scanning} {c : Char} (next : Scanning) (quiet : s.step c = some ([], next)) :
    s.tokens (c :: rest) = next.tokens rest := by
  rw [tokens, quiet]
  exact Option.map_id'

theorem tokens_blank {blank : List Char} (blanks : Blank blank) : between.tokens (blank ++ rest) = between.tokens rest := by
  induction blank with
  | nil => rfl
  | cons c blank ih =>
    have here : between.step c = some ([], between) := by
      simp [step, start, blanks c List.mem_cons_self]
    rw [List.cons_append, tokens_silent _ here]
    exact ih fun d member => blanks d (List.mem_cons_of_mem _ member)

theorem tokens_mark {token : Token} {c : Char} (stands : token.mark? = some c) :
    between.tokens (c :: rest) = (between.tokens rest).map (token :: ·) := by
  have here : between.step c = some ([token], between) := by
    cases token with
    | scalar value => cases stands
    | _ =>
      cases stands
      rfl
  rw [tokens, here]
  rfl

theorem tokens_ended {s : Scanning} (ended : List Token) (whole : s.finish = some ended)
    (stops : ∀ c ∈ rest.head?, s.step c = restart s c) :
    s.tokens rest = (between.tokens rest).map (ended ++ ·) := by
  cases rest with
  | nil =>
    rw [tokens, tokens, whole]
    simp [finish]
  | cons c rest =>
    rw [tokens, tokens, stops c rfl, restart, whole]
    simp only [step]
    cases start c with
    | none => rfl
    | some begun =>
      simp only [Option.map_some, Option.map_map]
      congr 1
      funext tokens
      simp

theorem tokens_word {taken : List Char} {value : Json} (cs : List Char) (each : cs.all Char.isAlpha = true)
    (known : wordValue (taken.reverse ++ cs) = some value) (apart : Apart rest) :
    (word taken).tokens (cs ++ rest) = (between.tokens rest).map (Token.scalar value :: ·) := by
  induction cs generalizing taken with
  | nil =>
    refine tokens_ended [.scalar value] ?_ fun c first => ?_
    · rw [List.append_nil] at known
      simp [finish, known]
    · simp [step, apart c first]
  | cons c cs ih =>
    rw [List.all_cons, Bool.and_eq_true] at each
    have here : (word taken).step c = some ([], word (c :: taken)) := by
      simp [step, each.1]
    rw [List.cons_append, tokens_silent _ here]
    exact ih each.2 (by simpa using known)

theorem tokens_numeral {taken cs : List Char} {value : Numeral} (each : ∀ c ∈ cs, isNumeralChar c = true)
    (known : Numeral.read (taken.reverse ++ cs) = some value) (apart : Apart rest) :
    (numeral taken).tokens (cs ++ rest) = (between.tokens rest).map (Token.scalar (.number value) :: ·) := by
  induction cs generalizing taken with
  | nil =>
    refine tokens_ended [.scalar (.number value)] ?_ fun c first => ?_
    · rw [List.append_nil] at known
      simp [finish, known]
    · simp [step, apart c first]
  | cons c cs ih =>
    have here : (numeral taken).step c = some ([], numeral (c :: taken)) := by
      simp [step, each c List.mem_cons_self]
    rw [List.cons_append, tokens_silent _ here]
    exact ih (fun d member => each d (List.mem_cons_of_mem _ member)) (by simpa using known)

end Scanning

def Quoted.whole (shown : List Char) : Quoted := ⟨shown, true, none⟩

namespace Scanning

open Json

variable {rest : List Char}

theorem tokens_unit {quoted : Quoted} {unit : Nat} {a b c d : Char} (digits : SpellsUnit unit a b c d) :
    (inString quoted).tokens ('\\' :: 'u' :: a :: b :: c :: d :: rest) = (inString (quoted.pushUnit unit)).tokens rest := by
  obtain ⟨i, j, k, l, first, second, third, fourth, rfl⟩ := digits
  have opened : (inString quoted).step '\\' = some ([], escaped quoted) := rfl
  have marked : (escaped quoted).step 'u' = some ([], hex quoted 4 0) := rfl
  rw [tokens_silent _ opened, tokens_silent _ marked,
    tokens_silent (hex quoted 3 i) (by simp [step, first]),
    tokens_silent (hex quoted 2 (16 * i + j)) (by simp [step, second]),
    tokens_silent (hex quoted 1 (16 * (16 * i + j) + k)) (by simp [step, third]),
    tokens_silent _ (by simp only [step, fourth, Option.map_some]; rfl)]
  rfl

theorem push_unit_single {shown : List Char} (c : Char) :
    (Quoted.whole shown).pushUnit c.toNat = Quoted.whole (c :: shown) := by
  have valid : c.toNat < 0xD800 ∨ 0xDFFF < c.toNat ∧ c.toNat < 0x110000 := c.valid
  simp only [Quoted.pushUnit]
  rw [if_neg (by omega), if_neg (by omega), Quoted.push, Char.ofNat_toNat]
  rfl

theorem push_unit_pair {shown : List Char} {c : Char} {high low : Nat} (isHigh : 0xD800 ≤ high ∧ high < 0xDC00)
    (isLow : 0xDC00 ≤ low ∧ low < 0xE000) (stands : c.toNat = 0x10000 + (high - 0xD800) * 0x400 + (low - 0xDC00)) :
    ((Quoted.whole shown).pushUnit high).pushUnit low = Quoted.whole (c :: shown) := by
  have first : (Quoted.whole shown).pushUnit high = ⟨shown, true, some high⟩ := by
    rw [Quoted.pushUnit, if_neg (by omega), if_pos isHigh]
    rfl
  rw [first, Quoted.pushUnit, if_pos isLow]
  simp only [← stands, Char.ofNat_toNat]
  rfl

theorem tokens_char {shown : List Char} {c : Char} {cs : List Char} (spelled : SpellsChar c cs) :
    (inString (.whole shown)).tokens (cs ++ rest) = (inString (.whole (c :: shown))).tokens rest := by
  cases spelled with
  | itself open_end plain visible =>
    refine tokens_silent _ ?_
    rw [step, if_neg open_end, if_neg plain, if_neg (Nat.not_lt.mpr visible)]
    rfl
  | short mark stands =>
    have opened : (inString (.whole shown)).step '\\' = some ([], escaped (.whole shown)) := rfl
    have other : mark ≠ 'u' := by
      intro same
      rw [same] at stands
      cases stands
    refine (tokens_silent _ opened).trans (tokens_silent _ ?_)
    rw [step, if_neg other, stands]
    rfl
  | unit a b c d digits => exact (tokens_unit digits).trans (by rw [push_unit_single]; rfl)
  | pair high low a b c d e f g h first second isHigh isLow stands =>
    exact (tokens_unit first).trans ((tokens_unit second).trans (by rw [push_unit_pair isHigh isLow stands]; rfl))

theorem tokens_text {shown text cs : List Char} (spelled : SpellsText text cs) :
    (inString (.whole shown)).tokens (cs ++ '"' :: rest) =
      (between.tokens rest).map (Token.scalar (.string (some (String.ofList (shown.reverse ++ text)))) :: ·) := by
  induction spelled generalizing shown with
  | nil =>
    have closed : (inString (.whole shown)).step '"' =
        some ([.scalar (.string (some (String.ofList shown.reverse)))], between) := rfl
    rw [List.nil_append, tokens, closed, List.append_nil]
    rfl
  | cons c text cs more here onward ih =>
    rw [List.append_assoc, tokens_char here, ih, List.reverse_cons, List.append_assoc]
    rfl

theorem start_numeral {c : Char} (first : (c.isDigit || c = '-') = true) : between.step c = some ([], numeral [c]) := by
  have other (d : Char) (begins : (d.isDigit || d = '-') = false) : c ≠ d := by
    intro same
    rw [same, begins] at first
    cases first
  have solid : isBlank c = false := by
    simp [isBlank, other ' ' (by decide), other '\t' (by decide), other '\n' (by decide), other '\r' (by decide)]
  rw [step, start, solid, if_neg Bool.false_ne_true, if_neg (other '[' (by decide)), if_neg (other ']' (by decide)),
    if_neg (other '\x7b' (by decide)), if_neg (other '\x7d' (by decide)), if_neg (other ',' (by decide)),
    if_neg (other ':' (by decide)), if_neg (other '"' (by decide)), if_pos first]

theorem tokens_scalar {value : Json} {cs : List Char} (spelled : SpellsScalar value cs) (apart : Apart rest) :
    between.tokens (cs ++ rest) = (between.tokens rest).map (Token.scalar value :: ·) := by
  have letter {c : Char} (opens : between.step c = some ([], word [c])) (cs : List Char) :
      between.tokens (c :: cs) = (word [c]).tokens cs := tokens_silent _ opens
  cases spelled with
  | null => exact (letter rfl _).trans (tokens_word ['u', 'l', 'l'] rfl rfl apart)
  | yes => exact (letter rfl _).trans (tokens_word ['r', 'u', 'e'] rfl rfl apart)
  | no => exact (letter rfl _).trans (tokens_word ['a', 'l', 's', 'e'] rfl rfl apart)
  | number value proper =>
    obtain ⟨c, cs, written, first, each⟩ := Numeral.chars_run proper
    have known := Numeral.read_chars proper
    rw [written] at known ⊢
    rw [List.cons_append, tokens_silent _ (start_numeral first)]
    exact tokens_numeral each known apart
  | text text cs spelled =>
    have opens : between.step '"' = some ([], inString (.whole [])) := rfl
    rw [List.cons_append, List.cons_append, List.append_assoc, List.singleton_append, tokens_silent _ opens,
      tokens_text spelled, List.reverse_nil, List.nil_append, String.ofList_toList]
  | halved =>
    have opens : between.step '"' = some ([], inString (.whole [])) := rfl
    have half : SpellsUnit 0xD800 'd' '8' '0' '0' := ⟨13, 8, 0, 0, rfl, rfl, rfl, rfl, rfl⟩
    have closes : (inString ((Quoted.whole []).pushUnit 0xD800)).step '"' = some ([.scalar (.string none)], between) := rfl
    change between.tokens ('"' :: '\\' :: 'u' :: 'd' :: '8' :: '0' :: '0' :: '"' :: rest) = _
    rw [tokens_silent _ opens, tokens_unit half, tokens, closes]
    rfl

theorem tokens_spelled {tokens : List Token} {cs : List Char} (spelled : Spells tokens cs) :
    between.tokens cs = some tokens := by
  induction spelled with
  | nothing blank blanks =>
    have read : between.tokens (blank ++ []) = between.tokens [] := tokens_blank blanks
    rw [List.append_nil] at read
    rw [read]
    rfl
  | mark blank token c tokens rest blanks stands onward ih => rw [tokens_blank blanks, tokens_mark stands, ih, Option.map_some]
  | scalar blank value cs tokens rest blanks here apart onward ih =>
    rw [tokens_blank blanks, tokens_scalar here apart, ih, Option.map_some]

end Scanning

end GpuProfiler
