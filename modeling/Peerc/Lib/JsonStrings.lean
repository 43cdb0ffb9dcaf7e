import Peerc.Lib.Decoded

/-!
JSON strings read back. The loader joins a high surrogate and a low one that follows it, so a
string is read as it was written unless it holds the two halves of a pair.
-/
namespace Peerc.Decoded
open List

variable (c : Fin 0x110000)

def isHigh : Bool := 0xd800 ≤ c.val && c.val < 0xdc00

def isLow : Bool := 0xdc00 ≤ c.val && c.val ≤ 0xdfff

/-- The code point that two surrogates stand for. -/
def paired (high low : Nat) : Fin 0x110000 :=
  Fin.ofNat 0x110000 (65536 + (high - 0xd800) * 1024 + (low - 0xdc00))

def joined : Str → Str
  | c :: d :: s =>
      if isHigh c && isLow d then paired c.val d.val :: joined s else c :: joined (d :: s)
  | s => s

def SplitPair (s : Str) : Prop := ∃ c d, isHigh c = true ∧ isLow d = true ∧ [c, d] <:+: s

/-! ## How long a string is when it is written -/

def escapedWidth : Nat :=
  if c.val ∈ Json.shortEscapes.map Prod.fst then 2
  else if 32 ≤ c.val ∧ c.val ≤ 126 then 1
  else if c.val < 65536 then 6
  else 12

def escapedSize (s : Str) : Nat := (s.map escapedWidth).sum

/-! ## Reading -/

def readUnit : Text → Option (Fin 0x110000 × Text)
  | '\\' :: 'u' :: t => (Json.readHex4 t).map (fun x => (Fin.ofNat 0x110000 x.1, x.2))
  | _ => none

def readPlain : Text → Option (Char × Text)
  | '\\' :: letter :: rest => (Json.shortChar letter).map (·, rest)
  | c :: rest => some (c, rest)
  | [] => none

def readCode (t : Text) : Option (Fin 0x110000 × Text) :=
  match readUnit t with
  | none => (readPlain t).map (fun x => (codePoint x.1, x.2))
  | some (c, rest) =>
      match readUnit rest with
      | none => some (c, rest)
      | some (d, later) =>
          if isHigh c && isLow d then some (paired c.val d.val, later) else some (c, rest)

def readCodes : Nat → Text → Option (Str × Text)
  | 0, _ => none
  | fuel + 1, t =>
      if t.head? = some '"' then some ([], t.tail)
      else (readCode t).bind (fun x => (readCodes fuel x.2).map (fun y => (x.1 :: y.1, y.2)))

def readQuoted (t : Text) : Option (Str × Text) :=
  if t.head? = some '"' then readCodes t.length t.tail else none

def expect (label t : Text) : Option Text :=
  if label <+: t then some (t.drop label.length) else none

/-- What stands before a value that is not the first, with the default separators. -/
def label (key : Text) : Text := ',' :: ' ' :: '"' :: key ++ ['"', ':', ' ']

def entry {α : Type} (label : Text) (read : Text → Option (α × Text)) (t : Text) :
    Option (α × Text) :=
  (expect label t).bind read

def readDigits (t : Text) : Nat × Text :=
  (Nat.ofDigitChars 10 (t.takeWhile Char.isDigit) 0, t.dropWhile Char.isDigit)

/-! ## The forms of a written code point -/

inductive Escape : Text → Prop
  | unit (small : c.val < 65536) : Escape ('\\' :: 'u' :: Json.hex4 c.val)
  | pair {high low : Fin 0x110000} (isHigh : isHigh high = true) (isLow : isLow low = true)
      (same : paired high.val low.val = c) :
      Escape ('\\' :: 'u' :: Json.hex4 high.val ++ '\\' :: 'u' :: Json.hex4 low.val)
  | char {head : Char} {written : Text} (same : codePoint head = c)
      (opened : written.head? ≠ some '"')
      (read : ∀ t, readUnit (written ++ t) = none ∧ readPlain (written ++ t) = some (head, t)) :
      Escape written

variable {c}

theorem scalar_some {head : Char} (found : scalar c = some head) : codePoint head = c := by
  unfold scalar at found
  split at found
  · cases found
  · next whole =>
    cases found
    have valid : c.val.isValidChar := by
      have bound := c.isLt
      simp only [isSurrogate, Bool.and_eq_true, decide_eq_true_eq, not_and, not_le] at whole
      by_cases low : c.val < 0xd800
      · exact .inl low
      · exact .inr ⟨whole (by omega), bound⟩
    apply Fin.ext
    change (Char.ofNat c.val).toNat = c.val
    rw [Char.ofNat, dif_pos valid]
    rfl

theorem escape_code_form (c : Fin 0x110000) : Escape c (escapeCode c) := by
  unfold escapeCode
  split
  · next head found =>
    have same := scalar_some found
    have code : head.toNat = c.val := congrArg Fin.val same
    unfold Json.escapeChar
    split
    · next short =>
      obtain ⟨notU, back, _⟩ := Json.short_escape_read short
      exact .char same (by simp) fun t => by simp [readUnit, readPlain, notU, back]
    · next long =>
      split
      · have other : head ≠ '\\' ∧ head ≠ '"' := by
          constructor <;> rintro rfl <;> exact absurd long (by decide)
        exact .char same (by simpa using other.2) fun t => by
          simp [readUnit, readPlain, other.1]
      · split
        · next small =>
          rw [code] at small ⊢
          exact .unit small
        · next large =>
          have bound := c.isLt
          rw [code] at large ⊢
          have high : 55296 + (c.val - 65536) / 1024 < 0x110000 := by omega
          have low : 56320 + (c.val - 65536) % 1024 < 0x110000 := by omega
          refine @Escape.pair c ⟨_, high⟩ ⟨_, low⟩ ?_ ?_ ?_
          · simp only [isHigh, Bool.and_eq_true, decide_eq_true_eq]
            omega
          · simp only [isLow, Bool.and_eq_true, decide_eq_true_eq]
            omega
          · apply Fin.ext
            simp only [paired, Fin.ofNat]
            omega
  · next lone =>
    refine .unit ?_
    have surrogate : isSurrogate c = true := by
      by_contra whole
      simp [scalar, whole] at lone
    simp only [isSurrogate, Bool.and_eq_true, decide_eq_true_eq] at surrogate
    omega

theorem read_unit_hex (small : c.val < 65536) (rest : Text) :
    readUnit ('\\' :: 'u' :: (Json.hex4 c.val ++ rest)) = some (c, rest) := by
  have same : Fin.ofNat 0x110000 c.val = c := Fin.ofNat_val_eq_self c
  simp only [readUnit, Json.read_hex4 small, Option.map_some, same]

theorem high_small (high : isHigh c = true) : c.val < 65536 := by
  simp only [isHigh, Bool.and_eq_true, decide_eq_true_eq] at high
  omega

theorem low_small (low : isLow c = true) : c.val < 65536 ∧ isHigh c = false := by
  simp only [isLow, isHigh, Bool.and_eq_true, decide_eq_true_eq, Bool.and_eq_false_iff,
    decide_eq_false_iff_not] at low ⊢
  omega

/-- What begins with a code point that is no low surrogate does not begin with one's escape. -/
theorem read_unit_escape (c : Fin 0x110000) (rest : Text) {d : Fin 0x110000} {later : Text}
    (read : readUnit (escapeCode c ++ rest) = some (d, later)) : isLow d = true → d = c := by
  have form := escape_code_form c
  generalize escapeCode c = written at form read
  intro low
  cases form with
  | unit small =>
    rw [cons_append, cons_append, read_unit_hex small] at read
    cases read
    rfl
  | pair high _ _ =>
    simp only [cons_append, append_assoc, read_unit_hex (high_small high)] at read
    cases read
    rw [(low_small low).2] at high
    cases high
  | char _ _ reads =>
    rw [(reads rest).1] at read
    cases read

theorem read_code_escape (rest : Text)
    (apart : isHigh c = true → ∀ d later, readUnit rest = some (d, later) → isLow d = false) :
    readCode (escapeCode c ++ rest) = some (c, rest) := by
  have form := escape_code_form c
  generalize escapeCode c = written at form
  unfold readCode
  cases form with
  | unit small =>
    simp only [cons_append, read_unit_hex small]
    split
    · rfl
    · next d later next =>
      rw [if_neg]
      rw [Bool.and_eq_true]
      rintro ⟨high, low⟩
      rw [apart high d later next] at low
      cases low
  | pair high low same =>
    simp only [cons_append, append_assoc, read_unit_hex (high_small high),
      read_unit_hex (low_small low).1, high, low, Bool.and_self, if_true, same]
  | char same _ reads => simp only [reads rest, Option.map_some, same]

theorem surrogate_escape (lone : isHigh c = true ∨ isLow c = true) :
    escapeCode c = '\\' :: 'u' :: Json.hex4 c.val := by
  have surrogate : isSurrogate c = true := by
    simp only [isHigh, isLow, isSurrogate, Bool.and_eq_true, decide_eq_true_eq] at lone ⊢
    omega
  simp [escapeCode, scalar, surrogate]

theorem read_code_pair {d : Fin 0x110000} (high : isHigh c = true) (low : isLow d = true)
    (rest : Text) :
    readCode (escapeCode c ++ (escapeCode d ++ rest)) = some (paired c.val d.val, rest) := by
  rw [surrogate_escape (.inl high), surrogate_escape (.inr low)]
  simp only [readCode, cons_append, read_unit_hex (high_small high),
    read_unit_hex (low_small low).1, high, low, Bool.and_self, if_true]

theorem escape_open (c : Fin 0x110000) (rest : Text) :
    (escapeCode c ++ rest).head? ≠ some '"' := by
  have form := escape_code_form c
  generalize escapeCode c = written at form
  cases form with
  | unit | pair => simp
  | char _ opened reads =>
    cases written with
    | nil => cases (reads []).2
    | cons => exact opened

theorem read_codes_step (t : Text) (fuel : Nat) (opened : t.head? ≠ some '"')
    {rest : Text} (read : readCode t = some (c, rest)) :
    readCodes (fuel + 1) t = (readCodes fuel rest).map (fun x => (c :: x.1, x.2)) := by
  rw [readCodes, if_neg opened, read]
  rfl

theorem read_codes (s : Str) (rest : Text) {fuel : Nat} (enough : s.length < fuel) :
    readCodes fuel (s.flatMap escapeCode ++ '"' :: rest) = some (joined s, rest) := by
  induction s using joined.induct generalizing fuel with
  | case1 c d s pair ih =>
    obtain ⟨fuel, rfl⟩ := Nat.exists_eq_add_of_lt enough
    rw [Bool.and_eq_true] at pair
    simp only [flatMap_cons, append_assoc]
    rw [read_codes_step _ _ (escape_open c _) (read_code_pair pair.1 pair.2 _),
      ih (by simp only [length_cons]; omega), joined, if_pos (by simpa using pair)]
    rfl
  | case2 c d s apart ih =>
    obtain ⟨fuel, rfl⟩ := Nat.exists_eq_add_of_lt enough
    have next : readCode (escapeCode c ++ ((d :: s).flatMap escapeCode ++ '"' :: rest)) =
        some (c, (d :: s).flatMap escapeCode ++ '"' :: rest) := by
      apply read_code_escape
      intro high e later read
      rw [flatMap_cons, append_assoc] at read
      by_contra low
      rw [Bool.not_eq_false] at low
      rw [read_unit_escape d _ read low] at low
      exact apart (by rw [high, low]; rfl)
    rw [flatMap_cons, append_assoc, read_codes_step _ _ (escape_open c _) next,
      ih (by simp only [length_cons]; omega), joined, if_neg apart]
    rfl
  | case3 s short =>
    match s, short with
    | [], _ =>
      obtain ⟨fuel, rfl⟩ := Nat.exists_eq_add_of_lt enough
      rfl
    | [c], _ =>
      obtain ⟨fuel, rfl⟩ : ∃ more, fuel = more + 2 := ⟨fuel - 2, (Nat.sub_add_cancel enough).symm⟩
      have next : readCode (escapeCode c ++ '"' :: rest) = some (c, '"' :: rest) :=
        read_code_escape _ (fun _ _ _ read => nomatch read)
      rw [flatMap_singleton, read_codes_step _ _ (escape_open c _) next]
      rfl
    | c :: d :: s, short => exact absurd rfl (short c d s)

/-! ## How a string is written -/

theorem escape_code_length (c : Fin 0x110000) : (escapeCode c).length = escapedWidth c := by
  unfold escapeCode escapedWidth
  split
  · next head found =>
    have code : head.toNat = c.val := congrArg Fin.val (scalar_some found)
    rw [← code]
    unfold Json.escapeChar
    have short : (Json.shortEscape head).isSome = true ↔
        head.toNat ∈ Json.shortEscapes.map Prod.fst := by
      rw [Json.shortEscape, Option.isSome_map, find?_isSome, mem_map]
      simp
    cases escape : Json.shortEscape head with
    | some => rw [if_pos (short.mp (by rw [escape]; rfl))]; rfl
    | none =>
      have long : head.toNat ∉ Json.shortEscapes.map Prod.fst := fun member => by
        simpa [escape] using short.mpr member
      rw [if_neg long]
      dsimp only
      split_ifs <;> rfl
  · next lone =>
    have surrogate : isSurrogate c = true := by
      by_contra whole
      simp [scalar, whole] at lone
    simp only [isSurrogate, Bool.and_eq_true, decide_eq_true_eq] at surrogate
    have long : c.val ∉ Json.shortEscapes.map Prod.fst := by
      simp [Json.shortEscapes]
      omega
    rw [if_neg long, if_neg (by omega), if_pos (by omega)]
    rfl

theorem quote_length (s : Str) : (quote s).length = escapedSize s + 2 := by
  have widths : (s.flatMap escapeCode).length = escapedSize s := by
    simp only [length_flatMap, escape_code_length, escapedSize]
  simp [quote, widths]

theorem quote_printable (s : Str) : Json.Printable (quote s) := by
  have each (c : Fin 0x110000) : Json.Printable (escapeCode c) := by
    unfold escapeCode
    split
    · exact Json.escape_printable _
    · next lone =>
      refine Json.unicode_printable ?_
      by_contra large
      have whole : isSurrogate c = false := by
        simp only [isSurrogate, Bool.and_eq_false_iff, decide_eq_false_iff_not]
        omega
      simp [scalar, whole] at lone
  have body : Json.Printable (s.flatMap escapeCode) := by
    intro c member
    obtain ⟨d, _, inside⟩ := mem_flatMap.mp member
    exact each d c inside
  exact .cons (by decide) (body.append (.cons (by decide) (by simp [Json.Printable])))

theorem read_quote (s : Str) (rest : Text) :
    readQuoted (quote s ++ rest) = some (joined s, rest) := by
  have room : s.length < (quote s ++ rest).length := by
    have wide : s.length ≤ escapedSize s := by
      induction s with
      | nil => exact Nat.le_refl _
      | cons c s ih =>
        have one : 1 ≤ escapedWidth c := by
          unfold escapedWidth
          split_ifs <;> decide
        simp only [escapedSize, length_cons, map_cons, sum_cons] at ih ⊢
        omega
    rw [length_append, quote_length]
    omega
  have shape : quote s ++ rest = '"' :: (s.flatMap escapeCode ++ '"' :: rest) := by simp [quote]
  have opened : (quote s ++ rest).head? = some '"' := congrArg head? shape
  have inner : (quote s ++ rest).tail = s.flatMap escapeCode ++ '"' :: rest := congrArg tail shape
  rw [readQuoted, if_pos opened, inner]
  exact read_codes s rest room

theorem quote_of_text (t : Text) : quote (ofText t) = Json.quote t := by
  have each (c : Char) : escapeCode (codePoint c) = Json.escapeChar c := by
    rw [escapeCode, scalar_code_point]
  simp only [quote, Json.quote, ofText, flatMap_map, each]

theorem expect_append (label t : Text) : expect label (label ++ t) = some t := by
  rw [expect, if_pos (prefix_append label t), drop_left]

theorem entry_read {α : Type} {label value rest : Text} {read : Text → Option (α × Text)} {a : α}
    (reads : read (value ++ rest) = some (a, rest)) :
    entry label read (label ++ (value ++ rest)) = some (a, rest) := by
  rw [entry, expect_append]
  exact reads

theorem read_digits (n : Nat) {rest : Text} (ended : ∀ c ∈ rest.head?, c.isDigit = false) :
    readDigits (Nat.toDigits 10 n ++ rest) = (n, rest) := by
  have digits : ∀ c ∈ Nat.toDigits 10 n, c.isDigit = true :=
    fun c member => Nat.isDigit_of_mem_toDigits (by decide) (by decide) member
  have stops : rest.takeWhile Char.isDigit = [] ∧ rest.dropWhile Char.isDigit = rest := by
    cases rest with
    | nil => exact ⟨rfl, rfl⟩
    | cons c rest => simp [ended c rfl]
  rw [readDigits, takeWhile_append_of_pos digits, dropWhile_append_of_pos digits, stops.1, stops.2,
    append_nil, Nat.ofDigitChars_ten_toDigits]

/-! ## Joining -/

theorem joined_length (s : Str) : (joined s).length ≤ s.length := by
  induction s using joined.induct with
  | case1 c d s pair ih =>
    rw [joined, if_pos pair, length_cons, length_cons, length_cons]
    omega
  | case2 c d s apart ih =>
    rw [joined, if_neg apart, length_cons, length_cons]
    omega
  | case3 s short =>
    rw [joined]
    exact short

theorem joined_eq_iff (s : Str) : joined s = s ↔ ¬ SplitPair s := by
  induction s using joined.induct with
  | case1 c d s pair ih =>
    have shorter := joined_length s
    rw [Bool.and_eq_true] at pair
    refine iff_of_false ?_ (not_not.mpr ⟨c, d, pair.1, pair.2, [], s, rfl⟩)
    rw [joined, if_pos (by simpa using pair)]
    intro same
    have lengths := congrArg length same
    simp only [length_cons] at lengths
    omega
  | case2 c d s apart ih =>
    have later : SplitPair (c :: d :: s) ↔ SplitPair (d :: s) := by
      refine exists_congr fun high => exists_congr fun low => ?_
      rw [infix_cons_iff]
      refine and_congr_right fun isHigh => and_congr_right fun isLow => or_iff_right ?_
      intro first
      simp only [cons_prefix_cons, nil_prefix, and_true] at first
      obtain ⟨rfl, rfl⟩ := first
      exact apart (by rw [isHigh, isLow]; rfl)
    rw [joined, if_neg apart, later, ← ih]
    simp
  | case3 s short =>
    have same : joined s = s := by
      rw [joined]
      exact short
    refine iff_of_true same ?_
    rintro ⟨_, _, _, _, inside⟩
    have two := inside.length_le
    match s, short with
    | [], _ => cases two
    | [_], _ => exact absurd two (by simp)
    | c :: d :: s, short => exact short c d s rfl

theorem joined_text (t : Text) : joined (ofText t) = ofText t := by
  rw [joined_eq_iff]
  rintro ⟨c, _, high, _, inside⟩
  obtain ⟨head, _, rfl⟩ := mem_map.mp (inside.subset mem_cons_self)
  have whole := surrogate_code_point head
  simp only [isHigh, isSurrogate, Bool.and_eq_true, Bool.and_eq_false_iff, decide_eq_true_eq,
    decide_eq_false_iff_not] at high whole
  omega

theorem read_quote_text (t rest : Text) :
    readQuoted (Json.quote t ++ rest) = some (ofText t, rest) := by
  rw [← quote_of_text, read_quote, joined_text]

theorem quote_cancel {s t r r' : Text} (same : Json.quote s ++ r = Json.quote t ++ r') :
    s = t ∧ r = r' := by
  have read := congrArg readQuoted same
  rw [read_quote_text, read_quote_text] at read
  obtain ⟨texts, rest⟩ := Prod.mk.inj (Option.some.inj read)
  have back := congrArg toText texts
  rw [to_text_of_text, to_text_of_text] at back
  exact ⟨Option.some.inj back, rest⟩

/-! ## As bytes -/

theorem utf8_printable {t : Text} (printable : Json.Printable t) :
    utf8 t = t.map (fun c => UInt8.ofNat c.toNat) := by
  induction t with
  | nil => rfl
  | cons c t ih =>
    have small : c.val.toNat ≤ 127 := Nat.le_succ_of_le (printable c mem_cons_self).2
    have head : String.utf8EncodeChar c = [UInt8.ofNat c.toNat] := by
      unfold String.utf8EncodeChar
      dsimp only
      rw [if_pos small]
      rfl
    rw [utf8, flatMap_cons, head, map_cons]
    exact congrArg _ (ih fun d member => printable d (mem_cons_of_mem _ member))

theorem ascii_of_utf8 {t : Text} (printable : Json.Printable t) :
    (utf8 t).map (fun b => Char.ofNat b.toNat) = t := by
  have back : ∀ c ∈ t, ((fun b : UInt8 => Char.ofNat b.toNat) ∘
      fun c : Char => UInt8.ofNat c.toNat) c = id c := by
    intro c member
    have small : c.toNat < 256 := Nat.lt_of_le_of_lt (printable c member).2 (by decide)
    simp [Nat.mod_eq_of_lt small]
  rw [utf8_printable printable, map_map, map_congr_left back, map_id]

end Peerc.Decoded
