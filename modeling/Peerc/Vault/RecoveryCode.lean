import Mathlib.Data.Nat.ModEq
import Peerc.Lib.Slices
import Peerc.Transfer.Filenames

/-!
Recovery codes: twenty bytes as 32 symbols of five bits and a check symbol, the value modulo 37.
How many symbols there are is only seen in the number of bytes, which 33 symbols give as well.
-/
namespace Peerc.Vault
open List Transfer Slices

def recoveryCodeBytes : Nat := 20

def dataAlphabet : Text := "0123456789ABCDEFGHJKMNPQRSTVWXYZ"

def checkAlphabet : Text := dataAlphabet ++ "*~$=U"

def groupSize : Nat := 5

def symbolAt (alphabet : Text) (n : Nat) : Char := alphabet.getD n '0'

def encodeCrockford (bytes : Bytes) : Text :=
  let count := (bytes.length * 8 + 4) / 5
  (List.range count).map (fun i =>
    symbolAt dataAlphabet (ofBigEndian bytes / 2 ^ (5 * (count - 1 - i)) % 32))

def decodeValue : Nat → Text → Option Nat
  | value, [] => some value
  | value, c :: text => (dataAlphabet.idxOf? c).bind (fun i => decodeValue (value * 32 + i) text)

/-- A value too large for the bytes is OverflowError, which becomes RecoveryCodeError. -/
def decodeCrockford (text : Text) : Option Bytes :=
  (decodeValue 0 text).bind (fun value =>
    let size := text.length * 5 / 8
    if value < 256 ^ size then some (bigEndian size value) else none)

def checksumChar (bytes : Bytes) : Char := symbolAt checkAlphabet (ofBigEndian bytes % 37)

def codeSymbols (raw : Bytes) : Text := encodeCrockford raw ++ [checksumChar raw]

def generateRecoveryCode (raw : Bytes) : Text :=
  let full := codeSymbols raw
  intercalate ['-'] ((List.range ((full.length + groupSize - 1) / groupSize)).map (fun i =>
    (full.drop (groupSize * i)).take groupSize))

def translate (c : Char) : Char :=
  if c = 'O' ∨ c = 'o' then '0' else if c ∈ ['I', 'i', 'L', 'l'] then '1' else c

/-- upper is str.upper. -/
def cleaned (upper : Text → Text) (code : Text) : Text :=
  ((upper (strip isWhitespace code)).filter (fun c => c ≠ '-' && c ≠ ' ')).map translate

/-- The rest of normalize_recovery_code; none is RecoveryCodeError. -/
def readSymbols (symbols : Text) : Option Bytes :=
  if symbols.length < 2 then none
  else (decodeCrockford symbols.dropLast).bind (fun raw =>
    if raw.length = recoveryCodeBytes ∧ symbols.getLast? = some (checksumChar raw) then some raw
    else none)

def normalizeRecoveryCode (upper : Text → Text) (code : Text) : Option Bytes :=
  readSymbols (cleaned upper code)

/-! ## The value of the symbols -/

theorem symbol_facts :
    ∀ n : Fin 37, checkAlphabet.idxOf? (symbolAt checkAlphabet n.val) = some n.val ∧
    (n.val < 32 → dataAlphabet.idxOf? (symbolAt dataAlphabet n.val) = some n.val ∧
      symbolAt checkAlphabet n.val = symbolAt dataAlphabet n.val) := by
  decide +kernel

theorem data_symbol {n : Nat} (low : n < 32) :
    dataAlphabet.idxOf? (symbolAt dataAlphabet n) = some n ∧
      symbolAt checkAlphabet n = symbolAt dataAlphabet n :=
  (symbol_facts ⟨n, by omega⟩).2 low

theorem check_symbol_injective {m n : Nat} (low : m < 37) (low' : n < 37)
    (same : symbolAt checkAlphabet m = symbolAt checkAlphabet n) : m = n := by
  have index := (symbol_facts ⟨m, low⟩).1
  rw [same, (symbol_facts ⟨n, low'⟩).1] at index
  exact (Option.some.inj index).symm

variable {c : Char}

theorem data_index {i : Nat} (found : dataAlphabet.idxOf? c = some i) :
    i < 32 ∧ symbolAt dataAlphabet i = c := by
  obtain ⟨low, here, _⟩ := idxOf?_eq_some_iff.mp found
  refine ⟨low, ?_⟩
  rw [symbolAt, getD_eq_getElem?_getD, getElem?_eq_getElem low, here]
  rfl

theorem decode_value_append (v : Nat) (xs ys : Text) : decodeValue v (xs ++ ys) =
    (decodeValue v xs).bind (fun w => decodeValue w ys) := by
  induction xs generalizing v with
  | nil => rfl
  | cons c xs ih =>
    cases index : dataAlphabet.idxOf? c with
    | none => simp [decodeValue, index]
    | some => simp [decodeValue, index, ih]

variable {v r : Nat}

theorem decode_value_affine {text : Text} (decoded : decodeValue v text = some r) :
    ∃ b, ∀ w, decodeValue w text = some (w * 32 ^ text.length + b) := by
  induction text generalizing v with
  | nil => exact ⟨0, fun w => by simp [decodeValue]⟩
  | cons c text ih =>
    obtain ⟨i, index, rest⟩ := Option.bind_eq_some_iff.mp decoded
    obtain ⟨b, affine⟩ := ih rest
    refine ⟨i * 32 ^ text.length + b, fun w => ?_⟩
    rw [decodeValue, index, Option.bind_some, affine, length_cons, Nat.pow_succ]
    congr 1
    rw [Nat.add_mul, Nat.mul_assoc, Nat.mul_comm 32, Nat.add_assoc]

def symbolsOf (count value : Nat) : Text :=
  (List.range count).map (fun i => symbolAt dataAlphabet (value / 2 ^ (5 * (count - 1 - i)) % 32))

theorem symbols_of_succ (n value : Nat) :
    symbolsOf (n + 1) value = symbolsOf n (value / 32) ++ [symbolAt dataAlphabet (value % 32)] := by
  rw [symbolsOf, range_succ, map_append, map_singleton, symbolsOf]
  congr 1
  · apply map_congr_left
    intro i low
    have small := mem_range.mp low
    rw [Nat.div_div_eq_div_mul, show 32 = 2 ^ 5 from rfl, ← Nat.pow_add]
    congr 4
    omega
  · simp

theorem symbols_of_cons (n value : Nat) : symbolsOf (n + 1) value =
    symbolAt dataAlphabet (value / 2 ^ (5 * n) % 32) :: symbolsOf n value := by
  rw [symbolsOf, range_succ_eq_map, map_cons, map_map, symbolsOf]
  congr 1
  apply map_congr_left
  intro i _
  simp only [Function.comp, Nat.succ_eq_add_one]
  congr 4
  omega

theorem decode_symbols_of (n value : Nat) :
    decodeValue 0 (symbolsOf n value) = some (value % 32 ^ n) := by
  induction n generalizing value with
  | zero => simp [symbolsOf, decodeValue, Nat.mod_one]
  | succ n ih =>
    have low : value % 32 < 32 := Nat.mod_lt _ (by decide)
    rw [symbols_of_succ, decode_value_append, ih, Option.bind_some, decodeValue,
      (data_symbol low).1,
      Option.bind_some, decodeValue, Nat.pow_succ', Nat.mod_mul, Nat.add_comm, Nat.mul_comm]

theorem symbols_of_decoded {text : Text} {value : Nat} (decoded : decodeValue 0 text = some value) :
    text = symbolsOf text.length value := by
  induction text using List.reverseRecOn generalizing value with
  | nil => rfl
  | append_singleton text c ih =>
    rw [decode_value_append] at decoded
    obtain ⟨w, front, last⟩ := Option.bind_eq_some_iff.mp decoded
    obtain ⟨i, index, made⟩ := Option.bind_eq_some_iff.mp last
    obtain ⟨low, symbol⟩ := data_index index
    cases made
    have quotient : (w * 32 + i) / 32 = w := by omega
    have remainder : (w * 32 + i) % 32 = i := by omega
    rw [length_append, length_singleton, symbols_of_succ, quotient, remainder, symbol, ← ih front]

/-! ## What is accepted -/

theorem checksum_of_value {value : Nat} (fits : value < 256 ^ recoveryCodeBytes) :
    checksumChar (bigEndian recoveryCodeBytes value) = symbolAt checkAlphabet (value % 37) := by
  rw [checksumChar, ofBigEndian_bigEndian, Nat.mod_eq_of_lt fits]

structure Reads (data : Text) (check : Char) (value : Nat) : Prop where
  summed : decodeValue 0 data = some value
  size : data.length * 5 / 8 = recoveryCodeBytes
  fits : value < 256 ^ recoveryCodeBytes
  checked : check = symbolAt checkAlphabet (value % 37)

theorem read_symbols_concat (data : Text) (check : Char) (raw : Bytes) :
    readSymbols (data ++ [check]) = some raw ↔
      ∃ value, Reads data check value ∧ raw = bigEndian recoveryCodeBytes value := by
  rw [readSymbols, dropLast_concat, getLast?_concat]
  constructor
  · intro read
    split at read
    · cases read
    · obtain ⟨bytes, decoded, compared⟩ := Option.bind_eq_some_iff.mp read
      obtain ⟨value, summed, fits⟩ := Option.bind_eq_some_iff.mp decoded
      obtain ⟨small, made⟩ := Option.ite_none_right_eq_some.mp fits
      obtain ⟨⟨length, check⟩, same⟩ := Option.ite_none_right_eq_some.mp compared
      have bytes_eq := Option.some.inj made
      have size : data.length * 5 / 8 = recoveryCodeBytes := by
        rw [← length, ← bytes_eq, length_bigEndian]
      rw [size] at small bytes_eq
      refine ⟨value, ⟨summed, size, small, ?_⟩, ?_⟩
      · rw [← checksum_of_value small, bytes_eq]
        exact Option.some.inj check
      · rw [bytes_eq]
        exact (Option.some.inj same).symm
  · intro ⟨value, reads, made⟩
    have long : ¬ (data ++ [check]).length < 2 := by
      have size := reads.size
      unfold recoveryCodeBytes at size
      simp only [length_append, length_singleton]
      omega
    have decoded : decodeCrockford data = some raw := by
      rw [decodeCrockford, reads.summed, Option.bind_some, reads.size, if_pos reads.fits, made]
    rw [if_neg long, decoded, Option.bind_some, made, checksum_of_value reads.fits, ← reads.checked,
      if_pos ⟨length_bigEndian _ _, rfl⟩]

variable {raw : Bytes}

theorem code_symbols_eq (size : raw.length = recoveryCodeBytes) : codeSymbols raw =
    symbolsOf 32 (ofBigEndian raw) ++ [symbolAt checkAlphabet (ofBigEndian raw % 37)] := by
  rw [codeSymbols, checksumChar, encodeCrockford, size]
  rfl

theorem read_symbols_iff (symbols : Text) (raw : Bytes) :
    readSymbols symbols = some raw ↔ raw.length = recoveryCodeBytes ∧
      (symbols = codeSymbols raw ∨ symbols = '0' :: codeSymbols raw) := by
  have top : 32 ^ 32 = 256 ^ recoveryCodeBytes := by decide
  have shifted : 2 ^ (5 * 32) = 256 ^ recoveryCodeBytes := by decide
  constructor
  · intro read
    rcases eq_nil_or_concat' symbols with rfl | ⟨data, check, rfl⟩
    · cases read
    · obtain ⟨value, reads, made⟩ := (read_symbols_concat data check raw).mp read
      have length : raw.length = recoveryCodeBytes := by rw [made, length_bigEndian]
      have text := symbols_of_decoded reads.summed
      have fits := reads.fits
      have back : ofBigEndian raw = value := by
        rw [made, ofBigEndian_bigEndian, Nat.mod_eq_of_lt fits]
      rw [code_symbols_eq length, back, ← reads.checked]
      refine ⟨length, ?_⟩
      have size := reads.size
      unfold recoveryCodeBytes at size
      have count : data.length = 32 ∨ data.length = 33 := by omega
      rcases count with short | long
      · rw [short] at text
        exact .inl (by rw [text])
      · rw [long, symbols_of_cons, shifted, Nat.div_eq_of_lt fits] at text
        have zero : symbolAt dataAlphabet (0 % 32) = '0' := by decide
        exact .inr (by rw [text, zero, cons_append])
  · rintro ⟨size, forms⟩
    have fits := ofBigEndian_lt raw
    have back := bigEndian_ofBigEndian raw
    rw [size] at fits back
    have summed := decode_symbols_of 32 (ofBigEndian raw)
    rw [top, Nat.mod_eq_of_lt fits] at summed
    rw [code_symbols_eq size] at forms
    have count : (symbolsOf 32 (ofBigEndian raw)).length = 32 := by simp [symbolsOf]
    rcases forms with rfl | rfl
    · exact (read_symbols_concat _ _ raw).mpr
        ⟨_, ⟨summed, by rw [count]; rfl, fits, rfl⟩, back.symm⟩
    · rw [← cons_append]
      refine (read_symbols_concat _ _ raw).mpr ⟨_, ⟨?_, by rw [length_cons, count]; rfl, fits, rfl⟩,
        back.symm⟩
      have zero : dataAlphabet.idxOf? '0' = some 0 := by decide
      rw [decodeValue, zero, Option.bind_some, Nat.zero_mul]
      exact summed

theorem code_symbols_length (size : raw.length = recoveryCodeBytes) :
    (codeSymbols raw).length = 33 := by
  simp [codeSymbols, encodeCrockford, size, recoveryCodeBytes]

/-- A text is accepted exactly if its symbols are the 33 of the code, or these behind one more 0,
and what is accepted has 33 symbols exactly if it is not the latter. -/
theorem accepted_code_iff (upper : Text → Text) (code : Text) :
    (∀ raw, normalizeRecoveryCode upper code = some raw ↔ raw.length = recoveryCodeBytes ∧
      (cleaned upper code = codeSymbols raw ∨ cleaned upper code = '0' :: codeSymbols raw)) ∧
    ((∀ raw, normalizeRecoveryCode upper code = some raw → (cleaned upper code).length = 33) ↔
      ∀ raw, raw.length = recoveryCodeBytes → cleaned upper code ≠ '0' :: codeSymbols raw) := by
  have accepted := read_symbols_iff (cleaned upper code)
  refine ⟨accepted, ?_, ?_⟩
  · intro exact_ raw size longer
    have count := exact_ raw ((accepted raw).mpr ⟨size, .inr longer⟩)
    rw [longer, length_cons, code_symbols_length size] at count
    cases count
  · intro plain raw read
    obtain ⟨size, own | longer⟩ := (accepted raw).mp read
    · rw [own, code_symbols_length size]
    · exact absurd longer (plain raw size)

section Sample

def zeroCode : Bytes := List.replicate recoveryCodeBytes 0

theorem longer_code_accepted :
    (cleaned (List.map Char.toUpper) ('0' :: generateRecoveryCode zeroCode)).length = 34 ∧
      normalizeRecoveryCode (List.map Char.toUpper) ('0' :: generateRecoveryCode zeroCode) =
        some zeroCode := by
  decide +kernel

end Sample

/-! ## Slips -/

inductive Slip : Text → Text → Prop where
  | changed (front back : Text) {a b : Char} (differ : a ≠ b) :
      Slip (front ++ a :: back) (front ++ b :: back)
  | swapped (front back : Text) {a b : Char} (differ : a ≠ b) :
      Slip (front ++ a :: b :: back) (front ++ b :: a :: back)

theorem shifted_remainder {x y k b : Nat} (same : (x * 32 ^ k + b) % 37 = (y * 32 ^ k + b) % 37) :
    x % 37 = y % 37 := by
  have coprime : Nat.gcd 37 (32 ^ k) = 1 := Nat.Coprime.pow_right k (by decide)
  exact Nat.ModEq.cancel_right_of_coprime coprime (Nat.ModEq.add_right_cancel' b same)

theorem decode_value_split {front back : Text} (decoded : decodeValue v (front ++ back) = some r) :
    ∃ w, decodeValue v front = some w ∧ decodeValue w back = some r := by
  rw [decode_value_append] at decoded
  exact Option.bind_eq_some_iff.mp decoded

theorem Reads.remainder {data data' : Text} {check : Char} {v w : Nat} (reads : Reads data check v)
    (reads' : Reads data' check w) : v % 37 = w % 37 := by
  have same := reads'.checked
  rw [reads.checked] at same
  exact check_symbol_injective (Nat.mod_lt _ (by decide)) (Nat.mod_lt _ (by decide)) same

theorem middle_remainder {front x y back : Text} {check : Char} {v w : Nat}
    (reads : Reads (front ++ (x ++ back)) check v) (reads' : Reads (front ++ (y ++ back)) check w) :
    ∃ f p q, decodeValue f x = some p ∧ decodeValue f y = some q ∧ p % 37 = q % 37 := by
  obtain ⟨f, before, rest⟩ := decode_value_split reads.summed
  obtain ⟨f', before', rest'⟩ := decode_value_split reads'.summed
  rw [before] at before'
  cases before'
  obtain ⟨p, middle, rest⟩ := decode_value_split rest
  obtain ⟨q, middle', rest'⟩ := decode_value_split rest'
  obtain ⟨b, affine⟩ := decode_value_affine rest
  rw [affine] at rest rest'
  cases rest
  cases rest'
  exact ⟨f, p, q, middle, middle', shifted_remainder (reads.remainder reads')⟩

theorem decode_value_last (decoded : decodeValue v [c] = some r) :
    ∃ i, i < 32 ∧ symbolAt dataAlphabet i = c ∧ r = v * 32 + i := by
  obtain ⟨i, index, rest⟩ := Option.bind_eq_some_iff.mp decoded
  obtain ⟨low, symbol⟩ := data_index index
  exact ⟨i, low, symbol, (Option.some.inj rest).symm⟩

theorem data_symbol_injective {i j : Nat} (low : i < 32) (low' : j < 32)
    (same : symbolAt dataAlphabet i = symbolAt dataAlphabet j) : i = j := by
  have index := (data_symbol low).1
  rw [same, (data_symbol low').1] at index
  exact (Option.some.inj index).symm

theorem slip_caught {s t : Text} (slip : Slip s t) {raw raw' : Bytes}
    (read : readSymbols s = some raw) (read' : readSymbols t = some raw') : False := by
  cases slip with
  | @changed front back a b differ =>
    apply differ
    rcases eq_nil_or_concat' back with rfl | ⟨back, check, rfl⟩
    · obtain ⟨v, reads, _⟩ := (read_symbols_concat front a raw).mp read
      obtain ⟨w, reads', _⟩ := (read_symbols_concat front b raw').mp read'
      have same := reads'.summed
      rw [reads.summed] at same
      rw [reads.checked, reads'.checked, Option.some.inj same]
    · rw [← singleton_append, ← append_assoc [_], ← append_assoc] at read read'
      obtain ⟨v, reads, _⟩ := (read_symbols_concat _ check raw).mp read
      obtain ⟨w, reads', _⟩ := (read_symbols_concat _ check raw').mp read'
      obtain ⟨f, p, q, middle, middle', same⟩ := middle_remainder reads reads'
      obtain ⟨i, low, symbol, rfl⟩ := decode_value_last middle
      obtain ⟨j, low', symbol', rfl⟩ := decode_value_last middle'
      rw [← symbol, ← symbol', show i = j by omega]
  | @swapped front back a b differ =>
    apply differ
    rcases eq_nil_or_concat' back with rfl | ⟨back, check, rfl⟩
    · rw [← singleton_append, ← append_assoc] at read read'
      obtain ⟨v, reads, _⟩ := (read_symbols_concat _ b raw).mp read
      obtain ⟨w, reads', _⟩ := (read_symbols_concat _ a raw').mp read'
      obtain ⟨f, before, rest⟩ := decode_value_split reads.summed
      obtain ⟨f', before', rest'⟩ := decode_value_split reads'.summed
      rw [before] at before'
      cases before'
      obtain ⟨i, low, symbol, rfl⟩ := decode_value_last rest
      obtain ⟨j, low', symbol', rfl⟩ := decode_value_last rest'
      -- either symbol is the remainder of the other code
      have first := reads.checked
      have second := reads'.checked
      rw [← symbol', ← (data_symbol low').2] at first
      rw [← symbol, ← (data_symbol low).2] at second
      have one := check_symbol_injective (by omega) (Nat.mod_lt _ (by decide)) first
      have two := check_symbol_injective (by omega) (Nat.mod_lt _ (by decide)) second
      rw [← symbol, ← symbol', show i = j by omega]
    · have regroup : ∀ x y : Char, front ++ x :: y :: (back ++ [check]) =
          (front ++ ([x, y] ++ back)) ++ [check] := by simp
      rw [regroup] at read read'
      obtain ⟨v, reads, _⟩ := (read_symbols_concat _ check raw).mp read
      obtain ⟨w, reads', _⟩ := (read_symbols_concat _ check raw').mp read'
      obtain ⟨f, p, q, middle, middle', same⟩ := middle_remainder reads reads'
      obtain ⟨_, first, second⟩ :=
        decode_value_split (show decodeValue f ([a] ++ [b]) = _ from middle)
      obtain ⟨_, first', second'⟩ :=
        decode_value_split (show decodeValue f ([b] ++ [a]) = _ from middle')
      obtain ⟨i, low, symbol, rfl⟩ := decode_value_last first
      obtain ⟨j, low', symbol', rfl⟩ := decode_value_last second
      obtain ⟨k, lowest, again, rfl⟩ := decode_value_last first'
      obtain ⟨l, lowest', again', rfl⟩ := decode_value_last second'
      have one := data_symbol_injective lowest low' (again.trans symbol'.symm)
      have two := data_symbol_injective lowest' low (again'.trans symbol.symm)
      rw [← symbol, ← symbol', show i = j by omega]

/-! ## What may be typed -/

def isSymbol (c : Char) : Bool := c ≠ '-' && c ≠ ' '

/-- What is typed, up to dashes and blanks, case, and O for 0 and I and L for 1. -/
def letters (code : Text) : Text := (code.filter isSymbol).map (fun c => translate c.toUpper)

theorem alphabet_facts : ∀ c ∈ checkAlphabet, isSymbol c = true ∧ translate c.toUpper = c :=
  all_iff_forall_prop.mp (by decide)

theorem ascii_facts :
    ∀ n : Fin 128, isSymbol (Char.ofNat n.val).toUpper = isSymbol (Char.ofNat n.val) ∧
    (translate (Char.ofNat n.val).toUpper ∈ checkAlphabet →
      isWhitespace (Char.ofNat n.val) = false) := by
  decide +kernel

theorem upper_other (wide : 128 ≤ c.toNat) : translate c.toUpper ∉ checkAlphabet := by
  have narrow : ∀ d ∈ checkAlphabet ++ ['O', 'o', 'I', 'i', 'L', 'l'], d.toNat < 128 :=
    all_iff_forall_prop.mp (by decide)
  rw [to_upper_wide wide]
  intro member
  unfold translate at member
  have listed : c ∈ checkAlphabet ++ ['O', 'o', 'I', 'i', 'L', 'l'] := by
    split at member
    · rename_i o
      rcases o with rfl | rfl <;> decide
    · split at member
      · rename_i one
        exact mem_append_right _ (mem_cons_of_mem _ (mem_cons_of_mem _ one))
      · exact mem_append_left _ member
  have low := narrow c listed
  omega

theorem typed_facts (typed : isSymbol c = true → translate c.toUpper ∈ checkAlphabet) :
    c.toNat < 128 ∧ isSymbol c.toUpper = isSymbol c ∧
      (isWhitespace c = true → isSymbol c = false) := by
  by_cases narrow : c.toNat < 128
  · have facts := ascii_facts ⟨c.toNat, narrow⟩
    rw [Char.ofNat_toNat] at facts
    refine ⟨narrow, facts.1, fun blank => ?_⟩
    by_contra symbol
    rw [facts.2 (typed (Bool.not_eq_false _ ▸ symbol))] at blank
    cases blank
  · have symbol : isSymbol c = true := by
      unfold isSymbol
      have wide : c ≠ '-' ∧ c ≠ ' ' := by
        constructor <;> rintro rfl <;> exact narrow (by decide)
      simp [wide]
    exact absurd (typed symbol) (upper_other (by omega))

theorem filter_strip {t : Text} (blanks : ∀ c ∈ t, isWhitespace c = true → isSymbol c = false) :
    (strip isWhitespace t).filter isSymbol = t.filter isSymbol := by
  have dropped : ∀ u : Text, (∀ c ∈ u, isWhitespace c = true → isSymbol c = false) →
      (u.dropWhile isWhitespace).filter isSymbol = u.filter isSymbol := by
    intro u
    induction u with
    | nil => exact fun _ => rfl
    | cons c u ih =>
      intro blank
      rw [dropWhile_cons]
      split
      · rename_i white
        rw [ih (fun d inside => blank d (mem_cons_of_mem c inside)),
          filter_cons_of_neg (by simp [blank c mem_cons_self white])]
      · rfl
  unfold strip rstrip
  rw [filter_reverse, dropped, filter_reverse, reverse_reverse, dropped t blanks]
  intro c inside
  exact blanks c ((dropWhile_sublist _).subset (mem_reverse.mp inside))

theorem cleaned_eq_letters {upper : Text → Text}
    (ascii : ∀ t : Text, (∀ c ∈ t, c.toNat < 128) → upper t = t.map Char.toUpper) {code : Text}
    (typed : ∀ c ∈ letters code, c ∈ checkAlphabet) : cleaned upper code = letters code := by
  have facts : ∀ c ∈ code, c.toNat < 128 ∧ isSymbol c.toUpper = isSymbol c ∧
      (isWhitespace c = true → isSymbol c = false) := fun c inside =>
    typed_facts (fun symbol => typed _ (mem_map_of_mem (mem_filter.mpr ⟨inside, symbol⟩)))
  have kept : ∀ c ∈ strip isWhitespace code, c ∈ code := fun c => mem_of_mem_strip
  unfold cleaned letters
  rw [ascii _ (fun c inside => (facts c (kept c inside)).1), filter_map, map_map,
    ← filter_strip (fun c inside => (facts c inside).2.2)]
  congr 1
  exact filter_congr (fun c inside => (facts c (kept c inside)).2.1)

theorem slices_flatten (k n : Nat) (t : Text) :
    ((List.range n).map (fun i => (t.drop (k * i)).take k)).flatten = t.take (k * n) := by
  induction n with
  | zero => simp
  | succ n ih => simp [range_succ, ih, Nat.mul_succ, take_add]

theorem filter_intercalate (ts : List Text) :
    (intercalate ['-'] ts).filter isSymbol = ts.flatten.filter isSymbol := by
  induction ts with
  | nil => rfl
  | cons t ts ih =>
    cases ts with
    | nil => simp [intercalate]
    | cons u us => simp_all [intercalate, isSymbol]

theorem code_symbols_mem (member : c ∈ codeSymbols raw) :
    c ∈ checkAlphabet := by
  have data : ∀ n : Fin 37, symbolAt checkAlphabet n.val ∈ checkAlphabet ∧
      (n.val < 32 → symbolAt dataAlphabet n.val ∈ checkAlphabet) := by decide
  rcases mem_append.mp member with encoded | check
  · obtain ⟨i, _, rfl⟩ := mem_map.mp encoded
    have low : ∀ v : Nat, v % 32 < 32 := fun v => Nat.mod_lt _ (by decide)
    exact (data ⟨_, Nat.lt_trans (low _) (by decide)⟩).2 (low _)
  · rw [mem_singleton.mp check]
    exact (data ⟨_, Nat.mod_lt _ (by decide)⟩).1

theorem letters_displayed (size : raw.length = recoveryCodeBytes) :
    letters (generateRecoveryCode raw) = codeSymbols raw := by
  have facts : ∀ c ∈ codeSymbols raw, isSymbol c = true ∧ translate c.toUpper = c :=
    fun c inside => alphabet_facts c (code_symbols_mem inside)
  unfold letters generateRecoveryCode
  rw [filter_intercalate, slices_flatten,
    take_of_length_le (by rw [code_symbols_length size]; decide),
    filter_eq_self.mpr (fun c inside => (facts c inside).1)]
  exact (map_congr_left (fun c inside => (facts c inside).2)).trans (map_id _)

/-- However the displayed code is typed it gives the bytes back, and no slip does. -/
theorem recovery_code_round_trips (upper : Text → Text)
    (ascii : ∀ t : Text, (∀ c ∈ t, c.toNat < 128) → upper t = t.map Char.toUpper) (raw : Bytes)
    (size : raw.length = recoveryCodeBytes) :
    (∀ code, letters code = letters (generateRecoveryCode raw) →
      normalizeRecoveryCode upper code = some raw) ∧
    ∀ code code', normalizeRecoveryCode upper code = some raw →
      Slip (cleaned upper code) (cleaned upper code') →
        normalizeRecoveryCode upper code' = none := by
  refine ⟨fun code same => ?_, fun code code' valid slip => ?_⟩
  · rw [letters_displayed size] at same
    refine (read_symbols_iff _ raw).mpr ⟨size, .inl ?_⟩
    rw [cleaned_eq_letters ascii (fun c inside => code_symbols_mem (same ▸ inside)), same]
  · cases read : normalizeRecoveryCode upper code' with
    | none => rfl
    | some => exact (slip_caught slip valid read).elim

theorem typed_code_read : normalizeRecoveryCode (List.map Char.toUpper)
    "ooooo OOOOO 0000000000-0000000000-000" = some zeroCode :=
  (recovery_code_round_trips (List.map Char.toUpper) (fun _ _ => rfl) zeroCode (by decide)).1 _
    (by decide +kernel)

end Peerc.Vault
