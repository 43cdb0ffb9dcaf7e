import Mathlib.Data.Bool.AllAny
import Mathlib.Data.List.TakeWhile
import Peerc.Lib.Disk

/-!
From a peer's file name to a name in the downloads directory. A name is one path
component; the directory is flat and has no symbolic links, so a path inside it is
its last component.
-/
namespace Peerc.Transfer
open List

def maxFilenameBytes : Nat := 255

def maxExtensionBytes : Nat := 16

/-- The characters that str.strip removes. -/
def isWhitespace (c : Char) : Bool :=
  let n := c.toNat
  (9 ≤ n && n ≤ 13) || (28 ≤ n && n ≤ 32) || n = 0x85 || n = 0xa0 || n = 0x1680 ||
    (0x2000 ≤ n && n ≤ 0x200a) || n = 0x2028 || n = 0x2029 || n = 0x202f || n = 0x205f || n = 0x3000

variable (drop : Char → Bool)

def rstrip (t : Text) : Text := (t.reverse.dropWhile drop).reverse

def strip (t : Text) : Text := rstrip drop (t.dropWhile drop)

def lastComponent (t : Text) : Text :=
  (t.reverse.takeWhile (fun c => c ≠ '/' && c ≠ '\\')).reverse

variable (name : Text)

/-- The extension starts at the last dot unless only dots stand before it. -/
def splitext : Text × Text :=
  let tail := name.reverse.takeWhile (fun c => c ≠ '.')
  let stem := name.take (name.length - (tail.length + 1))
  if tail.length < name.length ∧ stem.any (fun c => c ≠ '.') then (stem, '.' :: tail.reverse)
  else (name, [])

def takeBytes : Nat → Text → Text
  | _, [] => []
  | budget, c :: t =>
      if (utf8 [c]).length ≤ budget then c :: takeBytes (budget - (utf8 [c]).length) t else []

def truncate (maxBytes : Nat) : Text :=
  if (utf8 name).length ≤ maxBytes then name
  else
    let split := splitext name
    let parts := if maxExtensionBytes < (utf8 split.2).length then (name, []) else split
    let stem := takeBytes (maxBytes - (utf8 parts.2).length) parts.1
    (if stem = [] then "file".toList else stem) ++ parts.2

def windowsIllegal : Text := "<>:\"|?*"

def windowsReserved : List Text :=
  ["CON".toList, "PRN".toList, "AUX".toList, "NUL".toList] ++
    (List.range 9).map (fun i => "COM".toList ++ [Nat.digitChar (i + 1)]) ++
    (List.range 9).map (fun i => "LPT".toList ++ [Nat.digitChar (i + 1)])

variable (windows : Bool)

/-- sanitize_filename without a fallback; none is UnsafeFilenameError. -/
def sanitizeFilename (name : Text) (maxBytes : Nat) : Option Text :=
  let leaf := (lastComponent name).filter (fun c => 32 ≤ c.toNat && c.toNat ≠ 127)
  let leaf := strip isWhitespace leaf
  let leaf := if windows then
      rstrip (fun c => c = '.' || c = ' ')
        (leaf.map (fun c => if c ∈ windowsIllegal then '_' else c))
    else leaf
  if leaf = [] ∨ leaf = ['.'] ∨ leaf = ['.', '.'] then none
  else
    let stem := (leaf.takeWhile (fun c => c ≠ '.')).map Char.toUpper
    let leaf := if windows ∧ stem ∈ windowsReserved then '_' :: leaf else leaf
    some (truncate leaf maxBytes)

def partExtension : Text := ".part"

def metaSuffix : Text := ".meta"

def getPartPath (dest : Text) : Text := dest ++ partExtension

def metaPathFor (part : Text) : Text := part ++ metaSuffix

def candidate : Nat → Text
  | 0 => name
  | n + 1 =>
      (splitext name).1 ++ " (" ++ (Nat.repr (n + 1)).toList ++ ")" ++ (splitext name).2

variable (disk : Disk Text)

/-- So many candidates are enough to find a free one. -/
def resolveSafeDestPath (filename : Text) (allowExistingPart : Bool) : Option Text :=
  (sanitizeFilename windows filename (maxFilenameBytes - 16)).bind (fun name =>
    ((List.range (2 * disk.names.length + 1)).map (candidate name)).find? (fun c =>
      !disk.present c && (allowExistingPart || !disk.present (getPartPath c))))

/-! ## Names stay one component -/

theorem other_chars {t : Text} {c : Char} (absent : c ∉ t) : ∀ d ∈ t, decide (d ≠ c) = true := by
  intro d member
  have other : d ≠ c := fun same => absent (same ▸ member)
  simpa using other

theorem splitext_at {stem tail : Text} (noDot : '.' ∉ tail) : splitext (stem ++ '.' :: tail) =
    if stem.any (fun c => c ≠ '.') then (stem, '.' :: tail) else (stem ++ '.' :: tail, []) := by
  have last : (stem ++ '.' :: tail).reverse.takeWhile (fun c => c ≠ '.') = tail.reverse := by
    rw [reverse_append, reverse_cons, append_assoc,
      takeWhile_append_of_pos (other_chars (mt mem_reverse.mp noDot))]
    simp
  have size : (stem ++ '.' :: tail).length - (tail.reverse.length + 1) = stem.length := by simp
  have dotted : tail.reverse.length < (stem ++ '.' :: tail).length := by
    simp only [length_reverse, length_append, length_cons]
    omega
  unfold splitext
  dsimp only
  rw [last, size, take_left]
  simp only [dotted, true_and, reverse_reverse]

theorem splitext_cases : splitext name = (name, []) ∨
    ∃ stem tail, name = stem ++ '.' :: tail ∧ '.' ∉ tail ∧ stem.any (fun c => c ≠ '.') = true ∧
      splitext name = (stem, '.' :: tail) := by
  by_cases dotted : '.' ∈ name
  · obtain ⟨tail, stem, split, noDot⟩ := eq_append_cons_of_mem (mem_reverse.mpr dotted)
    have whole : name = stem.reverse ++ '.' :: tail.reverse := by
      have mirrored := congrArg List.reverse split
      simpa using mirrored
    have noDot' : '.' ∉ tail.reverse := mt mem_reverse.mp noDot
    have parts := @splitext_at stem.reverse tail.reverse noDot'
    rw [← whole] at parts
    split at parts
    · rename_i word
      exact .inr ⟨_, _, whole, noDot', word, parts⟩
    · exact .inl parts
  · left
    have all : name.reverse.takeWhile (fun c => c ≠ '.') = name.reverse :=
      takeWhile_eq_self_iff.mpr (other_chars (mt mem_reverse.mp dotted))
    unfold splitext
    dsimp only
    rw [all, length_reverse, if_neg (fun dotted => Nat.lt_irrefl _ dotted.1)]

theorem splitext_append : (splitext name).1 ++ (splitext name).2 = name := by
  rcases splitext_cases name with plain | ⟨stem, tail, whole, _, _, parts⟩
  · rw [plain]
    exact append_nil name
  · rw [parts, whole]

variable {t : Text} {c : Char}

theorem to_upper_wide (wide : 128 ≤ c.toNat) : c.toUpper = c := by
  unfold Char.toUpper
  rw [dif_neg]
  intro lower
  have high : c.toNat ≤ 122 := lower.2
  omega

theorem rstrip_front (t : Text) : rstrip drop t <+: t := by
  have mirrored := reverse_prefix.mpr (dropWhile_suffix (l := t.reverse) drop)
  rwa [reverse_reverse] at mirrored

theorem mem_of_mem_strip {drop : Char → Bool} (member : c ∈ strip drop t) :
    c ∈ t :=
  (dropWhile_sublist drop).subset (IsPrefix.mem member (rstrip_front drop _))

theorem take_bytes_front (budget : Nat) (t : Text) : takeBytes budget t <+: t := by
  induction t generalizing budget with
  | nil => exact prefix_rfl
  | cons c t ih =>
    rw [takeBytes]
    split
    · exact (prefix_cons_inj c).mpr (ih _)
    · exact nil_prefix

variable {name : Text} {maxBytes : Nat}

inductive Truncated (maxBytes : Nat) (name : Text) : Text → Prop where
  | whole (fits : (utf8 name).length ≤ maxBytes) : Truncated maxBytes name name
  | cut {stem ext front : Text} (split : name = stem ++ ext)
      (extension : ext = (splitext name).2 ∧ (utf8 ext).length ≤ maxExtensionBytes ∨
        ext = [] ∧ maxExtensionBytes < (utf8 (splitext name).2).length)
      (long : maxBytes < (utf8 name).length)
      (taken : front = takeBytes (maxBytes - (utf8 ext).length) stem) :
      Truncated maxBytes name ((if front = [] then "file".toList else front) ++ ext)

theorem truncated (name : Text) (maxBytes : Nat) :
    Truncated maxBytes name (truncate name maxBytes) := by
  unfold truncate
  split
  · rename_i fits
    exact .whole fits
  · rename_i long
    dsimp only
    split
    · rename_i wide
      exact .cut (append_nil name).symm (.inr ⟨rfl, wide⟩) (Nat.lt_of_not_le long) rfl
    · rename_i narrow
      exact .cut (splitext_append name).symm (.inl ⟨rfl, Nat.le_of_not_lt narrow⟩)
        (Nat.lt_of_not_le long) rfl

theorem truncate_chars {p : Char → Prop} (all : ∀ c ∈ name, p c) (file : ∀ c ∈ "file".toList, p c) :
    ∀ c ∈ truncate name maxBytes, p c := by
  have cases_ := truncated name maxBytes
  generalize truncate name maxBytes = result at cases_ ⊢
  cases cases_ with
  | whole => exact all
  | cut split _ _ taken =>
    subst split taken
    intro c member
    rcases mem_append.mp member with inStem | inExtension
    · split at inStem
      · exact file c inStem
      · exact all c (mem_append_left _ ((take_bytes_front _ _).mem inStem))
    · exact all c (mem_append_right _ inExtension)

def cleanLeaf (name : Text) : Text :=
  let leaf := strip isWhitespace
    ((lastComponent name).filter (fun c => 32 ≤ c.toNat && c.toNat ≠ 127))
  if windows then
    rstrip (fun c => c = '.' || c = ' ') (leaf.map (fun c => if c ∈ windowsIllegal then '_' else c))
  else leaf

def avoidDevice (leaf : Text) : Text :=
  if windows ∧ (leaf.takeWhile (fun c => c ≠ '.')).map Char.toUpper ∈ windowsReserved
  then '_' :: leaf else leaf

variable {windows : Bool} {leaf : Text}

theorem sanitize_some_iff : sanitizeFilename windows name maxBytes = some leaf ↔
    ¬ (cleanLeaf windows name = [] ∨ cleanLeaf windows name = ['.'] ∨
      cleanLeaf windows name = ['.', '.']) ∧
    leaf = truncate (avoidDevice windows (cleanLeaf windows name)) maxBytes := by
  have whole : sanitizeFilename windows name maxBytes =
      if cleanLeaf windows name = [] ∨ cleanLeaf windows name = ['.'] ∨
        cleanLeaf windows name = ['.', '.'] then none
      else some (truncate (avoidDevice windows (cleanLeaf windows name)) maxBytes) := rfl
  rw [whole, Option.ite_none_left_eq_some, Option.some.injEq, eq_comm (a := leaf)]

def Plain (c : Char) : Prop := c ≠ '/' ∧ c ≠ '\\' ∧ 32 ≤ c.toNat ∧ c.toNat ≠ 127

instance (c : Char) : Decidable (Plain c) := inferInstanceAs (Decidable (_ ∧ _))

theorem clean_leaf_chars (member : c ∈ cleanLeaf windows name) :
    Plain c ∧ (windows = true → c ∉ windowsIllegal) := by
  have stripped : ∀ d ∈ strip isWhitespace
      ((lastComponent name).filter (fun c => 32 ≤ c.toNat && c.toNat ≠ 127)), Plain d := by
    intro d inside
    obtain ⟨component, printable⟩ := mem_filter.mp (mem_of_mem_strip inside)
    have separators := mem_takeWhile_imp (mem_reverse.mp component)
    simp at separators printable
    exact ⟨separators.1, separators.2, printable.1, printable.2⟩
  unfold cleanLeaf at member
  cases windows with
  | false => exact ⟨stripped c member, nofun⟩
  | true =>
    obtain ⟨d, inside, same⟩ := mem_map.mp ((rstrip_front _ _).mem member)
    split at same
    · subst same
      exact ⟨by decide, fun _ => by decide⟩
    · rename_i legal
      subst same
      exact ⟨stripped d inside, fun _ => legal⟩

theorem avoid_device_chars (member : c ∈ avoidDevice windows leaf) : c = '_' ∨ c ∈ leaf := by
  unfold avoidDevice at member
  split at member
  · exact mem_cons.mp member
  · exact .inr member

theorem sanitize_chars (safe : sanitizeFilename windows name maxBytes = some leaf) :
    ∀ c ∈ leaf, Plain c ∧ (windows = true → c ∉ windowsIllegal) := by
  obtain ⟨_, rfl⟩ := sanitize_some_iff.mp safe
  have underscore : Plain '_' ∧ (windows = true → '_' ∉ windowsIllegal) :=
    ⟨by decide, fun _ => by decide⟩
  have file : ∀ c ∈ "file".toList, Plain c ∧ c ∉ windowsIllegal :=
    all_iff_forall_prop.mp (by decide)
  refine truncate_chars (fun c member => ?_) (fun c member =>
    ⟨(file c member).1, fun _ => (file c member).2⟩)
  rcases avoid_device_chars member with rfl | inside
  · exact underscore
  · exact clean_leaf_chars inside

/-! ## The counter finds a free name -/

theorem candidate_longer (name : Text) (n : Nat) :
    name.length < (candidate name (n + 1)).length := by
  have whole := congrArg List.length (splitext_append name)
  simp only [candidate, length_append] at whole ⊢
  have bracket : 0 < (" (".toList).length := by decide
  omega

theorem candidate_injective (name : Text) : Function.Injective (candidate name) := by
  intro n m same
  cases n with
  | zero =>
    cases m with
    | zero => rfl
    | succ m =>
      have longer := candidate_longer name m
      rw [← same] at longer
      exact absurd longer (Nat.lt_irrefl _)
  | succ n =>
    cases m with
    | zero =>
      have longer := candidate_longer name n
      rw [same] at longer
      exact absurd longer (Nat.lt_irrefl _)
    | succ =>
      simp only [candidate, append_assoc, append_cancel_left_eq] at same
      rw [← append_assoc, ← append_assoc, append_cancel_right_eq,
        append_cancel_right_eq] at same
      rw [Nat.toList_repr, Nat.toList_repr] at same
      have read := congrArg (fun digits => Nat.ofDigitChars 10 digits 0) same
      rwa [Nat.ofDigitChars_ten_toDigits, Nat.ofDigitChars_ten_toDigits] at read

theorem candidate_ne_part (name : Text) (i j : Nat) :
    candidate name i ≠ getPartPath (candidate name j) := by
  intro same
  have sizes := congrArg List.length same
  have suffixed : 0 < partExtension.length := by decide
  rw [getPartPath, length_append] at sizes
  cases i with
  | zero =>
    have longer : name.length ≤ (candidate name j).length := by
      cases j with
      | zero => exact Nat.le_refl _
      | succ j => exact Nat.le_of_lt (candidate_longer name j)
    rw [candidate] at sizes
    omega
  | succ i =>
    cases j with
    | zero =>
      -- behind the stem there is a blank on one side and a dot on the other
      rw [getPartPath, candidate, candidate] at same
      rcases splitext_cases name with plain | ⟨stem, tail, whole, _, _, parts⟩
      · simp [plain, partExtension] at same
      · rw [parts] at same
        subst whole
        simp at same
    | succ j =>
      have digits : ∀ n, ∀ c ∈ (Nat.repr n).toList, decide (c ≠ ')') = true := by
        intro n
        refine other_chars (fun member => ?_)
        rw [Nat.toList_repr] at member
        cases Nat.isDigit_of_mem_toDigits (by decide) (by decide) member
      simp only [getPartPath, candidate, append_assoc, append_cancel_left_eq] at same
      have counters := congrArg (List.takeWhile (fun c => decide (c ≠ ')'))) same
      rw [takeWhile_append_of_pos (digits _), takeWhile_append_of_pos (digits _)] at counters
      have equal : (Nat.repr (i + 1)).toList = (Nat.repr (j + 1)).toList := by simpa using counters
      rw [equal, append_cancel_left_eq, append_cancel_left_eq] at same
      have lengths := congrArg List.length same
      rw [length_append] at lengths
      omega

def Blocks (name : Text) (i : Nat) (entry : Text) : Prop :=
  entry = candidate name i ∨ entry = getPartPath (candidate name i)

theorem blocks_once {name entry : Text} {i j : Nat} (here : Blocks name i entry)
    (there : Blocks name j entry) : i = j := by
  rcases here with rfl | rfl
  · rcases there with same | same
    · exact candidate_injective name same
    · exact absurd same (candidate_ne_part name i j)
  · rcases there with same | same
    · exact absurd same.symm (candidate_ne_part name j i)
    · exact candidate_injective name (append_cancel_right same)

theorem exists_free_index (name : Text) : ∃ i ≤ disk.names.length,
      (!disk.present (candidate name i) && !disk.present (getPartPath (candidate name i))) =
        true := by
  have listed : ∀ n, disk.present n = true → n ∈ disk.names := by
    intro n present
    obtain ⟨i, linked⟩ := (disk.present_iff n).mp present
    exact mem_map.mpr ⟨(n, i), (disk.entries.get_some_iff n i).mp linked, rfl⟩
  obtain ⟨i, low, free⟩ := exists_unblocked (@blocks_once name) disk.names
  refine ⟨i, by simpa [Nat.lt_succ_iff] using low, ?_⟩
  rw [Bool.and_eq_true, Bool.not_eq_true',
    Bool.not_eq_true', ← Bool.not_eq_true, ← Bool.not_eq_true]
  exact ⟨fun taken => free _ (listed _ taken) (.inl rfl),
    fun taken => free _ (listed _ taken) (.inr rfl)⟩

theorem candidate_relative (free : '/' ∉ name) (n : Nat) : (candidate name n).head? ≠ some '/' := by
  have stemFree : ∀ c, (splitext name).1.head? = some c → c ≠ '/' := by
    rintro _ first rfl
    apply free
    rw [← splitext_append name]
    exact mem_append_left _ (mem_of_head? first)
  intro absolute
  cases n with
  | zero => exact free (mem_of_head? absolute)
  | succ =>
    cases stem : (splitext name).1 with
    | nil =>
      simp only [candidate, stem, nil_append] at absolute
      cases absolute
    | cons c =>
      apply stemFree c (by rw [stem]; rfl)
      simp only [candidate, stem, cons_append, head?_cons, Option.some.injEq] at absolute
      exact absolute

end Peerc.Transfer
