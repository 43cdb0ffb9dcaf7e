import Peerc.Transfer.Filenames

/-!
What a cleaned file name may look like. Cutting a name to its length comes last, after the rules
for Windows have been applied, and may leave a dot or a blank at the end.
-/
namespace Peerc.Transfer
open List

variable {windows : Bool} {name leaf r t : Text} {maxBytes budget : Nat} {c : Char}

theorem utf8_cons (c : Char) (t : Text) :
    (utf8 (c :: t)).length = (utf8 [c]).length + (utf8 t).length := by
  rw [← singleton_append, utf8_append, length_append]

theorem char_size (c : Char) : 0 < (utf8 [c]).length ∧ (utf8 [c]).length ≤ 4 := by
  have size : (utf8 [c]).length = c.utf8Size := by
    simp [utf8, String.length_utf8EncodeChar]
  rw [size]
  exact ⟨c.utf8Size_pos, c.utf8Size_le_four⟩

theorem take_bytes_size (budget : Nat) (t : Text) :
    (utf8 (takeBytes budget t)).length ≤ budget := by
  induction t generalizing budget with
  | nil => exact Nat.zero_le _
  | cons c t ih =>
    rw [takeBytes]
    split
    · have rest := ih (budget - (utf8 [c]).length)
      rw [utf8_cons]
      omega
    · exact Nat.zero_le _

theorem take_bytes_full (long : budget < (utf8 t).length) :
    budget < (utf8 (takeBytes budget t)).length + 4 := by
  induction t generalizing budget with
  | nil => cases long
  | cons c t ih =>
    have size := char_size c
    rw [utf8_cons] at long
    rw [takeBytes]
    split
    · have rest := @ih (budget - (utf8 [c]).length) (by omega)
      rw [utf8_cons]
      omega
    · omega

theorem truncate_cases (wide : 32 ≤ maxBytes) (name : Text) :
    (utf8 name).length ≤ maxBytes ∧ truncate name maxBytes = name ∨
    ∃ front ext, truncate name maxBytes = front ++ ext ∧ front <+: name ∧ 12 < (utf8 front).length ∧
      (utf8 (front ++ ext)).length ≤ maxBytes ∧
      (ext = (splitext name).2 ∨ ext = [] ∧
        maxExtensionBytes < (utf8 (splitext name).2).length) := by
  have result := truncated name maxBytes
  generalize truncate name maxBytes = r at result ⊢
  cases result with
  | whole fits => exact .inl ⟨fits, rfl⟩
  | @cut stem ext front split extension long taken =>
    have short : (utf8 ext).length ≤ 16 := by
      rcases extension with ⟨_, short⟩ | ⟨rfl, _⟩
      · exact short
      · exact Nat.zero_le _
    have sizes := congrArg (fun t => (utf8 t).length) split
    simp only [utf8_append, length_append] at sizes
    have full := @take_bytes_full stem (maxBytes - (utf8 ext).length) (by omega)
    have size := take_bytes_size (maxBytes - (utf8 ext).length) stem
    rw [← taken] at full size
    have some_ : front ≠ [] := by
      rintro rfl
      have nothing : (utf8 []).length = 0 := rfl
      omega
    have kept : front <+: name := by
      rw [split, taken]
      exact (take_bytes_front _ _).trans (prefix_append _ _)
    refine .inr ⟨front, ext, by rw [if_neg some_], kept, by omega, ?_, ?_⟩
    · rw [utf8_append, length_append]
      omega
    · exact extension.imp And.left id

structure SafeName (maxBytes : Nat) (r : Text) : Prop where
  usable : r ≠ [] ∧ r ≠ ['.'] ∧ r ≠ ['.', '.']
  plain : ∀ c ∈ r, Plain c
  fits : (utf8 r).length ≤ maxBytes

theorem avoid_device_usable (usable : ¬ (leaf = [] ∨ leaf = ['.'] ∨ leaf = ['.', '.'])) :
    avoidDevice windows leaf ≠ [] ∧ avoidDevice windows leaf ≠ ['.'] ∧
      avoidDevice windows leaf ≠ ['.', '.'] := by
  unfold avoidDevice
  split
  · simp
  · simpa using usable

theorem sanitized_safe (wide : 32 ≤ maxBytes)
    (returned : sanitizeFilename windows name maxBytes = some r) : SafeName maxBytes r := by
  have plain : ∀ c ∈ r, Plain c := fun c member => (sanitize_chars returned c member).1
  obtain ⟨usable, rfl⟩ := sanitize_some_iff.mp returned
  rcases truncate_cases wide (avoidDevice windows (cleanLeaf windows name)) with
    ⟨fits, whole⟩ | ⟨front, ext, cut, _, long, fits, _⟩
  · rw [whole] at plain ⊢
    exact ⟨avoid_device_usable usable, plain, fits⟩
  · rw [cut] at plain ⊢
    refine ⟨?_, plain, fits⟩
    have size : 12 < (utf8 (front ++ ext)).length := by
      rw [utf8_append, length_append]
      omega
    refine ⟨?_, ?_, ?_⟩ <;> intro same <;> rw [same] at size <;> exact absurd size (by decide)

theorem splitext_avoid_device : splitext leaf = (leaf, []) ∨
    (splitext (avoidDevice windows leaf)).2 = (splitext leaf).2 := by
  rcases splitext_cases leaf with plain | ⟨stem, tail, rfl, noDot, word, parts⟩
  · exact .inl plain
  · right
    unfold avoidDevice
    split
    · have longer := @splitext_at ('_' :: stem) tail noDot
      rw [if_pos (by simp), cons_append] at longer
      rw [longer, parts]
    · rfl

/-- The name is usable on every platform, fits, and keeps an extension that is not too long. -/
theorem sanitized_name_safe (windows : Bool) (name : Text) (maxBytes : Nat) (wide : 32 ≤ maxBytes)
    (r : Text) (returned : sanitizeFilename windows name maxBytes = some r) :
    SafeName maxBytes r ∧
      ((utf8 (splitext (cleanLeaf windows name)).2).length ≤ maxExtensionBytes →
        (splitext (cleanLeaf windows name)).2 <:+ r) := by
  refine ⟨sanitized_safe wide returned, fun short => ?_⟩
  obtain ⟨_, rfl⟩ := sanitize_some_iff.mp returned
  generalize cleanLeaf windows name = leaf at short ⊢
  rcases @splitext_avoid_device windows leaf with none_ | same
  · rw [none_]
    exact nil_suffix
  · rw [← same] at short ⊢
    rcases truncate_cases wide (avoidDevice windows leaf) with
      ⟨_, whole⟩ | ⟨front, ext, cut, _, _, _, extension⟩
    · rw [whole]
      exact ⟨_, splitext_append _⟩
    · rcases extension with kept | ⟨_, long⟩
      · rw [cut, ← kept]
        exact suffix_append _ _
      · exact absurd short (Nat.not_le.mpr long)

section Sample

def offeredName : Text := "x/a".toList ++ List.replicate 40 'b' ++ ".txt".toList

def keptName : Text := 'a' :: List.replicate 27 'b' ++ ".txt".toList

theorem cut_name_safe : SafeName 32 keptName ∧ ".txt".toList <:+ keptName := by
  have safe := sanitized_name_safe true offeredName 32 (by decide) keptName (by decide +kernel)
  exact ⟨safe.1, safe.2 (by decide +kernel)⟩

end Sample

/-! ## The rules for Windows -/

def deviceStem (t : Text) : Text := (t.takeWhile (fun c => c ≠ '.')).map Char.toUpper

theorem device_stem_at {stem : Text} (noDot : '.' ∉ stem) (tail : Text) :
    deviceStem (stem ++ '.' :: tail) = stem.map Char.toUpper := by
  rw [deviceStem, takeWhile_append_of_pos (other_chars noDot)]
  simp

theorem reserved_facts :
    ∀ t ∈ windowsReserved, (utf8 t).length ≤ 4 ∧ t.head? ≠ some '_' := by decide

theorem avoid_device_stem (leaf : Text) : deviceStem (avoidDevice true leaf) ∉ windowsReserved := by
  unfold avoidDevice
  split
  · intro reserved
    exact (reserved_facts _ reserved).2 rfl
  · rename_i free
    exact fun reserved => free ⟨rfl, reserved⟩

theorem to_upper_size (c : Char) : (utf8 [c.toUpper]).length = (utf8 [c]).length := by
  by_cases narrow : c.toNat < 128
  · have all : ∀ n : Fin 128, (utf8 [(Char.ofNat n.val).toUpper]).length =
        (utf8 [Char.ofNat n.val]).length := by decide +kernel
    have this := all ⟨c.toNat, narrow⟩
    rwa [Char.ofNat_toNat] at this
  · rw [to_upper_wide (Nat.le_of_not_lt narrow)]

theorem upper_size (t : Text) : (utf8 (t.map Char.toUpper)).length = (utf8 t).length := by
  induction t with
  | nil => rfl
  | cons c t ih => rw [map_cons, utf8_cons, utf8_cons c, to_upper_size, ih]

theorem truncate_device_stem (wide : 32 ≤ maxBytes) (free : deviceStem name ∉ windowsReserved) :
    deviceStem (truncate name maxBytes) ∉ windowsReserved := by
  rcases truncate_cases wide name with ⟨_, whole⟩ | ⟨front, ext, cut, ⟨rest, split⟩, long, _⟩
  · rwa [whole]
  · rw [cut]
    by_cases dotted : '.' ∈ front
    · -- the first dot is before the cut
      obtain ⟨stem, tail, rfl, noDot⟩ := eq_append_cons_of_mem dotted
      rw [append_assoc, cons_append, device_stem_at noDot]
      rwa [← split, append_assoc, cons_append, device_stem_at noDot] at free
    · intro reserved
      have size := (reserved_facts _ reserved).1
      rw [deviceStem, upper_size, takeWhile_append_of_pos (other_chars dotted), utf8_append,
        length_append] at size
      omega

theorem head_of_front {s t : Text} (front : s <+: t) (first : s.head? = some c) :
    t.head? = some c := by
  obtain ⟨rest, rfl⟩ := front
  rw [head?_append, first]
  rfl

theorem clean_leaf_head (first : (cleanLeaf true name).head? = some c) :
    isWhitespace c = false := by
  unfold cleanLeaf at first
  have mapped := head_of_front (rstrip_front _ _) first
  rw [head?_map] at mapped
  obtain ⟨d, inside, same⟩ := Option.map_eq_some_iff.mp mapped
  have stays := head?_dropWhile_not isWhitespace
    ((lastComponent name).filter (fun c => 32 ≤ c.toNat && c.toNat ≠ 127))
  rw [head_of_front (rstrip_front _ _) inside] at stays
  split at same
  · subst same
    decide
  · subst same
    exact stays

theorem truncate_head (wide : 32 ≤ maxBytes) (first : (truncate name maxBytes).head? = some c) :
    name.head? = some c := by
  rcases truncate_cases wide name with ⟨_, whole⟩ | ⟨front, ext, cut, kept, long, _⟩
  · rwa [whole] at first
  · rw [cut] at first
    cases front with
    | nil => exact absurd long (by decide)
    | cons => exact head_of_front kept first

theorem sanitized_head (wide : 32 ≤ maxBytes)
    (first : (truncate (avoidDevice true (cleanLeaf true name)) maxBytes).head? = some c) :
    isWhitespace c = false := by
  have kept := truncate_head wide first
  unfold avoidDevice at kept
  split at kept
  · cases kept
    decide
  · exact clean_leaf_head kept

theorem clean_leaf_self (plain : ∀ c ∈ r, Plain c ∧ c ∉ windowsIllegal)
    (first : ∀ c, r.head? = some c → isWhitespace c = false) : cleanLeaf true r =
      rstrip (fun c => c = '.' || c = ' ') (rstrip isWhitespace r) := by
  have whole : lastComponent r = r := by
    unfold lastComponent
    rw [takeWhile_eq_self_iff.mpr, reverse_reverse]
    intro c member
    have facts := (plain c (mem_reverse.mp member)).1
    simp [facts.1, facts.2.1]
  have printable : r.filter (fun c => 32 ≤ c.toNat && c.toNat ≠ 127) = r := by
    refine filter_eq_self.mpr (fun c member => ?_)
    have facts := (plain c member).1
    simp [facts.2.2.1, facts.2.2.2]
  have kept : r.dropWhile isWhitespace = r := by
    cases r with
    | nil => rfl
    | cons c r => rw [dropWhile_cons_of_neg (by simp [first c rfl])]
  have legal : (rstrip isWhitespace r).map (fun c => if c ∈ windowsIllegal then '_' else c) =
      rstrip isWhitespace r := by
    refine (map_congr_left (fun c member => ?_)).trans (map_id _)
    exact if_neg (plain c ((rstrip_front _ _).mem member)).2
  unfold cleanLeaf strip
  rw [whole, printable, kept]
  dsimp only
  rw [if_pos rfl, legal]

theorem rstrip_concat (drop : Char → Bool) (t : Text) (c : Char) :
    rstrip drop (t ++ [c]) = if drop c then rstrip drop t else t ++ [c] := by
  unfold rstrip
  rw [reverse_append, reverse_singleton, singleton_append, dropWhile_cons]
  split
  · rfl
  · simp

theorem cut_not_restored {front : Text} (short : leaf <+: front)
    (fits : (utf8 (front ++ [c])).length ≤ maxBytes) :
    front ++ [c] ≠ truncate (avoidDevice true leaf) maxBytes := by
  obtain ⟨rest, rfl⟩ := short
  have added : (utf8 (avoidDevice true leaf)).length ≤ (utf8 leaf).length + 1 := by
    unfold avoidDevice
    split
    · rw [utf8_cons, Nat.add_comm]
      exact Nat.le_refl _
    · exact Nat.le_succ _
  have last := char_size c
  simp only [utf8_append, length_append] at fits
  rw [truncate, if_pos (by omega)]
  unfold avoidDevice
  split
  · rename_i reserved
    intro same
    cases leaf with
    | nil => exact absurd reserved.2 (by decide)
    | cons d leaf =>
      obtain ⟨rfl, _⟩ := List.cons.inj same
      exact (reserved_facts _ reserved.2).2 rfl
  · intro same
    have sizes := congrArg List.length same
    simp only [length_append, length_singleton] at sizes
    omega

/-- The end of the cleaned name, or the last character before the cut if no extension is kept. -/
def EndsClean (name : Text) (maxBytes : Nat) : Prop :=
  let leaf := avoidDevice true (cleanLeaf true name)
  let ext := (splitext leaf).2
  if (utf8 leaf).length ≤ maxBytes ∨ ext ≠ [] ∧ (utf8 ext).length ≤ maxExtensionBytes then
    ∀ c, leaf.getLast? = some c → isWhitespace c = false
  else ∀ c, (takeBytes maxBytes leaf).getLast? = some c → c ≠ '.' ∧ isWhitespace c = false

theorem avoid_device_last (nonempty : cleanLeaf true name ≠ []) :
    (avoidDevice true (cleanLeaf true name)).getLast? ≠ some '.' := by
  have last :
      (avoidDevice true (cleanLeaf true name)).getLast? = (cleanLeaf true name).getLast? := by
    unfold avoidDevice
    split
    · obtain ⟨_, _, filled⟩ := exists_cons_of_ne_nil nonempty
      rw [filled, getLast?_cons_cons]
    · rfl
  rw [last]
  intro dot
  have kept := head?_dropWhile_not (fun c => c = '.' || c = ' ')
    ((strip isWhitespace ((lastComponent name).filter (fun c => 32 ≤ c.toNat && c.toNat ≠ 127))).map
      (fun c => if c ∈ windowsIllegal then '_' else c)).reverse
  simp only [cleanLeaf, if_true, rstrip, getLast?_reverse] at dot
  rw [dot] at kept
  cases kept

theorem truncate_last (wide : 32 ≤ maxBytes) : (truncate leaf maxBytes).getLast? =
    if (utf8 leaf).length ≤ maxBytes ∨ (splitext leaf).2 ≠ [] ∧
      (utf8 (splitext leaf).2).length ≤ maxExtensionBytes then leaf.getLast?
    else (takeBytes maxBytes leaf).getLast? := by
  have result := truncated leaf maxBytes
  generalize truncate leaf maxBytes = r at result ⊢
  cases result with
  | whole fits => rw [if_pos (.inl fits)]
  | @cut stem ext front split extension long taken =>
    cases ext with
    | nil =>
      have full := take_bytes_full long
      have empty : (utf8 []).length = 0 := rfl
      rw [append_nil] at split ⊢
      rw [empty, Nat.sub_zero, ← split] at taken
      have some_ : front ≠ [] := by
        rintro rfl
        rw [← taken] at full
        omega
      rw [if_neg some_, taken, if_neg]
      rintro (fits | ⟨kept, short⟩)
      · omega
      · rcases extension with ⟨none_, _⟩ | ⟨_, wide⟩
        · exact kept none_.symm
        · omega
    | cons =>
      rcases extension with ⟨same, short⟩ | ⟨none_, _⟩
      · rw [← same]
        simp [short, split, getLast?_cons]
      · cases none_

/-- Exactly if the input leaves no dot and no white space at the end. -/
theorem windows_name_stable_iff (name : Text) (maxBytes : Nat) (wide : 32 ≤ maxBytes) (r : Text)
    (returned : sanitizeFilename true name maxBytes = some r) :
    (∀ c ∈ r, c ∉ windowsIllegal) ∧ deviceStem r ∉ windowsReserved ∧
      ((r.getLast? ≠ some '.' ∧ r.getLast? ≠ some ' ' ∧
        sanitizeFilename true r maxBytes = some r) ↔ EndsClean name maxBytes) := by
  have chars := sanitize_chars returned
  have safe := sanitized_safe wide returned
  have legal : ∀ c ∈ r, Plain c ∧ c ∉ windowsIllegal :=
    fun c member => ⟨(chars c member).1, (chars c member).2 rfl⟩
  obtain ⟨usable, made⟩ := sanitize_some_iff.mp returned
  have ends : EndsClean name maxBytes ↔
      ∀ c, r.getLast? = some c → c ≠ '.' ∧ isWhitespace c = false := by
    have noDot := avoid_device_last (fun empty => usable (.inl empty))
    unfold EndsClean
    dsimp only
    rw [made, truncate_last wide]
    split
    · refine forall_congr' fun c => imp_congr_right fun last => (and_iff_right ?_).symm
      rintro rfl
      exact noDot last
    · rfl
  have device : deviceStem r ∉ windowsReserved := by
    rw [made]
    exact truncate_device_stem wide (avoid_device_stem _)
  have again := clean_leaf_self legal (fun c first => sanitized_head wide (made ▸ first))
  refine ⟨fun c member => (legal c member).2, device, ?_⟩
  rw [ends]
  rcases eq_nil_or_concat' r with rfl | ⟨front, c, rfl⟩
  · exact absurd rfl safe.usable.1
  · rw [rstrip_concat] at again
    rw [getLast?_concat]
    constructor
    · rintro ⟨noDot, _, stable⟩ _ ⟨⟩
      refine ⟨fun dot => noDot (congrArg some dot), ?_⟩
      by_contra white
      rw [if_pos (Bool.not_eq_false _ ▸ white)] at again
      have short := (rstrip_front (fun c => c = '.' || c = ' ') _).trans
        (rstrip_front isWhitespace front)
      rw [← again] at short
      exact cut_not_restored short safe.fits (sanitize_some_iff.mp stable).2
    · intro last
      obtain ⟨noDot, dark⟩ := last c rfl
      have noBlank : c ≠ ' ' := by
        rintro rfl
        cases dark
      rw [if_neg (by simp [dark]), rstrip_concat, if_neg (by simp [noDot, noBlank])] at again
      refine ⟨by simpa using noDot, by simpa using noBlank, ?_⟩
      rw [sanitize_some_iff, again, avoidDevice, if_neg (fun named => device named.2), truncate,
        if_pos safe.fits]
      exact ⟨fun unusable => unusable.elim safe.usable.1 (fun dots => dots.elim safe.usable.2.1
        safe.usable.2.2), rfl⟩

section Sample

theorem cut_names_unstable :
    sanitizeFilename true ['a', '\u00a0', '.'] 32 = some ['a', '\u00a0'] ∧
    sanitizeFilename true ['a', '\u00a0'] 32 = some ['a'] ∧
    sanitizeFilename true (List.replicate 31 'a' ++ '.' :: List.replicate 17 'b') 32 =
      some (List.replicate 31 'a' ++ ['.']) := by
  decide +kernel

theorem plain_name_stable : sanitizeFilename true "a.txt".toList 32 = some "a.txt".toList := by
  have stable := windows_name_stable_iff "b/a.txt".toList 32 (by decide) "a.txt".toList
    (by decide +kernel)
  refine (stable.2.2.mpr ?_).2.2
  have fits : (utf8 (avoidDevice true (cleanLeaf true "b/a.txt".toList))).length ≤ 32 := by
    decide +kernel
  unfold EndsClean
  rw [if_pos (.inl fits)]
  intro c last
  have ends : (avoidDevice true (cleanLeaf true "b/a.txt".toList)).getLast? = some 't' := by
    decide +kernel
  cases ends.symm.trans last
  decide +kernel

end Sample

/-! ## Destinations -/

theorem candidate_plain (plain : ∀ c ∈ name, Plain c) (n : Nat) :
    ∀ c ∈ candidate name n, Plain c := by
  cases n with
  | zero => exact plain
  | succ n =>
    rw [← splitext_append name] at plain
    have digits : ∀ c ∈ (Nat.repr (n + 1)).toList, Plain c := by
      intro c member
      rw [Nat.toList_repr] at member
      have digit := Nat.isDigit_of_mem_toDigits (by decide) (by decide) member
      have range : 48 ≤ c.toNat ∧ c.toNat ≤ 57 := by
        simpa [Char.isDigit, UInt32.le_iff_toNat_le] using digit
      refine ⟨?_, ?_, by omega, by omega⟩
      · rintro rfl
        cases digit
      · rintro rfl
        cases digit
    have marks : ∀ c ∈ " (".toList ++ ")".toList, Plain c :=
      all_iff_forall_prop.mp (by decide)
    intro c member
    simp only [candidate, mem_append] at member plain marks
    rcases member with (((inStem | mark) | digit) | mark) | inExtension
    · exact plain c (.inl inStem)
    · exact marks c (.inl mark)
    · exact digits c digit
    · exact marks c (.inr mark)
    · exact plain c (.inr inExtension)

theorem candidate_size (name : Text) {n : Nat} (low : n < 1000) :
    (utf8 (candidate name n)).length ≤ (utf8 name).length + 6 := by
  have digits : ∀ n : Fin 1000, (utf8 (Nat.repr n.val).toList).length ≤ 3 := by decide +kernel
  cases n with
  | zero => exact Nat.le_add_right _ _
  | succ n =>
    have small := digits ⟨n + 1, low⟩
    have whole := congrArg (fun t => (utf8 t).length) (splitext_append name)
    have marks : (utf8 " (".toList).length = 2 ∧ (utf8 ")".toList).length = 1 := by decide
    simp only [candidate, utf8_append, length_append] at whole small ⊢
    omega

def blocked (disk : Disk Text) (allowExistingPart : Bool) (dest : Text) : Bool :=
  disk.present dest || (!allowExistingPart && disk.present (getPartPath dest))

theorem counter_stops (disk : Disk Text) (allowExistingPart : Bool) (name : Text) :
    ∃ i, ((List.range (2 * disk.names.length + 1)).map (candidate name)).find? (fun c =>
        !disk.present c && (allowExistingPart || !disk.present (getPartPath c))) =
          some (candidate name i) ∧ i ≤ disk.names.length ∧
      blocked disk allowExistingPart (candidate name i) = false ∧
      ∀ j < i, blocked disk allowExistingPart (candidate name j) = true := by
  have free_iff : ∀ c, (!disk.present c && (allowExistingPart || !disk.present (getPartPath c))) =
      !blocked disk allowExistingPart c := by
    intro c
    simp [blocked, Bool.not_or, Bool.not_and]
  obtain ⟨n, low, free⟩ := exists_free_index disk name
  have open_ : blocked disk allowExistingPart (candidate name n) = false := by
    simp only [Bool.and_eq_true, Bool.not_eq_true'] at free
    simp [blocked, free]
  simp only [free_iff, find?_map]
  cases found : (List.range (2 * disk.names.length + 1)).find?
      ((fun c => !blocked disk allowExistingPart c) ∘ candidate name) with
  | none =>
    have taken := find?_eq_none.mp found n (mem_range.mpr (by omega))
    simp [open_] at taken
  | some i =>
    obtain ⟨stops, _, before⟩ := find?_range_eq_some.mp found
    simp only [Function.comp, Bool.not_eq_true', Bool.not_not] at stops before
    refine ⟨i, rfl, ?_, stops, before⟩
    by_contra far
    rw [before n (by omega)] at open_
    cases open_

/-- The counter stops after at most as many steps as there are entries. -/
theorem destination_resolved (windows : Bool) (disk : Disk Text) (filename : Text)
    (allowExistingPart : Bool) :
    (resolveSafeDestPath windows disk filename allowExistingPart = none ↔
      sanitizeFilename windows filename (maxFilenameBytes - 16) = none) ∧
    ∀ dest, resolveSafeDestPath windows disk filename allowExistingPart = some dest →
      dest ∉ [[], ['.'], ['.', '.']] ∧ (∀ c ∈ dest, Plain c) ∧
      blocked disk allowExistingPart dest = false ∧
      (∃ name i, sanitizeFilename windows filename (maxFilenameBytes - 16) = some name ∧
        dest = candidate name i ∧ i ≤ disk.names.length ∧
        ∀ j < i, blocked disk allowExistingPart (candidate name j) = true) ∧
      (disk.names.length < 1000 → ∀ file ∈ [dest, getPartPath dest, metaPathFor (getPartPath dest)],
        (utf8 file).length ≤ maxFilenameBytes) := by
  have wide : 32 ≤ maxFilenameBytes - 16 := by decide
  unfold resolveSafeDestPath
  cases sanitized : sanitizeFilename windows filename (maxFilenameBytes - 16) with
  | none => simp
  | some name =>
    have safe := sanitized_safe wide sanitized
    obtain ⟨i, found, low, stops, before⟩ := counter_stops disk allowExistingPart name
    simp only [Option.bind_some, found]
    refine ⟨by simp, ?_⟩
    rintro _ ⟨⟩
    refine ⟨?_, candidate_plain safe.plain i, stops, ⟨name, i, rfl, rfl, low, before⟩, ?_⟩
    · cases i with
      | zero => simpa [candidate] using safe.usable
      | succ i =>
        have bracket : '(' ∈ candidate name (i + 1) := by simp [candidate]
        have unlisted : ∀ t ∈ ([[], ['.'], ['.', '.']] : List Text), '(' ∉ t := by decide
        exact fun listed => unlisted _ listed bracket
    · intro few file listed
      have size := candidate_size name (show i < 1000 by omega)
      have fits := safe.fits
      have suffixes : (utf8 partExtension).length = 5 ∧ (utf8 metaSuffix).length = 5 ∧
          maxFilenameBytes = 255 := by decide
      simp only [mem_cons, not_mem_nil, or_false] at listed
      rcases listed with rfl | rfl | rfl
      · omega
      · rw [getPartPath, utf8_append, length_append]
        omega
      · rw [metaPathFor, getPartPath, utf8_append, utf8_append, length_append, length_append]
        omega

end Peerc.Transfer
