import Mathlib.Data.List.Basic
import QueryScope.Text.Literal
import QueryScope.Text.Quoted

/-!
# Quoted texts are shown and read back

Every character of a quoted text shows, and the literal that begins with it stands for the text.
Both go through the text one character at a time: what a character becomes inside the marks is read
back as that character before anything of the next one is looked at.
-/
namespace QueryScope.Text

variable {c d : Char} {cs rest : List Char} {n : Nat}

/-! Hexadecimal digits. -/

theorem hexValue?_digitChar (h : n < 16) : hexValue? (Nat.digitChar n) = some n := by
  revert n
  decide

theorem exists_of_mem_hexDigits (h : d ∈ hexDigits n) : ∃ k < 16, d = Nat.digitChar k := by
  induction n using Nat.strongRecOn with
  | ind n ih =>
    rw [hexDigits, Nat.toDigits_eq_if (by decide)] at h
    split at h
    · rename_i hn
      exact ⟨n, hn, List.mem_singleton.mp h⟩
    · rename_i hn
      rcases List.mem_append.mp h with h | h
      · exact ih (n / 16) (by omega) h
      · exact ⟨n % 16, Nat.mod_lt _ (by decide), List.mem_singleton.mp h⟩

/-! What shows. -/

theorem InversionList.contains_of_between {first last k : Nat} {bounds : List Nat}
    (hfirst : first ≤ k) (hlast : k < last) : contains (first :: last :: bounds) k = true := by
  simp [contains, hfirst, Nat.not_le.mpr hlast]

/-- The characters from the space to the tilde show. -/
theorem isHidden_of_printable (hfirst : 0x20 ≤ c.toNat) (hlast : c.toNat < 0x7f) :
    isHidden c = false := by
  have hshown : InversionList.contains hiddenBounds.tail c.toNat = true :=
    InversionList.contains_of_between hfirst hlast
  calc isHidden c = (decide (0 ≤ c.toNat) && !InversionList.contains hiddenBounds.tail c.toNat) :=
      rfl
    _ = false := by rw [hshown, Bool.not_true, Bool.and_false]

theorem isHidden_of_mem {marks : List Char}
    (hmarks : marks.all (fun u => 0x20 ≤ u.toNat && u.toNat < 0x7f) = true) (h : c ∈ marks) :
    isHidden c = false := by
  have hc := List.all_eq_true.mp hmarks c h
  rw [Bool.and_eq_true, decide_eq_true_eq, decide_eq_true_eq] at hc
  exact isHidden_of_printable hc.1 hc.2

theorem isHidden_digitChar (h : n < 16) : isHidden (Nat.digitChar n) = false := by
  have hprintable : ∀ n < 16, 0x20 ≤ (Nat.digitChar n).toNat ∧ (Nat.digitChar n).toNat < 0x7f := by
    decide
  exact isHidden_of_printable (hprintable n h).1 (hprintable n h).2

/-! How a character can stand inside the marks. -/

/-- The three spellings of a character inside quotation marks. -/
inductive Quoting (c : Char) : List Char → Prop
  | escaped {u} (hescape : simpleEscape? u = some c) (hshown : isHidden u = false) :
      Quoting c ['\\', u]
  | numbered : Quoting c ("\\u\x7b".toList ++ hexDigits c.toNat ++ ['\x7d'])
  | plain (hshown : isHidden c = false) (hslash : c ≠ '\\') (hmark : c ≠ '"') : Quoting c [c]

/-- A character is spelled in one of the three ways. -/
theorem quoting_quoteChar (c : Char) : Quoting c (quoteChar c) := by
  have hescaped {u v : Char} (h : c = v) (hescape : simpleEscape? u = some v)
      (hu : u ∈ "\"\\nrt0".toList) : Quoting c ['\\', u] :=
    .escaped (h ▸ hescape) (isHidden_of_mem (by decide) hu)
  unfold quoteChar
  split
  · exact hescaped ‹_› rfl (by decide)
  split
  · exact hescaped ‹_› rfl (by decide)
  split
  · exact hescaped ‹_› rfl (by decide)
  split
  · exact hescaped ‹_› rfl (by decide)
  split
  · exact hescaped ‹_› rfl (by decide)
  split
  · exact hescaped ‹_› rfl (by decide)
  split
  · exact .numbered
  · rename_i hmark hslash _ _ _ _ hshown
    exact .plain (by simpa using hshown) hslash hmark

theorem isHidden_of_quoting {spelling : List Char} (h : Quoting c spelling) (hd : d ∈ spelling) :
    isHidden d = false := by
  have hmark : d ∈ "\\u\x7b\x7d".toList → isHidden d = false := isHidden_of_mem (by decide)
  cases h with
  | escaped _ hshown =>
    rcases List.mem_pair.mp hd with rfl | rfl
    · exact hmark (by decide)
    · exact hshown
  | numbered =>
    rcases List.mem_append.mp hd with hd | hd
    · rcases List.mem_append.mp hd with hd | hd
      · exact hmark (List.mem_append_left ['\x7d'] hd)
      · obtain ⟨k, hk, rfl⟩ := exists_of_mem_hexDigits hd
        exact isHidden_digitChar hk
    · exact hmark (List.mem_append_right "\\u\x7b".toList hd)
  | plain hshown => exact List.mem_singleton.mp hd ▸ hshown

/-- A quoted text shows all of its characters. -/
theorem isHidden_of_mem_quote {s : String} (h : d ∈ (quote s).toList) : isHidden d = false := by
  have hmark : isHidden '"' = false := isHidden_of_printable (by decide) (by decide)
  rw [quote, String.toList_ofList, List.cons_append, List.mem_cons, List.mem_append,
    List.mem_singleton] at h
  rcases h with rfl | h | rfl
  · exact hmark
  · obtain ⟨c, -, hd⟩ := List.mem_flatMap.mp h
    exact isHidden_of_quoting (quoting_quoteChar c) hd
  · exact hmark

example : quote "e\u0301" = "\"e\\u\x7b301\x7d\"" := by decide +kernel

/-! Reading back. -/

theorem denoted?_escaped {u : Char} (h : simpleEscape? u = some c) :
    denoted? .text ('\\' :: u :: rest) = do return c :: (← denoted? .text rest) := by
  have hne {v : Char} (hv : simpleEscape? v = none) : u ≠ v := by
    rintro rfl
    rw [hv] at h
    cases h
  have hx : u ≠ 'x' := hne rfl
  have hu : u ≠ 'u' := hne rfl
  have hline : u ≠ '\n' := hne rfl
  have hreturn : u ≠ '\r' := hne rfl
  rw [denoted?.eq_def]
  split <;> grind

theorem denoted?_hexDigit (hc : hexValue? d = some n) (m : Nat) :
    denoted? (.codePoint m) (d :: rest) = denoted? (.codePoint (16 * m + n)) rest := by
  have hclose : d ≠ '\x7d' := by
    rintro rfl
    cases hc
  have hline : d ≠ '_' := by
    rintro rfl
    cases hc
  rw [denoted?.eq_def]
  split <;> simp_all

theorem denoted?_hexDigits (n : Nat) :
    denoted? (.codePoint 0) (hexDigits n ++ rest) = denoted? (.codePoint n) rest := by
  induction n using Nat.strongRecOn generalizing rest with
  | ind n ih =>
    rw [hexDigits, Nat.toDigits_eq_if (by decide)]
    split
    · rename_i hn
      rw [List.singleton_append, denoted?_hexDigit (hexValue?_digitChar hn), Nat.mul_zero,
        Nat.zero_add]
    · rw [List.append_assoc, ← hexDigits, ih (n / 16) (by omega), List.singleton_append,
        denoted?_hexDigit (hexValue?_digitChar (Nat.mod_lt _ (by decide))), Nat.div_add_mod]

theorem charOfNat?_toNat (c : Char) : charOfNat? c.toNat = some c := by
  have hvalid : c.toNat.isValidChar := c.valid
  rw [charOfNat?, if_pos hvalid, Char.ofNat_toNat]

theorem denoted?_numbered :
    denoted? .text ("\\u\x7b".toList ++ hexDigits c.toNat ++ ['\x7d'] ++ rest) =
      do return c :: (← denoted? .text rest) := by
  have hopen (digits : List Char) :
      denoted? .text ("\\u\x7b".toList ++ digits) = denoted? (.codePoint 0) digits := by
    simp [denoted?]
  rw [List.append_assoc, List.append_assoc, hopen, denoted?_hexDigits]
  simp [denoted?, charOfNat?_toNat]

/-- Each way to spell a character denotes it. -/
theorem denoted?_quoting {spelling : List Char} (h : Quoting c spelling) :
    denoted? .text (spelling ++ rest) = do return c :: (← denoted? .text rest) := by
  cases h with
  | escaped hescape => exact denoted?_escaped hescape
  | numbered => exact denoted?_numbered
  | plain hshown hslash =>
    have hreturn : c ≠ '\r' := by
      rintro rfl
      exact absurd hshown (by decide +kernel)
    rw [List.singleton_append, denoted?.eq_def]
    split <;> grind

/-- What stands inside the marks denotes the text. -/
theorem denoted?_flatMap_quoteChar (cs : List Char) :
    denoted? .text (cs.flatMap quoteChar) = some cs := by
  induction cs with
  | nil => rfl
  | cons c cs ih => rw [List.flatMap_cons, denoted?_quoting (quoting_quoteChar c), ih]; rfl

theorem quotedLength?_plain (hslash : c ≠ '\\') (hmark : c ≠ '"') :
    quotedLength? '"' (c :: rest) = (quotedLength? '"' rest).map (· + 1) := by
  rw [quotedLength?.eq_def]
  simp [hslash, hmark]

theorem quotedLength?_append (hcs : ∀ c ∈ cs, c ≠ '\\' ∧ c ≠ '"') :
    quotedLength? '"' (cs ++ rest) = (quotedLength? '"' rest).map (· + cs.length) := by
  induction cs with
  | nil => exact Option.map_id'.symm
  | cons c cs ih =>
    obtain ⟨⟨hslash, hmark⟩, hcs⟩ := List.forall_mem_cons.mp hcs
    rw [List.cons_append, quotedLength?_plain hslash hmark, ih hcs, Option.map_map]
    rfl

theorem digitChar_ne {k : Nat} (hk : k < 16) : Nat.digitChar k ≠ '\\' ∧ Nat.digitChar k ≠ '"' := by
  revert k
  decide

theorem quotedLength?_quoting {spelling : List Char} (h : Quoting c spelling) :
    quotedLength? '"' (spelling ++ rest) =
      (quotedLength? '"' rest).map (· + spelling.length) := by
  cases h with
  | escaped => rfl
  | numbered =>
    have hplain : ∀ d ∈ "\x7b".toList ++ hexDigits c.toNat ++ ['\x7d'], d ≠ '\\' ∧ d ≠ '"' := by
      intro d hd
      rcases List.mem_append.mp hd with hd | hd
      · rcases List.mem_append.mp hd with hd | hd
        · exact List.mem_singleton.mp hd ▸ by decide
        · obtain ⟨k, hk, rfl⟩ := exists_of_mem_hexDigits hd
          exact digitChar_ne hk
      · exact List.mem_singleton.mp hd ▸ by decide
    rw [show "\\u\x7b".toList ++ hexDigits c.toNat ++ ['\x7d'] ++ rest =
      '\\' :: 'u' :: ("\x7b".toList ++ hexDigits c.toNat ++ ['\x7d'] ++ rest) from rfl,
      quotedLength?, quotedLength?_append hplain, Option.map_map]
    rfl
  | plain _ hslash hmark => exact quotedLength?_plain hslash hmark

/-- A quoted text ends at its own mark, since the marks inside are escaped. -/
theorem quotedLength?_flatMap_quoteChar (cs : List Char) :
    quotedLength? '"' (cs.flatMap quoteChar ++ '"' :: rest) =
      some ((cs.flatMap quoteChar).length + 1) := by
  induction cs with
  | nil => rfl
  | cons c cs ih =>
    rw [List.flatMap_cons, List.append_assoc, quotedLength?_quoting (quoting_quoteChar c), ih,
      List.length_append]
    simp only [Option.map_some]
    congr 1
    omega

/-- A quoted text is a literal for the text, if no word follows that would belong to it. -/
theorem literal?_quote (s : String) (hrest : wordLength rest = 0) :
    literal? ((quote s).toList ++ rest) = some ⟨(quote s).toList.length, some s⟩ := by
  obtain ⟨content, hcontent⟩ : ∃ content, s.toList.flatMap quoteChar = content := ⟨_, rfl⟩
  have hquote : (quote s).toList = '"' :: (content ++ ['"']) := by
    rw [quote, String.toList_ofList, hcontent, List.cons_append]
  have hlength : quotedLength? '"' (content ++ '"' :: rest) = some (content.length + 1) :=
    hcontent ▸ quotedLength?_flatMap_quoteChar s.toList
  have htext : denoted? .text content = some s.toList :=
    hcontent ▸ denoted?_flatMap_quoteChar s.toList
  have hdrop : (content ++ '"' :: rest).drop (content.length + 1) = rest := by
    simp [List.drop_append]
  rw [hquote, literal?]
  simp [hlength, htext, hdrop, hrest]
  omega

end QueryScope.Text
