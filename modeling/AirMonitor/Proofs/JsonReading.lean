import AirMonitor.Json.Reader
import AirMonitor.Payload
import Mathlib

/-!
What a reader makes of texts that were written piece by piece: quoted strings, integers, decimals
with a fixed number of places, and objects made of these.
-/

namespace AirMonitor.Json

open Payload

theorem hexValue?_hexDigit : ∀ n < 16, hexValue? (hexDigit n) = some n := by decide

theorem codeUnit?_control {n : Nat} (h : n < 0x20) (rest : List Char) :
    codeUnit? ('0' :: '0' :: hexDigit (n / 16) :: hexDigit (n % 16) :: rest) = some (n, rest) := by
  have hzero : hexValue? '0' = some 0 := rfl
  have hhigh := hexValue?_hexDigit (n / 16) (by omega)
  have hlow := hexValue?_hexDigit (n % 16) (by omega)
  simp only [codeUnit?, hzero, hhigh, hlow, Option.bind_eq_bind, Option.bind_some, Option.pure_def,
    Option.some.injEq, Prod.mk.injEq, and_true]
  omega

theorem character?_escape (c : Char) (rest : List Char) :
    character? (escape c ++ rest) = some (c, rest) := by
  fun_cases escape c with
  | case6 c hquote hslash hline hreturn htab hcontrol =>
    change unicode? ('0' :: '0' :: hexDigit (c.toNat / 16) :: hexDigit (c.toNat % 16) :: rest) = _
    have hbelow : c.toNat < 0xD800 := by omega
    rw [unicode?, codeUnit?_control hcontrol]
    simp only [Option.bind_eq_bind, Option.bind_some, hbelow, true_or, ↓reduceIte, Char.ofNat_toNat]
  | case7 c hquote hslash hline hreturn htab hcontrol =>
    have hplain : ¬(c = '"' ∨ c = '\\' ∨ c.toNat < 0x20) := by
      rintro (h | h | h)
      · exact hquote h
      · exact hslash h
      · exact hcontrol h
    rw [List.singleton_append, character?]
    · exact if_neg hplain
    · intro rest' h _
      exact hslash h
    · intro c' rest' h _
      exact hslash h
  | _ => rfl

/-- No escape begins like the end of a string. -/
theorem escape_cons (c : Char) : ∃ first others, escape c = first :: others ∧ first ≠ '"' := by
  fun_cases escape c with
  | case7 c hquote => exact ⟨c, [], rfl, hquote⟩
  | _ => exact ⟨'\\', _, rfl, by decide⟩

theorem characters?_escape {bound : Nat} (cs rest : List Char) (h : cs.length < bound) :
    characters? bound (cs.flatMap escape ++ '"' :: rest) = some (cs, rest) := by
  induction cs generalizing bound with
  | nil =>
    obtain ⟨bound, rfl⟩ := Nat.exists_eq_succ_of_ne_zero (Nat.ne_of_gt h)
    rfl
  | cons c cs ih =>
    obtain ⟨bound, rfl⟩ := Nat.exists_eq_succ_of_ne_zero (Nat.ne_of_gt (Nat.zero_lt_of_lt h))
    have hread := character?_escape c (cs.flatMap escape ++ '"' :: rest)
    have hrest : characters? bound (cs.flatMap escape ++ '"' :: rest) = some (cs, rest) :=
      ih (Nat.lt_of_succ_lt_succ h)
    obtain ⟨first, others, hescape, hquote⟩ := escape_cons c
    rw [List.flatMap_cons, List.append_assoc]
    rw [hescape] at hread ⊢
    rw [characters?]
    · rw [hread]
      simp only [Option.bind_eq_bind, Option.bind_some, hrest]
      rfl
    · intro rest' h'
      exact hquote (List.cons.inj h').1

theorem length_le_escape (cs : List Char) : cs.length ≤ (cs.flatMap escape).length := by
  induction cs with
  | nil => exact Nat.le_refl 0
  | cons c cs ih =>
    obtain ⟨first, others, hescape, -⟩ := escape_cons c
    rw [List.flatMap_cons, List.length_append, hescape, List.length_cons, List.length_cons]
    omega

theorem string?_escape (text : String) (rest : List Char) :
    string? (text.toList.flatMap escape ++ '"' :: rest) = some (text, rest) := by
  have hlength := length_le_escape text.toList
  have hbound : text.toList.length < (text.toList.flatMap escape ++ '"' :: rest).length := by
    rw [List.length_append, List.length_cons]
    omega
  rw [string?, characters?_escape text.toList rest hbound]
  exact congrArg (fun s => some (s, rest)) String.ofList_toList

theorem toList_quoted (text : String) :
    (quoted text).toList = '"' :: text.toList.flatMap escape ++ ['"'] := by
  rw [quoted, String.toList_ofList]

/-- The text goes on with something else than a digit. -/
def Undigited (text : List Char) : Prop := ∀ c ∈ text.head?, c.isDigit = false

theorem span_digits {digits rest : List Char} (hdigits : ∀ c ∈ digits, c.isDigit = true)
    (hrest : Undigited rest) : (digits ++ rest).span Char.isDigit = (digits, rest) := by
  rw [List.span_eq_takeWhile_dropWhile, List.takeWhile_append_of_pos hdigits,
    List.dropWhile_append_of_pos hdigits]
  cases rest with
  | nil => rw [List.takeWhile_nil, List.dropWhile_nil, List.append_nil]
  | cons c rest =>
    have hc : ¬c.isDigit = true := by simp [hrest c rfl]
    rw [List.takeWhile_cons_of_neg hc, List.dropWhile_cons_of_neg hc, List.append_nil]

theorem digits?_append {digits rest : List Char} (hdigits : ∀ c ∈ digits, c.isDigit = true)
    (hne : digits ≠ []) (hrest : Undigited rest) :
    digits? (digits ++ rest) = some (digits, rest) := by
  rw [digits?, span_digits hdigits hrest]
  simp [hne]

theorem isDigit_toDigits {n : Nat} : ∀ c ∈ Nat.toDigits 10 n, c.isDigit = true :=
  fun _ h => Nat.isDigit_of_mem_toDigits (by decide) (by decide) h

theorem digitChar_ne_zero : ∀ d < 10, 0 < d → Nat.digitChar d ≠ '0' := by decide

/-- A positive number is written without leading zeros. -/
theorem head?_toDigits {n : Nat} (h : 0 < n) : (Nat.toDigits 10 n).head? ≠ some '0' := by
  induction n using Nat.strongRecOn with
  | ind n ih =>
    by_cases hsmall : n < 10
    · rw [Nat.toDigits_of_lt_base hsmall, List.head?_cons]
      exact fun heq => digitChar_ne_zero n hsmall h (Option.some.inj heq)
    · rw [Nat.toDigits_of_base_le (by decide) (Nat.not_lt.1 hsmall),
        List.head?_append_of_ne_nil _ Nat.toDigits_ne_nil]
      exact ih (n / 10) (by omega) (by omega)

theorem whole?_toDigits (n : Nat) {rest : List Char} (hrest : Undigited rest) :
    whole? (Nat.toDigits 10 n ++ rest) = some (Nat.toDigits 10 n, rest) := by
  have hlead : ¬((Nat.toDigits 10 n).head? = some '0' ∧ (Nat.toDigits 10 n).length ≠ 1) := by
    rintro ⟨hhead, hlength⟩
    rcases Nat.eq_zero_or_pos n with rfl | hpos
    · exact hlength (by rw [Nat.toDigits_zero]; rfl)
    · exact head?_toDigits hpos hhead
  rw [whole?, digits?_append isDigit_toDigits Nat.toDigits_ne_nil hrest]
  exact if_neg hlead

/-- A number may end here. -/
def Ended (rest : List Char) : Prop := ∀ c ∈ rest.head?, c = ',' ∨ c = '\x7d'

theorem Ended.undigited {rest : List Char} (h : Ended rest) : Undigited rest := by
  intro c hc
  rcases h c hc with rfl | rfl <;> rfl

theorem Ended.exponent?_eq {rest : List Char} (h : Ended rest) :
    exponent? rest = some (0, rest) := by
  cases rest with
  | nil => rfl
  | cons c rest =>
    have hc : ¬(c = 'e' ∨ c = 'E') := by
      rcases h c rfl with rfl | rfl <;> decide
    rw [exponent?, if_neg hc]

theorem Ended.fraction?_eq {rest : List Char} (h : Ended rest) :
    fraction? rest = some ([], rest) := by
  rw [fraction?]
  rintro rest' rfl
  rcases h '.' rfl with h | h <;> cases h

theorem fraction?_point {digits rest : List Char} (hdigits : ∀ c ∈ digits, c.isDigit = true)
    (hne : digits ≠ []) (hrest : Undigited rest) :
    fraction? ('.' :: (digits ++ rest)) = some (digits, rest) :=
  digits?_append hdigits hne hrest

theorem sign_signText (negative : Bool) {digits rest : List Char}
    (hdigits : ∀ c ∈ digits, c.isDigit = true) (hne : digits ≠ []) :
    sign ((signText negative).toList ++ (digits ++ rest)) = (negative, digits ++ rest) := by
  cases negative with
  | true => rfl
  | false =>
    obtain ⟨c, cs, rfl⟩ := List.exists_cons_of_ne_nil hne
    change sign (c :: (cs ++ rest)) = _
    rw [sign]
    · rfl
    · intro rest' h
      obtain rfl := (List.cons.inj h).1
      exact absurd (hdigits '-' List.mem_cons_self) (by decide)

/-- A number that is spelled with a sign, a whole part and maybe a fraction. -/
theorem number?_spelled (negative : Bool) (whole : Nat) {text fraction rest : List Char}
    (htext : Undigited text) (hfraction : fraction? text = some (fraction, rest))
    (hended : Ended rest) :
    number? ((signText negative).toList ++ (Nat.toDigits 10 whole ++ text)) =
      some ({ negative, digits := Nat.ofDigitChars 10 (Nat.toDigits 10 whole ++ fraction) 0,
              places := fraction.length }, rest) := by
  rw [number?, sign_signText negative isDigit_toDigits Nat.toDigits_ne_nil]
  simp only [Option.bind_eq_bind, whole?_toDigits whole htext, Option.bind_some, hfraction,
    hended.exponent?_eq]
  rfl

theorem toList_toString_int (i : Int) :
    (toString i).toList = (signText (decide (i < 0))).toList ++ Nat.toDigits 10 i.natAbs := by
  cases i with
  | ofNat n =>
    have hsign : decide (Int.ofNat n < 0) = false :=
      decide_eq_false (Int.not_lt.2 (Int.natCast_nonneg n))
    rw [hsign]
    exact Nat.toList_repr
  | negSucc n =>
    have hsign : decide (Int.negSucc n < 0) = true := decide_eq_true (by omega)
    rw [hsign]
    change ("-" ++ (n + 1).repr).toList = _
    rw [String.toList_append, Nat.toList_repr]
    rfl

theorem number?_int (i : Int) {rest : List Char} (hended : Ended rest) :
    number? ((toString i).toList ++ rest) =
      some ({ negative := decide (i < 0), digits := i.natAbs }, rest) := by
  rw [toList_toString_int, List.append_assoc,
    number?_spelled _ i.natAbs hended.undigited hended.fraction?_eq hended, List.append_nil,
    Nat.ofDigitChars_ten_toDigits]
  rfl

theorem Number.toInt?_int (i : Int) :
    Number.toInt? { negative := decide (i < 0), digits := i.natAbs } = some i := by
  simp only [Number.toInt?, and_self, ↓reduceIte, decide_eq_true_eq, Option.some.injEq]
  split <;> omega

/-- An integer is known by its text. -/
theorem toString_int_inj {i j : Int} (h : toString i = toString j) : i = j := by
  have hended : Ended [] := by rintro c ⟨⟩
  have hread := number?_int i hended
  rw [h, number?_int j hended] at hread
  have hnumber := congrArg Prod.fst (Option.some.inj hread)
  have hint := congrArg Number.toInt? hnumber
  rw [Number.toInt?_int, Number.toInt?_int] at hint
  exact (Option.some.inj hint).symm

/-- The digits behind the point, filled up with zeros. -/
def fractionDigits (places n : Nat) : List Char :=
  List.replicate (places - (Nat.toDigits 10 n).length) '0' ++ Nat.toDigits 10 n

theorem isDigit_fractionDigits {places n : Nat} :
    ∀ c ∈ fractionDigits places n, c.isDigit = true := by
  intro c hc
  rcases List.mem_append.1 hc with hzero | hdigit
  · rw [List.eq_of_mem_replicate hzero]
    rfl
  · exact isDigit_toDigits c hdigit

theorem length_fractionDigits {places n : Nat} (hplaces : 0 < places) (h : n < 10 ^ places) :
    (fractionDigits places n).length = places := by
  have hle := (Nat.length_toDigits_le_iff (by decide) hplaces).2 h
  rw [fractionDigits, List.length_append, List.length_replicate]
  omega

theorem toList_positional {n places : Nat} (h : places ≠ 0) :
    (positional n places).toList = Nat.toDigits 10 (n / 10 ^ places) ++
      '.' :: fractionDigits places (n % 10 ^ places) := by
  have hlength (m : Nat) : (toString m).length = (Nat.toDigits 10 m).length := by
    rw [← String.length_toList]
    exact congrArg List.length Nat.toList_repr
  have hdigits (m : Nat) : (toString m).toList = Nat.toDigits 10 m := Nat.toList_repr
  rw [positional, if_neg h]
  simp only [String.toList_append, String.toList_ofList, hlength, hdigits, fractionDigits,
    List.append_assoc]
  rfl

theorem ofDigitChars_positional {n places : Nat} (h : 0 < places) :
    Nat.ofDigitChars 10 (Nat.toDigits 10 (n / 10 ^ places) ++
      fractionDigits places (n % 10 ^ places)) 0 = n := by
  have hrest : n % 10 ^ places < 10 ^ places := Nat.mod_lt _ (Nat.pow_pos (by decide))
  have hle := (Nat.length_toDigits_le_iff (by decide) h).2 hrest
  have hplaces : (Nat.toDigits 10 (n % 10 ^ places)).length +
      (places - (Nat.toDigits 10 (n % 10 ^ places)).length) = places := by omega
  rw [Nat.ofDigitChars_append, Nat.ofDigitChars_ten_toDigits, fractionDigits,
    Nat.ofDigitChars_append, Nat.ofDigitChars_replicate_zero, Nat.ofDigitChars_eq_ofDigitChars_zero,
    Nat.ofDigitChars_ten_toDigits, ← Nat.mul_assoc, ← Nat.pow_add, hplaces]
  exact Nat.div_add_mod n (10 ^ places)

theorem number?_positional (negative : Bool) {n places : Nat} (h : 0 < places) {rest : List Char}
    (hended : Ended rest) :
    number? ((signText negative ++ positional n places).toList ++ rest) =
      some ({ negative, digits := n, places }, rest) := by
  have hrest : n % 10 ^ places < 10 ^ places := Nat.mod_lt _ (Nat.pow_pos (by decide))
  have hlength := length_fractionDigits h hrest
  have hne : fractionDigits places (n % 10 ^ places) ≠ [] := by
    rw [← List.length_pos_iff, hlength]
    exact h
  have hpoint := fraction?_point isDigit_fractionDigits hne hended.undigited
  rw [String.toList_append, toList_positional (Nat.ne_of_gt h), List.append_assoc,
    List.append_assoc, List.cons_append,
    number?_spelled negative _ (by rintro c ⟨⟩; rfl) hpoint hended, ofDigitChars_positional h,
    hlength]

theorem skipBlanks_cons {c : Char} (h : isBlank c = false) (text : List Char) :
    skipBlanks (c :: text) = c :: text :=
  List.dropWhile_cons_of_neg (by simp [h])

theorem Ended.skipBlanks_eq {rest : List Char} (h : Ended rest) : skipBlanks rest = rest := by
  cases rest with
  | nil => rfl
  | cons c rest =>
    apply skipBlanks_cons
    rcases h c rfl with rfl | rfl <;> rfl

/-- The text spells the value, wherever a value of its kind may end. -/
def Spells (text : String) (value : Value) : Prop :=
  ∀ depth rest, Ended rest → skipBlanks (text.toList ++ rest) = text.toList ++ rest ∧
    value? (depth + 1) (text.toList ++ rest) = some (value, rest)

theorem value?_number {c : Char} (h : c.isDigit = true ∨ c = '-') (depth : Nat) (text : List Char) :
    value? (depth + 1) (c :: text) =
      (number? (c :: text)).map fun read => (.number read.1, read.2) := by
  rw [value?]
  all_goals
    rintro rfl
    simp at h

/-- What a number begins with. -/
theorem head_of_number? {c : Char} {text : List Char} {read : Number × List Char}
    (h : number? (c :: text) = some read) : c.isDigit = true ∨ c = '-' := by
  by_cases hsign : c = '-'
  · exact .inr hsign
  · have hwhole : sign (c :: text) = (false, c :: text) := by
      rw [sign]
      rintro rest h
      exact hsign (List.cons.inj h).1
    cases hdigit : c.isDigit with
    | true => exact .inl rfl
    | false =>
      have hspan : (c :: text).span Char.isDigit = ([], c :: text) :=
        span_digits (List.forall_mem_nil _) (by rintro _ ⟨⟩; exact hdigit)
      rw [number?, hwhole] at h
      simp only [whole?, digits?, hspan] at h
      cases h

theorem spells_number {text : String} {number : Number}
    (h : ∀ rest, Ended rest → number? (text.toList ++ rest) = some (number, rest)) :
    Spells text (.number number) := by
  intro depth rest hended
  cases htext : text.toList with
  | nil =>
    have hnone := h [] (by rintro c ⟨⟩)
    rw [htext] at hnone
    cases hnone
  | cons c tail =>
    have hread := h rest hended
    rw [htext, List.cons_append] at hread
    have hkind := head_of_number? hread
    have hblank : isBlank c = false := by
      rcases hkind with hdigit | rfl
      · simp only [isBlank, Bool.or_eq_false_iff, beq_eq_false_iff_ne, ne_eq]
        refine ⟨⟨⟨?_, ?_⟩, ?_⟩, ?_⟩
        all_goals
          rintro rfl
          simp at hdigit
      · rfl
    rw [List.cons_append]
    exact ⟨skipBlanks_cons hblank _, by rw [value?_number hkind, hread]; rfl⟩

theorem spells_quoted (text : String) : Spells (quoted text) (.string text) := by
  intro depth rest _
  rw [toList_quoted, List.append_assoc, List.cons_append]
  refine ⟨skipBlanks_cons rfl _, ?_⟩
  rw [value?, List.singleton_append, string?_escape]
  rfl

theorem member?_quoted {text : String} {value : Value} (h : Spells text value) (key : String)
    (depth : Nat) {rest : List Char} (hended : Ended rest) :
    member? (value? (depth + 1)) ((quoted key ++ ":" ++ text).toList ++ rest) =
      some ((key, value), rest) := by
  obtain ⟨hskip, hread⟩ := h depth rest hended
  have hcolon : skipBlanks (':' :: (text.toList ++ rest)) = ':' :: (text.toList ++ rest) :=
    skipBlanks_cons rfl _
  rw [String.toList_append, String.toList_append, toList_quoted]
  simp only [List.cons_append, List.append_assoc, String.reduceToList, List.nil_append, member?,
    string?_escape, Option.bind_eq_bind, Option.bind_some, hcolon, hskip, hread]
  rfl

/-- A member as it is to be written, and the value it spells. -/
structure Entry where
  key : String
  text : String
  value : Value

def Entry.spelled (entry : Entry) : String := quoted entry.key ++ ":" ++ entry.text

def Entry.member (entry : Entry) : String × Value := (entry.key, entry.value)

theorem skipBlanks_spelled (entry : Entry) (rest : List Char) :
    skipBlanks (entry.spelled.toList ++ rest) = entry.spelled.toList ++ rest := by
  rw [Entry.spelled, String.toList_append, String.toList_append, toList_quoted]
  exact skipBlanks_cons rfl _

theorem items?_spelled {entries : List Entry} (hne : entries ≠ [])
    (h : ∀ entry ∈ entries, Spells entry.text entry.value) (depth : Nat) {bound : Nat}
    (hbound : entries.length ≤ bound) (rest : List Char) :
    items? (member? (value? (depth + 1))) '\x7d' bound
        ((String.intercalate "," (entries.map Entry.spelled)).toList ++ '\x7d' :: rest) =
      some (entries.map Entry.member, rest) := by
  induction entries generalizing bound with
  | nil => exact (hne rfl).elim
  | cons entry others ih =>
    obtain ⟨bound, rfl⟩ := Nat.exists_eq_succ_of_ne_zero (Nat.ne_of_gt (Nat.zero_lt_of_lt hbound))
    have hentry := h entry List.mem_cons_self
    have hothers : ∀ other ∈ others, Spells other.text other.value :=
      fun other hother => h other (List.mem_cons_of_mem _ hother)
    cases others with
    | nil =>
      have hended : Ended ('\x7d' :: rest) := by
        rintro c ⟨⟩
        exact .inr rfl
      rw [List.map_singleton, String.intercalate_singleton, items?, skipBlanks_spelled]
      simp only [Entry.spelled, member?_quoted hentry entry.key depth hended, Option.bind_eq_bind,
        Option.bind_some, hended.skipBlanks_eq]
      rfl
    | cons other others =>
      have hrest := ih (List.cons_ne_nil _ _) hothers (Nat.le_of_succ_le_succ hbound)
      generalize htext : (String.intercalate "," ((other :: others).map Entry.spelled)).toList ++
        '\x7d' :: rest = text at hrest
      have hended : Ended (',' :: text) := by
        rintro c ⟨⟩
        exact .inl rfl
      have hsplit :
          (String.intercalate "," ((entry :: other :: others).map Entry.spelled)).toList ++
          '\x7d' :: rest = entry.spelled.toList ++ ',' :: text := by
        rw [List.map_cons, List.map_cons, String.intercalate_cons_cons, ← List.map_cons, ← htext]
        simp only [String.toList_append, List.append_assoc]
        rfl
      rw [hsplit, items?, skipBlanks_spelled]
      simp only [Entry.spelled, member?_quoted hentry entry.key depth hended, Option.bind_eq_bind,
        Option.bind_some, hended.skipBlanks_eq, ↓reduceIte, hrest]
      rfl

theorem spelled_cons (entry : Entry) : ∃ rest, entry.spelled.toList = '"' :: rest := by
  rw [Entry.spelled, String.toList_append, String.toList_append, toList_quoted]
  exact ⟨_, rfl⟩

theorem length_le_spelled (entries : List Entry) :
    entries.length ≤ (String.intercalate "," (entries.map Entry.spelled)).toList.length := by
  induction entries with
  | nil => exact Nat.zero_le _
  | cons entry others ih =>
    obtain ⟨first, hfirst⟩ := spelled_cons entry
    cases others with
    | nil =>
      rw [List.map_singleton, String.intercalate_singleton, hfirst]
      exact Nat.le_add_left 1 first.length
    | cons other others =>
      rw [List.map_cons, List.map_cons, String.intercalate_cons_cons, ← List.map_cons]
      simp only [String.toList_append, List.length_append, hfirst, List.length_cons] at ih ⊢
      omega

/-- An object whose members spell values reads back with these values, in their order. -/
theorem read?_object {entries : List Entry} (hne : entries ≠ [])
    (h : ∀ entry ∈ entries, Spells entry.text entry.value) :
    read? ("\x7b" ++ String.intercalate "," (entries.map Entry.spelled) ++ "\x7d") =
      some (.object (entries.map Entry.member)) := by
  have hbound := length_le_spelled entries
  generalize hinner : String.intercalate "," (entries.map Entry.spelled) = inner at hbound
  have hlist : ("\x7b" ++ inner ++ "\x7d").toList = '\x7b' :: (inner.toList ++ ['\x7d']) := by
    rw [String.toList_append, String.toList_append]
    rfl
  have hlength : ("\x7b" ++ inner ++ "\x7d").length = inner.toList.length + 1 + 1 := by
    rw [← String.length_toList, hlist, List.length_cons, List.length_append]
    rfl
  have hfirst : (skipBlanks (inner.toList ++ ['\x7d'])).head? ≠ some '\x7d' := by
    obtain ⟨entry, others, rfl⟩ := List.exists_cons_of_ne_nil hne
    obtain ⟨rest, hrest⟩ := spelled_cons entry
    have hquote : inner.toList.head? = some '"' := by
      rw [← hinner, List.map_cons]
      cases others with
      | nil =>
        rw [List.map_nil, String.intercalate_singleton, hrest]
        rfl
      | cons other others =>
        rw [List.map_cons, String.intercalate_cons_cons, String.toList_append, String.toList_append,
          hrest]
        rfl
    obtain ⟨tail, htail⟩ := List.head?_eq_some_iff.1 hquote
    rw [htail, List.cons_append, skipBlanks_cons rfl]
    exact fun hclosing => absurd (Option.some.inj hclosing) (by decide)
  have hroom : entries.length ≤ (inner.toList ++ ['\x7d']).length := by
    rw [List.length_append]
    omega
  have hitems := items?_spelled hne h inner.toList.length hroom []
  rw [hinner] at hitems
  rw [read?, hlength, hlist, skipBlanks_cons rfl, value?, list?, if_neg hfirst, hitems]
  rfl

end AirMonitor.Json
