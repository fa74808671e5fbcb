import TapeToJava.Json.Printer
import TapeToJava.Json.Token
import TapeToJava.Proofs.Json.Numeral

/-! Texts that the scanner cuts into given tokens: the texts of the tokens in a row, with blanks between them
wherever one likes, but with something between two words or numbers. -/

namespace TapeToJava.Json

variable {c : Char} {cs read word literal : List Char} {t : Token} {ts : List Token} {n : Nat}

/-! ### How a character is written in a string -/

/-- A character is written with a backslash and a letter, by its number, or as it is. -/
theorem escapeChar_cases (c : Char) :
    (∃ e, escapeChar c = ['\\', e] ∧ e ≠ 'u' ∧ (simpleEscape? e).isSome = true) ∨
    (∃ a b, escapeChar c = ['\\', 'u', '0', '0', a, b] ∧ (hexValue? a).isSome = true ∧
      (hexValue? b).isSome = true) ∨
    (escapeChar c = [c] ∧ c ≠ '"' ∧ c ≠ '\\' ∧ ¬c.toNat < 0x20) := by
  unfold escapeChar
  by_cases hquote : c = '"'
  · rw [if_pos hquote]
    exact Or.inl ⟨_, rfl, by decide, rfl⟩
  rw [if_neg hquote]
  by_cases hbackslash : c = '\\'
  · rw [if_pos hbackslash]
    exact Or.inl ⟨_, rfl, by decide, rfl⟩
  rw [if_neg hbackslash]
  by_cases hbackspace : c = '\x08'
  · rw [if_pos hbackspace]
    exact Or.inl ⟨_, rfl, by decide, rfl⟩
  rw [if_neg hbackspace]
  by_cases hformFeed : c = '\x0c'
  · rw [if_pos hformFeed]
    exact Or.inl ⟨_, rfl, by decide, rfl⟩
  rw [if_neg hformFeed]
  by_cases hnewline : c = '\n'
  · rw [if_pos hnewline]
    exact Or.inl ⟨_, rfl, by decide, rfl⟩
  rw [if_neg hnewline]
  by_cases hreturn : c = '\r'
  · rw [if_pos hreturn]
    exact Or.inl ⟨_, rfl, by decide, rfl⟩
  rw [if_neg hreturn]
  by_cases htab : c = '\t'
  · rw [if_pos htab]
    exact Or.inl ⟨_, rfl, by decide, rfl⟩
  rw [if_neg htab]
  by_cases hcontrol : c.toNat < 0x20
  · have hdigit : ∀ {m : Nat}, m < 16 → (hexValue? (Nat.digitChar m)).isSome = true := by
      intro m hm
      rw [hexValue?_digitChar hm]
      rfl
    rw [if_pos hcontrol]
    exact Or.inr (Or.inl ⟨_, _, rfl, hdigit (by omega), hdigit (by omega)⟩)
  · rw [if_neg hcontrol]
    exact Or.inr (Or.inr ⟨rfl, hquote, hbackslash, hcontrol⟩)

namespace Token

/-- A character that does not end a token. -/
theorem scanFrom_of_step {p next : Pending} (h : step p c = some ([], next)) :
    scanFrom p (c :: cs) = scanFrom next cs := by
  simp only [scanFrom, h, List.nil_append, Option.map_id']

/-- A character that ends a token. -/
theorem scanFrom_of_step_token {p next : Pending} (h : step p c = some ([t], next)) :
    scanFrom p (c :: cs) = (scanFrom next cs).map (t :: ·) := by
  simp only [scanFrom, h, List.singleton_append]

/-! ### Strings -/

/-- The digits of numbers to the base sixteen, in either case. -/
def hexDigits : List Char :=
  ['0', '1', '2', '3', '4', '5', '6', '7', '8', '9', 'a', 'b', 'c', 'd', 'e', 'f', 'A', 'B', 'C', 'D', 'E', 'F']

/-- The characters that may stand behind a backslash on their own. -/
def escapeLetters : List Char :=
  ['"', '\\', '/', 'b', 'f', 'n', 'r', 't']

/-- What may stand between the quotes of a string: characters as they are, other than quotes, backslashes and
those below U+0020, and escapes by a letter or by four digits. Surrogates need not pair up. -/
inductive IsQuotable : List Char → Prop
  | nil : IsQuotable []
  | plain {c : Char} {cs : List Char} (hquote : c ≠ '"') (hbackslash : c ≠ '\\') (hcontrol : 0x20 ≤ c.toNat)
      (h : IsQuotable cs) : IsQuotable (c :: cs)
  | letter {e : Char} {cs : List Char} (he : e ∈ escapeLetters) (h : IsQuotable cs) :
      IsQuotable ('\\' :: e :: cs)
  | unit {digits cs : List Char} (hlength : digits.length = 4) (hdigits : ∀ d ∈ digits, d ∈ hexDigits)
      (h : IsQuotable cs) : IsQuotable ('\\' :: 'u' :: (digits ++ cs))

theorem isSome_simpleEscape?_iff : (simpleEscape? c).isSome = true ↔ c ∈ escapeLetters := by
  constructor
  · intro h
    unfold simpleEscape? at h
    split at h
    any_goals decide
    cases h
  · have hall : (escapeLetters.all fun e => (simpleEscape? e).isSome) = true := by decide
    exact List.all_eq_true.mp hall c

theorem toNat_lt_of_isSome_hexValue? (h : (hexValue? c).isSome = true) : c.toNat < 0x80 := by
  unfold hexValue? at h
  split at h
  · rename_i hdigit
    have hle := (Char.isDigit_iff_toNat.mp hdigit).2
    exact Nat.lt_of_le_of_lt hle (by decide)
  split at h
  · rename_i hletter
    exact Nat.lt_of_le_of_lt (UInt32.le_iff_toNat_le.mp hletter.2) (by decide)
  split at h
  · rename_i hletter
    exact Nat.lt_of_le_of_lt (UInt32.le_iff_toNat_le.mp hletter.2) (by decide)
  · cases h

theorem isSome_hexValue?_iff : (hexValue? c).isSome = true ↔ c ∈ hexDigits := by
  have hascii : ∀ n : Fin 0x80, (hexValue? (Char.ofNat n)).isSome = true → Char.ofNat n ∈ hexDigits := by decide
  have hdigits : (hexDigits.all fun d => (hexValue? d).isSome) = true := by decide
  constructor
  · intro h
    have hc := hascii ⟨c.toNat, toNat_lt_of_isSome_hexValue? h⟩
    rw [Char.ofNat_toNat] at hc
    exact hc h
  · exact List.all_eq_true.mp hdigits c

theorem isQuotable_escapeChar (c : Char) (h : IsQuotable cs) : IsQuotable (escapeChar c ++ cs) := by
  rcases escapeChar_cases c with ⟨e, hc, -, he⟩ | ⟨a, b, hc, ha, hb⟩ | ⟨hc, hquote, hbackslash, hcontrol⟩
  · rw [hc]
    exact .letter (isSome_simpleEscape?_iff.mp he) h
  · rw [hc]
    have hdigits : ∀ d ∈ ['0', '0', a, b], d ∈ hexDigits := by
      simp only [List.forall_mem_cons]
      exact ⟨by decide, by decide, isSome_hexValue?_iff.mp ha, isSome_hexValue?_iff.mp hb, List.forall_mem_nil _⟩
    exact .unit rfl hdigits h
  · rw [hc]
    exact .plain hquote hbackslash (Nat.le_of_not_lt hcontrol) h

theorem isQuotable_escape (cs : List Char) : IsQuotable (escape cs) := by
  induction cs with
  | nil => exact .nil
  | cons c cs ih =>
      have hcons : escape (c :: cs) = escapeChar c ++ escape cs := List.flatMap_cons
      rw [hcons]
      exact isQuotable_escapeChar c ih

/-- The digits of an escape, the last of which ends it. -/
theorem scanFrom_digits {digits : List Char} (hlength : digits.length = n + 1)
    (hdigits : ∀ d ∈ digits, d ∈ hexDigits) (read cs : List Char) :
    scanFrom (.unicode read n) (digits ++ cs) = scanFrom (.string (digits.reverse ++ read)) cs := by
  induction n generalizing digits read with
  | zero =>
      obtain ⟨d, rfl⟩ := List.length_eq_one_iff.mp hlength
      have hd := isSome_hexValue?_iff.mpr (hdigits d List.mem_cons_self)
      have hstep : step (.unicode read 0) d = some ([], .string (d :: read)) := by
        rw [step, if_pos hd]
      exact scanFrom_of_step hstep
  | succ n ih =>
      obtain ⟨d, digits, rfl⟩ := List.exists_cons_of_length_eq_add_one hlength
      obtain ⟨hd, hdigits⟩ := List.forall_mem_cons.mp hdigits
      have hstep : step (.unicode read (n + 1)) d = some ([], .unicode (d :: read) n) := by
        rw [step, if_pos (isSome_hexValue?_iff.mpr hd)]
      rw [List.cons_append, scanFrom_of_step hstep, ih (Nat.succ.inj hlength) hdigits, List.reverse_cons,
        List.append_assoc, List.singleton_append]

/-- A literal that follows the rules is read to its end. -/
theorem IsQuotable.scanFrom_eq (h : IsQuotable literal) (read rest : List Char) :
    scanFrom (.string read) (literal ++ '"' :: rest) =
      (scanFrom .none rest).map (.string (read.reverse ++ literal) :: ·) := by
  have hescape : ∀ read, step (.string read) '\\' = some ([], .escape ('\\' :: read)) := fun _ => rfl
  have hunit : ∀ read, step (.escape read) 'u' = some ([], .unicode ('u' :: read) 3) := fun _ => rfl
  induction h generalizing read with
  | nil =>
      rw [List.append_nil]
      exact scanFrom_of_step_token rfl
  | @plain c cs hquote hbackslash hcontrol _ ih =>
      have hstep : step (.string read) c = some ([], .string (c :: read)) := by
        rw [step, if_neg hquote, if_neg hbackslash, if_neg (Nat.not_lt.mpr hcontrol)]
      rw [List.cons_append, scanFrom_of_step hstep, ih]
      simp
  | @letter e cs he _ ih =>
      have hu : e ≠ 'u' := by
        rintro rfl
        exact absurd he (by decide)
      have hstep : step (.escape ('\\' :: read)) e = some ([], .string (e :: '\\' :: read)) := by
        rw [step, if_neg hu, if_pos (isSome_simpleEscape?_iff.mpr he)]
      rw [List.cons_append, List.cons_append, scanFrom_of_step (hescape read), scanFrom_of_step hstep, ih]
      simp
  | @unit digits cs hlength hdigits _ ih =>
      rw [List.cons_append, List.cons_append, List.append_assoc, scanFrom_of_step (hescape read),
        scanFrom_of_step (hunit _), scanFrom_digits hlength hdigits, ih]
      simp

theorem scanFrom_cons_eq_some {p : Pending} (h : scanFrom p (c :: cs) = some ts) :
    ∃ out next rest, step p c = some (out, next) ∧ scanFrom next cs = some rest ∧ ts = out ++ rest := by
  rw [scanFrom] at h
  split at h
  · cases h
  · rename_i out next hstep
    obtain ⟨rest, hrest, rfl⟩ := Option.map_eq_some_iff.mp h
    exact ⟨out, next, rest, hstep, hrest, rfl⟩

theorem exists_digit_of_scanFrom (h : scanFrom (.unicode read n) (literal ++ ['"']) = some ts) :
    ∃ d cs, literal = d :: cs ∧ d ∈ hexDigits ∧ scanFrom (match n with
      | 0 => .string (d :: read)
      | n + 1 => .unicode (d :: read) n) (cs ++ ['"']) = some ts := by
  cases literal with
  | nil => cases h
  | cons d cs =>
      obtain ⟨out, next, rest, hstep, hrest, rfl⟩ := scanFrom_cons_eq_some h
      unfold step at hstep
      dsimp only at hstep
      split at hstep
      · rename_i hd
        refine ⟨d, cs, rfl, isSome_hexValue?_iff.mp hd, ?_⟩
        cases n with
        | zero =>
            cases hstep
            exact hrest
        | succ n =>
            cases hstep
            exact hrest
      · cases hstep

/-- Where an escape is read to its end, its digits stand there. -/
theorem exists_digits_of_scanFrom (h : scanFrom (.unicode read n) (literal ++ ['"']) = some ts) :
    ∃ digits cs, literal = digits ++ cs ∧ digits.length = n + 1 ∧ (∀ d ∈ digits, d ∈ hexDigits) ∧
      scanFrom (.string (digits.reverse ++ read)) (cs ++ ['"']) = some ts := by
  induction n generalizing literal read with
  | zero =>
      obtain ⟨d, cs, rfl, hd, hrest⟩ := exists_digit_of_scanFrom h
      exact ⟨[d], cs, rfl, rfl, List.forall_mem_singleton.mpr hd, hrest⟩
  | succ n ih =>
      obtain ⟨d, cs, rfl, hd, hrest⟩ := exists_digit_of_scanFrom h
      obtain ⟨digits, cs, rfl, hlength, hdigits, hscan⟩ := ih hrest
      refine ⟨d :: digits, cs, rfl, congrArg (· + 1) hlength, List.forall_mem_cons.mpr ⟨hd, hdigits⟩, ?_⟩
      rw [List.reverse_cons, List.append_assoc, List.singleton_append]
      exact hscan

/-- Where a string goes on behind a backslash, a letter or four digits stand there. -/
theorem exists_escape_of_scanFrom (h : scanFrom (.escape read) (literal ++ ['"']) = some ts) :
    (∃ e cs, literal = e :: cs ∧ e ∈ escapeLetters ∧ scanFrom (.string (e :: read)) (cs ++ ['"']) = some ts) ∨
    ∃ digits cs, literal = 'u' :: (digits ++ cs) ∧ digits.length = 4 ∧ (∀ d ∈ digits, d ∈ hexDigits) ∧
      scanFrom (.string (digits.reverse ++ 'u' :: read)) (cs ++ ['"']) = some ts := by
  cases literal with
  | nil => cases h
  | cons e cs =>
      obtain ⟨out, next, rest, hstep, hrest, rfl⟩ := scanFrom_cons_eq_some h
      rw [step] at hstep
      split at hstep
      · rename_i hu
        subst hu
        cases hstep
        obtain ⟨digits, cs, rfl, hlength, hdigits, hscan⟩ := exists_digits_of_scanFrom hrest
        exact Or.inr ⟨digits, cs, rfl, hlength, hdigits, hscan⟩
      split at hstep
      · rename_i he
        cases hstep
        exact Or.inl ⟨e, cs, rfl, isSome_simpleEscape?_iff.mp he, hrest⟩
      · cases hstep

/-- Literals that are read as one string follow the rules. The induction is on their length, because an escape
takes several characters at once. -/
theorem isQuotable_of_scanFrom (literal read : List Char)
    (h : scanFrom (.string read) (literal ++ ['"']) = some [.string (read.reverse ++ literal)]) :
    IsQuotable literal := by
  match literal with
  | [] => exact .nil
  | c :: cs =>
      obtain ⟨out, next, rest, hstep, hrest, hts⟩ := scanFrom_cons_eq_some h
      rw [step] at hstep
      by_cases hquote : c = '"'
      · -- The string ends here, and so it is shorter than the literal.
        rw [if_pos hquote] at hstep
        cases hstep
        have hshort := (Token.string.inj (List.cons.inj hts).1)
        simp at hshort
      rw [if_neg hquote] at hstep
      by_cases hbackslash : c = '\\'
      · rw [if_pos hbackslash] at hstep
        cases hstep
        rw [List.nil_append] at hts
        subst hbackslash hts
        rcases exists_escape_of_scanFrom hrest with
          ⟨e, cs, rfl, he, hscan⟩ | ⟨digits, cs, rfl, hlength, hdigits, hscan⟩
        · exact .letter he (isQuotable_of_scanFrom cs (e :: '\\' :: read) (by simpa using hscan))
        · refine .unit hlength hdigits (isQuotable_of_scanFrom cs (digits.reverse ++ 'u' :: '\\' :: read) ?_)
          simpa using hscan
      · rw [if_neg hbackslash] at hstep
        split at hstep
        · cases hstep
        · rename_i hcontrol
          cases hstep
          rw [List.nil_append] at hts
          subst hts
          exact .plain hquote hbackslash (Nat.le_of_not_lt hcontrol)
            (isQuotable_of_scanFrom cs (c :: read) (by simpa using hrest))
termination_by literal.length

/-- The literals that may stand between quotes are those that are read as one string there. -/
theorem isQuotable_iff : IsQuotable literal ↔ scan (Tree.inQuotes literal) = some [.string literal] := by
  have hopen : scan (Tree.inQuotes literal) = scanFrom (.string []) (literal ++ ['"']) := scanFrom_of_step rfl
  rw [hopen]
  constructor
  · intro h
    exact h.scanFrom_eq [] []
  · intro h
    exact isQuotable_of_scanFrom literal [] h

/-! ### Words and numbers -/

/-- No word or number goes on in a text. -/
def Separated (cs : List Char) : Prop :=
  ∀ c, cs.head? = some c → isBare c = false

theorem not_isBlank_of_isBare (h : isBare c = true) : isBlank c = false := by
  rw [Bool.eq_false_iff]
  intro hblank
  simp only [isBlank, Bool.or_eq_true, beq_iff_eq] at hblank
  rcases hblank with ((rfl | rfl) | rfl) | rfl
  · exact absurd h (by decide)
  · exact absurd h (by decide)
  · exact absurd h (by decide)
  · exact absurd h (by decide)

theorem start_of_isBare (h : isBare c = true) : start c = some ([], .bare [c]) := by
  have hquote : c ≠ '"' := by
    rintro rfl
    exact absurd h (by decide)
  rw [start, not_isBlank_of_isBare h, if_neg Bool.false_ne_true, if_neg hquote, if_pos h]

theorem scanFrom_bare (hword : ∀ c ∈ word, isBare c = true) (read cs : List Char) :
    scanFrom (.bare read) (word ++ cs) = scanFrom (.bare (word.reverse ++ read)) cs := by
  induction word generalizing read with
  | nil => rfl
  | cons c word ih =>
      obtain ⟨hc, hword⟩ := List.forall_mem_cons.mp hword
      rw [List.cons_append, scanFrom_of_step (p := .bare read) (if_pos hc), ih hword, List.reverse_cons,
        List.append_assoc, List.singleton_append]

/-- The end of a word gives its token. -/
theorem scanFrom_bare_of_separated (hcs : Separated cs) (ht : ofBare? read.reverse = some t) :
    scanFrom (.bare read) cs = (scanFrom .none cs).map (t :: ·) := by
  cases cs with
  | nil => simp [scanFrom, finish, ht]
  | cons c cs =>
      have hc := hcs c rfl
      simp only [scanFrom, step, hc, Bool.false_eq_true, if_false, ht, Option.bind_eq_bind, Option.bind_some]
      cases start c with
      | none => rfl
      | some next => simp [Function.comp_def]

theorem scanFrom_word (hne : word ≠ []) (hword : ∀ c ∈ word, isBare c = true) (ht : ofBare? word = some t)
    (hcs : Separated cs) : scanFrom .none (word ++ cs) = (scanFrom .none cs).map (t :: ·) := by
  obtain ⟨c, word, rfl⟩ := List.exists_cons_of_ne_nil hne
  obtain ⟨hc, hword⟩ := List.forall_mem_cons.mp hword
  rw [List.cons_append, scanFrom_of_step (p := .none) (start_of_isBare hc), scanFrom_bare hword]
  exact scanFrom_bare_of_separated hcs (by simpa using ht)

/-! ### Any token -/

/-- How a token is written. -/
def text : Token → List Char
  | arrayOpen => ['[']
  | arrayClose => [']']
  | objectOpen => ['\x7b']
  | objectClose => ['\x7d']
  | colon => [':']
  | comma => [',']
  | null => ['n', 'u', 'l', 'l']
  | bool value => Tree.boolText value
  | number literal => literal
  | string literal => Tree.inQuotes literal

/-- A token made of the characters of words and numbers. -/
def isWord : Token → Bool
  | null | bool _ | number _ => true
  | _ => false

/-- A token whose literal stands for it. -/
def IsSpelled : Token → Prop
  | number literal => (∀ c ∈ literal, isBare c = true) ∧ (Numeral.ofLiteral? literal).isSome = true
  | string literal => IsQuotable literal
  | _ => True

theorem ofBare?_of_isSome (h : (Numeral.ofLiteral? literal).isSome = true) :
    ofBare? literal = some (.number literal) := by
  have hword : ∀ word, Numeral.ofLiteral? word = none → literal ≠ word := by
    rintro word hnone rfl
    rw [hnone] at h
    cases h
  rw [ofBare?, if_neg (hword _ rfl), if_neg (hword _ rfl), if_neg (hword _ rfl), if_pos h]

theorem scanFrom_mark {mark : Char} (hblank : isBlank mark = false) (hquote : mark ≠ '"')
    (hbare : isBare mark = false) (ht : ofMark? mark = some t) :
    scanFrom .none ([mark] ++ cs) = (scanFrom .none cs).map (t :: ·) := by
  refine scanFrom_of_step_token ?_
  rw [step, start, hblank, hbare, ht, if_neg Bool.false_ne_true, if_neg hquote, if_neg Bool.false_ne_true,
    Option.map_some]

/-- The text of a token gives the token. -/
theorem scanFrom_text (ht : t.IsSpelled) (hcs : t.isWord = true → Separated cs) :
    scanFrom .none (t.text ++ cs) = (scanFrom .none cs).map (t :: ·) := by
  cases t with
  | arrayOpen => exact scanFrom_mark rfl (by decide) rfl rfl
  | arrayClose => exact scanFrom_mark rfl (by decide) rfl rfl
  | objectOpen => exact scanFrom_mark rfl (by decide) rfl rfl
  | objectClose => exact scanFrom_mark rfl (by decide) rfl rfl
  | colon => exact scanFrom_mark rfl (by decide) rfl rfl
  | comma => exact scanFrom_mark rfl (by decide) rfl rfl
  | null => exact scanFrom_word (List.cons_ne_nil _ _) (List.all_eq_true.mp rfl) rfl (hcs rfl)
  | bool value =>
      cases value with
      | false => exact scanFrom_word (List.cons_ne_nil _ _) (List.all_eq_true.mp rfl) rfl (hcs rfl)
      | true => exact scanFrom_word (List.cons_ne_nil _ _) (List.all_eq_true.mp rfl) rfl (hcs rfl)
  | number literal =>
      refine scanFrom_word ?_ ht.1 (ofBare?_of_isSome ht.2) (hcs rfl)
      rintro rfl
      cases ht.2
  | string literal =>
      have hread := IsQuotable.scanFrom_eq ht [] cs
      rw [List.reverse_nil, List.nil_append] at hread
      rw [text, Tree.inQuotes, List.cons_append, List.cons_append, scanFrom_of_step rfl, List.append_assoc]
      exact hread

/-! ### Any text -/

/-- A text that consists of the texts of tokens and of blanks. -/
inductive Spells : List Char → List Token → Prop
  | nil : Spells [] []
  | blank {c : Char} {cs : List Char} {ts : List Token} (hc : isBlank c = true) (h : Spells cs ts) :
      Spells (c :: cs) ts
  | token {t : Token} {cs : List Char} {ts : List Token} (ht : t.IsSpelled)
      (hcs : t.isWord = true → Separated cs) (h : Spells cs ts) : Spells (t.text ++ cs) (t :: ts)

theorem Spells.scan_eq (h : Spells cs ts) : scan cs = some ts := by
  unfold scan
  induction h with
  | nil => rfl
  | blank hc h ih => rw [scanFrom_of_step (p := .none) (if_pos hc), ih]
  | token ht hcs h ih => rw [scanFrom_text ht hcs, ih, Option.map_some]

/-- A token that is no word needs no room behind it. -/
theorem Spells.mark (hword : t.isWord = false) (ht : t.IsSpelled) (h : Spells cs ts) :
    Spells (t.text ++ cs) (t :: ts) := by
  refine .token ht (fun hword' => ?_) h
  rw [hword] at hword'
  cases hword'

theorem Spells.blanks {blanks : List Char} (hblanks : ∀ c ∈ blanks, isBlank c = true) (h : Spells cs ts) :
    Spells (blanks ++ cs) ts := by
  induction blanks with
  | nil => exact h
  | cons c blanks ih =>
      obtain ⟨hc, hblanks⟩ := List.forall_mem_cons.mp hblanks
      exact .blank hc (ih hblanks)

end Token

end TapeToJava.Json
