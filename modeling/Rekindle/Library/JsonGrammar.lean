import Rekindle.Library.Json

/-! # The grammar of JSON texts

All the texts of the grammar, with blanks, escapes, fractions and exponents. Strings may hold any
bytes that are not control characters.
-/
namespace Json
set_option autoImplicit false

def isBlank (byte : UInt8) : Bool := byte ∈ [32, 9, 10, 13]

def Blank (text : Text) : Prop := ∀ byte ∈ text, isBlank byte = true

def isHexDigit (byte : UInt8) : Bool :=
  isDigit byte ∨ 65 ≤ byte.toNat ∧ byte.toNat ≤ 70 ∨ 97 ≤ byte.toNat ∧ byte.toNat ≤ 102

/-- The letters after a backslash. -/
def escapeLetters : List UInt8 := [34, 92, 47, 98, 102, 110, 114, 116]

/-- The characters of a string, between its quotes. -/
inductive Characters : Text → Prop
  | none : Characters []
  | plain {byte : UInt8} {rest : Text} (hControl : 32 ≤ byte) (hQuote : byte ≠ 34) (hBackslash : byte ≠ 92)
      (hRest : Characters rest) : Characters (byte :: rest)
  | short {letter : UInt8} {rest : Text} (hLetter : letter ∈ escapeLetters) (hRest : Characters rest) :
      Characters (92 :: letter :: rest)
  | unicode {a b c d : UInt8} {rest : Text} (hDigits : ∀ byte ∈ [a, b, c, d], isHexDigit byte = true)
      (hRest : Characters rest) : Characters (92 :: 117 :: a :: b :: c :: d :: rest)

def Digits (text : Text) : Prop := text ≠ [] ∧ ∀ byte ∈ text, isDigit byte = true

/-- No number starts with a zero but zero. -/
def Whole (text : Text) : Prop := text = [48] ∨ Digits text ∧ text.head? ≠ some 48

def Fraction (text : Text) : Prop := text = [] ∨ ∃ digits, Digits digits ∧ text = 46 :: digits

def Exponent (text : Text) : Prop :=
  text = [] ∨ ∃ letter sign digits, letter ∈ [(101 : UInt8), 69] ∧ sign ∈ [([] : Text), [43], [45]] ∧
    Digits digits ∧ text = letter :: (sign ++ digits)

def IsNumber (text : Text) : Prop :=
  ∃ sign whole fraction exponent, sign ∈ [([] : Text), [45]] ∧ Whole whole ∧ Fraction fraction ∧
    Exponent exponent ∧ text = sign ++ (whole ++ (fraction ++ exponent))

inductive Nonterminal where
  | value
  /-- The items of an array that is not empty, with blanks and commas. -/
  | items
  /-- The members of an object that is not empty. -/
  | members

inductive Grammar : Nonterminal → Text → Prop
  | null : Grammar .value [110, 117, 108, 108]
  | true : Grammar .value [116, 114, 117, 101]
  | false : Grammar .value [102, 97, 108, 115, 101]
  | number {text : Text} (h : IsNumber text) : Grammar .value text
  | string {text : Text} (h : Characters text) : Grammar .value (34 :: (text ++ [34]))
  | emptyArray {blank : Text} (h : Blank blank) : Grammar .value (91 :: (blank ++ [93]))
  | array {text : Text} (h : Grammar .items text) : Grammar .value (91 :: (text ++ [93]))
  | emptyObject {blank : Text} (h : Blank blank) : Grammar .value (123 :: (blank ++ [125]))
  | object {text : Text} (h : Grammar .members text) : Grammar .value (123 :: (text ++ [125]))
  | lastItem {before value after : Text} (hBefore : Blank before) (hValue : Grammar .value value)
      (hAfter : Blank after) : Grammar .items (before ++ (value ++ after))
  | item {before value after rest : Text} (hBefore : Blank before) (hValue : Grammar .value value)
      (hAfter : Blank after) (hRest : Grammar .items rest) :
      Grammar .items (before ++ (value ++ (after ++ 44 :: rest)))
  | lastMember {before name colon start value after : Text} (hBefore : Blank before) (hName : Characters name)
      (hColon : Blank colon) (hStart : Blank start) (hValue : Grammar .value value) (hAfter : Blank after) :
      Grammar .members (before ++ 34 :: (name ++ 34 :: (colon ++ 58 :: (start ++ (value ++ after)))))
  | member {before name colon start value after rest : Text} (hBefore : Blank before) (hName : Characters name)
      (hColon : Blank colon) (hStart : Blank start) (hValue : Grammar .value value) (hAfter : Blank after)
      (hRest : Grammar .members rest) :
      Grammar .members (before ++ 34 :: (name ++ 34 :: (colon ++ 58 :: (start ++ (value ++ (after ++ 44 :: rest))))))

/-- A JSON text. -/
def Document (text : Text) : Prop :=
  ∃ before value after, Blank before ∧ Grammar .value value ∧ Blank after ∧ text = before ++ (value ++ after)

/-! ## No control characters but blanks -/

def isAllowed (byte : UInt8) : Bool := 32 ≤ byte.toNat ∨ isBlank byte = true

theorem isAllowed_of_le {byte : UInt8} (h : 32 ≤ byte.toNat) : isAllowed byte = true := decide_eq_true (.inl h)

theorem Blank.allowed {text : Text} (h : Blank text) : ∀ byte ∈ text, isAllowed byte = true :=
  fun byte hByte => decide_eq_true (.inr (h byte hByte))

theorem isAllowed_of_isDigit {byte : UInt8} (h : isDigit byte = true) : isAllowed byte = true := by
  obtain ⟨hLow, -⟩ := of_decide_eq_true h
  exact isAllowed_of_le (by omega)

theorem Digits.allowed {text : Text} (h : Digits text) : ∀ byte ∈ text, isAllowed byte = true :=
  fun byte hByte => isAllowed_of_isDigit (h.2 byte hByte)

theorem isAllowed_of_isHexDigit {byte : UInt8} (h : isHexDigit byte = true) : isAllowed byte = true := by
  rcases of_decide_eq_true h with hDigit | ⟨hLow, -⟩ | ⟨hLow, -⟩
  · exact isAllowed_of_isDigit hDigit
  · exact isAllowed_of_le (by omega)
  · exact isAllowed_of_le (by omega)

theorem Characters.allowed {text : Text} (h : Characters text) : ∀ byte ∈ text, isAllowed byte = true := by
  induction h with
  | none => simp
  | plain hControl hQuote hBackslash hRest ih =>
    exact List.forall_mem_cons.mpr ⟨isAllowed_of_le (UInt8.le_iff_toNat_le.mp hControl), ih⟩
  | short hLetter hRest ih =>
    have hLetters : ∀ letter ∈ escapeLetters, isAllowed letter = true := List.all_eq_true.mp (by decide)
    exact List.forall_mem_cons.mpr ⟨by decide, List.forall_mem_cons.mpr ⟨hLetters _ hLetter, ih⟩⟩
  | unicode hDigits hRest ih =>
    simp only [List.forall_mem_cons] at hDigits ⊢
    exact ⟨by decide, by decide, isAllowed_of_isHexDigit hDigits.1, isAllowed_of_isHexDigit hDigits.2.1,
      isAllowed_of_isHexDigit hDigits.2.2.1, isAllowed_of_isHexDigit hDigits.2.2.2.1, ih⟩

theorem IsNumber.allowed {text : Text} (h : IsNumber text) : ∀ byte ∈ text, isAllowed byte = true := by
  obtain ⟨sign, whole, fraction, exponent, hSign, hWhole, hFraction, hExponent, rfl⟩ := h
  have hSigns : ∀ byte ∈ sign, isAllowed byte = true := by
    simp only [List.mem_cons, List.not_mem_nil, or_false] at hSign
    rcases hSign with rfl | rfl
    · simp
    · exact List.all_eq_true.mp (by decide)
  have hWholes : ∀ byte ∈ whole, isAllowed byte = true := by
    rcases hWhole with rfl | ⟨hDigits, -⟩
    · exact List.all_eq_true.mp (by decide)
    · exact hDigits.allowed
  have hFractions : ∀ byte ∈ fraction, isAllowed byte = true := by
    rcases hFraction with rfl | ⟨digits, hDigits, rfl⟩
    · simp
    · exact List.forall_mem_cons.mpr ⟨by decide, hDigits.allowed⟩
  have hExponents : ∀ byte ∈ exponent, isAllowed byte = true := by
    rcases hExponent with rfl | ⟨letter, sign, digits, hLetter, hSign, hDigits, rfl⟩
    · simp
    · simp only [List.mem_cons, List.not_mem_nil, or_false] at hLetter hSign
      have hRest := hDigits.allowed
      have hPlus : isAllowed 43 = true := by decide
      have hMinus : isAllowed 45 = true := by decide
      have hLetters : isAllowed letter = true := by rcases hLetter with rfl | rfl <;> decide
      rcases hSign with rfl | rfl | rfl <;> simpa [hLetters, hPlus, hMinus] using hRest
  intro byte hByte
  simp only [List.mem_append] at hByte
  rcases hByte with h | h | h | h
  · exact hSigns byte h
  · exact hWholes byte h
  · exact hFractions byte h
  · exact hExponents byte h

theorem isAllowed_bounded {first last : UInt8} {text : Text} (hFirst : isAllowed first = true)
    (hLast : isAllowed last = true) (h : ∀ byte ∈ text, isAllowed byte = true) :
    ∀ byte ∈ first :: (text ++ [last]), isAllowed byte = true := by
  simp only [List.mem_cons, List.mem_append, List.not_mem_nil, or_false, or_imp, forall_and, forall_eq]
  exact ⟨hFirst, h, hLast⟩

theorem Grammar.allowed {part : Nonterminal} {text : Text} (h : Grammar part text) :
    ∀ byte ∈ text, isAllowed byte = Bool.true := by
  induction h with
  | null | true | false => exact List.all_eq_true.mp (by decide)
  | number h => exact h.allowed
  | string h => exact isAllowed_bounded (by decide) (by decide) h.allowed
  | emptyArray h | emptyObject h => exact isAllowed_bounded (by decide) (by decide) h.allowed
  | array h ih | object h ih => exact isAllowed_bounded (by decide) (by decide) ih
  | lastItem hBefore hValue hAfter ih =>
    simp only [List.mem_append, or_imp, forall_and]
    exact ⟨hBefore.allowed, ih, hAfter.allowed⟩
  | item hBefore hValue hAfter hRest ih ihRest =>
    simp only [List.mem_append, List.mem_cons, or_imp, forall_and, forall_eq]
    exact ⟨hBefore.allowed, ih, hAfter.allowed, by decide, ihRest⟩
  | lastMember hBefore hName hColon hStart hValue hAfter ih =>
    simp only [List.mem_append, List.mem_cons, or_imp, forall_and, forall_eq]
    exact ⟨hBefore.allowed, by decide, hName.allowed, by decide, hColon.allowed, by decide, hStart.allowed, ih,
      hAfter.allowed⟩
  | member hBefore hName hColon hStart hValue hAfter hRest ih ihRest =>
    simp only [List.mem_append, List.mem_cons, or_imp, forall_and, forall_eq]
    exact ⟨hBefore.allowed, by decide, hName.allowed, by decide, hColon.allowed, by decide, hStart.allowed, ih,
      hAfter.allowed, by decide, ihRest⟩

/-- A JSON text holds no control character that is not a blank. -/
theorem Document.allowed {text : Text} (h : Document text) : ∀ byte ∈ text, isAllowed byte = true := by
  obtain ⟨before, value, after, hBefore, hValue, hAfter, rfl⟩ := h
  simp only [List.mem_append, or_imp, forall_and]
  exact ⟨hBefore.allowed, hValue.allowed, hAfter.allowed⟩

theorem Document.ne_zero {text : Text} (h : Document text) : ∀ byte ∈ text, byte ≠ 0 := by
  rintro byte hByte rfl
  exact absurd (h.allowed 0 hByte) (by decide)

/-! ## What is written -/

theorem blank_nil : Blank [] := fun _ h => nomatch h

theorem digits_writeDigits (fuel n : Nat) : Digits (writeDigits fuel n) :=
  ⟨writeDigits_ne_nil fuel n, isDigit_writeDigits fuel n⟩

theorem head?_writeDigits {fuel n : Nat} (hFuel : n ≤ fuel) (hn : 0 < n) :
    (writeDigits fuel n).head? ≠ some 48 := by
  induction fuel generalizing n with
  | zero => omega
  | succ fuel ih =>
    rw [writeDigits]
    split
    next hSmall =>
      intro hHead
      have hZero : (digit n).toNat = 48 := by rw [Option.some.inj hHead]; rfl
      rw [digit_toNat hSmall] at hZero
      omega
    next hLarge =>
      rw [List.head?_append_of_ne_nil _ (writeDigits_ne_nil _ _)]
      exact ih (by omega) (by omega)

/-- A number is written without leading zeros. -/
theorem whole_writeNumber (n : Nat) : Whole (writeNumber n) := by
  by_cases hZero : n = 0
  · left
    rw [hZero]
    rfl
  · exact .inr ⟨digits_writeDigits n n, head?_writeDigits (Nat.le_refl n) (Nat.pos_of_ne_zero hZero)⟩

theorem isNumber_writeNumber {sign : Text} (hSign : sign ∈ [([] : Text), [45]]) (n : Nat) :
    IsNumber (sign ++ writeNumber n) := by
  refine ⟨sign, writeNumber n, [], [], hSign, whole_writeNumber n, .inl rfl, .inl rfl, ?_⟩
  rw [List.append_nil, List.append_nil]

theorem characters_append {first second : Text} (hFirst : Characters first) (hSecond : Characters second) :
    Characters (first ++ second) := by
  induction hFirst with
  | none => exact hSecond
  | plain hControl hQuote hBackslash hRest ih => exact .plain hControl hQuote hBackslash ih
  | short hLetter hRest ih => exact .short hLetter ih
  | unicode hDigits hRest ih => exact .unicode hDigits ih

theorem isHexDigit_hexDigit {d : Nat} (h : d < 16) : isHexDigit (hexDigit d) = Bool.true := by
  revert d
  decide

theorem characters_escape (byte : UInt8) : Characters (escape byte) := by
  unfold escape
  cases hShort : shortEscapes.lookup byte with
  | some letter =>
    obtain ⟨before, after, hEntry, -⟩ := List.lookup_eq_some_iff.mp hShort
    have hLetters : ∀ entry ∈ shortEscapes, entry.2 ∈ escapeLetters := by
      simp [shortEscapes, escapeLetters]
    refine .short (hLetters (byte, letter) ?_) .none
    rw [hEntry]
    exact List.mem_append_right _ List.mem_cons_self
  | none =>
    dsimp only
    split
    next hControl =>
      have hByte := byte.toNat_lt
      refine .unicode ?_ .none
      simp only [List.forall_mem_cons]
      exact ⟨by decide, by decide, isHexDigit_hexDigit (by omega), isHexDigit_hexDigit (by omega), by simp⟩
    next hControl =>
      refine .plain (UInt8.not_lt.mp hControl) ?_ ?_ .none
      · rintro rfl
        cases hShort
      · rintro rfl
        cases hShort

theorem characters_flatMap_escape (text : Text) : Characters (text.flatMap escape) := by
  induction text with
  | nil => exact .none
  | cons byte rest ih => exact characters_append (characters_escape byte) ih

theorem grammar_string (text : Text) : Grammar .value (34 :: writeString text) :=
  .string (characters_flatMap_escape text)

mutual
/-- What is written is in the grammar. -/
theorem grammar_write (value : Value) : Grammar .value (write value) := by
  cases value with
  | null => exact .null
  | bool b => cases b with
    | true => exact .true
    | false => exact .false
  | number n => exact .number (isNumber_writeNumber List.mem_cons_self n)
  | negative n => exact .number (isNumber_writeNumber (List.mem_cons_of_mem _ List.mem_cons_self) (n + 1))
  | string text => exact grammar_string text
  | array items =>
    cases items with
    | nil => exact .emptyArray blank_nil
    | cons head tail =>
      obtain ⟨text, hText, hItems⟩ := grammar_writeItems head tail
      rw [write, hText]
      exact .array hItems
  | object fields =>
    cases fields with
    | nil => exact .emptyObject blank_nil
    | cons field tail =>
      obtain ⟨name, value⟩ := field
      obtain ⟨text, hText, hMembers⟩ := grammar_writeFields name value tail
      rw [write, hText]
      exact .object hMembers
termination_by sizeOf value

/-- The items from one of them on, up to the closing bracket. -/
theorem grammar_writeItems (head : Value) (tail : List Value) :
    ∃ text, write head ++ writeItems tail = text ++ [93] ∧ Grammar .items text := by
  cases tail with
  | nil => exact ⟨[] ++ (write head ++ []), by simp [writeItems], .lastItem blank_nil (grammar_write head) blank_nil⟩
  | cons next tail =>
    obtain ⟨text, hText, hItems⟩ := grammar_writeItems next tail
    refine ⟨[] ++ (write head ++ ([] ++ 44 :: text)), ?_, .item blank_nil (grammar_write head) blank_nil hItems⟩
    rw [writeItems, hText]
    simp
termination_by sizeOf head + sizeOf tail

theorem grammar_writeFields (name : Text) (value : Value) (tail : List (Text × Value)) :
    ∃ text, 34 :: (writeString name ++ 58 :: (write value ++ writeFields tail)) = text ++ [125] ∧
      Grammar .members text := by
  have hName := characters_flatMap_escape name
  cases tail with
  | nil =>
    refine ⟨_, ?_, .lastMember blank_nil hName blank_nil blank_nil (grammar_write value) blank_nil⟩
    simp [writeFields, writeString]
  | cons field tail =>
    obtain ⟨next, nextValue⟩ := field
    obtain ⟨text, hText, hMembers⟩ := grammar_writeFields next nextValue tail
    refine ⟨_, ?_, .member blank_nil hName blank_nil blank_nil (grammar_write value) blank_nil hMembers⟩
    rw [writeFields, hText]
    simp [writeString]
termination_by sizeOf value + sizeOf tail
end

theorem document_write (value : Value) : Document (write value) :=
  ⟨[], write value, [], blank_nil, grammar_write value, blank_nil, by rw [List.append_nil, List.nil_append]⟩

end Json
