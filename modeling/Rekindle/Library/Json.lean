import Mathlib.Data.List.Basic

/-! # Compact JSON texts

Values and the texts that serializers write for them without any spacing: numbers are integers,
strings are UTF-8 bytes. The reader gives back every written value, and takes no text that holds a
zero byte.
-/
namespace Json
set_option autoImplicit false

abbrev Text := List UInt8

inductive Value where
  | null
  | bool (b : Bool)
  | number (n : Nat)
  /-- The number `-(n + 1)`. -/
  | negative (n : Nat)
  | string (text : Text)
  | array (items : List Value)
  | object (fields : List (Text × Value))

/-! ## Writing -/

def digit (d : Nat) : UInt8 := UInt8.ofNat (48 + d)

def writeDigits : Nat → Nat → Text
  | 0, n => [digit (n % 10)]
  | fuel + 1, n => if n < 10 then [digit n] else writeDigits fuel (n / 10) ++ [digit (n % 10)]

def writeNumber (n : Nat) : Text := writeDigits n n

/-- Characters with a short escape, and the letter of it. -/
def shortEscapes : List (UInt8 × UInt8) :=
  [(34, 34), (92, 92), (8, 98), (9, 116), (10, 110), (12, 102), (13, 114)]

def hexDigit (d : Nat) : UInt8 := if d < 10 then UInt8.ofNat (48 + d) else UInt8.ofNat (87 + d)

def escape (byte : UInt8) : Text :=
  match shortEscapes.lookup byte with
  | some letter => [92, letter]
  | none =>
    if byte < 32 then [92, 117, 48, 48, hexDigit (byte.toNat / 16), hexDigit (byte.toNat % 16)]
    else [byte]

/-- The text up to the closing quote. -/
def writeString (text : Text) : Text := text.flatMap escape ++ [34]

mutual
def write : Value → Text
  | .null => [110, 117, 108, 108]
  | .bool true => [116, 114, 117, 101]
  | .bool false => [102, 97, 108, 115, 101]
  | .number n => writeNumber n
  | .negative n => 45 :: writeNumber (n + 1)
  | .string text => 34 :: writeString text
  | .array [] => [91, 93]
  | .array (head :: tail) => 91 :: (write head ++ writeItems tail)
  | .object [] => [123, 125]
  | .object ((name, value) :: tail) =>
    123 :: 34 :: (writeString name ++ 58 :: (write value ++ writeFields tail))

/-- The rest of an array after one of its items. -/
def writeItems : List Value → Text
  | [] => [93]
  | head :: tail => 44 :: (write head ++ writeItems tail)

/-- The rest of an object after one of its fields. -/
def writeFields : List (Text × Value) → Text
  | [] => [125]
  | (name, value) :: tail => 44 :: 34 :: (writeString name ++ 58 :: (write value ++ writeFields tail))
end

/-! ## Reading -/

def isDigit (byte : UInt8) : Bool := 48 ≤ byte.toNat ∧ byte.toNat ≤ 57

/-- A number goes on as long as digits do. -/
def readDigits (n : Nat) : Text → Nat × Text
  | [] => (n, [])
  | byte :: rest => if isDigit byte then readDigits (10 * n + (byte.toNat - 48)) rest else (n, byte :: rest)

def hexValue (byte : UInt8) : Option Nat :=
  let code := byte.toNat
  if 48 ≤ code ∧ code ≤ 57 then some (code - 48)
  else if 97 ≤ code ∧ code ≤ 102 then some (code - 87) else none

def readEscape (letter : UInt8) (rest : Text) : Option (UInt8 × Text) :=
  match (shortEscapes.find? (·.2 == letter)).map (·.1), rest with
  | some byte, rest => some (byte, rest)
  | none, zero :: zero' :: high :: low :: rest => do
    if letter = 117 ∧ zero = 48 ∧ zero' = 48 then
      let high ← hexValue high
      let low ← hexValue low
      pure (UInt8.ofNat (16 * high + low), rest)
    else none
  | none, _ => none

def readString : Nat → Text → Option (Text × Text)
  | _, [] => none
  | 0, _ => none
  | fuel + 1, byte :: rest =>
    if byte = 34 then some ([], rest)
    else if byte = 92 then
      match rest with
      | [] => none
      | letter :: rest => do
        let (byte, rest) ← readEscape letter rest
        let (text, rest) ← readString fuel rest
        pure (byte :: text, rest)
    else if byte < 32 then none
    else do
      let (text, rest) ← readString fuel rest
      pure (byte :: text, rest)

def expect (byte : UInt8) : Text → Option Text
  | [] => none
  | head :: rest => if head = byte then some rest else none

def expectAll : Text → Text → Option Text
  | [], rest => some rest
  | byte :: bytes, rest => (expect byte rest).bind (expectAll bytes)

/-- A field's name, from after its opening quote, and the colon. -/
def readName (fuel : Nat) (bytes : Text) : Option (Text × Text) := do
  let (name, rest) ← readString fuel bytes
  let rest ← expect 58 rest
  pure (name, rest)

mutual
def read : Nat → Text → Option (Value × Text)
  | 0, _ => none
  | _, [] => none
  | fuel + 1, byte :: rest =>
    if byte = 110 then (expectAll [117, 108, 108] rest).map (.null, ·)
    else if byte = 116 then (expectAll [114, 117, 101] rest).map (.bool true, ·)
    else if byte = 102 then (expectAll [97, 108, 115, 101] rest).map (.bool false, ·)
    else if byte = 34 then do
      let (text, rest) ← readString fuel rest
      pure (.string text, rest)
    else if byte = 91 then
      if rest.head? = some 93 then some (.array [], rest.tail)
      else do
        let (head, rest) ← read fuel rest
        let (tail, rest) ← readItems fuel rest
        pure (.array (head :: tail), rest)
    else if byte = 123 then
      if rest.head? = some 125 then some (.object [], rest.tail)
      else do
        let rest ← expect 34 rest
        let (name, rest) ← readName fuel rest
        let (value, rest) ← read fuel rest
        let (tail, rest) ← readFields fuel rest
        pure (.object ((name, value) :: tail), rest)
    else if byte = 45 then
      if (rest.head?.any isDigit) then
        match readDigits 0 rest with
        | (0, _) => none
        | (n + 1, rest) => some (.negative n, rest)
      else none
    else if isDigit byte then
      let (n, rest) := readDigits (byte.toNat - 48) rest
      some (.number n, rest)
    else none

def readItems : Nat → Text → Option (List Value × Text)
  | 0, _ => none
  | _, [] => none
  | fuel + 1, byte :: rest =>
    if byte = 93 then some ([], rest)
    else if byte = 44 then do
      let (head, rest) ← read fuel rest
      let (tail, rest) ← readItems fuel rest
      pure (head :: tail, rest)
    else none

def readFields : Nat → Text → Option (List (Text × Value) × Text)
  | 0, _ => none
  | _, [] => none
  | fuel + 1, byte :: rest =>
    if byte = 125 then some ([], rest)
    else if byte = 44 then do
      let rest ← expect 34 rest
      let (name, rest) ← readName fuel rest
      let (value, rest) ← read fuel rest
      let (tail, rest) ← readFields fuel rest
      pure ((name, value) :: tail, rest)
    else none
end

/-- The value of a whole text. -/
def parse (bytes : Text) : Option Value :=
  (read bytes.length bytes).bind fun (value, rest) => if rest = [] then some value else none

/-! ## Round trip -/

/-- What follows a number does not go on with digits. -/
def NoDigit (rest : Text) : Prop := ∀ byte ∈ rest.head?, isDigit byte = false

theorem digit_toNat {d : Nat} (h : d < 10) : (digit d).toNat = 48 + d := by
  rw [digit, UInt8.toNat_ofNat']
  omega

theorem isDigit_digit {d : Nat} (h : d < 10) : isDigit (digit d) = true := by
  simp only [isDigit, digit_toNat h, decide_eq_true_eq]
  omega

theorem isDigit_writeDigits (fuel n : Nat) : ∀ byte ∈ writeDigits fuel n, isDigit byte = true := by
  induction fuel generalizing n with
  | zero =>
    intro byte hByte
    rw [writeDigits, List.mem_singleton] at hByte
    rw [hByte]
    exact isDigit_digit (by omega)
  | succ fuel ih =>
    intro byte hByte
    rw [writeDigits] at hByte
    split at hByte
    · rename_i hSmall
      rw [List.mem_singleton] at hByte
      rw [hByte]
      exact isDigit_digit hSmall
    · rcases List.mem_append.mp hByte with hByte | hByte
      · exact ih _ byte hByte
      · rw [List.mem_singleton] at hByte
        rw [hByte]
        exact isDigit_digit (by omega)

theorem writeDigits_ne_nil (fuel n : Nat) : writeDigits fuel n ≠ [] := by
  cases fuel with
  | zero => simp [writeDigits]
  | succ fuel =>
    rw [writeDigits]
    split <;> simp

theorem readDigits_append (digits rest : Text) (hDigits : ∀ byte ∈ digits, isDigit byte = true)
    (hRest : NoDigit rest) (n : Nat) :
    readDigits n (digits ++ rest) =
      (digits.foldl (fun n byte => 10 * n + (byte.toNat - 48)) n, rest) := by
  induction digits generalizing n with
  | nil =>
    cases rest with
    | nil => rfl
    | cons byte rest =>
      have hStop : isDigit byte = false := hRest byte rfl
      simp [readDigits, hStop]
  | cons byte digits ih =>
    have hByte := hDigits byte List.mem_cons_self
    rw [List.cons_append, readDigits, if_pos hByte, List.foldl_cons]
    exact ih (fun b hb => hDigits b (List.mem_cons_of_mem _ hb)) _

theorem foldl_writeDigits (fuel n : Nat) (h : n ≤ fuel) :
    (writeDigits fuel n).foldl (fun n byte => 10 * n + (byte.toNat - 48)) 0 = n := by
  induction fuel generalizing n with
  | zero =>
    have hSmall : n % 10 < 10 := by omega
    simp only [writeDigits, List.foldl_cons, List.foldl_nil, digit_toNat hSmall]
    omega
  | succ fuel ih =>
    rw [writeDigits]
    split
    · rename_i hSmall
      simp only [List.foldl_cons, List.foldl_nil, digit_toNat hSmall]
      omega
    · have hLast : n % 10 < 10 := by omega
      have hInit : n / 10 ≤ fuel := by omega
      rw [List.foldl_append, ih (n / 10) hInit]
      simp only [List.foldl_cons, List.foldl_nil, digit_toNat hLast]
      omega

theorem readDigits_writeNumber (n : Nat) (rest : Text) (hRest : NoDigit rest) :
    readDigits 0 (writeNumber n ++ rest) = (n, rest) := by
  rw [writeNumber, readDigits_append _ rest (isDigit_writeDigits n n) hRest,
    foldl_writeDigits n n (Nat.le_refl n)]

theorem hexValue_hexDigit : ∀ d < 16, hexValue (hexDigit d) = some d := by decide

theorem readEscape_short {byte letter : UInt8} (h : shortEscapes.lookup byte = some letter)
    (rest : Text) : readEscape letter rest = some (byte, rest) := by
  obtain ⟨before, after, hSplit, _⟩ := List.lookup_eq_some_iff.mp h
  have hMem : (byte, letter) ∈ shortEscapes := by
    rw [hSplit]
    exact List.mem_append_right _ List.mem_cons_self
  have hLetter : (shortEscapes.find? (·.2 == letter)).map (·.1) = some byte := by
    revert hMem
    simp only [shortEscapes, List.mem_cons, Prod.mk.injEq, List.not_mem_nil, or_false]
    rintro (⟨rfl, rfl⟩ | ⟨rfl, rfl⟩ | ⟨rfl, rfl⟩ | ⟨rfl, rfl⟩ | ⟨rfl, rfl⟩ | ⟨rfl, rfl⟩ | ⟨rfl, rfl⟩)
    all_goals decide
  simp only [readEscape, hLetter]

theorem readEscape_unicode (byte : UInt8) (rest : Text) :
    readEscape 117 (48 :: 48 :: hexDigit (byte.toNat / 16) :: hexDigit (byte.toNat % 16) :: rest) =
      some (byte, rest) := by
  have hBound : byte.toNat < 256 := byte.toNat_lt
  have hLetter : (shortEscapes.find? (·.2 == 117)).map (·.1) = none := by decide
  have hByte : UInt8.ofNat (16 * (byte.toNat / 16) + byte.toNat % 16) = byte := by
    rw [Nat.div_add_mod]
    exact UInt8.ofNat_toNat
  simp only [readEscape, hLetter, and_self, if_true, hexValue_hexDigit (byte.toNat / 16) (by omega),
    hexValue_hexDigit (byte.toNat % 16) (by omega), Option.bind_eq_bind, Option.bind_some, hByte]
  rfl

theorem readString_escape {fuel : Nat} (byte : UInt8) (rest : Text) :
    readString (fuel + 1) (escape byte ++ rest) =
      (readString fuel rest).map fun (text, rest) => (byte :: text, rest) := by
  unfold escape
  cases hShort : shortEscapes.lookup byte with
  | some letter =>
    have hQuote : (92 : UInt8) ≠ 34 := by decide
    simp only [List.cons_append, List.nil_append, readString, if_neg hQuote, if_true,
      readEscape_short hShort, Option.bind_eq_bind, Option.bind_some]
    cases readString fuel rest <;> rfl
  | none =>
    have hQuote : byte ≠ 34 := by rintro rfl; cases hShort
    have hBackslash : byte ≠ 92 := by rintro rfl; cases hShort
    dsimp only
    split
    · rename_i hControl
      have hNotQuote : (92 : UInt8) ≠ 34 := by decide
      simp only [List.cons_append, List.nil_append, readString, if_neg hNotQuote, if_true,
        readEscape_unicode byte, Option.bind_eq_bind, Option.bind_some]
      cases readString fuel rest <;> rfl
    · rename_i hPrintable
      simp only [List.cons_append, List.nil_append, readString, if_neg hQuote, if_neg hBackslash,
        if_neg hPrintable]
      cases readString fuel rest <;> rfl

theorem escape_ne_nil (byte : UInt8) : escape byte ≠ [] := by
  unfold escape
  split
  · simp
  · split <;> simp

theorem readString_write (text rest : Text) (fuel : Nat) (hFuel : (writeString text).length ≤ fuel) :
    readString fuel (writeString text ++ rest) = some (text, rest) := by
  induction text generalizing fuel with
  | nil =>
    cases fuel with
    | zero => simp [writeString] at hFuel
    | succ fuel => rfl
  | cons byte text ih =>
    have hEscape := List.length_pos_iff.mpr (escape_ne_nil byte)
    have hWritten : writeString (byte :: text) = escape byte ++ writeString text := by
      simp [writeString]
    rw [hWritten, List.length_append] at hFuel
    cases fuel with
    | zero => omega
    | succ fuel =>
      rw [hWritten, List.append_assoc, readString_escape, ih fuel (by omega)]
      rfl

theorem expect_cons (byte : UInt8) (rest : Text) : expect byte (byte :: rest) = some rest := by
  simp [expect]

theorem readName_write (name rest : Text) (fuel : Nat) (hFuel : (writeString name).length ≤ fuel) :
    readName fuel (writeString name ++ 58 :: rest) = some (name, rest) := by
  rw [readName, readString_write name _ fuel hFuel]
  rfl

theorem noDigit_cons {byte : UInt8} {rest : Text} (h : isDigit byte = false) :
    NoDigit (byte :: rest) := by
  intro head hHead
  cases hHead
  exact h

theorem noDigit_writeItems (items : List Value) (rest : Text) : NoDigit (writeItems items ++ rest) := by
  cases items with
  | nil => exact noDigit_cons (by decide)
  | cons head tail => exact noDigit_cons (by decide)

theorem noDigit_writeFields (fields : List (Text × Value)) (rest : Text) :
    NoDigit (writeFields fields ++ rest) := by
  cases fields with
  | nil => exact noDigit_cons (by decide)
  | cons head tail => exact noDigit_cons (by decide)

/-- The first byte of a written value opens neither an end of array nor an end of object. -/
theorem head?_write (value : Value) (rest : Text) :
    ∃ byte tail, write value ++ rest = byte :: tail ∧ byte ≠ 93 ∧ byte ≠ 125 := by
  cases value with
  | null => exact ⟨_, _, rfl, by decide, by decide⟩
  | bool b => cases b <;> exact ⟨_, _, rfl, by decide, by decide⟩
  | negative n => exact ⟨_, _, rfl, by decide, by decide⟩
  | string text => exact ⟨_, _, rfl, by decide, by decide⟩
  | array items => cases items <;> exact ⟨_, _, rfl, by decide, by decide⟩
  | object fields =>
    cases fields with
    | nil => exact ⟨_, _, rfl, by decide, by decide⟩
    | cons field tail => exact ⟨_, _, rfl, by decide, by decide⟩
  | number n =>
    cases hDigits : writeNumber n with
    | nil => exact absurd hDigits (writeDigits_ne_nil n n)
    | cons byte tail =>
      have hDigit : isDigit byte = true :=
        isDigit_writeDigits n n byte (by rw [← writeNumber, hDigits]; exact List.mem_cons_self)
      refine ⟨byte, tail ++ rest, by rw [write, hDigits]; rfl, ?_, ?_⟩
      · rintro rfl
        exact absurd hDigit (by decide)
      · rintro rfl
        exact absurd hDigit (by decide)

theorem read_number (n fuel : Nat) (rest : Text) (hRest : NoDigit rest) :
    read (fuel + 1) (writeNumber n ++ rest) = some (.number n, rest) := by
  cases hDigits : writeNumber n with
  | nil => exact absurd hDigits (writeDigits_ne_nil n n)
  | cons byte tail =>
    have hDigit : isDigit byte = true :=
      isDigit_writeDigits n n byte (by rw [← writeNumber, hDigits]; exact List.mem_cons_self)
    have hOther : byte ≠ 110 ∧ byte ≠ 116 ∧ byte ≠ 102 ∧ byte ≠ 34 ∧ byte ≠ 91 ∧ byte ≠ 123 ∧
        byte ≠ 45 := by
      refine ⟨?_, ?_, ?_, ?_, ?_, ?_, ?_⟩
      all_goals
        rintro rfl
        exact absurd hDigit (by decide)
    have hValue := readDigits_writeNumber n rest hRest
    rw [hDigits, List.cons_append, readDigits, if_pos hDigit, Nat.mul_zero, Nat.zero_add] at hValue
    simp only [List.cons_append, read, hOther, hDigit, if_true, if_false, hValue]

theorem read_negative (n fuel : Nat) (rest : Text) (hRest : NoDigit rest) :
    read (fuel + 1) (45 :: (writeNumber (n + 1) ++ rest)) = some (.negative n, rest) := by
  cases hDigits : writeNumber (n + 1) with
  | nil => exact absurd hDigits (writeDigits_ne_nil _ _)
  | cons byte tail =>
    have hDigit : isDigit byte = true :=
      isDigit_writeDigits (n + 1) (n + 1) byte (by rw [← writeNumber, hDigits]; exact List.mem_cons_self)
    have hValue := readDigits_writeNumber (n + 1) rest hRest
    rw [hDigits, List.cons_append] at hValue
    have hStart : ((byte :: (tail ++ rest)).head?.any isDigit) = true := hDigit
    have hOther : (45 : UInt8) ≠ 110 ∧ (45 : UInt8) ≠ 116 ∧ (45 : UInt8) ≠ 102 ∧ (45 : UInt8) ≠ 34 ∧
        (45 : UInt8) ≠ 91 ∧ (45 : UInt8) ≠ 123 := by decide
    simp only [List.cons_append, read, hOther, if_true, if_false, hStart, hValue]

mutual
theorem read_write (value : Value) (fuel : Nat) (rest : Text) (hFuel : (write value).length ≤ fuel)
    (hRest : NoDigit rest) : read fuel (write value ++ rest) = some (value, rest) := by
  cases fuel with
  | zero =>
    obtain ⟨byte, tail, hHead, _⟩ := head?_write value []
    rw [List.append_nil] at hHead
    simp [hHead] at hFuel
  | succ fuel =>
    cases value with
    | null => rfl
    | bool b => cases b <;> rfl
    | number n => exact read_number n fuel rest hRest
    | negative n => exact read_negative n fuel rest hRest
    | string text =>
      simp only [write, List.length_cons] at hFuel
      simp [write, read, readString_write text rest fuel (by omega)]
    | array items =>
      cases items with
      | nil => rfl
      | cons head tail =>
        simp only [write, List.length_cons, List.length_append] at hFuel
        obtain ⟨byte, after, hHead, hOpen, _⟩ := head?_write head (writeItems tail ++ rest)
        have hReadHead := read_write head fuel (writeItems tail ++ rest) (by omega)
          (noDigit_writeItems tail rest)
        have hReadTail := readItems_write tail fuel rest (by omega)
        have hStart : (write head ++ (writeItems tail ++ rest)).head? ≠ some 93 := by
          rw [hHead]
          simpa using hOpen
        rw [write, List.cons_append, List.append_assoc]
        simp [read, -List.head?_append, hStart, hReadHead, hReadTail]
    | object fields =>
      cases fields with
      | nil => rfl
      | cons field tail =>
        obtain ⟨name, value⟩ := field
        simp only [write, List.length_cons, List.length_append] at hFuel
        have hReadName := readName_write name (write value ++ (writeFields tail ++ rest)) fuel (by omega)
        have hReadValue := read_write value fuel (writeFields tail ++ rest) (by omega)
          (noDigit_writeFields tail rest)
        have hReadTail := readFields_write tail fuel rest (by omega)
        simp [write, read, expect_cons, hReadName, hReadValue, hReadTail]
termination_by fuel

theorem readItems_write (items : List Value) (fuel : Nat) (rest : Text)
    (hFuel : (writeItems items).length ≤ fuel) :
    readItems fuel (writeItems items ++ rest) = some (items, rest) := by
  cases fuel with
  | zero => cases items <;> simp [writeItems] at hFuel
  | succ fuel =>
    cases items with
    | nil => rfl
    | cons head tail =>
      simp only [writeItems, List.length_cons, List.length_append] at hFuel
      have hReadHead := read_write head fuel (writeItems tail ++ rest) (by omega)
        (noDigit_writeItems tail rest)
      have hReadTail := readItems_write tail fuel rest (by omega)
      simp [writeItems, readItems, hReadHead, hReadTail]
termination_by fuel

theorem readFields_write (fields : List (Text × Value)) (fuel : Nat) (rest : Text)
    (hFuel : (writeFields fields).length ≤ fuel) :
    readFields fuel (writeFields fields ++ rest) = some (fields, rest) := by
  cases fuel with
  | zero => cases fields <;> simp [writeFields] at hFuel
  | succ fuel =>
    cases fields with
    | nil => rfl
    | cons field tail =>
      obtain ⟨name, value⟩ := field
      simp only [writeFields, List.length_cons, List.length_append] at hFuel
      have hReadName := readName_write name (write value ++ (writeFields tail ++ rest)) fuel (by omega)
      have hReadValue := read_write value fuel (writeFields tail ++ rest) (by omega)
        (noDigit_writeFields tail rest)
      have hReadTail := readFields_write tail fuel rest (by omega)
      simp [writeFields, readFields, expect_cons, hReadName, hReadValue, hReadTail]
termination_by fuel
end

/-- Parsing what was written gives the value back. -/
theorem parse_write (value : Value) : parse (write value) = some value := by
  have hRead := read_write value (write value).length [] (Nat.le_refl _) (by rintro byte ⟨⟩)
  rw [List.append_nil] at hRead
  rw [parse, hRead]
  rfl

end Json
