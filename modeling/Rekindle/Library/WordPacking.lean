import Rekindle.Library.ByteWords

/-! # Packed words

A word of eight bytes is written as a tag, with a bit for each byte that is not zero, and these bytes. A run of zero
words and a run of words that do not pay are written with their length. How far a run goes is the writer's choice.
-/
namespace WordPacking
set_option autoImplicit false

open ByteWords

abbrev Word := Window UInt8 8

def Word.zero : Word := ⟨List.replicate 8 0, rfl⟩

/-- The number with these bits, the first the lowest. -/
def ofBits : List Bool → Nat
  | [] => 0
  | bit :: bits => bit.toNat + 2 * ofBits bits

def Word.tag (word : Word) : UInt8 := UInt8.ofNat (ofBits (word.val.map (· != 0)))

def Word.stored (word : Word) : List UInt8 := word.val.filter (· != 0)

inductive Packs : List Word → List UInt8 → Prop
  | nil : Packs [] []
  | zeros (more : UInt8) {words : List Word} {packed : List UInt8} (h : Packs words packed) :
      Packs (List.replicate (more.toNat + 1) Word.zero ++ words) (0 :: more :: packed)
  | word {word : Word} {words : List Word} {packed : List UInt8} (hSome : word.tag ≠ 0) (hFew : word.tag ≠ 255)
      (h : Packs words packed) : Packs (word :: words) (word.tag :: (word.stored ++ packed))
  | raw {word : Word} {run words : List Word} {packed : List UInt8} (hAll : word.tag = 255) (hRun : run.length < 256)
      (h : Packs words packed) :
      Packs (word :: (run ++ words)) (255 :: (word.val ++ UInt8.ofNat run.length :: (run.flatMap (·.val) ++ packed)))

/-- The words of a run of zeros after the first, and what follows. -/
def zeroRun : Nat → List Word → Nat × List Word
  | limit + 1, word :: words =>
    if word = Word.zero then ((zeroRun limit words).1 + 1, (zeroRun limit words).2) else (0, word :: words)
  | 0, words => (0, words)
  | _, [] => (0, [])

/-- Words with at most one zero byte are written as they are. -/
def rawRun : Nat → List Word → List Word × List Word
  | limit + 1, word :: words =>
    if 7 ≤ word.stored.length then (word :: (rawRun limit words).1, (rawRun limit words).2) else ([], word :: words)
  | 0, words => ([], words)
  | _, [] => ([], [])

/-- With runs as long as they get. The fuel is the number of words. -/
def pack : Nat → List Word → List UInt8
  | fuel + 1, word :: words =>
    if word.tag = 0 then
      0 :: UInt8.ofNat (zeroRun 255 words).1 :: pack fuel (zeroRun 255 words).2
    else if word.tag = 255 then
      255 :: (word.val ++ UInt8.ofNat (rawRun 255 words).1.length ::
        ((rawRun 255 words).1.flatMap (·.val) ++ pack fuel (rawRun 255 words).2))
    else word.tag :: (word.stored ++ pack fuel words)
  | _, _ => []

def packAll (words : List Word) : List UInt8 := pack words.length words

/-! ## What the stream holds -/

section
variable {word : Word} {words : List Word} {packed : List UInt8} {byte : UInt8}

/-- No byte is lost but zeros. -/
theorem Packs.mem (h : Packs words packed) (hWord : word ∈ words) (hByte : byte ∈ word.val) (hNonzero : byte ≠ 0) :
    byte ∈ packed := by
  induction h with
  | nil => cases hWord
  | zeros more h ih =>
    rcases List.mem_append.mp hWord with hZero | hRest
    · rw [List.eq_of_mem_replicate hZero] at hByte
      exact absurd (List.eq_of_mem_replicate hByte) hNonzero
    · exact List.mem_cons_of_mem _ (List.mem_cons_of_mem _ (ih hRest))
  | @word first words packed hSome hFew h ih =>
    apply List.mem_cons_of_mem
    rcases List.mem_cons.mp hWord with rfl | hRest
    · exact List.mem_append_left _ (List.mem_filter.mpr ⟨hByte, by simpa using hNonzero⟩)
    · exact List.mem_append_right _ (ih hRest)
  | @raw first run words packed hAll hRun h ih =>
    apply List.mem_cons_of_mem
    rcases List.mem_cons.mp hWord with rfl | hRest
    · exact List.mem_append_left _ hByte
    · apply List.mem_append_right
      apply List.mem_cons_of_mem
      rcases List.mem_append.mp hRest with hFirst | hLast
      · exact List.mem_append_left _ (List.mem_flatMap.mpr ⟨word, hFirst, hByte⟩)
      · exact List.mem_append_right _ (ih hLast)

/-- The stream starts with the tag of its first word. -/
theorem Packs.head? (h : Packs (word :: words) packed) : packed.head? = some word.tag := by
  generalize hWords : word :: words = all at h
  cases h with
  | nil => cases hWords
  | zeros more h =>
    rw [List.replicate_succ, List.cons_append] at hWords
    cases (List.cons.inj hWords).1
    rfl
  | word hSome hFew h =>
    cases (List.cons.inj hWords).1
    rfl
  | raw hAll hRun h =>
    cases (List.cons.inj hWords).1
    rw [hAll]
    rfl

end

/-! ## The packer -/

theorem ofBits_lt (bits : List Bool) : ofBits bits < 2 ^ bits.length := by
  induction bits with
  | nil => decide
  | cons bit bits ih =>
    have hBit := Bool.toNat_lt bit
    rw [ofBits, List.length_cons, Nat.pow_succ]
    omega

theorem ofBits_eq_zero {bits : List Bool} (h : ofBits bits = 0) : ∀ bit ∈ bits, bit = false := by
  induction bits with
  | nil => simp
  | cons bit bits ih =>
    rw [ofBits] at h
    refine List.forall_mem_cons.mpr ⟨?_, ih (by omega)⟩
    cases bit
    · rfl
    · rw [Bool.toNat_true] at h
      omega

theorem Word.toNat_tag (word : Word) : word.tag.toNat = ofBits (word.val.map (· != 0)) := by
  have hLess := ofBits_lt (word.val.map (· != 0))
  rw [List.length_map, word.property] at hLess
  rw [Word.tag, UInt8.toNat_ofNat', Nat.mod_eq_of_lt hLess]

theorem Word.eq_zero {word : Word} (h : word.tag = 0) : word = Word.zero := by
  have hBits : ∀ bit ∈ word.val.map (· != 0), bit = false := ofBits_eq_zero (by rw [← word.toNat_tag, h]; rfl)
  apply Subtype.ext
  refine List.eq_replicate_iff.mpr ⟨word.property, fun byte hByte => ?_⟩
  simpa using hBits _ (List.mem_map_of_mem hByte)

theorem zeroRun_spec (limit : Nat) (words : List Word) : (zeroRun limit words).1 ≤ limit ∧
    words = List.replicate (zeroRun limit words).1 Word.zero ++ (zeroRun limit words).2 := by
  induction limit generalizing words with
  | zero => exact ⟨le_rfl, rfl⟩
  | succ limit ih =>
    cases words with
    | nil => exact ⟨Nat.zero_le _, rfl⟩
    | cons word words =>
      rw [zeroRun]
      split
      · next hZero =>
        obtain ⟨hLimit, hRest⟩ := ih words
        refine ⟨Nat.succ_le_succ hLimit, ?_⟩
        rw [List.replicate_succ, List.cons_append, ← hRest, hZero]
      · exact ⟨Nat.zero_le _, rfl⟩

theorem rawRun_spec (limit : Nat) (words : List Word) : (rawRun limit words).1.length ≤ limit ∧
    words = (rawRun limit words).1 ++ (rawRun limit words).2 := by
  induction limit generalizing words with
  | zero => exact ⟨le_rfl, rfl⟩
  | succ limit ih =>
    cases words with
    | nil => exact ⟨Nat.zero_le _, rfl⟩
    | cons word words =>
      rw [rawRun]
      split
      · obtain ⟨hLimit, hRest⟩ := ih words
        refine ⟨Nat.succ_le_succ hLimit, ?_⟩
        rw [List.cons_append, ← hRest]
      · exact ⟨Nat.zero_le _, rfl⟩

theorem packs_pack {fuel : Nat} {words : List Word} (hFuel : words.length ≤ fuel) : Packs words (pack fuel words) := by
  induction fuel generalizing words with
  | zero =>
    rw [List.length_eq_zero_iff.mp (Nat.le_zero.mp hFuel)]
    exact .nil
  | succ fuel ih =>
    cases words with
    | nil => exact .nil
    | cons word words =>
      rw [List.length_cons] at hFuel
      rw [pack]
      split
      · next hZero =>
        obtain ⟨hLimit, hWords⟩ := zeroRun_spec 255 words
        have hLength := congrArg List.length hWords
        rw [List.length_append, List.length_replicate] at hLength
        have hPacked : Packs (zeroRun 255 words).2 _ := ih (by omega)
        have hRest := Packs.zeros (UInt8.ofNat (zeroRun 255 words).1) hPacked
        rw [UInt8.toNat_ofNat', Nat.mod_eq_of_lt (by omega), List.replicate_succ, List.cons_append, ← hWords,
          ← Word.eq_zero hZero] at hRest
        exact hRest
      · split
        · next hAll =>
          obtain ⟨hLimit, hWords⟩ := rawRun_spec 255 words
          have hLength := congrArg List.length hWords
          rw [List.length_append] at hLength
          have hPacked : Packs (rawRun 255 words).2 _ := ih (by omega)
          have hRest : Packs (word :: ((rawRun 255 words).1 ++ (rawRun 255 words).2)) _ :=
            .raw hAll (by omega) hPacked
          rw [← hWords] at hRest
          exact hRest
        · next hSome hFew => exact .word hSome hFew (ih (by omega))

theorem packs_packAll (words : List Word) : Packs words (packAll words) := packs_pack le_rfl

end WordPacking
