import Mathlib.Logic.Basic

/-! # Encoders and decoders

A codec that is faithful to a normal form loses nothing of the values in it and decodes to no others.
Codecs are put together from codecs of the parts, on the way to the bytes that are sent.
-/
namespace Codecs
set_option autoImplicit false

variable {ε Wire Message Value : Type}

structure Codec (ε Wire Value : Type) where
  encode : Value → Except ε Wire
  decode : Wire → Except ε Value

theorem map_eq_ok_iff {α β : Type} {f : α → β} {x : Except ε α} {b : β} :
    x.map f = .ok b ↔ ∃ a, x = .ok a ∧ f a = b := by
  cases x <;> simp [Except.map]

namespace Codec

/-- What the value is encoded as decodes to it. -/
def Restores (codec : Codec ε Wire Value) (value : Value) : Prop :=
  ∃ wire, codec.encode value = .ok wire ∧ codec.decode wire = .ok value

def reencode (codec : Codec ε Wire Value) (wire : Wire) : Except ε Wire := codec.decode wire >>= codec.encode

/-- Just the values in normal form are restored, and what has been decoded and encoded once comes out
of it the same from then on. -/
def RoundTrips (codec : Codec ε Wire Value) (Normal : Value → Prop) : Prop :=
  (∀ value, codec.Restores value ↔ Normal value) ∧
  ∀ wire value, codec.decode wire = .ok value →
    ∃ settled, codec.reencode wire = .ok settled ∧ codec.reencode settled = .ok settled

structure Faithful (codec : Codec ε Wire Value) (Normal : Value → Prop) : Prop where
  restores : ∀ value, Normal value → codec.Restores value
  normal : ∀ wire value, codec.decode wire = .ok value → Normal value

variable {codec : Codec ε Wire Value} {Normal : Value → Prop}

theorem Faithful.roundTrips (h : codec.Faithful Normal) : codec.RoundTrips Normal := by
  constructor
  · refine fun value => ⟨?_, h.restores value⟩
    rintro ⟨wire, -, hDecode⟩
    exact h.normal wire value hDecode
  · intro wire value hDecode
    obtain ⟨settled, hEncode, hBack⟩ := h.restores value (h.normal wire value hDecode)
    refine ⟨settled, ?_, ?_⟩
    · rwa [reencode, hDecode]
    · rwa [reencode, hBack]

theorem Faithful.congr {Other : Value → Prop} (h : codec.Faithful Normal) (hSame : ∀ value, Normal value ↔ Other value) :
    codec.Faithful Other where
  restores value hOther := h.restores value ((hSame value).mpr hOther)
  normal wire value hDecode := (hSame value).mp (h.normal wire value hDecode)

/-- An encoder that never fails. -/
def ofTotal (encode : Value → Wire) (decode : Wire → Except ε Value) : Codec ε Wire Value where
  encode value := .ok (encode value)
  decode := decode

theorem faithful_ofTotal {encode : Value → Wire} {decode : Wire → Except ε Value}
    (hRestores : ∀ value, Normal value → decode (encode value) = .ok value)
    (hNormal : ∀ wire value, decode wire = .ok value → Normal value) : (ofTotal encode decode).Faithful Normal where
  restores value hValue := ⟨encode value, rfl, hRestores value hValue⟩
  normal := hNormal

/-- Where every value comes back, every value is in normal form. -/
theorem faithful_ofTotal_all {encode : Value → Wire} {decode : Wire → Except ε Value}
    (hRestores : ∀ value, decode (encode value) = .ok value) :
    (ofTotal encode decode).Faithful fun _ => True :=
  faithful_ofTotal (fun value _ => hRestores value) fun _ _ _ => trivial

/-! ## Codecs one after the other -/

def through (codec : Codec ε Message Value) (transport : Codec ε Wire Message) : Codec ε Wire Value where
  encode value := codec.encode value >>= transport.encode
  decode wire := transport.decode wire >>= codec.decode

theorem through_encode (codec : Codec ε Message Value) (transport : Codec ε Wire Message) (value : Value) :
    (codec.through transport).encode value = codec.encode value >>= transport.encode := rfl

theorem through_decode (codec : Codec ε Message Value) (transport : Codec ε Wire Message) (wire : Wire) :
    (codec.through transport).decode wire = transport.decode wire >>= codec.decode := rfl

theorem Restores.through {codec : Codec ε Message Value} {transport : Codec ε Wire Message} {value : Value}
    (h : codec.Restores value) (hTransport : ∀ message, transport.Restores message) :
    (codec.through transport).Restores value := by
  obtain ⟨message, hEncode, hDecode⟩ := h
  obtain ⟨wire, hSent, hReceived⟩ := hTransport message
  refine ⟨wire, ?_, ?_⟩
  · rwa [through_encode, hEncode]
  · rwa [through_decode, hReceived]

theorem Faithful.through {codec : Codec ε Message Value} {transport : Codec ε Wire Message}
    (h : codec.Faithful Normal) (hTransport : ∀ message, transport.Restores message) :
    (codec.through transport).Faithful Normal where
  restores value hValue := (h.restores value hValue).through hTransport
  normal wire value hDecode := by
    cases hMessage : transport.decode wire with
    | error e =>
      rw [through_decode, hMessage] at hDecode
      cases hDecode
    | ok message =>
      rw [through_decode, hMessage] at hDecode
      exact h.normal message value hDecode

/-! ## Lists -/

theorem mapM_ok_cons_iff {α β : Type} {f : α → Except ε β} {a : α} {items : List α} {results : List β} :
    (a :: items).mapM f = .ok results ↔ ∃ b rest, f a = .ok b ∧ items.mapM f = .ok rest ∧ results = b :: rest := by
  rw [List.mapM_cons]
  cases hHead : f a with
  | error e => simp [bind, Except.bind]
  | ok b =>
    cases hTail : items.mapM f with
    | error e => simp [bind, Except.bind]
    | ok rest => simp [bind, Except.bind, pure, Except.pure, eq_comm]

theorem mapM_ok {α β : Type} (f : α → β) (items : List α) :
    (items.mapM fun a => (.ok (f a) : Except ε β)) = .ok (items.map f) := by
  induction items with
  | nil => rfl
  | cons a items ih => exact mapM_ok_cons_iff.mpr ⟨f a, items.map f, rfl, ih, rfl⟩

theorem length_of_mapM {α β : Type} {f : α → Except ε β} {items : List α} {results : List β}
    (h : items.mapM f = .ok results) : items.length = results.length := by
  induction items generalizing results with
  | nil =>
    cases h
    rfl
  | cons a items ih =>
    obtain ⟨b, rest, -, hRest, rfl⟩ := mapM_ok_cons_iff.mp h
    rw [List.length_cons, List.length_cons, ih hRest]

/-- Every item of the list by itself. -/
def list (codec : Codec ε Wire Value) : Codec ε (List Wire) (List Value) where
  encode values := values.mapM codec.encode
  decode wires := wires.mapM codec.decode

theorem length_of_encode {values : List Value} {wires : List Wire} (h : codec.list.encode values = .ok wires) :
    values.length = wires.length := length_of_mapM h

theorem length_of_decode {wires : List Wire} {values : List Value} (h : codec.list.decode wires = .ok values) :
    values.length = wires.length := (length_of_mapM h).symm

theorem Faithful.list (h : codec.Faithful Normal) : codec.list.Faithful fun values => ∀ value ∈ values, Normal value where
  restores values hValues := by
    induction values with
    | nil => exact ⟨[], rfl, rfl⟩
    | cons value values ih =>
      rw [List.forall_mem_cons] at hValues
      obtain ⟨wire, hEncode, hDecode⟩ := h.restores value hValues.1
      obtain ⟨wires, hEncodes, hDecodes⟩ := ih hValues.2
      refine ⟨wire :: wires, mapM_ok_cons_iff.mpr ⟨wire, wires, hEncode, hEncodes, rfl⟩,
        mapM_ok_cons_iff.mpr ⟨value, values, hDecode, hDecodes, rfl⟩⟩
  normal wires := by
    induction wires with
    | nil =>
      rintro _ ⟨⟩ _ hValue
      cases hValue
    | cons wire wires ih =>
      intro values hDecode
      obtain ⟨value, rest, hHead, hTail, rfl⟩ := mapM_ok_cons_iff.mp hDecode
      exact List.forall_mem_cons.mpr ⟨h.normal wire value hHead, ih rest hTail⟩

end Codec

end Codecs
