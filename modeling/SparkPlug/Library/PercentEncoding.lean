import Mathlib.Data.List.Basic

/- Percent encoding of bytes: an encoder writes a byte as itself or as an escape, and a
   decoder replaces the escapes. -/
namespace PercentEncoding

def percent : UInt8 := 37

def isUpperHex (b : UInt8) : Bool := (48 ≤ b && b ≤ 57) || (65 ≤ b && b ≤ 70)

def hexValue (b : UInt8) : Option Nat :=
  if 48 ≤ b && b ≤ 57 then some (b.toNat - 48)
  else if 65 ≤ b && b ≤ 70 then some (b.toNat - 55)
  else if 97 ≤ b && b ≤ 102 then some (b.toNat - 87)
  else none

/-- The byte of an escape, unless the text that follows is none. -/
def escaped (high low : UInt8) : Option UInt8 :=
  match hexValue high, hexValue low with
  | some high, some low => some (UInt8.ofNat (16 * high + low))
  | _, _ => none

/- A percent sign that starts no escape stands for itself. -/
def decode : List UInt8 → List UInt8
  | [] => []
  | [b] => [b]
  | [b, c] => [b, c]
  | b :: high :: low :: rest =>
    if b = percent then
      match escaped high low with
      | some byte => byte :: decode rest
      | none => b :: decode (high :: low :: rest)
    else b :: decode (high :: low :: rest)

/-- Behind every percent sign stand two digits. -/
def Escapes (text : List UInt8) : Prop :=
  ∀ front tail, text = front ++ percent :: tail → ∃ high low rest, tail = high :: low :: rest ∧
    isUpperHex high = true ∧ isUpperHex low = true

/-- How an encoder may write a byte. -/
inductive Image (b : UInt8) : List UInt8 → Prop
  | plain : b ≠ percent → Image b [b]
  | escape (high low : UInt8) : isUpperHex high = true → isUpperHex low = true →
      escaped high low = some b → Image b [percent, high, low]

theorem upper_hex_ne {b : UInt8} (h : isUpperHex b = true) : b ≠ percent := by
  intro same
  subst same
  revert h
  decide

theorem decode_plain {b : UInt8} (plain : b ≠ percent) (rest : List UInt8) :
    decode (b :: rest) = b :: decode rest := by
  match rest with
  | [] => rfl
  | [c] => rfl
  | high :: low :: rest =>
    rw [decode]
    exact if_neg plain

theorem decode_image {b : UInt8} {text : List UInt8} (image : Image b text) (rest : List UInt8) :
    decode (text ++ rest) = b :: decode rest := by
  cases image with
  | plain ordinary => exact decode_plain ordinary rest
  | escape high low _ _ value =>
    simp only [List.cons_append, List.nil_append, decode, ↓reduceIte, value]

theorem escapes_image {b : UInt8} {text rest : List UInt8} (image : Image b text)
    (escapes : Escapes rest) : Escapes (text ++ rest) := by
  intro front tail split
  cases image with
  | plain ordinary =>
    cases front with
    | nil => exact absurd (List.cons.inj split).1 ordinary
    | cons _ front => exact escapes front tail (List.cons.inj split).2
  | escape high low upperHigh upperLow _ =>
    have first := upper_hex_ne upperHigh
    have second := upper_hex_ne upperLow
    match front with
    | [] => exact ⟨high, low, rest, (List.cons.inj split).2.symm, upperHigh, upperLow⟩
    | [_] => exact absurd (List.cons.inj (List.cons.inj split).2).1 first
    | [_, _] => exact absurd (List.cons.inj (List.cons.inj (List.cons.inj split).2).2).1 second
    | _ :: _ :: _ :: front =>
      exact escapes front tail (List.cons.inj (List.cons.inj (List.cons.inj split).2).2).2

section
variable {encode : UInt8 → List UInt8}

theorem decode_encoded (images : ∀ b, Image b (encode b)) (bytes : List UInt8) :
    decode (bytes.flatMap encode) = bytes := by
  induction bytes with
  | nil => rfl
  | cons b bytes ih => rw [List.flatMap_cons, decode_image (images b), ih]

theorem escapes_encoded (images : ∀ b, Image b (encode b)) (bytes : List UInt8) :
    Escapes (bytes.flatMap encode) := by
  induction bytes with
  | nil =>
    intro front tail split
    simp at split
  | cons b bytes ih =>
    rw [List.flatMap_cons]
    exact escapes_image (images b) ih

theorem encoded_injective (images : ∀ b, Image b (encode b)) {bytes other : List UInt8}
    (same : bytes.flatMap encode = other.flatMap encode) : bytes = other := by
  have decoded := congrArg decode same
  rw [decode_encoded images, decode_encoded images] at decoded
  exact decoded

end

end PercentEncoding
