import SparkPlug.Library.Text

/- Host and port as a URI writes them (RFC 3986): names, IPv4 addresses among them, stand
   for themselves and IPv6 addresses stand in brackets. -/
namespace Authority
open Text

inductive Host where
  | name (text : List Char)
  | ipv6 (text : List Char)
  deriving DecidableEq

/-- The characters of a registered name. -/
def isNameChar (c : Char) : Bool :=
  c.isAlphanum || "-._~%!$&'()*+,;=".toList.contains c

def isIpv6Char (c : Char) : Bool := c.isAlphanum || c = ':' || c = '.'

namespace Host

/- An IPv6 address has two colons at least, of whatever groups they separate. -/
def Valid : Host → Prop
  | name text => text ≠ [] ∧ ∀ c ∈ text, isNameChar c = true
  | ipv6 text => 2 ≤ text.count ':' ∧ ∀ c ∈ text, isIpv6Char c = true

instance : (host : Host) → Decidable host.Valid
  | name text =>
    decidable_of_iff (text ≠ [] ∧ text.all isNameChar = true) (and_congr_right' List.all_eq_true)
  | ipv6 text =>
    decidable_of_iff (2 ≤ text.count ':' ∧ text.all isIpv6Char = true)
      (and_congr_right' List.all_eq_true)

/-- The text without brackets. -/
def text : Host → List Char
  | name text => text
  | ipv6 text => text

def written : Host → List Char
  | name text => text
  | ipv6 text => '[' :: (text ++ [']'])

def lower : Host → Host
  | name text => name (text.map Char.toLower)
  | ipv6 text => ipv6 (text.map Char.toLower)

def Bracketed : Host → Prop
  | name _ => False
  | ipv6 _ => True

instance : (host : Host) → Decidable host.Bracketed
  | name _ => isFalse id
  | ipv6 _ => isTrue trivial

end Host

def portText (port : Option Nat) : List Char := port.elim [] fun port => ':' :: Nat.toDigits 10 port

def readPort (digits : List Char) : Option Nat :=
  if digits ≠ [] ∧ digits.all Char.isDigit = true then some (Nat.ofDigitChars 10 digits 0)
  else none

/-- An address up to its closing bracket, with a port behind it if there is one. -/
def readBracketed (text : List Char) : Option (Host × Option Nat) :=
  match splitOnceChars ']' text with
  | some (address, []) => some (.ipv6 address, none)
  | some (address, ':' :: digits) => (readPort digits).map fun port => (.ipv6 address, some port)
  | _ => none

/-- A name up to the first colon. -/
def readNamed (text : List Char) : Option (Host × Option Nat) :=
  match splitOnceChars ':' text with
  | some ([], _) => none
  | some (name, digits) => (readPort digits).map fun port => (.name name, some port)
  | none => some (.name text, none)

def read (text : List Char) : Option (Host × Option Nat) :=
  match text with
  | [] => none
  | c :: rest => if c = '[' then readBracketed rest else readNamed (c :: rest)

/- Characters. -/

theorem name_char_ne {c d : Char} (h : isNameChar c = true) (other : isNameChar d = false) :
    c ≠ d := by
  rintro rfl
  simp [h] at other

theorem ipv6_char_ne {c d : Char} (h : isIpv6Char c = true) (other : isIpv6Char d = false) :
    c ≠ d := by
  rintro rfl
  simp [h] at other

theorem upper_bounds {c : Char} : c.isUpper = true ↔ 65 ≤ c.toNat ∧ c.toNat ≤ 90 := by
  have between : c.isUpper = decide (65 ≤ c.val ∧ c.val ≤ 90) := rfl
  simp [between, UInt32.le_iff_toNat_le]

theorem lower_bounds {c : Char} : c.isLower = true ↔ 97 ≤ c.toNat ∧ c.toNat ≤ 122 := by
  have between : c.isLower = (decide (97 ≤ c.val) && decide (c.val ≤ 122)) := rfl
  simp [between, UInt32.le_iff_toNat_le]

theorem alpha_cases (c : Char) : c.isAlpha = (c.isUpper || c.isLower) := rfl

theorem alphanum_of_lower {c : Char} (h : c.isLower = true) : c.isAlphanum = true := by
  have cases : c.isAlphanum = (c.isAlpha || c.isDigit) := rfl
  simp [cases, alpha_cases, h]

/-- Only upper case letters are changed, into lower case ones. -/
theorem lower_cases (c : Char) :
    c.toLower = c ∨ (c.isUpper = true ∧ c.toLower.isLower = true) := by
  rw [upper_bounds, lower_bounds]
  unfold Char.toLower
  split
  · rename_i upper
    have bounds : 65 ≤ c.toNat ∧ c.toNat ≤ 90 := by
      simpa [UInt32.le_iff_toNat_le] using upper
    refine Or.inr ⟨bounds, ?_⟩
    change 97 ≤ (c.toNat + 32) % 2 ^ 32 ∧ (c.toNat + 32) % 2 ^ 32 ≤ 122
    omega
  · exact Or.inl rfl

theorem lower_idempotent (c : Char) : c.toLower.toLower = c.toLower := by
  rcases lower_cases c.toLower with same | ⟨upper, _⟩
  · exact same
  · -- what has been lowered is no upper case letter
    rcases lower_cases c with same | ⟨_, lower⟩
    · rw [same, same]
    · have above := upper_bounds.mp upper
      have below := lower_bounds.mp lower
      omega

theorem alpha_of_lower {c : Char} (h : c.toLower.isAlpha = true) : c.isAlpha = true := by
  rcases lower_cases c with same | ⟨upper, _⟩
  · rwa [← same]
  · simp [alpha_cases, upper]

theorem lower_name_char {c : Char} (h : isNameChar c = true) : isNameChar c.toLower = true := by
  rcases lower_cases c with same | ⟨_, letter⟩
  · rw [same]
    exact h
  · simp [isNameChar, alphanum_of_lower letter]

theorem lower_ipv6_char {c : Char} (h : isIpv6Char c = true) : isIpv6Char c.toLower = true := by
  rcases lower_cases c with same | ⟨_, letter⟩
  · rw [same]
    exact h
  · simp [isIpv6Char, alphanum_of_lower letter]

theorem lower_colon (c : Char) : c.toLower = ':' ↔ c = ':' := by
  constructor
  · intro colon
    rcases lower_cases c with same | ⟨_, letter⟩
    · rw [← same]
      exact colon
    · have plain : ':'.isLower = false := by decide
      rw [colon, plain] at letter
      cases letter
  · rintro rfl
    decide

theorem count_lower (text : List Char) : (text.map Char.toLower).count ':' = text.count ':' := by
  induction text with
  | nil => rfl
  | cons c text ih => simp [List.count_cons, ih, lower_colon]

theorem lower_valid {host : Host} (valid : host.Valid) : host.lower.Valid := by
  cases host with
  | name text =>
    refine ⟨by simpa using valid.1, ?_⟩
    intro c member
    obtain ⟨d, listed, rfl⟩ := List.mem_map.mp member
    exact lower_name_char (valid.2 d listed)
  | ipv6 text =>
    refine ⟨by rw [count_lower]; exact valid.1, ?_⟩
    intro c member
    obtain ⟨d, listed, rfl⟩ := List.mem_map.mp member
    exact lower_ipv6_char (valid.2 d listed)

theorem not_mem_name {text : List Char} (valid : (Host.name text).Valid) {d : Char}
    (other : isNameChar d = false) : d ∉ text := by
  intro member
  exact name_char_ne (valid.2 d member) other rfl

theorem not_mem_ipv6 {text : List Char} (valid : (Host.ipv6 text).Valid) {d : Char}
    (other : isIpv6Char d = false) : d ∉ text := by
  intro member
  exact ipv6_char_ne (valid.2 d member) other rfl

theorem not_mem_port {d : Char} (port : Option Nat) (plain : d.isDigit = false) (ne : d ≠ ':') :
    d ∉ portText port := by
  cases port with
  | none => exact List.not_mem_nil
  | some port =>
    intro member
    simp only [portText, Option.elim_some, List.mem_cons] at member
    rcases member with same | listed
    · exact ne same
    · have digit := Nat.isDigit_of_mem_toDigits (by decide) (by decide) listed
      simp [digit] at plain

/-- What no host and port contain. -/
theorem not_mem_authority {host : Host} (valid : host.Valid) (port : Option Nat) {d : Char}
    (name : isNameChar d = false) (address : isIpv6Char d = false) (bracket : d ≠ '[' ∧ d ≠ ']') :
    d ∉ host.written ++ portText port := by
  have colon : d ≠ ':' := by
    rintro rfl
    revert address
    decide
  have plain : d.isDigit = false := by
    by_contra digit
    simp [isNameChar, Char.isAlphanum, digit] at name
  have hostPart : d ∉ host.written := by
    cases host with
    | name text => exact not_mem_name valid name
    | ipv6 text => simp [Host.written, bracket, not_mem_ipv6 valid address]
  have portPart := not_mem_port port plain colon
  simp [hostPart, portPart]

/- Reading back. -/

theorem read_port_digits (port : Nat) : readPort (Nat.toDigits 10 port) = some port := by
  unfold readPort
  rw [if_pos, Nat.ofDigitChars_ten_toDigits]
  refine ⟨Nat.toDigits_ne_nil, List.all_eq_true.mpr ?_⟩
  intro c listed
  exact Nat.isDigit_of_mem_toDigits (by decide) (by decide) listed

theorem read_written {host : Host} (valid : host.Valid) (port : Option Nat) :
    read (host.written ++ portText port) = some (host, port) := by
  cases host with
  | name text =>
    have absent : ':' ∉ text := not_mem_name valid (by decide)
    obtain ⟨c, rest, rfl⟩ := List.exists_cons_of_ne_nil valid.1
    have first : c ≠ '[' := name_char_ne (valid.2 c (by simp)) (by decide)
    have named : read ((c :: rest) ++ portText port) = readNamed ((c :: rest) ++ portText port) :=
      if_neg first
    simp only [Host.written, named, readNamed]
    cases port with
    | none =>
      have whole : (c :: rest) ++ portText none = c :: rest := List.append_nil _
      rw [whole, split_once_chars_none absent]
    | some port =>
      simp only [portText, Option.elim_some]
      rw [split_once_chars_at ':' (c :: rest) _ absent]
      simp [read_port_digits]
  | ipv6 text =>
    have absent : ']' ∉ text := not_mem_ipv6 valid (by decide)
    have bracketed : read ((Host.ipv6 text).written ++ portText port) =
        readBracketed (text ++ ']' :: portText port) := by
      simp [Host.written, read]
    rw [bracketed, readBracketed, split_once_chars_at ']' text _ absent]
    cases port with
    | none => rfl
    | some port => simp [portText, read_port_digits]

/-- Without its brackets an address is no host: the text behind its first colon is no port. -/
theorem read_unbracketed {text : List Char} (valid : (Host.ipv6 text).Valid) (port : Option Nat) :
    read (text ++ portText port) = none := by
  have colon : ':' ∈ text := List.count_pos_iff.mp (by have := valid.1; omega)
  obtain ⟨front, back, rfl, absent⟩ := List.eq_append_cons_of_mem colon
  have second : ':' ∈ back := by
    have colons := valid.1
    rw [List.count_append, List.count_cons_self, List.count_eq_zero.mpr absent] at colons
    exact List.count_pos_iff.mp (by omega)
  have noPort : readPort (back ++ portText port) = none := by
    refine if_neg fun digits => ?_
    have digit := List.all_eq_true.mp digits.2 ':' (by simp [second])
    revert digit
    decide
  have split : (front ++ ':' :: back) ++ portText port =
      front ++ ':' :: (back ++ portText port) := List.append_assoc ..
  have named : read (front ++ ':' :: (back ++ portText port)) =
      readNamed (front ++ ':' :: (back ++ portText port)) := by
    cases front with
    | nil => rfl
    | cons c front =>
      have first : c ≠ '[' := ipv6_char_ne (valid.2 c (by simp)) (by decide)
      exact if_neg first
  rw [split, named, readNamed, split_once_chars_at ':' front _ absent]
  cases front with
  | nil => rfl
  | cons c front => simp [noPort]

example : read "[::1]:8100".toList = some (.ipv6 "::1".toList, some 8100) := by decide
example : read "::1:8100".toList = none := by decide

end Authority
