import Mathlib.Data.List.Basic
import Mathlib.Tactic.IntervalCases

/-! Base 64 with the standard alphabet and padding. Three bytes make four characters. The
decoder skips line ends and asks for the padding, but not for zeros in the bits it drops. -/
namespace BeidarPos.Base64

def sextetChar (n : Nat) : Char :=
  if n < 26 then Char.ofNat (n + 65)
  else if n < 52 then Char.ofNat (n + 71)
  else if n < 62 then Char.ofNat (n - 4)
  else if n = 62 then '+'
  else '/'

def charSextet (c : Char) : Option Nat :=
  if 'A' ≤ c ∧ c ≤ 'Z' then some (c.toNat - 65)
  else if 'a' ≤ c ∧ c ≤ 'z' then some (c.toNat - 71)
  else if '0' ≤ c ∧ c ≤ '9' then some (c.toNat + 4)
  else if c = '+' then some 62
  else if c = '/' then some 63
  else none

def encode : List UInt8 → List Char
  | [] => []
  | [a] => [sextetChar (a.toNat / 4), sextetChar (a.toNat % 4 * 16), '=', '=']
  | [a, b] =>
    [sextetChar (a.toNat / 4), sextetChar (a.toNat % 4 * 16 + b.toNat / 16), sextetChar (b.toNat % 16 * 4), '=']
  | a :: b :: c :: rest =>
    sextetChar (a.toNat / 4) :: sextetChar (a.toNat % 4 * 16 + b.toNat / 16) ::
      sextetChar (b.toNat % 16 * 4 + c.toNat / 64) :: sextetChar (c.toNat % 64) :: encode rest

def firstByte (x y : Nat) : UInt8 := UInt8.ofNat (x * 4 + y / 16)

def secondByte (y z : Nat) : UInt8 := UInt8.ofNat (y % 16 * 16 + z / 4)

def thirdByte (z t : Nat) : UInt8 := UInt8.ofNat (z % 4 * 64 + t)

/-- Four characters at a time; padding ends the text. -/
def decodeQuanta : List Char → Option (List UInt8)
  | [] => some []
  | a :: b :: c :: d :: rest =>
    if d = '=' ∧ rest = [] then
      if c = '=' then do
        let x ← charSextet a
        let y ← charSextet b
        pure [firstByte x y]
      else do
        let x ← charSextet a
        let y ← charSextet b
        let z ← charSextet c
        pure [firstByte x y, secondByte y z]
    else do
      let x ← charSextet a
      let y ← charSextet b
      let z ← charSextet c
      let t ← charSextet d
      let more ← decodeQuanta rest
      pure (firstByte x y :: secondByte y z :: thirdByte z t :: more)
  | _ => none

def decode (text : List Char) : Option (List UInt8) := decodeQuanta (text.filter fun c => c ≠ '\r' ∧ c ≠ '\n')

section Alphabet

variable {n : Nat}

theorem charSextet_sextetChar (small : n < 64) : charSextet (sextetChar n) = some n := by
  have table : ∀ n : Fin 64, charSextet (sextetChar n) = some n.val := by decide +kernel
  exact table ⟨n, small⟩

/-- A character that is neither padding nor a line end. -/
structure Plain (c : Char) : Prop where
  data : c ≠ '='
  line : c ≠ '\r' ∧ c ≠ '\n'
  ascii : c.toNat < 128

theorem sextetChar_plain (small : n < 64) : Plain (sextetChar n) := by
  have table : ∀ n : Fin 64, sextetChar n ≠ '=' ∧ (sextetChar n ≠ '\r' ∧ sextetChar n ≠ '\n') ∧ (sextetChar n).toNat < 128 := by
    decide +kernel
  obtain ⟨data, line, ascii⟩ := table ⟨n, small⟩
  exact ⟨data, line, ascii⟩

end Alphabet

section RoundTrip

variable {a b c : UInt8}

theorem firstByte_encoded (high : b.toNat < 256) :
    firstByte (a.toNat / 4) (a.toNat % 4 * 16 + b.toNat / 16) = a := by
  have whole : a.toNat / 4 * 4 + (a.toNat % 4 * 16 + b.toNat / 16) / 16 = a.toNat := by omega
  rw [firstByte, whole, UInt8.ofNat_toNat]

theorem secondByte_encoded (x : Nat) (high : c.toNat < 256) :
    secondByte (x % 4 * 16 + b.toNat / 16) (b.toNat % 16 * 4 + c.toNat / 64) = b := by
  have low := UInt8.toNat_lt b
  have whole : (x % 4 * 16 + b.toNat / 16) % 16 * 16 + (b.toNat % 16 * 4 + c.toNat / 64) / 4 = b.toNat := by omega
  rw [secondByte, whole, UInt8.ofNat_toNat]

theorem thirdByte_encoded (y : Nat) : thirdByte (y % 16 * 4 + c.toNat / 64) (c.toNat % 64) = c := by
  have low := UInt8.toNat_lt c
  have whole : (y % 16 * 4 + c.toNat / 64) % 4 * 64 + c.toNat % 64 = c.toNat := by omega
  rw [thirdByte, whole, UInt8.ofNat_toNat]

theorem decodeQuanta_encode (bytes : List UInt8) : decodeQuanta (encode bytes) = some bytes := by
  fun_induction encode bytes with
  | case1 => rfl
  | case2 a =>
    have low := UInt8.toNat_lt a
    have first := firstByte_encoded (a := a) (b := 0) (by decide)
    simp only [UInt8.toNat_zero, Nat.zero_div, Nat.add_zero] at first
    simp [decodeQuanta, charSextet_sextetChar (show a.toNat / 4 < 64 by omega),
      charSextet_sextetChar (show a.toNat % 4 * 16 < 64 by omega), first]
  | case3 a b =>
    have lowA := UInt8.toNat_lt a
    have lowB := UInt8.toNat_lt b
    have third := sextetChar_plain (show b.toNat % 16 * 4 < 64 by omega)
    have second := secondByte_encoded (b := b) (c := 0) a.toNat (by decide)
    simp only [UInt8.toNat_zero, Nat.zero_div, Nat.add_zero] at second
    simp [decodeQuanta, third.data, charSextet_sextetChar (show a.toNat / 4 < 64 by omega),
      charSextet_sextetChar (show a.toNat % 4 * 16 + b.toNat / 16 < 64 by omega),
      charSextet_sextetChar (show b.toNat % 16 * 4 < 64 by omega), firstByte_encoded lowB, second]
  | case4 a b c rest ih =>
    have lowA := UInt8.toNat_lt a
    have lowB := UInt8.toNat_lt b
    have lowC := UInt8.toNat_lt c
    have last := sextetChar_plain (show c.toNat % 64 < 64 by omega)
    simp [decodeQuanta, last.data, ih, charSextet_sextetChar (show a.toNat / 4 < 64 by omega),
      charSextet_sextetChar (show a.toNat % 4 * 16 + b.toNat / 16 < 64 by omega),
      charSextet_sextetChar (show b.toNat % 16 * 4 + c.toNat / 64 < 64 by omega),
      charSextet_sextetChar (show c.toNat % 64 < 64 by omega), firstByte_encoded lowB, secondByte_encoded a.toNat lowC,
      thirdByte_encoded]

/-- What is encoded has no line ends, and each of its characters is one byte. -/
theorem encode_plain (bytes : List UInt8) : ∀ c ∈ encode bytes, (c ≠ '\r' ∧ c ≠ '\n') ∧ c.toNat < 128 := by
  have padding : ('=' ≠ '\r' ∧ '=' ≠ '\n') ∧ '='.toNat < 128 := by decide
  have digit : ∀ n, n < 64 → (sextetChar n ≠ '\r' ∧ sextetChar n ≠ '\n') ∧ (sextetChar n).toNat < 128 :=
    fun n small => ⟨(sextetChar_plain small).line, (sextetChar_plain small).ascii⟩
  fun_induction encode bytes with
  | case1 => simp
  | case2 a =>
    have low := UInt8.toNat_lt a
    intro c member
    simp only [List.mem_cons, List.not_mem_nil, or_false] at member
    rcases member with rfl | rfl | rfl | rfl
    · exact digit _ (by omega)
    · exact digit _ (by omega)
    · exact padding
    · exact padding
  | case3 a b =>
    have lowA := UInt8.toNat_lt a
    have lowB := UInt8.toNat_lt b
    intro c member
    simp only [List.mem_cons, List.not_mem_nil, or_false] at member
    rcases member with rfl | rfl | rfl | rfl
    · exact digit _ (by omega)
    · exact digit _ (by omega)
    · exact digit _ (by omega)
    · exact padding
  | case4 a b c rest ih =>
    have lowA := UInt8.toNat_lt a
    have lowB := UInt8.toNat_lt b
    have lowC := UInt8.toNat_lt c
    intro d member
    simp only [List.mem_cons] at member
    rcases member with rfl | rfl | rfl | rfl | later
    · exact digit _ (by omega)
    · exact digit _ (by omega)
    · exact digit _ (by omega)
    · exact digit _ (by omega)
    · exact ih d later

/-- Decoding gives back the bytes that were encoded. -/
theorem decode_encode (bytes : List UInt8) : decode (encode bytes) = some bytes := by
  have kept : (encode bytes).filter (fun c => c ≠ '\r' ∧ c ≠ '\n') = encode bytes :=
    List.filter_eq_self.mpr fun c member => decide_eq_true (encode_plain bytes c member).1
  rw [decode, kept, decodeQuanta_encode]

end RoundTrip

end BeidarPos.Base64
